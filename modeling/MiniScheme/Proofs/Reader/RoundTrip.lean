import MiniScheme.Proofs.Reader.WholeText
import MiniScheme.Value.Rendering

/-!
# Which values survive being written and read

`Value.Readable` says of a value, by its parts alone, that it has a written
form and that reading this form gives the value back.  The theorem of this
module is that nothing else survives: a negative number reads as a symbol, a
number that is too long has no text at all, procedures and foreign values
read as something else or not at all, and a symbol whose name is no symbol
syntax, such as `a b` or `5` or `#b1x`, falls apart.

The proof goes through the grammar.

1. The written form of a readable value is an expression for it
   (`Value.Readable.exprText`).
2. Every value that some expression stands for is readable, if its integers
   are short enough to be written (`ExprText.readable`).  This is what makes
   the condition exact: a value that is read back is in the reader's image.
-/

namespace MiniScheme

open Reader
open Numeral (Radix)
open Text.StringLiteral

/-! ## Readable values -/

/-- The text begins with the mark of a radix and a digit of that radix. -/
def BeginsRadixNumeral (name : List Char) : Prop :=
  ∃ letter radix digit rest, name = '#' :: letter :: digit :: rest ∧
    Radix.ofLetter? letter = some radix ∧ radix.isDigit digit = true

/-- The values whose written form reads back as themselves, by their parts. -/
inductive Value.Readable : Value → Prop
  | int {n : Int} (hNonneg : 0 ≤ n) (hBound : n < 10 ^ Numeral.digitLimit) : Readable (.int n)
  | bool (b : Bool) : Readable (.bool b)
  | string (text : String) : Readable (.string text)
  | char (c : Char) : Readable (.char c)
  | symbol {name : String} (hWord : IsWord name.toList) (hTrue : name ≠ "#t")
      (hFalse : name ≠ "#f") (hRadix : ¬ BeginsRadixNumeral name.toList) :
      Readable (.symbol name)
  | list {items : List Value} (hItems : ∀ v ∈ items, Readable v) : Readable (.list items)
  | dotted {head : List Value} {tail : Value} (hNil : head ≠ [])
      (hHead : ∀ v ∈ head, Readable v) (hTail : Readable tail) : Readable (.dotted head tail)

/-- A symbol does not begin with a digit, so the only numerals a word can
begin with have the mark of a radix. -/
theorem beginsNumeral_iff_of_isWord {w : List Char} (hWord : IsWord w) :
    BeginsNumeral w ↔ BeginsRadixNumeral w := by
  constructor
  · rintro ⟨p, radix, digits, ⟨q, rfl⟩, hNumeral⟩
    cases hNumeral with
    | plain hDigits =>
        obtain ⟨c, t, rfl⟩ := List.exists_cons_of_ne_nil hDigits.1
        obtain ⟨d, rest, hEq, hStart, _⟩ := hWord
        have hDigit : startsSymbol c = false :=
          startsSymbol_eq_false_of_isDigit (hDigits.2 c (by simp))
        rw [← (List.cons.inj hEq).1, hDigit] at hStart
        cases hStart
    | marked hLetter hDigits =>
        obtain ⟨c, t, rfl⟩ := List.exists_cons_of_ne_nil hDigits.1
        exact ⟨_, _, c, t ++ q, rfl, hLetter, hDigits.2 c (by simp)⟩
  · rintro ⟨letter, radix, digit, rest, rfl, hLetter, hDigit⟩
    have hDigits : IsDigits radix [digit] := ⟨by simp, by simpa using hDigit⟩
    exact ⟨['#', letter, digit], radix, [digit], ⟨rest, rfl⟩, .marked hLetter hDigits⟩

/-! ## Written forms are expressions -/

theorem stringBody_encodeBody (s : List Char) : StringBody (encodeBody s) s := by
  induction s with
  | nil => exact .nil
  | cons c s ih =>
      rw [encodeBody, List.flatMap_cons, ← encodeBody, encodeChar]
      cases hEscape : escape? c with
      | some written =>
          obtain ⟨code, rfl, hMeaning⟩ := exists_meaning?_of_escape? hEscape
          exact .escape (meaning?_eq_some_iff.1 hMeaning) ih
      | none =>
          refine .plain ?_ ?_ ih
          · rintro rfl
            cases hEscape
          · rintro rfl
            cases hEscape

/-- The names that are written are those that are read, but for the second
name of the newline. -/
theorem namedCharacters_perm :
    namedCharacters.Perm (("linefeed", '\n') :: characterNames.map Prod.swap) := by
  decide

/-- The name of a character is read as that character. -/
theorem tokenText_char (c : Char) : TokenText (Value.char c).text (.char c) := by
  have hNames : ∀ entry ∈ namedCharacters, 2 ≤ entry.1.toList.length ∧
      entry.1.toList.all Text.isLetter = true ∧
      String.ofList (entry.1.toList.map Text.lower) = entry.1 := by
    decide +kernel
  show TokenText ('#' :: '\\' :: (characterName? c).elim [c] String.toList) _
  cases hName : characterName? c with
  | none => exact .single c
  | some name =>
      have hWritten : (c, name) ∈ characterNames := Text.mem_of_lookup_eq_some hName
      have hRead : (name, c) ∈ namedCharacters :=
        namedCharacters_perm.mem_iff.2 (List.mem_cons_of_mem _ (List.mem_map_of_mem hWritten))
      obtain ⟨hLong, hLetters, hLower⟩ := hNames _ hRead
      refine .named hLong (List.all_eq_true.1 hLetters) ?_
      rw [Option.elim_some, hLower]
      exact hRead

theorem positional_concat (radix : Radix) (digits : List Char) (c : Char) :
    positional radix (digits ++ [c]) =
      (radix.digit? c).getD 0 + radix.base * positional radix digits := by
  simp [positional, Nat.ofDigits_cons]

theorem digit?_digitChar : ∀ d < 10, Radix.decimal.digit? (Nat.digitChar d) = some d := by
  decide

/-- Decimal text is made of decimal digits, and its positional value is the
number it was made of. -/
theorem isDigits_toDigits (n : Nat) :
    IsDigits .decimal (Nat.toDigits 10 n) ∧ positional .decimal (Nat.toDigits 10 n) = n := by
  induction n using Nat.strongRecOn with
  | ind n ih =>
      rw [Nat.toDigits_eq_if (by decide)]
      split
      · next hSmall =>
          have hDigit := digit?_digitChar n hSmall
          refine ⟨⟨by simp, ?_⟩, ?_⟩
          · intro c hc
            rw [List.mem_singleton.1 hc, Radix.isDigit, hDigit]
            rfl
          · show positional .decimal ([] ++ [n.digitChar]) = n
            rw [positional_concat, hDigit]
            simp [positional]
      · next hLarge =>
          obtain ⟨hDigits, hValue⟩ := ih (n / 10) (by omega)
          have hDigit := digit?_digitChar (n % 10) (by omega)
          refine ⟨⟨by simp, ?_⟩, ?_⟩
          · intro c hc
            rcases List.mem_append.1 hc with hc | hc
            · exact hDigits.2 c hc
            · rw [List.mem_singleton.1 hc, Radix.isDigit, hDigit]
              rfl
          · rw [positional_concat, hValue, hDigit]
            exact Nat.mod_add_div n 10

theorem tokenText_int {n : Int} (hNonneg : 0 ≤ n) (hBound : n < 10 ^ Numeral.digitLimit) :
    TokenText (Value.int n).text (.int n) := by
  obtain ⟨k, rfl⟩ := Int.eq_ofNat_of_zero_le hNonneg
  obtain ⟨hDigits, hValue⟩ := isDigits_toDigits k
  have hText : (Value.int k).text = Nat.toDigits 10 k := by
    simp [Value.text, Numeral.decimal]
  have hShort : (Nat.toDigits 10 k).length ≤ Numeral.digitLimit := by
    rw [Nat.length_toDigits_le_iff (by decide) (by decide)]
    exact_mod_cast hBound
  have hToken := TokenText.number (.plain hDigits) fun _ => hShort
  rw [hValue] at hToken
  rw [hText]
  exact hToken

/-- Several written forms with spaces between them are elements of a list. -/
theorem elementsText_spaced : ∀ {vs : List Value}, vs ≠ [] → (∀ v ∈ vs, ExprText v.text v) →
    ElementsText (Value.spaced vs) vs
  | [], hNil, _ => absurd rfl hNil
  | [v], _, hText => by
      rw [Value.spaced]
      exact .one (hText v (by simp))
  | v :: w :: rest, _, hText => by
      have hSpace : IsSeparator [' '] := ⟨.blank (by decide) .nil, by simp⟩
      have ih : ElementsText (Value.spaced (w :: rest)) (w :: rest) :=
        elementsText_spaced (by simp) fun u hu => hText u (List.mem_cons_of_mem v hu)
      have h := ElementsText.more (hText v (by simp)) hSpace ih
      rw [Value.spaced]
      simpa using h

/-- The written form of a readable value is an expression for it. -/
theorem Value.Readable.exprText {v : Value} (h : v.Readable) : ExprText v.text v := by
  induction h with
  | int hNonneg hBound => exact .token (tokenText_int hNonneg hBound)
  | bool b =>
      cases b with
      | true => exact .token .boolTrue
      | false => exact .token .boolFalse
  | string text =>
      have h := TokenText.string (stringBody_encodeBody text.toList)
      rw [String.ofList_toList] at h
      exact .token h
  | char c => exact .token (tokenText_char c)
  | @symbol name hWord hTrue hFalse hRadix =>
      have hNumeral : ¬ BeginsNumeral name.toList :=
        fun h => hRadix ((beginsNumeral_iff_of_isWord hWord).1 h)
      have h := TokenText.symbol hWord hNumeral (fun h => hTrue (String.toList_inj.1 h))
        (fun h => hFalse (String.toList_inj.1 h))
      rw [String.ofList_toList] at h
      exact .token h
  | @list items _ ih =>
      rw [Value.text]
      by_cases hNil : items = []
      · subst hNil
        exact .nil .nil
      · have h := ExprText.list .nil (elementsText_spaced hNil ih) .nil
        simpa using h
  | @dotted head tail hNil _ _ ihHead ihTail =>
      have hSpace : IsSeparator [' '] := ⟨.blank (by decide) .nil, by simp⟩
      have h := ExprText.dotted .nil (elementsText_spaced hNil ihHead) hSpace hSpace ihTail .nil
      rw [Value.text]
      simpa using h

/-! ## Written integers are short -/

theorem haveText_iff {vs : List Value} :
    Value.haveText vs = true ↔ ∀ v ∈ vs, v.hasText = true := by
  induction vs with
  | nil => simp [Value.haveText]
  | cons v vs ih => simp [Value.haveText, ih]

theorem hasText_int_iff {k : Nat} :
    (Value.int k).hasText = true ↔ (k : Int) < 10 ^ Numeral.digitLimit := by
  unfold Value.hasText Numeral.hasText Numeral.bound
  -- the limit becomes a variable, so that its power of ten is not computed
  generalize Numeral.digitLimit = limit
  rw [decide_eq_true_eq, Int.natAbs_natCast, Nat.pow_eq]
  norm_cast

theorem Value.Readable.hasText {v : Value} (h : v.Readable) : v.hasText = true := by
  induction h with
  | int hNonneg hBound =>
      obtain ⟨k, rfl⟩ := Int.eq_ofNat_of_zero_le hNonneg
      exact hasText_int_iff.2 hBound
  | bool | string | char | symbol => rfl
  | list _ ih => exact haveText_iff.2 ih
  | dotted _ _ _ ihHead ihTail =>
      rw [Value.hasText, haveText_iff.2 ihHead, ihTail]
      rfl

/-! ## What is read is readable -/

theorem readable_quote : (Value.symbol "quote").Readable := by
  have hWord : IsWord "quote".toList :=
    isWord_cons (c := 'q') (w := ['u', 'o', 't', 'e']) (by decide) (by decide)
  refine .symbol hWord (by decide) (by decide) ?_
  rw [← beginsNumeral_iff_of_isWord hWord]
  exact not_beginsNumeral_of_numeral? rfl

theorem Reader.TokenText.readable {w : List Char} {v : Value} (h : TokenText w v)
    (hText : v.hasText = true) : v.Readable := by
  cases h with
  | string => exact .string _
  | named | single => exact .char _
  | number => exact .int (Int.natCast_nonneg _) (hasText_int_iff.1 hText)
  | boolTrue | boolFalse => exact .bool _
  | symbol hWord hNumeral hTrue hFalse =>
      rw [← String.toList_ofList (l := w)] at hWord hNumeral
      refine .symbol hWord ?_ ?_ fun h => hNumeral ((beginsNumeral_iff_of_isWord hWord).2 h)
      · intro hEq
        exact hTrue (by simpa using congrArg String.toList hEq)
      · intro hEq
        exact hFalse (by simpa using congrArg String.toList hEq)

mutual

/-- Every value that an expression stands for is readable, if its integers
are short enough to be written. -/
theorem Reader.ExprText.readable {w : List Char} {v : Value} (h : ExprText w v)
    (hText : v.hasText = true) : v.Readable := by
  cases h with
  | token hToken => exact hToken.readable hText
  | quote hExpr =>
      have hQuoted := hExpr.readable (haveText_iff.1 hText _ (by simp))
      refine .list ?_
      intro u hu
      simp only [List.mem_cons, List.not_mem_nil, or_false] at hu
      rcases hu with rfl | rfl
      · exact readable_quote
      · exact hQuoted
  | nil => exact .list (by simp)
  | list _ hElements => exact .list (hElements.readable (haveText_iff.1 hText)).2
  | dotted _ hElements _ _ hTail =>
      rw [Value.hasText, Bool.and_eq_true] at hText
      obtain ⟨hNil, hHead⟩ := hElements.readable (haveText_iff.1 hText.1)
      exact .dotted hNil hHead (hTail.readable hText.2)

theorem Reader.ElementsText.readable {w : List Char} {vs : List Value} (h : ElementsText w vs)
    (hText : ∀ v ∈ vs, v.hasText = true) : vs ≠ [] ∧ ∀ v ∈ vs, v.Readable := by
  refine ⟨?_, ?_⟩
  · cases h <;> simp
  · cases h with
    | one hExpr =>
        intro v hv
        rw [List.mem_singleton.1 hv]
        exact hExpr.readable (hText _ (by simp))
    | more hExpr _ hRest =>
        have hFirst := hExpr.readable (hText _ (by simp))
        have hOthers := hRest.readable fun u hu => hText u (List.mem_cons_of_mem _ hu)
        intro v hv
        rcases List.mem_cons.1 hv with rfl | hv
        · exact hFirst
        · exact hOthers.2 v hv

end

/-! ## The round trip -/

/--
**The round trip, exactly**: a value can be written and its text reads back
as the value if and only if it is readable.
-/
theorem written_readOne_iff_readable (v : Value) :
    (∃ text, v.written = .ok text ∧ readOne text = .ok v) ↔ v.Readable := by
  constructor
  · rintro ⟨text, hWritten, hRead⟩
    have hText : v.hasText = true := by
      unfold Value.written Value.render at hWritten
      split at hWritten
      · next hText => exact hText
      · cases hWritten
    rw [readOne, run_eq_ok_iff, one_eq_ok_iff] at hRead
    obtain ⟨g, w, g', _, _, hExpr, _⟩ := hRead
    exact hExpr.readable hText
  · intro hReadable
    refine ⟨String.ofList v.text, ?_, ?_⟩
    · rw [Value.written, Value.render, if_pos hReadable.hasText]
    · rw [readOne, run_eq_ok_iff, one_eq_ok_iff, String.toList_ofList]
      exact ⟨[], v.text, [], by simp, .nil, hReadable.exprText, .closed .nil⟩

end MiniScheme
