import Mathlib.Data.Nat.Digits.Defs
import MiniScheme.Reader.Basic

/-!
# The grammar of expressions

What the reader accepts, said without the reader.  `ExprText w v` holds when
the text `w` is an expression for the value `v`.  The relation knows nothing
of rests, of longest runs or of the order in which alternatives are tried:
a text is cut into its parts in any way that fits, and every part is judged
by itself.

The definitions come in three layers.

1. **Gaps** (`IsGap`, `IsSeparator`, `IsTrailingGap`).  A comment between
   two expressions ends with a newline that belongs to the gap; only the
   gap at the end of a whole text may break off inside a comment.
2. **Tokens** (`TokenText`).  A symbol is a word no prefix of which is a
   numeral, so `#b1x` is none.  Numbers are valued by `positional`, the sum
   of their digits times powers of the base.
3. **Expressions** (`ExprText`, `ElementsText`).  Tokens, quotes and the two
   kinds of list.

## What follows a token

The reader takes runs as long as they go, the grammar does not say where a
token ends.  The two agree because of what can stand behind an expression:
nothing, a blank, a comment or a closing parenthesis (`Ends`), and no such
character can go on a token (`continuesSymbol_eq_false_of_endsToken` and
the lemmas beside it).  In the other direction no expression begins with
one of these characters, or with a dot (`ExprText.beginsExpr`).
-/

namespace MiniScheme.Reader

open Numeral (Radix)

/-! ## Gaps -/

/-- Blanks and comments, possibly none, every comment with the newline that
ends it. -/
inductive IsGap : List Char → Prop
  | nil : IsGap []
  | blank {c : Char} {g : List Char} (hBlank : Text.isBlank c = true) (hRest : IsGap g) :
      IsGap (c :: g)
  | comment {body g : List Char} (hBody : '\n' ∉ body) (hRest : IsGap g) :
      IsGap (';' :: (body ++ '\n' :: g))

/-- At least one blank or comment. -/
def IsSeparator (g : List Char) : Prop := IsGap g ∧ g ≠ []

/-- What may stand behind the last expression of a text: a gap, and a
comment that nothing ends. -/
inductive IsTrailingGap : List Char → Prop
  | closed {g : List Char} (hGap : IsGap g) : IsTrailingGap g
  | unclosed {g body : List Char} (hGap : IsGap g) (hBody : '\n' ∉ body) :
      IsTrailingGap (g ++ ';' :: body)

theorem IsGap.append {g g' : List Char} (hGap : IsGap g) (hGap' : IsGap g') :
    IsGap (g ++ g') := by
  induction hGap with
  | nil => exact hGap'
  | blank hBlank _ ih => exact .blank hBlank ih
  | comment hBody _ ih =>
      rw [List.cons_append, List.append_assoc, List.cons_append]
      exact .comment hBody ih

/-! ## Tokens -/

/-- `StringBody w s`: between quotes, `w` stands for the characters `s`. -/
inductive StringBody : List Char → List Char → Prop
  | nil : StringBody [] []
  | plain {c : Char} {w s : List Char} (hQuote : c ≠ '"') (hBackslash : c ≠ '\\')
      (hRest : StringBody w s) : StringBody (c :: w) (c :: s)
  | escape {c code : Char} {w s : List Char} (hCode : (code, c) ∈ Text.StringLiteral.meanings)
      (hRest : StringBody w s) : StringBody ('\\' :: code :: w) (c :: s)

/-- One or more digits of a radix. -/
def IsDigits (radix : Radix) (digits : List Char) : Prop :=
  digits ≠ [] ∧ ∀ c ∈ digits, radix.isDigit c = true

/-- `IsNumeral radix digits w`: the text `w` is a numeral with these digits,
either plain decimal digits or digits behind the mark of their radix. -/
inductive IsNumeral : Radix → List Char → List Char → Prop
  | plain {digits : List Char} (hDigits : IsDigits .decimal digits) :
      IsNumeral .decimal digits digits
  | marked {letter : Char} {radix : Radix} {digits : List Char}
      (hLetter : Radix.ofLetter? letter = some radix) (hDigits : IsDigits radix digits) :
      IsNumeral radix digits ('#' :: letter :: digits)

/-- The positional value of digits, the highest first: the last one counts
once, the one before it as often as the base says, and so on. -/
def positional (radix : Radix) (digits : List Char) : Nat :=
  Nat.ofDigits radix.base (digits.reverse.map fun c => (radix.digit? c).getD 0)

/-- A text that has the form of a symbol. -/
def IsWord (w : List Char) : Prop :=
  ∃ c rest, w = c :: rest ∧ startsSymbol c = true ∧ ∀ d ∈ rest, continuesSymbol d = true

theorem isWord_cons {c : Char} {w : List Char} (hFirst : startsSymbol c = true)
    (hRest : w.all continuesSymbol = true) : IsWord (c :: w) :=
  ⟨c, w, rfl, hFirst, List.all_eq_true.1 hRest⟩

/-- Some prefix of the text is a numeral. -/
def BeginsNumeral (w : List Char) : Prop :=
  ∃ p radix digits, p <+: w ∧ IsNumeral radix digits p

/-- `TokenText w v`: the text `w` is a token for the value `v`. -/
inductive TokenText : List Char → Value → Prop
  | string {w s : List Char} (hBody : StringBody w s) :
      TokenText ('"' :: (w ++ ['"'])) (.string (String.ofList s))
  | named {name : List Char} {c : Char} (hLong : 2 ≤ name.length)
      (hLetters : ∀ d ∈ name, Text.isLetter d = true)
      (hName : (String.ofList (name.map Text.lower), c) ∈ namedCharacters) :
      TokenText ('#' :: '\\' :: name) (.char c)
  | single (c : Char) : TokenText ['#', '\\', c] (.char c)
  | number {radix : Radix} {digits w : List Char} (hNumeral : IsNumeral radix digits w)
      (hLimit : radix = .decimal → digits.length ≤ Numeral.digitLimit) :
      TokenText w (.int (positional radix digits))
  | boolTrue : TokenText ['#', 't'] (.bool true)
  | boolFalse : TokenText ['#', 'f'] (.bool false)
  | symbol {w : List Char} (hWord : IsWord w) (hNumeral : ¬ BeginsNumeral w)
      (hTrue : w ≠ ['#', 't']) (hFalse : w ≠ ['#', 'f']) :
      TokenText w (.symbol (String.ofList w))

/-! ## Expressions -/

mutual

/-- `ExprText w v`: the text `w` is an expression for the value `v`. -/
inductive ExprText : List Char → Value → Prop
  | token {w : List Char} {v : Value} (hToken : TokenText w v) : ExprText w v
  | quote {w : List Char} {v : Value} (hExpr : ExprText w v) :
      ExprText ('\'' :: w) (.list [.symbol "quote", v])
  | nil {g : List Char} (hGap : IsGap g) : ExprText ('(' :: (g ++ [')'])) (.list [])
  | list {g w g' : List Char} {vs : List Value} (hGap : IsGap g) (hElements : ElementsText w vs)
      (hGap' : IsGap g') : ExprText ('(' :: (g ++ w ++ g' ++ [')'])) (.list vs)
  | dotted {g w s s' t g' : List Char} {vs : List Value} {v : Value} (hGap : IsGap g)
      (hElements : ElementsText w vs) (hSep : IsSeparator s) (hSep' : IsSeparator s')
      (hTail : ExprText t v) (hGap' : IsGap g') :
      ExprText ('(' :: (g ++ w ++ s ++ '.' :: (s' ++ t ++ g' ++ [')']))) (.dotted vs v)

/-- `ElementsText w vs`: the text `w` is one or more expressions, for the
values `vs`, with separators between them. -/
inductive ElementsText : List Char → List Value → Prop
  | one {w : List Char} {v : Value} (hExpr : ExprText w v) : ElementsText w [v]
  | more {w s t : List Char} {v : Value} {vs : List Value} (hExpr : ExprText w v)
      (hSep : IsSeparator s) (hRest : ElementsText t vs) :
      ElementsText (w ++ s ++ t) (v :: vs)

end

/-- Elements may also be added at the end. -/
theorem ElementsText.snoc {w s t : List Char} {vs : List Value} {v : Value}
    (hElements : ElementsText w vs) (hSep : IsSeparator s) (hExpr : ExprText t v) :
    ElementsText (w ++ s ++ t) (vs ++ [v]) := by
  match hElements with
  | .one hFirst => exact .more hFirst hSep (.one hExpr)
  | .more (w := w₁) (s := s₁) (t := t₁) hFirst hSep₁ hRest =>
      have ih := ElementsText.snoc hRest hSep hExpr
      rw [show w₁ ++ s₁ ++ t₁ ++ s ++ t = w₁ ++ s₁ ++ (t₁ ++ s ++ t) by
        simp only [List.append_assoc]]
      exact .more hFirst hSep₁ ih

/-! ## What may stand behind an expression -/

/-- May `c` stand directly behind an expression? -/
def endsToken (c : Char) : Bool := Text.isBlank c || c == ';' || c == ')'

/-- The text is empty or begins with a character that may stand directly
behind an expression. -/
def Ends (s : List Char) : Prop := ∀ c ∈ s.head?, endsToken c = true

theorem ends_nil : Ends [] := by
  intro c hc
  cases hc

theorem ends_cons {c : Char} {s : List Char} (hc : endsToken c = true) : Ends (c :: s) := by
  intro d hd
  cases hd
  exact hc

/-- What is true of every code point of a short table is true of every
character the table has. -/
theorem forall_of_ranges {table : Text.Ranges} {p : Char → Bool}
    (hTable : ∀ range ∈ table, ∀ k < range.2 + 1 - range.1,
      p (Char.ofNat (range.1 + k)) = true)
    {c : Char} (hc : table.has c = true) : p c = true := by
  obtain ⟨range, hMem, hLow, hHigh⟩ := Text.Ranges.has_iff.1 hc
  have hCode := hTable range hMem (c.toNat - range.1) (by omega)
  rw [Nat.add_sub_cancel' hLow, Char.ofNat_toNat] at hCode
  exact hCode

/-- No blank can go on a symbol. -/
theorem continuesSymbol_eq_false_of_isBlank {c : Char} (hBlank : Text.isBlank c = true) :
    continuesSymbol c = false := by
  have hTable : ∀ range ∈ Text.blankRanges, ∀ k < range.2 + 1 - range.1,
      (!continuesSymbol (Char.ofNat (range.1 + k))) = true := by
    decide +kernel
  simpa using forall_of_ranges (p := fun c => !continuesSymbol c) hTable hBlank

/-- What may stand behind an expression cannot go on a symbol. -/
theorem continuesSymbol_eq_false_of_endsToken {c : Char} (hEnds : endsToken c = true) :
    continuesSymbol c = false := by
  simp only [endsToken, Bool.or_eq_true, beq_iff_eq] at hEnds
  rcases hEnds with (hBlank | rfl) | rfl
  · exact continuesSymbol_eq_false_of_isBlank hBlank
  · decide
  · decide

theorem endsToken_eq_false_of_continuesSymbol {c : Char} (hc : continuesSymbol c = true) :
    endsToken c = false := by
  rw [Bool.eq_false_iff]
  intro hEnds
  rw [continuesSymbol_eq_false_of_endsToken hEnds] at hc
  cases hc

/-! Everything that a run of the reader is made of can go on a symbol. -/

theorem continuesSymbol_of_startsSymbol {c : Char} (hc : startsSymbol c = true) :
    continuesSymbol c = true := by
  simp [continuesSymbol, hc]

theorem continuesSymbol_of_isLetter {c : Char} (hc : Text.isLetter c = true) :
    continuesSymbol c = true := by
  simp [continuesSymbol, startsSymbol, hc]

/-- An ASCII digit with its value, or one of six letters counting from ten. -/
theorem asciiDigit?_cases {c : Char} {d : Nat} (h : Numeral.asciiDigit? c = some d) :
    (0x30 ≤ c.toNat ∧ c.toNat ≤ 0x39 ∧ d = c.toNat - 0x30) ∨
    (0x41 ≤ c.toNat ∧ c.toNat ≤ 0x46 ∧ d = c.toNat - 0x41 + 10) ∨
    (0x61 ≤ c.toNat ∧ c.toNat ≤ 0x66 ∧ d = c.toNat - 0x61 + 10) := by
  simp only [Numeral.asciiDigit?, Bool.and_eq_true, decide_eq_true_eq, Char.le_def,
    UInt32.le_iff_toNat_le] at h
  split at h
  · next hDigit => exact .inl ⟨hDigit.1, hDigit.2, (Option.some.inj h).symm⟩
  · split at h
    · next hSmall => exact .inr (.inr ⟨hSmall.1, hSmall.2, (Option.some.inj h).symm⟩)
    · split at h
      · next hCapital => exact .inr (.inl ⟨hCapital.1, hCapital.2, (Option.some.inj h).symm⟩)
      · cases h

theorem continuesSymbol_of_isDigit {radix : Radix} {c : Char} (hc : radix.isDigit c = true) :
    continuesSymbol c = true := by
  have hTable : ∀ range ∈ [(0x30, 0x39), (0x41, 0x46), (0x61, 0x66)],
      ∀ k < range.2 + 1 - range.1, continuesSymbol (Char.ofNat (range.1 + k)) = true := by
    decide +kernel
  obtain ⟨d, hd⟩ := Option.isSome_iff_exists.1 hc
  rw [Radix.digit?, Option.filter_eq_some_iff] at hd
  apply forall_of_ranges hTable
  simp only [Text.Ranges.has, List.any_cons, List.any_nil, Bool.or_eq_true, Bool.and_eq_true,
    decide_eq_true_eq]
  have := asciiDigit?_cases hd.1
  omega

/-- A decimal digit is one of ten characters, none of which begins a
symbol. -/
theorem startsSymbol_eq_false_of_isDigit {c : Char} (hc : Radix.decimal.isDigit c = true) :
    startsSymbol c = false := by
  have hTable : ∀ range ∈ [(0x30, 0x39)], ∀ k < range.2 + 1 - range.1,
      (!startsSymbol (Char.ofNat (range.1 + k))) = true := by
    decide +kernel
  obtain ⟨d, hd⟩ := Option.isSome_iff_exists.1 hc
  rw [Radix.digit?, Option.filter_eq_some_iff, decide_eq_true_eq] at hd
  have hRange : Text.Ranges.has [(0x30, 0x39)] c = true := by
    have hCases := asciiDigit?_cases hd.1
    have hTen : d < 10 := hd.2
    simp only [Text.Ranges.has, List.any_cons, List.any_nil, Bool.or_false, Bool.and_eq_true,
      decide_eq_true_eq]
    omega
  simpa using forall_of_ranges (p := fun c => !startsSymbol c) hTable hRange

/-- A run of characters that can go on a symbol is cut off exactly where the
rest of the text ends it. -/
theorem takeWhile_append_of_ends {p : Char → Bool} {w rest : List Char}
    (hp : ∀ c, p c = true → continuesSymbol c = true) (hw : ∀ c ∈ w, p c = true)
    (hEnds : Ends rest) :
    (w ++ rest).takeWhile p = w ∧ (w ++ rest).dropWhile p = rest := by
  have hStop : rest.takeWhile p = [] ∧ rest.dropWhile p = rest := by
    cases rest with
    | nil => exact ⟨rfl, rfl⟩
    | cons c rest =>
        have hc : p c = false := by
          rw [Bool.eq_false_iff]
          intro hpc
          have hFalse := continuesSymbol_eq_false_of_endsToken (hEnds c rfl)
          rw [hp c hpc] at hFalse
          cases hFalse
        simp [hc]
  constructor
  · rw [List.takeWhile_append_of_pos hw, hStop.1, List.append_nil]
  · rw [List.dropWhile_append_of_pos hw, hStop.2]

/-! ## How expressions begin -/

/-- A character that an expression may begin with: none that may stand
behind one, and no dot. -/
def BeginsExpr (s : List Char) : Prop := ∃ c rest, s = c :: rest ∧ endsToken c = false ∧ c ≠ '.'

theorem beginsExpr_of_continuesSymbol {c : Char} {rest : List Char}
    (hc : continuesSymbol c = true) : BeginsExpr (c :: rest) := by
  refine ⟨c, rest, rfl, endsToken_eq_false_of_continuesSymbol hc, ?_⟩
  rintro rfl
  revert hc
  decide

theorem BeginsExpr.append {s : List Char} (hs : BeginsExpr s) (t : List Char) :
    BeginsExpr (s ++ t) := by
  obtain ⟨c, rest, rfl, hc⟩ := hs
  exact ⟨c, rest ++ t, rfl, hc⟩

/-- A token begins with a double quote or with something that can go on a
symbol. -/
theorem TokenText.head {w : List Char} {v : Value} (h : TokenText w v) :
    ∃ c rest, w = c :: rest ∧ (c = '"' ∨ continuesSymbol c = true) := by
  have hHash : continuesSymbol '#' = true := by decide
  cases h with
  | string => exact ⟨'"', _, rfl, .inl rfl⟩
  | named | single | boolTrue | boolFalse => exact ⟨'#', _, rfl, .inr hHash⟩
  | number hNumeral =>
      cases hNumeral with
      | plain hDigits =>
          obtain ⟨c, rest, rfl⟩ := List.exists_cons_of_ne_nil hDigits.1
          exact ⟨c, rest, rfl, .inr (continuesSymbol_of_isDigit (hDigits.2 c (by simp)))⟩
      | marked => exact ⟨'#', _, rfl, .inr hHash⟩
  | symbol hWord =>
      obtain ⟨c, rest, rfl, hStart, _⟩ := hWord
      exact ⟨c, rest, rfl, .inr (continuesSymbol_of_startsSymbol hStart)⟩

theorem TokenText.beginsExpr {w : List Char} {v : Value} (h : TokenText w v) : BeginsExpr w := by
  obtain ⟨c, rest, rfl, rfl | hc⟩ := h.head
  · exact ⟨'"', rest, rfl, by decide, by decide⟩
  · exact beginsExpr_of_continuesSymbol hc

theorem ExprText.beginsExpr {w : List Char} {v : Value} (h : ExprText w v) : BeginsExpr w := by
  cases h with
  | token hToken => exact hToken.beginsExpr
  | quote => exact ⟨'\'', _, rfl, by decide, by decide⟩
  | nil | list | dotted => exact ⟨'(', _, rfl, by decide, by decide⟩

theorem ElementsText.beginsExpr {w : List Char} {vs : List Value} (h : ElementsText w vs) :
    BeginsExpr w := by
  cases h with
  | one hExpr => exact hExpr.beginsExpr
  | more hExpr => exact (hExpr.beginsExpr.append _).append _

end MiniScheme.Reader
