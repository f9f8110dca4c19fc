import Mathlib.Data.List.TakeWhile
import Mathlib.Data.Nat.Digits.Defs
import MiniScheme.Proofs.Reader.Grammar

/-!
# Tokens are read as the grammar has them

For every kind of token two statements: what the reader takes off the front
of a text is a token of the grammar for the value it returns, whatever
follows (`exists_tokenText_of_token?`), and a token of the grammar with
something behind it that ends it is taken whole (`token?_append_of_ends`).

The second needs `Ends` for every kind but strings, and for a different
reason each: a named character must not run into letters, a one-letter
character must not become a name, a numeral must not run into digits, and a
symbol must neither run on nor become a numeral together with its
surroundings.
-/

namespace MiniScheme.Reader

open Numeral (Radix)
open Text.StringLiteral

theorem exists_ok_of_map_eq_ok {ε α β : Type} {x : Except ε α} {f : α → β} {b : β}
    (h : x.map f = .ok b) : ∃ a, x = .ok a ∧ f a = b := by
  cases x with
  | error e => cases h
  | ok a => exact ⟨a, rfl, Except.ok.inj h⟩

/-! ## Strings -/

/-- Cutting undoes appending the closing quote. -/
theorem cut?_append_of_stringBody {w s : List Char} (hBody : StringBody w s) (rest : List Char) :
    cut? (w ++ '"' :: rest) = some (w, rest) := by
  induction hBody with
  | nil => rfl
  | plain _ hBackslash _ ih => simp [cut?, hBackslash, ih]
  | escape _ _ ih => simp [cut?, ih]

theorem decodeBody_of_stringBody {w s : List Char} (hBody : StringBody w s) :
    decodeBody w = .ok s := by
  induction hBody with
  | nil => rfl
  | plain _ hBackslash _ ih => simp [decodeBody, hBackslash, ih, Except.map]
  | escape hCode _ ih => simp [decodeBody, meaning?_eq_some_iff.2 hCode, ih, Except.map]

/-- What stands between the quotes of a literal, whether its escapes are known
or not. -/
inductive RawBody : List Char → Prop
  | nil : RawBody []
  | plain {c : Char} {w : List Char} (hQuote : c ≠ '"') (hBackslash : c ≠ '\\')
      (hRest : RawBody w) : RawBody (c :: w)
  | escape {code : Char} {w : List Char} (hRest : RawBody w) : RawBody ('\\' :: code :: w)

/-- A literal is cut at the first quote that is not escaped. -/
theorem rawBody_of_cut? {t body rest : List Char} (hCut : cut? t = some (body, rest)) :
    t = body ++ '"' :: rest ∧ RawBody body := by
  fun_induction cut? t generalizing body with
  | case1 => cases hCut
  | case2 t =>
      cases hCut
      exact ⟨rfl, .nil⟩
  | case3 => cases hCut
  | case4 code t ih =>
      obtain ⟨⟨body', rest'⟩, hRest, hEq⟩ := Option.map_eq_some_iff.1 hCut
      cases hEq
      obtain ⟨rfl, hBody⟩ := ih hRest
      exact ⟨rfl, .escape hBody⟩
  | case5 c t hQuote hLone hEscape ih =>
      have hBackslash : c ≠ '\\' := by
        rintro rfl
        cases t with
        | nil => exact hLone rfl rfl
        | cons d t => exact hEscape d t rfl rfl
      obtain ⟨⟨body', rest'⟩, hRest, hEq⟩ := Option.map_eq_some_iff.1 hCut
      cases hEq
      obtain ⟨rfl, hBody⟩ := ih hRest
      exact ⟨rfl, .plain (fun h => hQuote h) hBackslash hBody⟩

theorem decodeBody_plain {c : Char} (hBackslash : c ≠ '\\') (w : List Char) :
    decodeBody (c :: w) = (decodeBody w).map (c :: ·) := by
  simp [decodeBody, hBackslash]

theorem stringBody_of_rawBody {w s : List Char} (hBody : RawBody w)
    (hDecode : decodeBody w = .ok s) : StringBody w s := by
  induction hBody generalizing s with
  | nil =>
      cases hDecode
      exact .nil
  | plain hQuote hBackslash _ ih =>
      rw [decodeBody_plain hBackslash] at hDecode
      obtain ⟨s', hRest, rfl⟩ := exists_ok_of_map_eq_ok hDecode
      exact .plain hQuote hBackslash (ih hRest)
  | escape _ ih =>
      simp only [decodeBody] at hDecode
      split at hDecode
      · next c hMeaning =>
          obtain ⟨s', hRest, rfl⟩ := exists_ok_of_map_eq_ok hDecode
          exact .escape (meaning?_eq_some_iff.1 hMeaning) (ih hRest)
      · cases hDecode

/-- What is cut off at the closing quote is a string body, if it can be
decoded at all. -/
theorem stringBody_of_cut? {t body rest s : List Char} (hCut : cut? t = some (body, rest))
    (hDecode : decodeBody body = .ok s) : t = body ++ '"' :: rest ∧ StringBody body s := by
  obtain ⟨hText, hBody⟩ := rawBody_of_cut? hCut
  exact ⟨hText, stringBody_of_rawBody hBody hDecode⟩

/-! ## Numbers -/

/-- Horner's rule computes the positional value. -/
theorem value_eq_positional {radix : Radix} {digits : List Char}
    (hDigits : ∀ c ∈ digits, radix.isDigit c = true) :
    radix.value digits = positional radix digits := by
  have hAll : digits.filterMap radix.digit? = digits.map fun c => (radix.digit? c).getD 0 := by
    induction digits with
    | nil => rfl
    | cons c rest ih =>
        obtain ⟨d, hd⟩ := Option.isSome_iff_exists.1 (hDigits c (by simp))
        rw [List.filterMap_cons, hd, List.map_cons, hd, ih fun e he => hDigits e (by simp [he])]
        rfl
  rw [Radix.value, Numeral.ofDigits, positional, hAll, Nat.ofDigits_eq_foldr, List.map_reverse,
    List.foldr_reverse]
  simp only [Nat.cast_id, Nat.mul_comm, Nat.add_comm]

theorem digitRun?_append_of_ends {radix : Radix} {digits rest : List Char}
    (hDigits : IsDigits radix digits) (hEnds : Ends rest) :
    digitRun? radix (digits ++ rest) = some ({ radix, digits }, rest) := by
  obtain ⟨hTake, hDrop⟩ := takeWhile_append_of_ends (p := radix.isDigit)
    (fun _ => continuesSymbol_of_isDigit) hDigits.2 hEnds
  rw [digitRun?, hTake, hDrop]
  split
  · next hNil => exact absurd rfl hDigits.1
  · rfl

theorem isDigits_of_digitRun? {radix : Radix} {s rest : List Char} {run : DigitRun}
    (h : digitRun? radix s = some (run, rest)) :
    run.radix = radix ∧ s = run.digits ++ rest ∧ IsDigits radix run.digits := by
  unfold digitRun? at h
  split at h
  · cases h
  · next hRun =>
      simp only [Option.some.injEq, Prod.mk.injEq] at h
      obtain ⟨rfl, rfl⟩ := h
      refine ⟨rfl, List.takeWhile_append_dropWhile.symm, hRun, ?_⟩
      intro c hc
      exact List.mem_takeWhile_imp hc

theorem IsNumeral.digits {radix : Radix} {digits w : List Char}
    (hNumeral : IsNumeral radix digits w) : IsDigits radix digits := by
  cases hNumeral with
  | plain hDigits => exact hDigits
  | marked _ hDigits => exact hDigits

/-- To split off a numeral is to split off its run of digits. -/
theorem numeral?_append {radix : Radix} {digits w : List Char}
    (hNumeral : IsNumeral radix digits w) (rest : List Char) :
    numeral? (w ++ rest) = digitRun? radix (digits ++ rest) := by
  cases hNumeral with
  | marked hLetter hDigits =>
      show (Radix.ofLetter? _).bind _ = _
      rw [hLetter]
      rfl
  | plain hDigits =>
      obtain ⟨c, t, rfl⟩ := List.exists_cons_of_ne_nil hDigits.1
      have hHash : c ≠ '#' := by
        rintro rfl
        have hFalse := hDigits.2 '#' (by simp)
        revert hFalse
        decide
      rw [List.cons_append, numeral?]
      intro letter tail hEq
      exact hHash (List.cons.inj hEq).1

theorem numeral?_append_of_ends {radix : Radix} {digits w rest : List Char}
    (hNumeral : IsNumeral radix digits w) (hEnds : Ends rest) :
    numeral? (w ++ rest) = some ({ radix, digits }, rest) := by
  have hDigits : IsDigits radix digits := hNumeral.digits
  rw [numeral?_append hNumeral, digitRun?_append_of_ends hDigits hEnds]

/-- A text that begins with a numeral has one split off, whatever follows
it. -/
theorem numeral?_ne_none {radix : Radix} {digits w : List Char}
    (hNumeral : IsNumeral radix digits w) (rest : List Char) : numeral? (w ++ rest) ≠ none := by
  have hDigits : IsDigits radix digits := hNumeral.digits
  rw [numeral?_append hNumeral]
  obtain ⟨c, t, rfl⟩ := List.exists_cons_of_ne_nil hDigits.1
  unfold digitRun?
  split
  · next hNil =>
      rw [List.cons_append, List.takeWhile_cons_of_pos (hDigits.2 c (by simp))] at hNil
      cases hNil
  · simp

theorem not_beginsNumeral_of_numeral? {w : List Char} (hNone : numeral? w = none) :
    ¬ BeginsNumeral w := by
  rintro ⟨p, radix, digits, ⟨q, rfl⟩, hp⟩
  exact numeral?_ne_none hp q hNone

/-- What is split off is a numeral. -/
theorem isNumeral_of_numeral? {s rest : List Char} {run : DigitRun}
    (h : numeral? s = some (run, rest)) :
    ∃ w, s = w ++ rest ∧ IsNumeral run.radix run.digits w := by
  unfold numeral? at h
  split at h
  · next letter tail =>
      obtain ⟨radix, hLetter, hRun⟩ := Option.bind_eq_some_iff.1 h
      obtain ⟨rfl, rfl, hDigits⟩ := isDigits_of_digitRun? hRun
      exact ⟨'#' :: letter :: run.digits, rfl, .marked hLetter hDigits⟩
  · obtain ⟨hRadix, rfl, hDigits⟩ := isDigits_of_digitRun? h
    refine ⟨run.digits, rfl, ?_⟩
    rw [hRadix]
    exact .plain hDigits

/-- Reading a numeral as a number. -/
theorem word?_append_of_isNumeral {radix : Radix} {digits w rest : List Char}
    (hNumeral : IsNumeral radix digits w)
    (hLimit : radix = .decimal → digits.length ≤ Numeral.digitLimit) (hEnds : Ends rest) :
    word? (w ++ rest) = .ok (some (.int (positional radix digits), rest)) := by
  have hDigits : IsDigits radix digits := hNumeral.digits
  have hShort : ¬ (radix = .decimal ∧ Numeral.digitLimit < digits.length) := by
    rintro ⟨hDecimal, hLong⟩
    have := hLimit hDecimal
    omega
  rw [word?, numeral?_append_of_ends hNumeral hEnds]
  simp [DigitRun.value, hShort, Except.map, value_eq_positional hDigits.2]

/-! ## Symbols -/

/-- A numeral that begins a text begins the word that the text begins with:
it cannot reach into what ends the word. -/
theorem prefix_of_prefix_append {p w rest : List Char} (hPrefix : p <+: w ++ rest)
    (hp : ∀ c ∈ p, continuesSymbol c = true) (hEnds : Ends rest) : p <+: w := by
  rcases List.prefix_or_prefix_of_prefix hPrefix (List.prefix_append w rest) with h | h
  · exact h
  · obtain ⟨q, rfl⟩ := h
    have hq : q <+: rest := (List.prefix_append_right_inj w).1 hPrefix
    cases q with
    | nil => simp
    | cons c q =>
        obtain ⟨t, rfl⟩ := hq
        have hFalse := continuesSymbol_eq_false_of_endsToken (hEnds c rfl)
        rw [hp c (by simp)] at hFalse
        cases hFalse

theorem continuesSymbol_of_ofLetter? {letter : Char} {radix : Radix}
    (hLetter : Radix.ofLetter? letter = some radix) : continuesSymbol letter = true := by
  have hListed : letter ∈ ['b', 'B', 'o', 'O', 'd', 'D', 'x', 'X'] := by
    unfold Radix.ofLetter? at hLetter
    split at hLetter <;> simp at hLetter ⊢
  have hAll : ['b', 'B', 'o', 'O', 'd', 'D', 'x', 'X'].all continuesSymbol = true := by
    decide
  exact List.all_eq_true.1 hAll letter hListed

theorem IsNumeral.continuesSymbol {radix : Radix} {digits w : List Char}
    (hNumeral : IsNumeral radix digits w) : ∀ c ∈ w, continuesSymbol c = true := by
  intro c hc
  cases hNumeral with
  | plain hDigits => exact continuesSymbol_of_isDigit (hDigits.2 c hc)
  | @marked letter radix digits hLetter hDigits =>
      rcases List.mem_cons.1 hc with rfl | hc
      · decide
      · rcases List.mem_cons.1 hc with rfl | hc
        · exact continuesSymbol_of_ofLetter? hLetter
        · exact continuesSymbol_of_isDigit (hDigits.2 c hc)

theorem numeral?_append_eq_none {w rest : List Char} (hNumeral : ¬ BeginsNumeral w)
    (hEnds : Ends rest) : numeral? (w ++ rest) = none := by
  rw [Option.eq_none_iff_forall_not_mem]
  rintro ⟨run, t⟩ hSome
  obtain ⟨p, hCut, hp⟩ := isNumeral_of_numeral? hSome
  have hPrefix : p <+: w ++ rest := ⟨t, hCut.symm⟩
  exact hNumeral ⟨p, _, _, prefix_of_prefix_append hPrefix hp.continuesSymbol hEnds, hp⟩

theorem symbol?_append_of_ends {w rest : List Char} (hWord : IsWord w) (hEnds : Ends rest) :
    symbol? (w ++ rest) = some (wordValue w, rest) := by
  obtain ⟨c, t, rfl, hStart, hContinue⟩ := hWord
  obtain ⟨hTake, hDrop⟩ := takeWhile_append_of_ends (p := continuesSymbol) (fun _ h => h)
    hContinue hEnds
  simp [symbol?, hStart, hTake, hDrop]

theorem word?_append_of_isWord {w rest : List Char} (hWord : IsWord w)
    (hNumeral : ¬ BeginsNumeral w) (hEnds : Ends rest) :
    word? (w ++ rest) = .ok (some (wordValue w, rest)) := by
  rw [word?, numeral?_append_eq_none hNumeral hEnds, symbol?_append_of_ends hWord hEnds]

/-- A word that no numeral begins is a token for what the reader makes of
it. -/
theorem tokenText_wordValue {w : List Char} (hWord : IsWord w) (hNumeral : ¬ BeginsNumeral w) :
    TokenText w (wordValue w) := by
  unfold wordValue
  split
  · next hTrue =>
      subst hTrue
      exact .boolTrue
  · next hTrue =>
      split
      · next hFalse =>
          subst hFalse
          exact .boolFalse
      · next hFalse => exact .symbol hWord hNumeral hTrue hFalse

/-- What is read as a symbol is a token of the grammar, if nothing was read
as a number. -/
theorem exists_tokenText_of_symbol? {s rest : List Char} {v : Value}
    (hNone : numeral? s = none) (h : symbol? s = some (v, rest)) :
    ∃ w, s = w ++ rest ∧ TokenText w v := by
  match s with
  | [] => cases h
  | c :: t =>
      simp only [symbol?, Option.ite_none_right_eq_some, Option.some.injEq, Prod.mk.injEq] at h
      obtain ⟨hStart, rfl, rfl⟩ := h
      have hWord : IsWord (c :: t.takeWhile continuesSymbol) :=
        ⟨c, _, rfl, hStart, fun d hd => List.mem_takeWhile_imp hd⟩
      have hCut : c :: t = c :: t.takeWhile continuesSymbol ++ t.dropWhile continuesSymbol := by
        rw [List.cons_append, List.takeWhile_append_dropWhile]
      refine ⟨_, hCut, tokenText_wordValue hWord ?_⟩
      rintro ⟨p, radix, digits, ⟨q, hq⟩, hp⟩
      rw [hCut, ← hq, List.append_assoc] at hNone
      exact numeral?_ne_none hp _ hNone

/-- What is read as a word is a token of the grammar. -/
theorem exists_tokenText_of_word? {s rest : List Char} {v : Value}
    (h : word? s = .ok (some (v, rest))) : ∃ w, s = w ++ rest ∧ TokenText w v := by
  unfold word? at h
  split at h
  · next run tail hRun =>
      obtain ⟨w, rfl, hNumeral⟩ := isNumeral_of_numeral? hRun
      obtain ⟨u, hValue, hEq⟩ := exists_ok_of_map_eq_ok h
      simp only [Option.some.injEq, Prod.mk.injEq] at hEq
      obtain ⟨rfl, rfl⟩ := hEq
      unfold DigitRun.value at hValue
      split at hValue
      · cases hValue
      · next hShort =>
          simp only [Except.ok.injEq] at hValue
          rw [← hValue, value_eq_positional hNumeral.digits.2]
          refine ⟨w, rfl, .number hNumeral ?_⟩
          intro hDecimal
          exact Nat.le_of_not_lt fun hLong => hShort ⟨hDecimal, hLong⟩
  · next hNone => exact exists_tokenText_of_symbol? hNone (Except.ok.inj h)

/-! ## Characters -/

/-- Every name is read as the character it is listed for. -/
theorem characterNamed?_eq_some_iff {name : List Char} {c : Char} :
    characterNamed? name = some c ↔
      (String.ofList (name.map Text.lower), c) ∈ namedCharacters :=
  Text.lookup_eq_some_iff_mem (by decide)

theorem character?_append_of_named {start name rest : List Char} {c : Char}
    (hLong : 2 ≤ name.length) (hLetters : ∀ d ∈ name, Text.isLetter d = true)
    (hName : (String.ofList (name.map Text.lower), c) ∈ namedCharacters) (hEnds : Ends rest) :
    character? start (name ++ rest) = .ok (some (.char c, rest)) := by
  obtain ⟨hTake, hDrop⟩ := takeWhile_append_of_ends (p := Text.isLetter)
    (fun _ => continuesSymbol_of_isLetter) hLetters hEnds
  obtain ⟨d, t, rfl⟩ := List.exists_cons_of_length_pos (Nat.lt_of_lt_of_le Nat.zero_lt_two hLong)
  rw [List.cons_append] at hTake hDrop ⊢
  simp only [character?, hTake, hDrop, hLong, if_true, characterNamed?_eq_some_iff.2 hName]

/-- One character is read for itself, since what ends it is no letter. -/
theorem character?_cons_of_ends {start rest : List Char} (c : Char) (hEnds : Ends rest) :
    character? start (c :: rest) = .ok (some (.char c, rest)) := by
  have hStop : rest.takeWhile Text.isLetter = [] :=
    (takeWhile_append_of_ends (p := Text.isLetter) (w := [])
      (fun _ => continuesSymbol_of_isLetter) (by simp) hEnds).1
  have hShort : ¬ 2 ≤ ((c :: rest).takeWhile Text.isLetter).length := by
    rw [List.takeWhile_cons, hStop]
    split <;> simp
  simp only [character?, hShort, if_false]

/-- What is read behind the mark of a character is a token of the grammar. -/
theorem exists_tokenText_of_character? {start s rest : List Char} {v : Value}
    (h : character? start s = .ok (some (v, rest))) :
    ∃ w, '#' :: '\\' :: s = w ++ rest ∧ TokenText w v := by
  match s with
  | [] => cases h
  | c :: t =>
      simp only [character?] at h
      split at h
      · next hLong =>
          split at h
          · next d hName =>
              simp only [Except.ok.injEq, Option.some.injEq, Prod.mk.injEq] at h
              obtain ⟨rfl, rfl⟩ := h
              refine ⟨'#' :: '\\' :: (c :: t).takeWhile Text.isLetter, ?_, ?_⟩
              · rw [List.cons_append, List.cons_append, List.takeWhile_append_dropWhile]
              · exact .named hLong (fun e he => List.mem_takeWhile_imp he)
                  (characterNamed?_eq_some_iff.1 hName)
          · cases h
      · simp only [Except.ok.injEq, Option.some.injEq, Prod.mk.injEq] at h
        obtain ⟨rfl, rfl⟩ := h
        exact ⟨['#', '\\', c], rfl, .single c⟩

/-! ## All kinds of tokens -/

theorem string?_append_of_stringBody {w t : List Char} (hBody : StringBody w t)
    (rest : List Char) :
    string? (w ++ '"' :: rest) = .ok (some (.string (String.ofList t), rest)) := by
  rw [string?, cut?_append_of_stringBody hBody]
  simp only [decodeBody_of_stringBody hBody]

theorem exists_tokenText_of_string? {s rest : List Char} {v : Value}
    (h : string? s = .ok (some (v, rest))) : ∃ w, '"' :: s = w ++ rest ∧ TokenText w v := by
  unfold string? at h
  split at h
  · cases h
  · next body tail hCut =>
      split at h
      · next text hDecode =>
          simp only [Except.ok.injEq, Option.some.injEq, Prod.mk.injEq] at h
          obtain ⟨rfl, rfl⟩ := h
          obtain ⟨rfl, hBody⟩ := stringBody_of_cut? hCut hDecode
          exact ⟨'"' :: (body ++ ['"']), by simp, .string hBody⟩
      · cases h

/-- A text that begins neither with a quote nor with the mark of a character
is read as a word. -/
theorem token?_eq_word? {s : List Char} (hQuote : ∀ t, s ≠ '"' :: t)
    (hMark : ∀ t, s ≠ '#' :: '\\' :: t) : token? s = word? s := by
  unfold token?
  split
  · next t => exact absurd rfl (hQuote t)
  · next t => exact absurd rfl (hMark t)
  · rfl

/-- No word runs into a quote or a mark of a character. -/
theorem token?_append_eq_word? {w rest : List Char} (hFirst : w ≠ [])
    (hw : ∀ c ∈ w, continuesSymbol c = true) (hEnds : Ends rest) :
    token? (w ++ rest) = word? (w ++ rest) := by
  have hBackslash : continuesSymbol '\\' = false := by decide
  have hQuote : continuesSymbol '"' = false := by decide
  match w with
  | [] => exact absurd rfl hFirst
  | c :: w =>
      apply token?_eq_word?
      · intro t hEq
        have hc := hw c (by simp)
        rw [(List.cons.inj hEq).1, hQuote] at hc
        cases hc
      · intro t hEq
        have hRest : w ++ rest = '\\' :: t := (List.cons.inj hEq).2
        cases w with
        | nil =>
            rw [List.nil_append] at hRest
            subst hRest
            have hFalse := hEnds '\\' rfl
            revert hFalse
            decide
        | cons d w =>
            have hd := hw d (by simp)
            rw [(List.cons.inj hRest).1, hBackslash] at hd
            cases hd

theorem IsWord.continuesSymbol {w : List Char} (hWord : IsWord w) :
    ∀ c ∈ w, continuesSymbol c = true := by
  obtain ⟨c, t, rfl, hStart, hContinue⟩ := hWord
  intro d hd
  rcases List.mem_cons.1 hd with rfl | hd
  · exact continuesSymbol_of_startsSymbol hStart
  · exact hContinue d hd

theorem token?_append_of_isWord {w rest : List Char} (hWord : IsWord w)
    (hNumeral : ¬ BeginsNumeral w) (hEnds : Ends rest) :
    token? (w ++ rest) = .ok (some (wordValue w, rest)) := by
  have hFirst : w ≠ [] := by
    obtain ⟨c, t, rfl, _⟩ := hWord
    simp
  rw [token?_append_eq_word? hFirst hWord.continuesSymbol hEnds,
    word?_append_of_isWord hWord hNumeral hEnds]

/--
**Completeness for tokens**: a token of the grammar is read whole, for its
value, when what follows ends it.
-/
theorem token?_append_of_ends {w rest : List Char} {v : Value} (hToken : TokenText w v)
    (hEnds : Ends rest) : token? (w ++ rest) = .ok (some (v, rest)) := by
  cases hToken with
  | @string w t hBody =>
      show string? (w ++ ['"'] ++ rest) = _
      rw [List.append_assoc]
      exact string?_append_of_stringBody hBody rest
  | @named name c hLong hLetters hName =>
      show (character? _ (name ++ rest) >>= _) = _
      rw [character?_append_of_named hLong hLetters hName hEnds]
      rfl
  | single c =>
      show (character? _ (c :: rest) >>= _) = _
      rw [character?_cons_of_ends c hEnds]
      rfl
  | number hNumeral hLimit =>
      have hFirst : w ≠ [] := by
        obtain ⟨c, t, rfl, _⟩ := (TokenText.number hNumeral hLimit).head
        simp
      rw [token?_append_eq_word? hFirst hNumeral.continuesSymbol hEnds,
        word?_append_of_isNumeral hNumeral hLimit hEnds]
  | boolTrue =>
      have hWord : IsWord ['#', 't'] := isWord_cons (by decide) (by decide)
      exact token?_append_of_isWord hWord (not_beginsNumeral_of_numeral? rfl) hEnds
  | boolFalse =>
      have hWord : IsWord ['#', 'f'] := isWord_cons (by decide) (by decide)
      exact token?_append_of_isWord hWord (not_beginsNumeral_of_numeral? rfl) hEnds
  | symbol hWord hNumeral hTrue hFalse =>
      have hValue : wordValue w = .symbol (String.ofList w) := by
        rw [wordValue, if_neg hTrue, if_neg hFalse]
      rw [token?_append_of_isWord hWord hNumeral hEnds, hValue]

/--
**Soundness for tokens**: what is read as a token is one of the grammar, for
the value returned, whatever follows it.
-/
theorem exists_tokenText_of_token? {s rest : List Char} {v : Value}
    (h : token? s = .ok (some (v, rest))) : ∃ w, s = w ++ rest ∧ TokenText w v := by
  unfold token? at h
  split at h
  · exact exists_tokenText_of_string? h
  · next t =>
      cases hRead : character? ('#' :: '\\' :: t) t with
      | error stop =>
          rw [hRead] at h
          cases h
      | ok found =>
          rw [hRead] at h
          cases found with
          | none => exact exists_tokenText_of_word? h
          | some pair =>
              obtain rfl : pair = (v, rest) := Option.some.inj (Except.ok.inj h)
              exact exists_tokenText_of_character? hRead
  · exact exists_tokenText_of_word? h

end MiniScheme.Reader
