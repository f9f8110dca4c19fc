import Mathlib.Data.List.Forall2
import MiniScheme.Proofs.Reader.RoundTrip

/-!
# Sequences of expressions

A whole text may hold one expression, at most one, or any number of them,
and there is an entry point for each.  The three are written apart and
report failures apart.  **Where they succeed they are one reader**: the text
holds a sequence of expressions, and an entry point succeeds when it can do
with their number.

The sequence is found without the reader (`SequenceText`): gap, elements
with separators between them, and a gap that may break off inside a
comment.  Two such texts can be put one behind the other if a newline goes
between them.  The newline does two things at once.  It ends the comment
that the first text may break off in, and it separates the last expression
of the first text from the first one of the second.

## Main results

* `all_eq_ok_iff` — any number of expressions is read exactly as the grammar
  has it.
* `readOptional_eq_ok_iff_readAll`, `readOne_eq_ok_iff_readAll` — the entry points
  in terms of one of them.
* `readAll_join`, `readAll_intercalate` — texts joined by newlines.
* `entry_points_agree` — all of this together, and what it means for
  written values.
-/

namespace MiniScheme.Reader

/-! ## The grammar of whole texts -/

/-- `SequenceText s vs`: the whole text `s` is a sequence of expressions for
the values `vs`. -/
inductive SequenceText : List Char → List Value → Prop
  | blank {g : List Char} (hGap : IsTrailingGap g) : SequenceText g []
  | elements {g w g' : List Char} {vs : List Value} (hGap : IsGap g)
      (hElements : ElementsText w vs) (hGap' : IsTrailingGap g') :
      SequenceText (g ++ w ++ g') vs

/-- A newline ends what a text may break off in. -/
theorem IsTrailingGap.isSeparator_newline {g : List Char} (hGap : IsTrailingGap g) :
    IsSeparator (g ++ ['\n']) := by
  refine ⟨?_, by simp⟩
  cases hGap with
  | closed hGap => exact hGap.append (.blank (by decide) .nil)
  | unclosed hGap hBody =>
      rw [List.append_assoc]
      exact hGap.append (.comment hBody .nil)

theorem ElementsText.append {w s t : List Char} {vs us : List Value} (hFirst : ElementsText w vs)
    (hSep : IsSeparator s) (hRest : ElementsText t us) : ElementsText (w ++ s ++ t) (vs ++ us) := by
  match hFirst with
  | .one hExpr => exact .more hExpr hSep hRest
  | .more (w := w₁) (s := s₁) (t := t₁) hExpr hSep₁ hMore =>
      have ih := ElementsText.append hMore hSep hRest
      rw [show w₁ ++ s₁ ++ t₁ ++ s ++ t = w₁ ++ s₁ ++ (t₁ ++ s ++ t) by
        simp only [List.append_assoc]]
      exact .more hExpr hSep₁ ih

/-- **Two whole texts with a newline between them** are a whole text, whose
expressions are those of both. -/
theorem SequenceText.join {a b : List Char} {xs ys : List Value} (ha : SequenceText a xs)
    (hb : SequenceText b ys) : SequenceText (a ++ '\n' :: b) (xs ++ ys) := by
  have hNewline : a ++ '\n' :: b = a ++ ['\n'] ++ b := by simp
  cases ha with
  | blank hGap =>
      have hSep := hGap.isSeparator_newline.1
      rw [hNewline]
      cases hb with
      | blank hGap' => exact .blank (hGap'.prepend hSep)
      | elements hGap' hElements hEnd =>
          rw [← List.append_assoc, ← List.append_assoc]
          exact .elements (hSep.append hGap') hElements hEnd
  | @elements g w g' _ hGap hElements hEnd =>
      have hSep := hEnd.isSeparator_newline
      cases hb with
      | blank hGap' =>
          have hText : g ++ w ++ g' ++ '\n' :: b = g ++ w ++ (g' ++ ['\n'] ++ b) := by simp
          rw [List.append_nil, hText]
          exact .elements hGap hElements (hGap'.prepend hSep.1)
      | @elements g₁ w₁ g₁' _ hGap₁ hElements₁ hEnd₁ =>
          have hBetween : IsSeparator (g' ++ ['\n'] ++ g₁) :=
            ⟨hSep.1.append hGap₁, by simp⟩
          have h := SequenceText.elements hGap (hElements.append hBetween hElements₁) hEnd₁
          simpa using h

/-! ## Steps of the reader -/

/-- Where the text ends no expression begins. -/
theorem expr_of_eq_nil {s : List Char} (h : s = []) :
    expr s = .error (.mismatch [] .expectedExpression) := by
  subst h
  unfold expr
  split
  · next hFront => cases hFront
  · next hFront => cases hFront
  · split
    · next hRead => cases hRead
    · rfl
    · next hRead => cases hRead

/-- All the ways in which a sequence is read. -/
theorem all_eq_ok_cases {s : List Char} {vs : List Value} :
    all s = .ok vs ↔ (gap s = [] ∧ vs = []) ∨
      ∃ v us rest, Reads (gap s) v rest ∧ more rest = .ok us ∧ vs = v :: us := by
  constructor
  · intro h
    unfold all at h
    split at h
    · next r hExpr =>
        split at h
        · next values hMore =>
            cases h
            exact .inr ⟨r.result, values, r.rest, reads_of_expr hExpr, hMore, rfl⟩
        · cases h
    · split at h
      · next hEmpty =>
          cases h
          exact .inl ⟨List.isEmpty_iff.1 hEmpty, rfl⟩
      · cases h
    · cases h
  · rintro (⟨hNil, rfl⟩ | ⟨v, us, rest, ⟨hShorter, hExpr⟩, hMore, rfl⟩)
    · rw [all, expr_of_eq_nil hNil]
      simp [hNil]
    · rw [all, hExpr]
      simp [hMore]

/-- Behind a separator the expressions that follow one are read like a whole
sequence. -/
theorem more_eq (s : List Char) :
    more s =
      if startsGap s then all s else if s.isEmpty then .ok [] else .error (trailing s) := by
  rw [more, all]
  rfl

/-- What follows an expression is a separator and a sequence, or nothing. -/
theorem more_eq_ok_cases {s : List Char} {vs : List Value} :
    more s = .ok vs ↔ (s = [] ∧ vs = []) ∨ (startsGap s = true ∧ all s = .ok vs) := by
  rw [more_eq]
  split
  · next hSep =>
      have hSome : s ≠ [] := by
        rintro rfl
        cases hSep
      simp [hSep, hSome]
  · next hSep =>
      by_cases hNil : s = []
      · simp [hNil, startsGap, eq_comm]
      · simp [hNil, hSep]

/-! ## The reader and the grammar -/

/-- An expression goes in front of a sequence that begins with a separator,
or that is nothing at all. -/
theorem SequenceText.cons {g w rest : List Char} {v : Value} {vs : List Value} (hGap : IsGap g)
    (hExpr : ExprText w v) (hRest : SequenceText rest vs)
    (hSep : rest = [] ∨ startsGap rest = true) : SequenceText (g ++ w ++ rest) (v :: vs) := by
  cases hRest with
  | blank hEnd => exact .elements hGap (.one hExpr) hEnd
  | @elements g₁ w₁ g₁' _ hGap₁ hElements hEnd =>
      have hBegins : BeginsExpr (w₁ ++ g₁') := hElements.beginsExpr.append g₁'
      have hBetween : IsSeparator g₁ := by
        refine ⟨hGap₁, ?_⟩
        -- without a separator the rest would begin with an expression
        rintro rfl
        rw [List.nil_append] at hSep
        rcases hSep with hNil | hStarts
        · obtain ⟨c, t, hText, -⟩ := hBegins
          rw [hNil] at hText
          cases hText
        · rw [hBegins.startsGap] at hStarts
          cases hStarts
      have h := SequenceText.elements hGap (.more hExpr hBetween hElements) hEnd
      simpa using h

theorem sequenceText_of_all {s : List Char} {vs : List Value} (h : all s = .ok vs) :
    SequenceText s vs := by
  induction vs generalizing s with
  | nil =>
      rcases all_eq_ok_cases.1 h with ⟨hNil, -⟩ | ⟨_, _, _, -, -, hCons⟩
      · exact .blank (isTrailingGap_iff.2 hNil)
      · cases hCons
  | cons v vs ih =>
      rcases all_eq_ok_cases.1 h with ⟨-, hNil⟩ | ⟨v, us, rest, hReads, hMore, hCons⟩
      · cases hNil
      · cases hCons
        obtain ⟨g, w, hGap, hExpr, rfl⟩ := hReads.sound_behind_gap
        rcases more_eq_ok_cases.1 hMore with ⟨rfl, rfl⟩ | ⟨hSep, hAll⟩
        · exact .cons hGap hExpr (.blank (.closed .nil)) (.inl rfl)
        · exact .cons hGap hExpr (ih hAll) (.inr hSep)

theorem all_eq_ok_nil_iff {s : List Char} : all s = .ok [] ↔ gap s = [] := by
  simp [all_eq_ok_cases]

/-- No more expressions follow where nothing but a gap is left. -/
theorem more_eq_ok_nil_iff {s : List Char} : more s = .ok [] ↔ IsTrailingGap s := by
  rw [more_eq_ok_cases, all_eq_ok_nil_iff, isTrailingGap_iff]
  constructor
  · rintro (⟨rfl, -⟩ | ⟨-, hNil⟩)
    · rfl
    · exact hNil
  · intro hNil
    cases hSep : startsGap s with
    | true => exact .inr ⟨rfl, hNil⟩
    | false => exact .inl ⟨gap_eq_self hSep ▸ hNil, rfl⟩

/-- Elements are read one after the other up to the end of the text. -/
theorem ElementsText.reads_all {w g : List Char} {vs : List Value} (h : ElementsText w vs)
    (hEnd : IsTrailingGap g) :
    ∃ v us rest, Reads (w ++ g) v rest ∧ Reader.more rest = .ok us ∧ vs = v :: us := by
  match h with
  | .one (v := v) hExpr =>
      exact ⟨v, [], g, hExpr.reads hEnd.ends, more_eq_ok_nil_iff.2 hEnd, rfl⟩
  | .more (s := s) (t := t) (v := v) hExpr hSep hRest =>
      obtain ⟨u, us, rest, hReads, hMore, rfl⟩ := hRest.reads_all hEnd
      have hSkip : gap (s ++ (t ++ g)) = t ++ g :=
        gap_append_of_beginsExpr hSep.1 (hRest.beginsExpr.append g)
      have hFirst := hExpr.reads (hSep.ends (t ++ g))
      refine ⟨v, u :: us, s ++ (t ++ g), by simpa using hFirst, ?_, rfl⟩
      refine more_eq_ok_cases.2 (.inr ⟨hSep.startsGap _, all_eq_ok_cases.2 (.inr ?_)⟩)
      rw [hSkip]
      exact ⟨u, us, rest, hReads, hMore, rfl⟩

/-- **Any number of expressions is read exactly as the grammar has it.** -/
theorem all_eq_ok_iff {s : List Char} {vs : List Value} :
    all s = .ok vs ↔ SequenceText s vs := by
  constructor
  · exact sequenceText_of_all
  · intro h
    rw [all_eq_ok_cases]
    cases h with
    | blank hEnd => exact .inl ⟨hEnd.gap_eq_nil, rfl⟩
    | @elements g w g' _ hGap hElements hEnd =>
        have hSkip : gap (g ++ (w ++ g')) = w ++ g' :=
          gap_append_of_beginsExpr hGap (hElements.beginsExpr.append g')
        rw [List.append_assoc, hSkip]
        exact .inr (hElements.reads_all hEnd)

/-! ## The entry points -/

theorem one_eq_ok_iff_all {s : List Char} {v : Value} : one s = .ok v ↔ all s = .ok [v] := by
  rw [one_eq_ok_iff_reads, all_eq_ok_cases]
  constructor
  · rintro ⟨rest, hReads, hEnd⟩
    exact .inr ⟨v, [], rest, hReads, more_eq_ok_nil_iff.2 hEnd, rfl⟩
  · rintro (⟨-, hNil⟩ | ⟨v, us, rest, hReads, hMore, hCons⟩)
    · cases hNil
    · cases hCons
      exact ⟨rest, hReads, more_eq_ok_nil_iff.1 hMore⟩

/-- At most one expression is read where a sequence of at most one is. -/
theorem optional_eq_ok_iff_all {s : List Char} {v? : Option Value} :
    optional s = .ok v? ↔ all s = .ok v?.toList := by
  cases v? with
  | some v =>
      rw [Option.toList_some, ← one_eq_ok_iff_all, optional, one]
      -- the two differ only in what they say about a mismatch
      cases expr (gap s) with
      | ok r => dsimp only; split <;> simp
      | error stop =>
          cases stop with
          | mismatch place reason => dsimp only; split <;> simp
          | fatal | tooManyDigits => simp
  | none =>
      rw [Option.toList_none, all_eq_ok_nil_iff]
      constructor
      · intro h
        unfold optional at h
        split at h
        · split at h <;> cases h
        · split at h
          · next hEmpty => exact List.isEmpty_iff.1 hEmpty
          · cases h
        · cases h
      · intro hNil
        rw [optional, expr_of_eq_nil hNil]
        simp [hNil]

theorem readOne_eq_ok_iff_readAll {text : String} {v : Value} :
    readOne text = .ok v ↔ readAll text = .ok [v] := by
  rw [readOne, readAll, run_eq_ok_iff, run_eq_ok_iff, one_eq_ok_iff_all]

theorem readOptional_eq_ok_iff_readAll {text : String} {v? : Option Value} :
    readOptional text = .ok v? ↔ readAll text = .ok v?.toList := by
  rw [readOptional, readAll, run_eq_ok_iff, run_eq_ok_iff, optional_eq_ok_iff_all]

/-! ## Texts joined by newlines -/

/-- **Reading takes joining to appending.** -/
theorem readAll_join {a b : String} {xs ys : List Value} (ha : readAll a = .ok xs)
    (hb : readAll b = .ok ys) : readAll (a ++ "\n" ++ b) = .ok (xs ++ ys) := by
  have hTexts := (all_eq_ok_iff.1 (run_eq_ok_iff.1 ha)).join (all_eq_ok_iff.1 (run_eq_ok_iff.1 hb))
  rw [readAll, run_eq_ok_iff, all_eq_ok_iff]
  simpa using hTexts

/-- Of several texts with newlines between them the expressions are read one
text after the other. -/
theorem readAll_intercalate {texts : List String} {vss : List (List Value)}
    (h : List.Forall₂ (fun text vs => readAll text = .ok vs) texts vss) :
    readAll ("\n".intercalate texts) = .ok vss.flatten := by
  induction h with
  | nil =>
      rw [String.intercalate_nil, readAll, run_eq_ok_iff]
      exact all_eq_ok_nil_iff.2 rfl
  | @cons text vs texts vss hFirst hRest ih =>
      cases hRest with
      | nil => simpa using hFirst
      | cons hNext hOthers =>
          rw [String.intercalate_cons_cons, List.flatten_cons]
          exact readAll_join hFirst ih

/-- Whether a text can be read, and how many expressions it holds, can be
computed. -/
theorem exists_readAll (text : String) {n : Nat}
    (h : (readAll text).toOption.map List.length = some n) :
    ∃ vs, readAll text = .ok vs ∧ vs.length = n := by
  cases hRead : readAll text with
  | ok vs =>
      rw [hRead] at h
      exact ⟨vs, rfl, Option.some.inj h⟩
  | error failure =>
      rw [hRead] at h
      cases h

theorem readAll_of_readable {v : Value} (h : v.Readable) :
    readAll (String.ofList v.text) = .ok [v] := by
  rw [← readOne_eq_ok_iff_readAll, readOne, run_eq_ok_iff, one_eq_ok_iff, String.toList_ofList]
  exact ⟨[], v.text, [], by simp, .nil, h.exprText, .closed .nil⟩

theorem mapM_written_of_readable {vs : List Value} (h : ∀ v ∈ vs, v.Readable) :
    vs.mapM Value.written = .ok (vs.map fun v => String.ofList v.text) := by
  induction vs with
  | nil => rfl
  | cons v vs ih =>
      obtain ⟨hFirst, hRest⟩ := List.forall_mem_cons.1 h
      have hWritten : v.written = .ok (String.ofList v.text) := by
        rw [Value.written, Value.render, if_pos hFirst.hasText]
      rw [List.mapM_cons, hWritten, ih hRest]
      rfl

/--
**The entry points agree, and reading takes joining to appending.**

* A text holds one expression, at most one or none exactly when the sequence
  of its expressions has that length, and the value is the same.
* Two texts that can be read can be read with a newline between them, and
  the values are those of both.
* So several readable values, written one below the other, are read back.
-/
theorem entry_points_agree (a b : String) :
    (∀ v, readOne a = .ok v ↔ readAll a = .ok [v]) ∧
    (∀ v, readOptional a = .ok (some v) ↔ readOne a = .ok v) ∧
    (readOptional a = .ok none ↔ readAll a = .ok []) ∧
    (∀ xs ys, readAll a = .ok xs → readAll b = .ok ys →
      readAll (a ++ "\n" ++ b) = .ok (xs ++ ys)) ∧
    (∀ vs : List Value, (∀ v ∈ vs, v.Readable) → ∃ texts, vs.mapM Value.written = .ok texts ∧
      readAll ("\n".intercalate texts) = .ok vs) := by
  refine ⟨fun v => readOne_eq_ok_iff_readAll, fun v => ?_, readOptional_eq_ok_iff_readAll,
    fun xs ys ha hb => readAll_join ha hb, fun vs hReadable => ?_⟩
  · rw [readOptional_eq_ok_iff_readAll, readOne_eq_ok_iff_readAll, Option.toList_some]
  · refine ⟨_, mapM_written_of_readable hReadable, ?_⟩
    have hTexts : List.Forall₂ (fun text vs => readAll text = .ok vs)
        (vs.map fun v => String.ofList v.text) (vs.map fun v => [v]) := by
      rw [List.forall₂_map_left_iff, List.forall₂_map_right_iff, List.forall₂_same]
      exact fun v hv => readAll_of_readable (hReadable v hv)
    rw [readAll_intercalate hTexts, ← List.flatMap_def, List.flatMap_singleton']

/-- A text that breaks off in a comment, one that begins with a quote mark,
and values with blanks in their texts. -/
theorem entry_points_agree_comment :
    ∃ xs ys, readAll "(f 1) ; one" = .ok xs ∧ xs.length = 1 ∧
      readAll "'x y" = .ok ys ∧ ys.length = 2 ∧
      readAll "(f 1) ; one\n'x y" = .ok (xs ++ ys) ∧
      ∃ texts, [Value.string "a\n;", .char ' '].mapM Value.written = .ok texts ∧
        readAll ("\n".intercalate texts) = .ok [.string "a\n;", .char ' '] := by
  obtain ⟨xs, hCall, hOne⟩ := exists_readAll "(f 1) ; one" (n := 1) (by decide +kernel)
  obtain ⟨ys, hQuote, hTwo⟩ := exists_readAll "'x y" (n := 2) (by decide +kernel)
  have hReadable : ∀ v ∈ [Value.string "a\n;", .char ' '], v.Readable :=
    List.forall_mem_cons.2 ⟨.string _, List.forall_mem_singleton.2 (.char _)⟩
  obtain ⟨-, -, -, hJoin, hWritten⟩ := entry_points_agree "(f 1) ; one" "'x y"
  exact ⟨xs, ys, hCall, hOne, hQuote, hTwo, hJoin _ _ hCall hQuote, hWritten _ hReadable⟩

end MiniScheme.Reader
