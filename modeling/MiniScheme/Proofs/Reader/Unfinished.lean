import MiniScheme.Proofs.Reader.Sequence

/-!
# Unfinished texts

A text that is rejected was in order up to some place.  What stands before
that place is not wrong, it is unfinished: a comment, a string, or some lists
inside of one another are still open, and writing more can close them.

The module gives this a form.  `Entry` gathers the ways of reading a whole
text.  `Entry.Opens h` says that the text `h` breaks off where an expression
is to begin, with any number of quote marks and parentheses around that
place; it is built from the outside to the inside, as the text is read.
`Entry.Viable s` says that something can be written behind `s` that makes it
acceptable.

**Wherever an expression is to begin, every expression can be written and the
text be brought to its end** (`Entry.Opens.viable`).

## Main results

* `Entry.scan_eq_ok_iff` — what an entry point accepts, by the grammar.
* `Entry.Opens.viable`, `Entry.Opens.viable_of_part` — open texts can be
  finished, whether an expression stands at their end or only its
  beginning.
-/

namespace MiniScheme.Reader

/-- The ways of reading a whole text. -/
inductive Entry where
  /-- Exactly one expression. -/
  | one
  /-- At most one expression. -/
  | optional
  /-- Any number of expressions. -/
  | all
  deriving DecidableEq, Repr

namespace Entry

/-! ## What an entry point accepts -/

/-- May a text hold this number of expressions? -/
def allows : Entry → Nat → Bool
  | .one, count => count == 1
  | .optional, count => decide (count ≤ 1)
  | .all, _ => true

/-- The expressions of a whole text, given by its characters. -/
def scan : Entry → List Char → Except Stop (List Value)
  | .one, s => (Reader.one s).map fun v => [v]
  | .optional, s => (Reader.optional s).map Option.toList
  | .all, s => Reader.all s

/-- The expressions of a whole text. -/
def read : Entry → String → Except Failure (List Value)
  | .one, text => (readOne text).map fun v => [v]
  | .optional, text => (readOptional text).map Option.toList
  | .all, text => readAll text

theorem map_run {α β : Type} (read : List Char → Except Stop α) (f : α → β) (text : String) :
    (run read text).map f = run (fun s => (read s).map f) text := by
  rw [run, run]
  cases read text.toList <;> rfl

theorem read_eq_run (entry : Entry) (text : String) : entry.read text = run entry.scan text := by
  cases entry with
  | one => exact map_run _ _ _
  | optional => exact map_run _ _ _
  | all => rfl

/-- **What an entry point accepts**: the whole texts with a number of
expressions that it allows. -/
theorem scan_eq_ok_iff {entry : Entry} {s : List Char} {vs : List Value} :
    entry.scan s = .ok vs ↔ SequenceText s vs ∧ entry.allows vs.length = true := by
  rw [← all_eq_ok_iff]
  cases entry with
  | one =>
      constructor
      · intro h
        obtain ⟨v, hOne, rfl⟩ := exists_ok_of_map_eq_ok h
        exact ⟨one_eq_ok_iff_all.1 hOne, rfl⟩
      · rintro ⟨hAll, hCount⟩
        obtain ⟨v, rfl⟩ := List.length_eq_one_iff.1 (eq_of_beq hCount)
        rw [scan, one_eq_ok_iff_all.2 hAll]
        rfl
  | optional =>
      constructor
      · intro h
        obtain ⟨v?, hOptional, rfl⟩ := exists_ok_of_map_eq_ok h
        exact ⟨optional_eq_ok_iff_all.1 hOptional, decide_eq_true (Option.length_toList_le)⟩
      · rintro ⟨hAll, hCount⟩
        match vs, of_decide_eq_true hCount with
        | [], _ =>
            have hNone : Reader.optional s = .ok none := optional_eq_ok_iff_all.2 hAll
            rw [scan, hNone]
            rfl
        | [v], _ =>
            have hSome : Reader.optional s = .ok (some v) := optional_eq_ok_iff_all.2 hAll
            rw [scan, hSome]
            rfl
        | _ :: _ :: _, hTwo => simp at hTwo
  | all => exact ⟨fun h => ⟨h, rfl⟩, fun h => h.1⟩

/-! ## Open texts -/

/-- What may stand before an expression that nothing encloses. -/
inductive Precedes : Entry → List Char → Prop
  | gap {entry : Entry} {g : List Char} (hGap : IsGap g) : Precedes entry g
  | elements {g w s : List Char} {vs : List Value} (hGap : IsGap g)
      (hElements : ElementsText w vs) (hSep : IsSeparator s) : Precedes .all (g ++ w ++ s)

/-- The text breaks off where an expression is to begin. -/
inductive Opens (entry : Entry) : List Char → Prop
  | start {c : List Char} (hPrecedes : entry.Precedes c) : Opens entry c
  | quote {h : List Char} (hOpens : Opens entry h) : Opens entry (h ++ ['\''])
  | first {h g : List Char} (hOpens : Opens entry h) (hGap : IsGap g) :
      Opens entry (h ++ '(' :: g)
  | later {h g w s : List Char} {vs : List Value} (hOpens : Opens entry h) (hGap : IsGap g)
      (hElements : ElementsText w vs) (hSep : IsSeparator s) :
      Opens entry (h ++ '(' :: (g ++ w ++ s))
  | behindDot {h g w s s' : List Char} {vs : List Value} (hOpens : Opens entry h)
      (hGap : IsGap g) (hElements : ElementsText w vs) (hSep : IsSeparator s)
      (hSep' : IsSeparator s') : Opens entry (h ++ '(' :: (g ++ w ++ s ++ '.' :: s'))

/-- Something can be written behind the text so that it is accepted. -/
def Viable (entry : Entry) (s : List Char) : Prop := ∃ more vs, entry.scan (s ++ more) = .ok vs

variable {entry : Entry} {before s w p : List Char} {v : Value}

theorem Viable.of_append {more : List Char} (h : entry.Viable (s ++ more)) : entry.Viable s := by
  obtain ⟨more', vs, hScan⟩ := h
  exact ⟨more ++ more', vs, by rwa [← List.append_assoc]⟩

theorem viable_of_sequenceText {vs : List Value} (h : SequenceText s vs)
    (hCount : entry.allows vs.length = true) : entry.Viable s :=
  ⟨[], vs, by rw [List.append_nil]; exact scan_eq_ok_iff.2 ⟨h, hCount⟩⟩

theorem Precedes.viable (h : entry.Precedes before) (hExpr : ExprText w v) :
    entry.Viable (before ++ w) := by
  have hNone : IsTrailingGap [] := .closed .nil
  cases h with
  | gap hGap =>
      have hText := SequenceText.elements hGap (.one hExpr) hNone
      rw [List.append_nil] at hText
      refine viable_of_sequenceText hText ?_
      cases entry <;> rfl
  | elements hGap hElements hSep =>
      have hText := SequenceText.elements hGap (hElements.snoc hSep hExpr) hNone
      rw [List.append_nil, ← List.append_assoc, ← List.append_assoc] at hText
      exact viable_of_sequenceText hText rfl

/-- **Where an expression is to begin, every expression can be written and the
text be brought to its end.** -/
theorem Opens.viable (h : entry.Opens before) (hExpr : ExprText w v) :
    entry.Viable (before ++ w) := by
  -- the parentheses are closed from the inside to the outside
  induction h generalizing w v with
  | start hPrecedes => exact hPrecedes.viable hExpr
  | quote _ ih =>
      have hText := ih (.quote hExpr)
      simpa using hText
  | @first h g _ hGap ih =>
      have hText : entry.Viable (h ++ '(' :: g ++ w ++ [')']) := by
        simpa using ih (.list hGap (.one hExpr) .nil)
      exact hText.of_append
  | @later h g w₁ s _ _ hGap hElements hSep ih =>
      have hText : entry.Viable (h ++ '(' :: (g ++ w₁ ++ s) ++ w ++ [')']) := by
        simpa using ih (.list hGap (hElements.snoc hSep hExpr) .nil)
      exact hText.of_append
  | @behindDot h g w₁ s s' _ _ hGap hElements hSep hSep' ih =>
      have hText : entry.Viable (h ++ '(' :: (g ++ w₁ ++ s ++ '.' :: s') ++ w ++ [')']) := by
        simpa using ih (.dotted hGap hElements hSep hSep' hExpr .nil)
      exact hText.of_append

/-- The beginning of an expression can be finished there. -/
theorem Opens.viable_of_part (h : entry.Opens before) {more : List Char}
    (hExpr : ExprText (p ++ more) v) : entry.Viable (before ++ p) := by
  have hText := h.viable hExpr
  rw [← List.append_assoc] at hText
  exact hText.of_append

/-- So can the text itself. -/
theorem Opens.viable_self (h : entry.Opens before) : entry.Viable before :=
  (h.viable (ExprText.nil .nil)).of_append

end Entry

end MiniScheme.Reader
