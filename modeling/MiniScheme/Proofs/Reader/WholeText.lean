import MiniScheme.Proofs.Reader.Expr

/-!
# Whole texts

A text that holds one expression is a gap, the expression and the gap at the
end.  `readOne` accepts exactly these texts and returns the value of the
expression, so the reader and the grammar define the same language and the
same meaning.

The two gaps are not of the same kind.  A comment before the expression must
be ended by a newline, or it would have swallowed the expression; a comment
behind it may run to the end of the text.

## Main results

* `one_eq_ok_iff` — the same for the text as a list of characters.
* `readOne_eq_ok_iff` — one expression is read exactly as the grammar has
  it.
-/

namespace MiniScheme.Reader

/-- Running a reading function changes what is said about a failure and
nothing else. -/
theorem run_eq_ok_iff {α : Type} {read : List Char → Except Stop α} {text : String} {a : α} :
    run read text = .ok a ↔ read text.toList = .ok a := by
  unfold run
  cases read text.toList with
  | error stop => simp [Except.mapError]
  | ok b => simp [Except.mapError]

/-- A text with one expression is read as far as the expression goes, and
the gap at the end is left. -/
theorem one_eq_ok_iff_reads {s : List Char} {v : Value} :
    one s = .ok v ↔ ∃ rest, Reads (gap s) v rest ∧ IsTrailingGap rest := by
  constructor
  · intro h
    unfold one at h
    split at h
    · next r hExpr =>
        split at h
        · next hEmpty =>
            obtain rfl : r.result = v := Except.ok.inj h
            exact ⟨r.rest, reads_of_expr hExpr, isTrailingGap_iff.2 (List.isEmpty_iff.1 hEmpty)⟩
        · cases h
    · cases h
  · rintro ⟨rest, ⟨hShorter, hExpr⟩, hTrailing⟩
    rw [one, hExpr]
    simp [hTrailing.gap_eq_nil]

/-- One expression is read from a list of characters exactly as the grammar
has it. -/
theorem one_eq_ok_iff {s : List Char} {v : Value} :
    one s = .ok v ↔
      ∃ g w g', s = g ++ w ++ g' ∧ IsGap g ∧ ExprText w v ∧ IsTrailingGap g' := by
  rw [one_eq_ok_iff_reads]
  constructor
  · rintro ⟨rest, hReads, hTrailing⟩
    obtain ⟨g, w, hGap, hExpr, hText⟩ := hReads.sound_behind_gap
    exact ⟨g, w, rest, hText, hGap, hExpr, hTrailing⟩
  · rintro ⟨g, w, g', rfl, hGap, hExpr, hTrailing⟩
    have hSkip : gap (g ++ (w ++ g')) = w ++ g' :=
      gap_append_of_beginsExpr hGap (hExpr.beginsExpr.append g')
    rw [List.append_assoc, hSkip]
    exact ⟨g', hExpr.reads hTrailing.ends, hTrailing⟩

/--
**The reader accepts exactly its grammar, with the right value**: a text is
read as `v` if and only if it is a gap, an expression for `v` and a gap that
may break off inside a comment.
-/
theorem readOne_eq_ok_iff (text : String) (v : Value) :
    readOne text = .ok v ↔
      ∃ g w g', text.toList = g ++ w ++ g' ∧ IsGap g ∧ ExprText w v ∧ IsTrailingGap g' := by
  rw [readOne, run_eq_ok_iff, one_eq_ok_iff]

end MiniScheme.Reader
