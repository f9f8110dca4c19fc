import MiniScheme.Proofs.Reader.WholeText
import MiniScheme.Proofs.Value.Occurs

/-!
# What can be read

Reading makes atoms, proper lists and dotted lists with something before
the dot, and nothing else at any depth: no text stands for a procedure or
for a foreign value.  This is seen from the grammar, and holds of all three
ways of reading a whole text.

A text that cannot be read is refused with a parse error, or because a
number in it has too many digits (`run_eq_error`).

## Main results

* `all_isSyntax_of_readOne`, `all_isSyntax_of_readOptional`,
  `all_isSyntax_of_readAll` — what is read is made of things that can be
  written.
-/

namespace MiniScheme.Reader

open Value (All IsSyntax)

theorem TokenText.all_isSyntax {w : List Char} {v : Value} (h : TokenText w v) :
    v.All IsSyntax := by
  cases h with
  | string | named | single | number | boolTrue | boolFalse | symbol =>
      exact (Value.all_iff_of_isLeaf rfl).2 trivial

mutual

/-- An expression of the grammar is made of things that can be written. -/
theorem ExprText.all_isSyntax {w : List Char} {v : Value} (h : ExprText w v) :
    v.All IsSyntax := by
  cases h with
  | token hToken => exact hToken.all_isSyntax
  | quote hExpr =>
      refine Value.all_list_iff.2 ⟨trivial, List.forall_mem_cons.2 ⟨?_, ?_⟩⟩
      · exact (Value.all_iff_of_isLeaf rfl).2 trivial
      · exact List.forall_mem_singleton.2 hExpr.all_isSyntax
  | nil => exact Value.all_list_iff.2 ⟨trivial, List.forall_mem_nil _⟩
  | list _ hElements => exact Value.all_list_iff.2 ⟨trivial, hElements.all_isSyntax.2⟩
  | dotted _ hElements _ _ hTail =>
      obtain ⟨hNonempty, hHead⟩ := hElements.all_isSyntax
      exact Value.all_dotted_iff.2 ⟨hNonempty, hHead, hTail.all_isSyntax⟩

theorem ElementsText.all_isSyntax {w : List Char} {vs : List Value} (h : ElementsText w vs) :
    vs ≠ [] ∧ ∀ v ∈ vs, v.All IsSyntax := by
  cases h with
  | one hExpr => exact ⟨List.cons_ne_nil _ _, List.forall_mem_singleton.2 hExpr.all_isSyntax⟩
  | more hExpr _ hRest =>
      refine ⟨List.cons_ne_nil _ _, List.forall_mem_cons.2 ⟨hExpr.all_isSyntax, ?_⟩⟩
      exact hRest.all_isSyntax.2

end

/-- What the reader takes off the front of a text is made of things that can
be written. -/
theorem all_isSyntax_of_expr {s : List Char} {r : Reading Value s} (h : expr s = .ok r) :
    r.result.All IsSyntax := by
  obtain ⟨w, -, hText⟩ := (reads_of_expr h).sound
  exact hText.all_isSyntax

/-! ## Whole texts -/

theorem all_isSyntax_of_readOne {text : String} {v : Value} (h : readOne text = .ok v) :
    v.All IsSyntax := by
  obtain ⟨_, _, _, -, -, hText, -⟩ := one_eq_ok_iff.1 (run_eq_ok_iff.1 h)
  exact hText.all_isSyntax

theorem all_isSyntax_of_readOptional {text : String} {v : Value}
    (h : readOptional text = .ok (some v)) : v.All IsSyntax := by
  have hRead : optional text.toList = .ok (some v) := run_eq_ok_iff.1 h
  unfold optional at hRead
  split at hRead
  · next hExpr =>
      split at hRead
      · cases hRead
        exact all_isSyntax_of_expr hExpr
      · cases hRead
  · split at hRead <;> cases hRead
  · cases hRead

theorem all_isSyntax_of_more {s : List Char} {vs : List Value} (h : more s = .ok vs) :
    ∀ v ∈ vs, v.All IsSyntax := by
  fun_induction more s generalizing vs with
  | case1 s _ _ r hExpr _ values hMore ih =>
      cases h
      exact List.forall_mem_cons.2 ⟨all_isSyntax_of_expr hExpr, ih hMore⟩
  | case3 | case6 =>
      cases h
      exact List.forall_mem_nil _
  | case2 | case4 | case5 | case7 => cases h

theorem all_isSyntax_of_readAll {text : String} {vs : List Value} (h : readAll text = .ok vs) :
    ∀ v ∈ vs, v.All IsSyntax := by
  have hRead : all text.toList = .ok vs := run_eq_ok_iff.1 h
  unfold all at hRead
  split at hRead
  · next hExpr =>
      split at hRead
      · next hMore =>
          cases hRead
          exact List.forall_mem_cons.2 ⟨all_isSyntax_of_expr hExpr, all_isSyntax_of_more hMore⟩
      · cases hRead
  · split at hRead
    · cases hRead
      exact List.forall_mem_nil _
    · cases hRead
  · cases hRead

/-- A text is refused with a parse error, or for a number that is too
long. -/
theorem run_eq_error {α : Type} {read : List Char → Except Stop α} {text : String}
    {failure : Failure} (h : run read text = .error failure) :
    (∃ e, failure = .error (.parse e)) ∨ failure = .fault .tooManyDigits := by
  unfold run at h
  cases hRead : read text.toList with
  | ok a => rw [hRead] at h; cases h
  | error stop =>
      rw [hRead] at h
      cases h
      cases stop with
      | mismatch place reason | fatal place reason => exact .inl ⟨_, rfl⟩
      | tooManyDigits => exact .inr rfl

end MiniScheme.Reader
