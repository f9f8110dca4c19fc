import MiniScheme.Proofs.Store.Change

/-!
# No two names share a cell

Frames share cells on purpose: a derived frame has the cells of the frame
it was derived from, and an assignment through one is seen through the
other.  What never happens is that two different names share one.  This is
what makes a variable a variable: writing to one name, through whatever
frame, is not seen under any other.

Two things keep it so.  A change hands out cells that did not exist, one
for each name (`madeBy_sublist`), and what it copies it copies under the same
name (`cell?_after`).

## Main results

* `Unaliased.after`, `Unaliased.replay` — kept by each change, and by every
  history.
* `nodup_made` — no cell is made twice in a history.
* `cell?_replay` — a cell that exists gets no other names later.
* `Unaliased.get?_write` — what is seen of a write, in every frame and under
  every name.
-/

namespace MiniScheme.Store

/-- All bindings of a cell are bindings of one name, and the cells that are
bound exist. -/
structure Unaliased (s : Store) : Prop where
  name_eq : ∀ {f g n m cell}, s.cell? f n = some cell → s.cell? g m = some cell → n = m
  lt_size : ∀ {f n cell}, s.cell? f n = some cell → cell < s.cells.size

theorem unaliased_empty : Unaliased empty where
  name_eq h := nomatch h
  lt_size h := nomatch h

/-- A binding found after a change is an old one, of a cell that existed, or
one of those that the change made. -/
theorem Unaliased.cell?_after {s : Store} (h : Unaliased s) {change : Change} {g : FrameId}
    {name : String} {cell : CellId} (hCell : (s.after change).cell? g name = some cell) :
    (cell < s.cells.size ∧ ∃ g₀, s.cell? g₀ name = some cell) ∨
      ∃ i, (change.fresh s)[i]? = some name ∧ cell = s.cells.size + i := by
  rcases Store.cell?_after hCell with ⟨g₀, hOld⟩ | hNew
  · exact .inl ⟨h.lt_size hOld, g₀, hOld⟩
  · exact .inr hNew

/-- **Each change keeps names apart.** -/
theorem Unaliased.after {s : Store} (h : Unaliased s) (change : Change) :
    Unaliased (s.after change) where
  name_eq := by
    intro f g n m cell hf hg
    rcases h.cell?_after hf with ⟨hOld, f₀, hf₀⟩ | ⟨i, hi, hNew⟩
    · rcases h.cell?_after hg with ⟨-, g₀, hg₀⟩ | ⟨j, -, hNew⟩
      · exact h.name_eq hf₀ hg₀
      · exact absurd hOld (hNew ▸ Nat.not_lt.2 (Nat.le_add_right _ j))
    · rcases h.cell?_after hg with ⟨hOld, -⟩ | ⟨j, hj, hNew'⟩
      · exact absurd hOld (hNew ▸ Nat.not_lt.2 (Nat.le_add_right _ i))
      · have hSame : i = j := Nat.add_left_cancel (hNew.symm.trans hNew')
        rw [hSame, hj, Option.some_inj] at hi
        exact hi.symm
  lt_size := by
    intro f n cell hf
    rw [size_cells_after]
    rcases h.cell?_after hf with ⟨hOld, -⟩ | ⟨i, hi, rfl⟩
    · exact Nat.lt_add_right _ hOld
    · exact Nat.add_lt_add_left (List.getElem?_eq_some_iff.1 hi).1 _

/-- **Every history keeps names apart.** -/
theorem Unaliased.replay {s : Store} (h : Unaliased s) (history : List Change) :
    Unaliased (s.replay history) := by
  induction history generalizing s with
  | nil => exact h
  | cons change history ih => exact ih (h.after change)

/-- A cell that exists has, after any history, only names that it has now. -/
theorem cell?_replay {s : Store} {history : List Change} {g : FrameId} {name : String}
    {cell : CellId} (hOld : cell < s.cells.size)
    (h : (s.replay history).cell? g name = some cell) : ∃ g₀, s.cell? g₀ name = some cell := by
  induction history generalizing s with
  | nil => exact ⟨g, h⟩
  | cons change history ih =>
      have hStill : cell < (s.after change).cells.size :=
        Nat.lt_of_lt_of_le hOld (s.grows_after change).cells_le
      obtain ⟨g₁, hMiddle⟩ := ih hStill h
      rcases cell?_after hMiddle with hBefore | ⟨i, -, hNew⟩
      · exact hBefore
      · exact absurd hOld (hNew ▸ Nat.not_lt.2 (Nat.le_add_right _ i))

/-! ## The cells that a history makes -/

/-- The frame whose names a change binds to cells of their own. -/
def Change.site (s : Store) : Change → FrameId
  | .define f _ _ => f
  | _ => s.frames.size

/-- The cells that a change makes: those of the names that it binds to cells
of their own. -/
def madeBy (s : Store) (change : Change) : List CellId :=
  (change.fresh s).filterMap ((s.after change).cell? (change.site s))

/-- The cells that the changes of a history make, one change after the
other. -/
def made (s : Store) : List Change → List CellId
  | [] => []
  | change :: history => s.madeBy change ++ (s.after change).made history

/-- The name in place `i` of a batch has the cell `i` places after the last
one that existed. -/
theorem cell?_derive_getElem (s : Store) (base : FrameId) (batch : List (String × Value))
    {i : Nat} (hi : i < (firstOccurrences batch).length) :
    (s.derive base batch).1.cell? s.frames.size (firstOccurrences batch)[i].1 =
      some (s.cells.size + i) := by
  have hFirst : (firstOccurrences batch).findIdx?
      (·.1 == (firstOccurrences batch)[i].1) = some i := by
    rw [List.findIdx?_eq_some_iff_getElem]
    refine ⟨hi, beq_self_eq_true _, fun j hj hSame => ?_⟩
    have hApart := List.pairwise_iff_getElem.1 (nodup_map_fst_firstOccurrences batch) j i
      (by rw [List.length_map]; omega) (by rw [List.length_map]; exact hi) hj
    rw [List.getElem_map, List.getElem_map] at hApart
    exact hApart (beq_iff_eq.1 hSame)
  rw [cell?_derive, hFirst, Option.map_some, Option.some_or]

/-- Names with consecutive cells. -/
theorem filterMap_eq_range' {find : String → Option CellId} {names : List String} {start : Nat}
    (h : ∀ i (hi : i < names.length), find names[i] = some (start + i)) :
    names.filterMap find = List.range' start names.length := by
  induction names generalizing start with
  | nil => rfl
  | cons name names ih =>
      have hRest : names.filterMap find = List.range' (start + 1) names.length := by
        refine ih fun i hi => ?_
        have hNext := h (i + 1) (Nat.succ_lt_succ hi)
        rw [List.getElem_cons_succ] at hNext
        rw [hNext, Nat.add_assoc, Nat.add_comm 1 i]
      have hHere : find name = some start := h 0 (Nat.succ_pos _)
      rw [List.filterMap_cons_some hHere, hRest]
      rfl

/-- A change makes the cells next in number, or some of them. -/
theorem madeBy_sublist (s : Store) (change : Change) :
    (s.madeBy change).Sublist (List.range' s.cells.size (change.fresh s).length) := by
  cases change with
  | bind base batch =>
      have hMade : s.madeBy (.bind base batch) =
          List.range' s.cells.size ((firstOccurrences batch).map (·.1)).length := by
        refine filterMap_eq_range' fun i hi => ?_
        rw [Change.fresh, List.length_map] at hi
        simp only [Change.fresh, List.getElem_map]
        exact s.cell?_derive_getElem base batch hi
      rw [hMade]
      exact List.Sublist.refl _
  | define f name v =>
      cases hBound : s.cell? f name with
      | some cell => simp [madeBy, Change.fresh, isBound, hBound]
      | none =>
          have hFresh : Change.fresh s (.define f name v) = [name] := by
            simp [Change.fresh, isBound, hBound]
          rw [madeBy, hFresh, Change.site, after, define_of_unbound hBound]
          cases hCell : (s.add f name v).cell? f name with
          | none =>
              rw [List.filterMap_cons_none hCell]
              exact List.nil_sublist _
          | some cell =>
              have hNext : cell = s.cells.size := by
                rw [cell?_add, hBound] at hCell
                split at hCell
                · exact (Option.some_inj.1 hCell).symm
                · cases hCell
              rw [List.filterMap_cons_some hCell, hNext]
              exact List.Sublist.refl _
  | new => exact List.Sublist.refl _
  | assign f name v => exact List.Sublist.refl _
  | number => exact List.Sublist.refl _

theorem size_le_of_mem_made {s : Store} {history : List Change} {cell : CellId}
    (h : cell ∈ s.made history) : s.cells.size ≤ cell := by
  induction history generalizing s with
  | nil => cases h
  | cons change history ih =>
      rw [made, List.mem_append] at h
      rcases h with hHere | hLater
      · exact (List.mem_range'_1.1 ((s.madeBy_sublist change).mem hHere)).1
      · exact Nat.le_trans (s.grows_after change).cells_le (ih hLater)

/-- **No cell is made twice**: the cells of one change are different, and
all cells made later come after them. -/
theorem nodup_made (s : Store) (history : List Change) : (s.made history).Nodup := by
  induction history generalizing s with
  | nil => exact List.nodup_nil
  | cons change history ih =>
      have hRange := s.madeBy_sublist change
      rw [made, List.nodup_append]
      refine ⟨List.Nodup.sublist hRange List.nodup_range', ih (s.after change), ?_⟩
      intro cell hHere later hLater hSame
      have hLt := (List.mem_range'_1.1 (hRange.mem hHere)).2
      rw [← size_cells_after] at hLt
      exact absurd (size_le_of_mem_made hLater) (hSame ▸ Nat.not_le.2 hLt)

/-! ## What is seen of a write -/

/-- A write to the cell of a name is seen under that name, in the frames
that share the cell, and nowhere else. -/
theorem Unaliased.get?_write {s : Store} (h : Unaliased s) {f : FrameId} {n : String}
    {cell : CellId} (hCell : s.cell? f n = some cell) (v : Value) (g : FrameId) (m : String) :
    (s.write cell v).get? g m =
      if m = n ∧ s.cell? g n = some cell then some v else s.get? g m := by
  rw [get?, get?, cell?_write]
  cases hOther : s.cell? g m with
  | none =>
      rw [if_neg]
      · rfl
      · rintro ⟨rfl, hSome⟩
        rw [hOther] at hSome
        cases hSome
  | some other =>
      show (s.cells.setIfInBounds cell v)[other]? = _
      rw [Array.getElem?_setIfInBounds]
      by_cases hSame : cell = other
      · subst hSame
        have hName : m = n := h.name_eq hOther hCell
        subst hName
        rw [if_pos rfl, if_pos (h.lt_size hCell), if_pos ⟨rfl, hOther⟩]
      · rw [if_neg hSame, if_neg]
        · rfl
        · rintro ⟨rfl, hSome⟩
          rw [hOther, Option.some_inj] at hSome
          exact hSame hSome.symm

end MiniScheme.Store
