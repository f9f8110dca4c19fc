import MiniScheme.Proofs.Store.Change
import MiniScheme.Proofs.Value.Occurs

/-!
# Stores that differ where nobody looks

A `Scope` limits what a program can mention: its code uses certain names
only, and certain cells are hidden from it.  Two stores are twins for a
scope if they differ in hidden cells only, if no name that code may mention
leads to a hidden cell, and if all that the other cells hold is sound data.

**Data may spell any name**, since a symbol in a list is not looked up.  It
is sound if the bodies of the procedures in it are code of the scope and if
nothing in it is malformed: no foreign value, no dotted list without
elements, no procedure without a body.

What a program in the scope does to two twins leaves twins, and each hidden
cell keeps its value on either side.  With nothing hidden, a store is its
own twin exactly if all it holds is sound, so the same lemmas say that
stores stay sound.

## Main results

* `Twins.get?_eq`, `Twins.all_data_of_get?` — a name of the scope has the
  same value in twins, and the value is sound.
* `Twins.after`, `Twins.replay` — changes by a program in the scope keep
  twins.
-/

namespace MiniScheme

/-- What a program can mention. -/
structure Scope where
  /-- The names that code may use. -/
  names : String → Prop
  /-- The cells that are out of reach. -/
  hidden : Set CellId
  /-- What the hidden cells hold in the one store. -/
  left : CellId → Value
  /-- What the hidden cells hold in the other store. -/
  right : CellId → Value

namespace Scope

/-- The scope in which every name may be used and nothing is hidden. -/
def whole : Scope where
  names _ := True
  hidden := ∅
  left _ := .nil
  right _ := .nil

/-- May the value occur in code? -/
def code (σ : Scope) : Value → Prop
  | .symbol name => σ.names name
  | v => v.IsSyntax

/-- May the value occur in data? -/
def data (σ : Scope) : Value → Prop
  | .foreign => False
  | .dotted head _ => head ≠ []
  | .closure fn => fn.body ≠ [] ∧ ∀ expr ∈ fn.body, expr.All σ.code
  | _ => True

variable {σ : Scope} {v : Value}

theorem isSyntax_of_code (h : σ.code v) : v.IsSyntax := by
  cases v with
  | symbol => trivial
  | _ => exact h

theorem data_of_isSyntax (h : v.IsSyntax) : σ.data v := by
  cases v with
  | dotted => exact h
  | primitive | closure | foreign => cases h
  | symbol | int | string | bool | char | list => trivial

end Scope

/-- What is left of a batch was in it. -/
theorem firstOccurrences_subset {α : Type} (batch : List (String × α)) :
    firstOccurrences batch ⊆ batch := by
  induction batch with
  | nil => exact List.Subset.refl _
  | cons entry rest ih =>
      refine List.cons_subset_cons entry (List.Subset.trans ?_ ih)
      exact List.filter_sublist.subset

namespace Store

/-- A change that a program in the scope may make. -/
def Change.InScope (σ : Scope) : Change → Prop
  | .new | .number => True
  | .bind _ batch => ∀ entry ∈ batch, entry.2.All σ.data
  | .assign _ name v | .define _ name v => σ.names name ∧ v.All σ.data

/-- The stores differ in hidden cells only, and the scope protects these. -/
structure Twins (σ : Scope) (s s' : Store) : Prop where
  frames : s'.frames = s.frames
  closures : s'.closures = s.closures
  size : s'.cells.size = s.cells.size
  left : ∀ cell ∈ σ.hidden, s.cells[cell]? = some (σ.left cell)
  right : ∀ cell ∈ σ.hidden, s'.cells[cell]? = some (σ.right cell)
  shown : ∀ cell ∉ σ.hidden, s'.cells[cell]? = s.cells[cell]?
  data : ∀ cell ∉ σ.hidden, ∀ v, s.cells[cell]? = some v → v.All σ.data
  /-- Only names outside the scope lead to hidden cells. -/
  unnamed : ∀ f name cell, s.cell? f name = some cell → cell ∈ σ.hidden → ¬ σ.names name

namespace Twins

variable {σ : Scope} {s s' : Store}

theorem cell?_eq (h : Twins σ s s') (f : FrameId) (name : String) :
    s'.cell? f name = s.cell? f name := by
  rw [cell?, cell?, frame, frame, h.frames]

theorem lt_size (h : Twins σ s s') {cell : CellId} (hCell : cell ∈ σ.hidden) :
    cell < s.cells.size := by
  obtain ⟨hLt, -⟩ := Array.getElem?_eq_some_iff.1 (h.left cell hCell)
  exact hLt

theorem notMem_hidden (h : Twins σ s s') {f : FrameId} {name : String} {cell : CellId}
    (hName : σ.names name) (hCell : s.cell? f name = some cell) : cell ∉ σ.hidden :=
  fun hHidden => h.unnamed f name cell hCell hHidden hName

/-- A name of the scope has the same value in twins. -/
theorem get?_eq (h : Twins σ s s') {name : String} (hName : σ.names name) (f : FrameId) :
    s'.get? f name = s.get? f name := by
  rw [get?, get?, h.cell?_eq]
  cases hCell : s.cell? f name with
  | none => rfl
  | some cell => exact h.shown cell (h.notMem_hidden hName hCell)

/-- The value of a name of the scope is sound. -/
theorem all_data_of_get? (h : Twins σ s s') {f : FrameId} {name : String} {v : Value}
    (hName : σ.names name) (hValue : s.get? f name = some v) : v.All σ.data := by
  obtain ⟨cell, hCell, hHeld⟩ := Option.bind_eq_some_iff.1 hValue
  exact h.data cell (h.notMem_hidden hName hCell) v hHeld

/-! ## Changes keep twins -/

theorem write (h : Twins σ s s') {cell : CellId} (hCell : cell ∉ σ.hidden) {v : Value}
    (hv : v.All σ.data) : Twins σ (s.write cell v) (s'.write cell v) := by
  have hOther : ∀ other ∈ σ.hidden, cell ≠ other := fun other hOther hSame =>
    hCell (hSame ▸ hOther)
  have hHeld : ∀ (t : Store) (other : CellId), (t.write cell v).cells[other]? =
      if cell = other then if cell < t.cells.size then some v else none
      else t.cells[other]? := fun t other => Array.getElem?_setIfInBounds
  refine ⟨h.frames, h.closures, ?_, ?_, ?_, ?_, ?_, h.unnamed⟩
  · rw [size_cells_write, size_cells_write, h.size]
  · intro other hHidden
    rw [hHeld, if_neg (hOther other hHidden), h.left other hHidden]
  · intro other hHidden
    rw [hHeld, if_neg (hOther other hHidden), h.right other hHidden]
  · intro other hShown
    rw [hHeld, hHeld, h.size, h.shown other hShown]
  · intro other hShown u hu
    rw [hHeld] at hu
    split at hu
    · split at hu
      · cases hu
        exact hv
      · cases hu
    · exact h.data other hShown u hu

/-- New tables and further cells keep twins, if they bring no new way to a
cell there was. -/
theorem extend (h : Twins σ s s') {frames : Array Frame} {closures : Nat} (vs : List Value)
    (hvs : ∀ v ∈ vs, v.All σ.data)
    (hOld : ∀ f name cell,
      Store.cell? { frames, cells := s.cells ++ vs, closures } f name = some cell →
      (∃ g, s.cell? g name = some cell) ∨ s.cells.size ≤ cell) :
    Twins σ { frames, cells := s.cells ++ vs, closures }
      { frames, cells := s'.cells ++ vs, closures } := by
  have hHeld : ∀ (t : Store) (cell : CellId), (t.cells ++ vs)[cell]? =
      if cell < t.cells.size then t.cells[cell]? else vs[cell - t.cells.size]? := by
    intro t cell
    rw [← Array.getElem?_toList, Array.toList_appendList, List.getElem?_append,
      Array.length_toList, Array.getElem?_toList]
  have hSize : ∀ t : Store, (t.cells ++ vs).size = t.cells.size + vs.length := by
    intro t
    rw [← Array.length_toList, Array.toList_appendList, List.length_append, Array.length_toList]
  refine ⟨rfl, rfl, ?_, ?_, ?_, ?_, ?_, ?_⟩
  · exact (hSize s').trans (h.size ▸ (hSize s).symm)
  · intro cell hHidden
    rw [hHeld, if_pos (h.lt_size hHidden), h.left cell hHidden]
  · intro cell hHidden
    rw [hHeld, if_pos (h.size ▸ h.lt_size hHidden), h.right cell hHidden]
  · intro cell hShown
    show (s'.cells ++ vs)[cell]? = (s.cells ++ vs)[cell]?
    rw [hHeld, hHeld, h.size, h.shown cell hShown]
  · intro cell hShown v hv
    rw [hHeld] at hv
    split at hv
    · exact h.data cell hShown v hv
    · exact hvs v (List.mem_of_getElem? hv)
  · intro f name cell hCell hHidden
    rcases hOld f name cell hCell with ⟨g, hBefore⟩ | hNew
    · exact h.unnamed g name cell hBefore hHidden
    · exact absurd (h.lt_size hHidden) (Nat.not_lt.2 hNew)

/-- **A change by a program in the scope keeps twins.** -/
theorem after (h : Twins σ s s') {change : Change} (hChange : change.InScope σ) :
    Twins σ (s.after change) (s'.after change) := by
  have hOld : ∀ f name cell, (s.after change).cell? f name = some cell →
      (∃ g, s.cell? g name = some cell) ∨ s.cells.size ≤ cell := by
    intro f name cell hCell
    refine (cell?_after hCell).imp_right ?_
    rintro ⟨i, -, rfl⟩
    exact Nat.le_add_right _ _
  -- The twin has the same tables and as many cells, so the change adds the same to it.
  obtain ⟨frames', cells', closures'⟩ := s'
  obtain rfl : frames' = s.frames := h.frames
  obtain rfl : closures' = s.closures := h.closures
  have hSize : cells'.size = s.cells.size := h.size
  cases change with
  | new => exact h.extend [] (List.forall_mem_nil _) hOld
  | number => exact h.extend [] (List.forall_mem_nil _) hOld
  | bind base batch =>
      have hFresh : ∀ v ∈ (firstOccurrences batch).map (·.2), v.All σ.data := by
        intro v hv
        obtain ⟨entry, hEntry, rfl⟩ := List.mem_map.1 hv
        exact hChange entry (firstOccurrences_subset batch hEntry)
      rw [Store.after, Store.after, derive, derive, hSize]
      exact h.extend _ hFresh hOld
  | assign f name v =>
      rw [Store.after, Store.after, set?, set?, h.cell?_eq]
      cases hCell : s.cell? f name with
      | none => exact h
      | some cell => exact h.write (h.notMem_hidden hChange.1 hCell) hChange.2
  | define f name v =>
      cases hCell : s.cell? f name with
      | some cell =>
          rw [Store.after, Store.after, define_of_cell? hCell,
            define_of_cell? ((h.cell?_eq f name).trans hCell)]
          exact h.write (h.notMem_hidden hChange.1 hCell) hChange.2
      | none =>
          rw [Store.after, define_of_unbound hCell] at hOld
          rw [Store.after, Store.after, define_of_unbound hCell,
            define_of_unbound ((h.cell?_eq f name).trans hCell), add, add, hSize]
          exact h.extend [v] (List.forall_mem_singleton.2 hChange.2) hOld

/-- Frames derived in twins have the same number. -/
theorem derive (h : Twins σ s s') (base : FrameId) {batch : List (String × Value)}
    (hBatch : ∀ entry ∈ batch, entry.2.All σ.data) :
    Twins σ (s.derive base batch).1 (s'.derive base batch).1 ∧
      (s'.derive base batch).2 = (s.derive base batch).2 := by
  have hChange : Change.InScope σ (.bind base batch) := hBatch
  exact ⟨h.after hChange, congrArg Array.size h.frames⟩

theorem callFrame (h : Twins σ s s') (fn : Closure Value) {args : List Value}
    (hArgs : ∀ v ∈ args, v.All σ.data) :
    Twins σ (s.callFrame fn args).1 (s'.callFrame fn args).1 ∧
      (s'.callFrame fn args).2 = (s.callFrame fn args).2 := by
  have hParams : ∀ entry ∈ fn.params.zip args, entry.2.All σ.data := fun entry hEntry =>
    hArgs _ (List.of_mem_zip hEntry).2
  have hRest : (Value.list (args.drop fn.arity)).All σ.data :=
    Value.all_list_iff.2 ⟨trivial, fun v hv => hArgs v (List.mem_of_mem_drop hv)⟩
  obtain ⟨hTwins, hSame⟩ := h.derive fn.frame hParams
  unfold Store.callFrame
  cases fn.rest with
  | none => exact ⟨hTwins, hSame⟩
  | some rest =>
      simp only [hSame]
      exact hTwins.derive _ (List.forall_mem_singleton.2 hRest)

/-- **A history in the scope keeps twins.** -/
theorem replay (h : Twins σ s s') {history : List Change}
    (hHistory : ∀ change ∈ history, change.InScope σ) :
    Twins σ (s.replay history) (s'.replay history) := by
  induction history generalizing s s' with
  | nil => exact h
  | cons change history ih =>
      obtain ⟨hChange, hRest⟩ := List.forall_mem_cons.1 hHistory
      exact ih (h.after hChange) hRest

end Twins

theorem twins_empty : Twins .whole empty empty where
  frames := rfl
  closures := rfl
  size := rfl
  left _ h := h.elim
  right _ h := h.elim
  shown _ _ := rfl
  data _ _ _ h := by cases h
  unnamed _ _ _ _ h := h.elim

/-- Where nothing is hidden, twins are the same. -/
theorem Twins.eq_of_whole {s s' : Store} (h : s.Twins .whole s') : s' = s := by
  have hCells : s'.cells = s.cells := Array.ext_getElem? fun cell =>
    h.shown cell (Set.notMem_empty cell)
  obtain ⟨frames, cells, closures⟩ := s
  obtain ⟨frames', cells', closures'⟩ := s'
  rw [show frames' = frames from h.frames, show cells' = cells from hCells,
    show closures' = closures from h.closures]

end Store

end MiniScheme
