import Mathlib.Data.Set.Insert
import MiniScheme.Store.Basic

/-!
# Changes of the store

Whatever a program does to its variables is a sequence of five kinds of
change: a new empty frame, a frame derived from another, an assignment, a
definition, and a closure taking its number.  `Store.after` performs one
change, `Store.replay` a whole history.

**Every invariant of the store is proved from the changes.**  What each
change keeps is kept by every history, and a statement about evaluation
only has to say which histories an evaluation can make.

The first half says where each name is bound after an operation, in terms
of the bindings before it.  The second half draws the conclusion for the
tables: `Store.Grows touched s s'` says that going from `s` to `s'` removes
no binding, moves none to another cell, and adds names only in new frames
and in those of the set `touched`.

## Main results

* `cell?_derive` — the names of a batch are bound to the next free cells,
  all others as in the frame derived from.
* `grows_after`, `grows_replay` — a change adds names to the table of the
  frame it defines one in, a history to those of all its changes.
* `cell?_after` — a binding found after a change was there before, in this
  frame or another, or its cell is one that the change made.
-/

namespace MiniScheme

namespace Frame

/-- Of several new entries with different names each is found; all other
names are found as before. -/
theorem cell?_overlay (frame : Frame) {fresh : List (String × CellId)}
    (hNames : (fresh.map (·.1)).Nodup) (name : String) :
    (frame.overlay fresh).cell? name = (fresh.lookup name).or (frame.cell? name) := by
  induction fresh generalizing frame with
  | nil => rfl
  | cons entry fresh ih =>
      obtain ⟨key, cell⟩ := entry
      rw [List.map_cons, List.nodup_cons] at hNames
      rw [overlay, List.foldl_cons, ← overlay, ih _ hNames.2, cell?_put]
      by_cases hKey : name = key
      · subst hKey
        -- What is put first could be replaced by a later entry of the same name.
        have hAbsent : fresh.lookup name = none := by
          rw [List.lookup_eq_none_iff]
          intro entry hEntry
          refine bne_iff_ne.2 fun hSame => hNames.1 ?_
          exact List.mem_map.2 ⟨entry, hEntry, hSame.symm⟩
        simp [hAbsent]
      · rw [if_neg hKey, List.lookup_cons, beq_eq_false_iff_ne.2 hKey]

end Frame

/-! ## Batches of bindings -/

/-- The names left of a batch are different from each other. -/
theorem nodup_map_fst_firstOccurrences {α : Type} (batch : List (String × α)) :
    ((firstOccurrences batch).map (·.1)).Nodup := by
  induction batch with
  | nil => exact List.nodup_nil
  | cons entry rest ih =>
      rw [firstOccurrences, List.map_cons, List.nodup_cons]
      refine ⟨?_, ih.sublist (List.filter_sublist.map _)⟩
      simp [List.mem_map, List.mem_filter]

theorem map_fst_map_zipIdx {α : Type} (entries : List (String × α)) (start : Nat) :
    ((entries.zipIdx start).map fun (entry, cell) => (entry.1, cell)).map (·.1) =
      entries.map (·.1) := by
  induction entries generalizing start with
  | nil => rfl
  | cons entry rest ih => rw [List.zipIdx_cons, List.map_cons, List.map_cons, List.map_cons, ih]

/-- Entries numbered from `start` on: a name is found under the number of
its first place. -/
theorem lookup_map_zipIdx {α : Type} (entries : List (String × α)) (start : Nat)
    (name : String) :
    ((entries.zipIdx start).map fun (entry, cell) => (entry.1, cell)).lookup name =
      (entries.findIdx? (·.1 == name)).map (start + ·) := by
  induction entries generalizing start with
  | nil => rfl
  | cons entry rest ih =>
      rw [List.zipIdx_cons, List.map_cons, List.lookup_cons, List.findIdx?_cons, ih,
        BEq.comm]
      cases entry.1 == name with
      | true => rfl
      | false =>
          rw [if_neg Bool.false_ne_true, Option.map_map]
          show Option.map _ _ = Option.map _ _
          congr 1
          funext i
          show start + 1 + i = start + (i + 1)
          omega

namespace Store

/-! ## What each operation does to the tables -/

/-- A frame that does not exist binds nothing. -/
theorem cell?_of_size_le {s : Store} {g : FrameId} (hg : s.frames.size ≤ g) (name : String) :
    s.cell? g name = none := by
  rw [cell?, frame, Array.getD_eq_getD_getElem?, Array.getElem?_eq_none hg]
  rfl

theorem lt_size_of_cell? {s : Store} {g : FrameId} {name : String} {cell : CellId}
    (h : s.cell? g name = some cell) : g < s.frames.size := by
  refine Nat.lt_of_not_le fun hg => ?_
  rw [cell?_of_size_le hg] at h
  cases h

@[simp] theorem cell?_write (s : Store) (cell : CellId) (v : Value) (g : FrameId)
    (name : String) : (s.write cell v).cell? g name = s.cell? g name := rfl

@[simp] theorem size_cells_write (s : Store) (cell : CellId) (v : Value) :
    (s.write cell v).cells.size = s.cells.size := Array.size_setIfInBounds

/-- Pushing a frame leaves the existing ones alone. -/
theorem frame_push (s : Store) (new : Frame) (cells : Array Value) (g : FrameId) :
    Store.frame { s with frames := s.frames.push new, cells } g =
      if g = s.frames.size then new else s.frame g := by
  rw [frame, frame, Array.getD_eq_getD_getElem?, Array.getD_eq_getD_getElem?,
    Array.getElem?_push]
  split <;> rfl

theorem frame_add (s : Store) (f : FrameId) (name : String) (v : Value) (g : FrameId) :
    (s.add f name v).frame g =
      if g = f ∧ f < s.frames.size then (s.frame f).put name s.cells.size else s.frame g := by
  rw [add, frame, frame, frame, Array.getD_eq_getD_getElem?, Array.getD_eq_getD_getElem?,
    Array.getD_eq_getD_getElem?, Array.getElem?_modify]
  by_cases hf : f = g
  · subst hf
    by_cases hSize : f < s.frames.size
    · simp [hSize]
    · simp [hSize]
  · simp [hf, Ne.symm hf]

/-- A name that is added is bound to the next free cell, and everything else
as before. -/
theorem cell?_add (s : Store) (f : FrameId) (name : String) (v : Value) (g : FrameId)
    (other : String) :
    (s.add f name v).cell? g other =
      if g = f ∧ f < s.frames.size ∧ other = name then some s.cells.size
      else s.cell? g other := by
  rw [cell?, frame_add]
  by_cases hHere : g = f ∧ f < s.frames.size
  · obtain ⟨rfl, hSize⟩ := hHere
    rw [if_pos ⟨rfl, hSize⟩, Frame.cell?_put]
    simp [hSize, cell?]
  · rw [if_neg hHere, if_neg fun hAll => hHere ⟨hAll.1, hAll.2.1⟩]
    rfl

/-- The names of a batch are bound to the next free cells, in the order in
which they first occur; all other names as in the frame derived from. -/
theorem cell?_derive (s : Store) (base : FrameId) (batch : List (String × Value))
    (name : String) :
    (s.derive base batch).1.cell? s.frames.size name =
      (((firstOccurrences batch).findIdx? (·.1 == name)).map (s.cells.size + ·)).or
        (s.cell? base name) := by
  have hNames := nodup_map_fst_firstOccurrences batch
  rw [← map_fst_map_zipIdx _ s.cells.size] at hNames
  rw [cell?, derive, frame_push, if_pos rfl, Frame.cell?_overlay _ hNames, lookup_map_zipIdx,
    cell?]

theorem define_of_cell? {s : Store} {f : FrameId} {name : String} {cell : CellId}
    (h : s.cell? f name = some cell) (v : Value) : s.define f name v = s.write cell v := by
  rw [define, h]

theorem define_of_unbound {s : Store} {f : FrameId} {name : String}
    (h : s.cell? f name = none) (v : Value) : s.define f name v = s.add f name v := by
  rw [define, h]

theorem set?_of_cell? {s : Store} {f : FrameId} {name : String} {cell : CellId}
    (h : s.cell? f name = some cell) (v : Value) :
    s.set? f name v = some (s.write cell v) := by
  rw [set?, h, Option.map_some]

/-- After a definition a name has the cell it had, or it is the new name. -/
theorem cell?_define {s : Store} {f g : FrameId} {name other : String} {v : Value}
    {cell : CellId} (h : (s.define f name v).cell? g other = some cell) :
    s.cell? g other = some cell ∨
      s.cell? f name = none ∧ other = name ∧ cell = s.cells.size := by
  cases hBound : s.cell? f name with
  | some old =>
      rw [define_of_cell? hBound, cell?_write] at h
      exact .inl h
  | none =>
      rw [define_of_unbound hBound, cell?_add] at h
      split at h
      · next hNew => exact .inr ⟨rfl, hNew.2.2, (Option.some_inj.1 h).symm⟩
      · exact .inl h

/-- After a derivation a name has a cell it had, in the same frame or in the
one derived from, or it is a name of the batch. -/
theorem cell?_derive_inv {s : Store} {base g : FrameId} {batch : List (String × Value)}
    {name : String} {cell : CellId} (h : (s.derive base batch).1.cell? g name = some cell) :
    (∃ g₀, s.cell? g₀ name = some cell) ∨
      ∃ i, ((firstOccurrences batch).map (·.1))[i]? = some name ∧ cell = s.cells.size + i := by
  by_cases hg : g = s.frames.size
  · subst hg
    rw [cell?_derive, Option.or_eq_some_iff] at h
    rcases h with hFresh | ⟨-, hBase⟩
    · obtain ⟨i, hi, rfl⟩ := Option.map_eq_some_iff.1 hFresh
      obtain ⟨hLt, hKey, -⟩ := List.findIdx?_eq_some_iff_getElem.1 hi
      refine .inr ⟨i, ?_, rfl⟩
      rw [List.getElem?_map, List.getElem?_eq_getElem hLt, Option.map_some, beq_iff_eq.1 hKey]
    · exact .inl ⟨base, hBase⟩
  · rw [cell?, derive, frame_push, if_neg hg] at h
    exact .inl ⟨g, h⟩

/-! ## Changes and histories -/

/-- One change of the store. -/
inductive Change where
  /-- A new frame that binds nothing. -/
  | new
  /-- A new frame over `base` with cells of its own for the names of a batch. -/
  | bind (base : FrameId) (batch : List (String × Value))
  /-- Another value for a bound name; nothing happens if it is not bound. -/
  | assign (f : FrameId) (name : String) (v : Value)
  | define (f : FrameId) (name : String) (v : Value)
  /-- A closure takes its number. -/
  | number

/-- The store after a change. -/
def after (s : Store) : Change → Store
  | .new => s.newFrame.1
  | .bind base batch => (s.derive base batch).1
  | .assign f name v => (s.set? f name v).getD s
  | .define f name v => s.define f name v
  | .number => s.nextClosure.1

/-- The store after a sequence of changes. -/
def replay (s : Store) (history : List Change) : Store := history.foldl after s

theorem replay_cons (s : Store) (change : Change) (history : List Change) :
    s.replay (change :: history) = (s.after change).replay history := rfl

theorem replay_append (s : Store) (earlier later : List Change) :
    s.replay (earlier ++ later) = (s.replay earlier).replay later := List.foldl_append

/-- The existing frame that a change may add a name to. -/
def Change.target? : Change → Option FrameId
  | .define f _ _ => some f
  | _ => none

/-- The names that a change binds to cells of their own, in the order of
these cells. -/
def Change.fresh (s : Store) : Change → List String
  | .bind _ batch => (firstOccurrences batch).map (·.1)
  | .define f name _ => if s.isBound f name then [] else [name]
  | _ => []

/-- The frames that some change of a history may add a name to. -/
def targets (history : List Change) : Set FrameId :=
  { f | ∃ change ∈ history, change.target? = some f }

/-- An assignment has no effect on the tables and the number of cells. -/
theorem after_assign (s : Store) (f : FrameId) (name : String) (v : Value) :
    (s.after (.assign f name v)).frames = s.frames ∧
      (s.after (.assign f name v)).cells.size = s.cells.size := by
  rw [after]
  cases h : s.cell? f name with
  | none => simp [set?, h]
  | some cell =>
      rw [set?_of_cell? h]
      exact ⟨rfl, size_cells_write s cell v⟩

/-- A change makes one cell for each name that it binds to a cell of its
own. -/
theorem size_cells_after (s : Store) (change : Change) :
    (s.after change).cells.size = s.cells.size + (change.fresh s).length := by
  cases change with
  | new => rfl
  | bind base batch =>
      show (s.cells ++ (firstOccurrences batch).map (·.2)).size = _
      rw [← Array.length_toList, Array.toList_appendList, List.length_append,
        Array.length_toList, List.length_map, Change.fresh, List.length_map]
  | assign f name v => exact (s.after_assign f name v).2
  | define f name v =>
      rw [after, Change.fresh, isBound]
      cases h : s.cell? f name with
      | none => simp [define_of_unbound h, add]
      | some cell => simp [define_of_cell? h]
  | number => rfl

/-- **A binding found after a change** was there before, in this frame or in
another, or else its name has one of the cells that the change made. -/
theorem cell?_after {s : Store} {change : Change} {g : FrameId} {name : String}
    {cell : CellId} (h : (s.after change).cell? g name = some cell) :
    (∃ g₀, s.cell? g₀ name = some cell) ∨
      ∃ i, (change.fresh s)[i]? = some name ∧ cell = s.cells.size + i := by
  cases change with
  | new =>
      rw [after, newFrame, cell?, frame_push] at h
      split at h
      · cases h
      · exact .inl ⟨g, h⟩
  | bind base batch => exact cell?_derive_inv h
  | assign f name v =>
      rw [cell?, frame, (s.after_assign f name v).1] at h
      exact .inl ⟨g, h⟩
  | define f defined v =>
      rcases cell?_define h with hOld | ⟨hUnbound, rfl, rfl⟩
      · exact .inl ⟨g, hOld⟩
      · refine .inr ⟨0, ?_, rfl⟩
        rw [Change.fresh, isBound, hUnbound]
        rfl
  | number => exact .inl ⟨g, h⟩

/-! ## Tables only grow -/

/-- From `s` to `s'` no binding is removed or moved to another cell, and the
existing frames outside `touched` have the tables they had. -/
structure Grows (touched : Set FrameId) (s s' : Store) : Prop where
  frames_le : s.frames.size ≤ s'.frames.size
  cells_le : s.cells.size ≤ s'.cells.size
  kept : ∀ {g name cell}, s.cell? g name = some cell → s'.cell? g name = some cell
  untouched : ∀ {g}, g < s.frames.size → g ∉ touched → s'.frame g = s.frame g
  /-- A name that is new in an existing frame has a new cell. -/
  fresh : ∀ {g name cell}, g < s.frames.size → s.cell? g name = none →
    s'.cell? g name = some cell → s.cells.size ≤ cell ∧ cell < s'.cells.size

namespace Grows

variable {touched other : Set FrameId} {s s₁ s₂ : Store}

/-- Tables grow, in particular, when the existing frames stay as they are. -/
theorem of_frame_eq (hFrames : s.frames.size ≤ s₁.frames.size)
    (hCells : s.cells.size ≤ s₁.cells.size)
    (hSame : ∀ {g}, g < s.frames.size → s₁.frame g = s.frame g) :
    Grows touched s s₁ where
  frames_le := hFrames
  cells_le := hCells
  kept := by
    intro g name cell h
    rw [cell?, hSame (lt_size_of_cell? h)]
    exact h
  untouched hg _ := hSame hg
  fresh := by
    intro g name cell hg hNone hSome
    rw [cell?, hSame hg, ← cell?, hNone] at hSome
    cases hSome

theorem refl (s : Store) : Grows touched s s :=
  of_frame_eq (Nat.le_refl _) (Nat.le_refl _) fun _ => rfl

theorem trans (h₁ : Grows touched s s₁) (h₂ : Grows touched s₁ s₂) :
    Grows touched s s₂ where
  frames_le := Nat.le_trans h₁.frames_le h₂.frames_le
  cells_le := Nat.le_trans h₁.cells_le h₂.cells_le
  kept h := h₂.kept (h₁.kept h)
  untouched := by
    intro g hg hTouched
    rw [h₂.untouched (Nat.lt_of_lt_of_le hg h₁.frames_le) hTouched, h₁.untouched hg hTouched]
  fresh := by
    intro g name cell hg hNone hSome
    -- The name is new in the first part or in the second one.
    cases hMiddle : s₁.cell? g name with
    | none =>
        have hNew := h₂.fresh (Nat.lt_of_lt_of_le hg h₁.frames_le) hMiddle hSome
        exact ⟨Nat.le_trans h₁.cells_le hNew.1, hNew.2⟩
    | some early =>
        have hSame := h₂.kept hMiddle
        rw [hSome, Option.some_inj] at hSame
        subst hSame
        have hNew := h₁.fresh hg hNone hMiddle
        exact ⟨hNew.1, Nat.lt_of_lt_of_le hNew.2 h₂.cells_le⟩

/-- Which of the frames that do not exist yet are touched does not matter. -/
theorem weaken (h : Grows touched s s₁)
    (hSub : ∀ g ∈ touched, g < s.frames.size → g ∈ other) : Grows other s s₁ :=
  { h with untouched := fun hg hOther => h.untouched hg fun hIn => hOther (hSub _ hIn hg) }

end Grows

/-- A definition adds a name to the table of its frame only. -/
theorem grows_define (s : Store) (f : FrameId) (name : String) (v : Value) :
    Grows {f} s (s.define f name v) := by
  cases h : s.cell? f name with
  | some cell =>
      rw [define_of_cell? h]
      exact .of_frame_eq (Nat.le_refl _) (size_cells_write s cell v).ge fun _ => rfl
  | none =>
      have hCells : (s.define f name v).cells.size = s.cells.size + 1 := by
        rw [define_of_unbound h]
        exact Array.size_push v
      refine ⟨?_, by omega, ?_, ?_, ?_⟩
      · rw [define_of_unbound h]
        exact Array.size_modify.ge
      · intro g other cell hOld
        rw [define_of_unbound h, cell?_add, if_neg, hOld]
        rintro ⟨rfl, -, rfl⟩
        rw [h] at hOld
        cases hOld
      · intro g _ hg
        rw [define_of_unbound h, frame_add, if_neg fun hHere => hg hHere.1]
      · intro g other cell hg hNone hSome
        rcases cell?_define hSome with hOld | ⟨-, -, rfl⟩
        · rw [hNone] at hOld
          cases hOld
        · exact ⟨Nat.le_refl _, Nat.lt_of_lt_of_eq (Nat.lt_succ_self _) hCells.symm⟩

/-- **One change** adds names to the table of the frame it defines one in,
and to no other. -/
theorem grows_after (s : Store) (change : Change) :
    Grows { f | change.target? = some f } s (s.after change) := by
  have hCells : s.cells.size ≤ (s.after change).cells.size := by
    rw [size_cells_after]
    exact Nat.le_add_right _ _
  cases change with
  | new =>
      refine .of_frame_eq (by simp [after, newFrame]) hCells fun hg => ?_
      rw [after, newFrame, frame_push, if_neg (Nat.ne_of_lt hg)]
  | bind base batch =>
      refine .of_frame_eq (by simp [after, derive]) hCells fun hg => ?_
      rw [after, derive, frame_push, if_neg (Nat.ne_of_lt hg)]
  | assign f name v =>
      have hFrames := (s.after_assign f name v).1
      refine .of_frame_eq (by rw [hFrames]) hCells fun _ => ?_
      rw [frame, frame, hFrames]
  | define f name v =>
      refine (s.grows_define f name v).weaken fun g hg _ => ?_
      exact congrArg some hg.symm
  | number => exact .of_frame_eq (Nat.le_refl _) hCells fun _ => rfl

/-- **A history** adds names to the tables of the frames its changes define
names in, and to no others. -/
theorem grows_replay (s : Store) (history : List Change) :
    Grows (targets history) s (s.replay history) := by
  induction history generalizing s with
  | nil => exact .refl s
  | cons change history ih =>
      rw [replay_cons]
      refine .trans ((s.grows_after change).weaken fun g hg _ => ?_)
        ((ih (s.after change)).weaken fun g hg _ => ?_)
      · exact ⟨change, List.mem_cons_self, hg⟩
      · obtain ⟨later, hLater, hTarget⟩ := hg
        exact ⟨later, List.mem_cons_of_mem _ hLater, hTarget⟩

/-! ## What a history can reach -/

/-- `s'` comes from `s` by a history that defines no name in an existing
frame outside `touched`. -/
def Evolves (touched : Set FrameId) (s s' : Store) : Prop :=
  ∃ history, s' = s.replay history ∧ ∀ f ∈ targets history, f < s.frames.size → f ∈ touched

namespace Evolves

variable {touched other : Set FrameId} {s s₁ s₂ : Store}

/-- All that a history can do to the tables is to add names. -/
theorem grows (h : Evolves touched s s₁) : Grows touched s s₁ := by
  obtain ⟨history, rfl, hTargets⟩ := h
  exact (s.grows_replay history).weaken hTargets

theorem refl (s : Store) : Evolves touched s s :=
  ⟨[], rfl, by rintro f ⟨change, hMem, -⟩; cases hMem⟩

theorem after (s : Store) (change : Change)
    (hTarget : ∀ f, change.target? = some f → f ∈ touched) :
    Evolves touched s (s.after change) := by
  refine ⟨[change], rfl, ?_⟩
  rintro f ⟨_, hMem, hSome⟩ -
  rw [List.mem_singleton.1 hMem] at hSome
  exact hTarget f hSome

theorem after_of_target?_eq_none (s : Store) (change : Change)
    (hTarget : change.target? = none) : Evolves touched s (s.after change) := by
  refine .after s change fun f hf => ?_
  rw [hTarget] at hf
  cases hf

/-- The second part may touch all that is touched anyway and all that the
first part made. -/
theorem trans (h₁ : Evolves touched s s₁) (h₂ : Evolves other s₁ s₂)
    (hSub : ∀ f ∈ other, f < s.frames.size → f ∈ touched) : Evolves touched s s₂ := by
  have hFrames := h₁.grows.frames_le
  obtain ⟨earlier, rfl, hEarlier⟩ := h₁
  obtain ⟨later, rfl, hLater⟩ := h₂
  refine ⟨earlier ++ later, (s.replay_append earlier later).symm, ?_⟩
  rintro f ⟨change, hMem, hTarget⟩ hf
  rcases List.mem_append.1 hMem with hFirst | hSecond
  · exact hEarlier f ⟨change, hFirst, hTarget⟩ hf
  · exact hSub f (hLater f ⟨change, hSecond, hTarget⟩ (Nat.lt_of_lt_of_le hf hFrames)) hf

end Evolves

end Store

end MiniScheme
