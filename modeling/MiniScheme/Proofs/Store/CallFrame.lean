import MiniScheme.Proofs.Store.Tracking

/-!
# The frame of a call

A call works in a frame that is derived from the one the procedure was made
in: once for the parameters, and once more for the name of the rest.  Each
derivation hands out cells of its own, so the rest wins over a parameter of
the same name, while among the parameters the first occurrence of a name
wins.  All other names lead to the cells that the frame of the procedure
has at the moment of the call.

**Nothing that existed is changed by making a frame** (`Extends`), and since
the cells of the parameters are new, nothing that is written to them later
is seen through a frame that existed.

## Main results

* `cell?_derive_of_mem`, `cell?_derive_of_notMem` — where a derived frame
  has the names of its batch, and all others.
* `extends_callFrame` — making the frame of a call changes nothing.
* `callFrame_binds` — what the frame of a call binds, and to what.
-/

namespace MiniScheme

/-- The name is bound by a call of the procedure. -/
def Closure.Binds {Form : Type} (fn : Closure Form) (name : String) : Prop :=
  name ∈ fn.params ∨ fn.rest = some name

/-- The numbers of arguments that a procedure takes. -/
theorem Closure.accepts_iff {Form : Type} (fn : Closure Form) (count : Nat) :
    fn.accepts count = true ↔
      (fn.rest = none → count = fn.params.length) ∧ fn.params.length ≤ count := by
  unfold accepts arity
  cases fn.rest with
  | none =>
      rw [beq_iff_eq]
      exact ⟨fun h => ⟨fun _ => h, h.ge⟩, fun h => h.1 rfl⟩
  | some rest => simp

/-- Names paired with values: a name is found with the value in its first
place. -/
theorem lookup_zip {α : Type} {names : List String} {values : List α} {name : String}
    (hName : name ∈ names) (hLength : names.length ≤ values.length) :
    (names.zip values).lookup name = values[names.idxOf name]? := by
  induction names generalizing values with
  | nil => cases hName
  | cons first names ih =>
      obtain ⟨v, values, rfl⟩ := List.exists_cons_of_length_pos
        (Nat.lt_of_lt_of_le (Nat.succ_pos _) hLength)
      by_cases hFirst : name = first
      · simp [hFirst]
      · have hRest := ih ((List.mem_cons.1 hName).resolve_left hFirst)
          (Nat.le_of_succ_le_succ hLength)
        rw [List.zip_cons_cons, List.lookup_cons, beq_eq_false_iff_ne.2 hFirst, List.idxOf_cons,
          beq_eq_false_iff_ne.2 (Ne.symm hFirst), cond_false, List.getElem?_cons_succ]
        exact hRest

namespace Store

theorem get?_of_cell? {s : Store} {f : FrameId} {name : String} {cell : CellId} {v : Value}
    (hCell : s.cell? f name = some cell) (hHeld : s.cells[cell]? = some v) :
    s.get? f name = some v := by
  rw [get?, hCell, Option.bind_some, hHeld]

/-! ## Stores that only have more -/

/-- The second store has all frames and cells of the first one, as they
were. -/
structure Extends (s s' : Store) : Prop where
  frames_le : s.frames.size ≤ s'.frames.size
  cells_le : s.cells.size ≤ s'.cells.size
  frame : ∀ {g}, g < s.frames.size → s'.frame g = s.frame g
  held : ∀ {cell : CellId}, cell < s.cells.size → s'.cells[cell]? = s.cells[cell]?

namespace Extends

variable {s s₁ s₂ : Store}

theorem trans (h₁ : Extends s s₁) (h₂ : Extends s₁ s₂) : Extends s s₂ where
  frames_le := Nat.le_trans h₁.frames_le h₂.frames_le
  cells_le := Nat.le_trans h₁.cells_le h₂.cells_le
  frame hg := (h₂.frame (Nat.lt_of_lt_of_le hg h₁.frames_le)).trans (h₁.frame hg)
  held hCell := (h₂.held (Nat.lt_of_lt_of_le hCell h₁.cells_le)).trans (h₁.held hCell)

theorem cell?_eq (h : Extends s s₁) {g : FrameId} (hg : g < s.frames.size) (name : String) :
    s₁.cell? g name = s.cell? g name := by
  rw [cell?, cell?, h.frame hg]

/-- Every value that could be got can be got. -/
theorem get?_of_some (h : Extends s s₁) {g : FrameId} {name : String} {v : Value}
    (hv : s.get? g name = some v) : s₁.get? g name = some v := by
  obtain ⟨cell, hCell, hHeld⟩ := Option.bind_eq_some_iff.1 hv
  have hLt := (Array.getElem?_eq_some_iff.1 hHeld).1
  rw [get?, h.cell?_eq (lt_size_of_cell? hCell), hCell, Option.bind_some, h.held hLt, hHeld]

/-- What is written to a new cell is not seen through a frame that existed. -/
theorem get?_write (h : Extends s s₁) (hApart : s.Unaliased) {cell : CellId}
    (hNew : s.cells.size ≤ cell) (v : Value) {g : FrameId} (hg : g < s.frames.size)
    (name : String) : (s₁.write cell v).get? g name = s.get? g name := by
  rw [get?, get?, cell?_write, h.cell?_eq hg]
  cases hCell : s.cell? g name with
  | none => rfl
  | some other =>
      have hOld := hApart.lt_size hCell
      have hOther : cell ≠ other := Nat.ne_of_gt (Nat.lt_of_lt_of_le hOld hNew)
      show (s₁.cells.setIfInBounds cell v)[other]? = s.cells[other]?
      rw [Array.getElem?_setIfInBounds, if_neg hOther, h.held hOld]

end Extends

/-! ## Derived frames -/

theorem extends_derive (s : Store) (base : FrameId) (batch : List (String × Value)) :
    Extends s (s.derive base batch).1 where
  frames_le := (s.grows_after (.bind base batch)).frames_le
  cells_le := (s.grows_after (.bind base batch)).cells_le
  frame hg := (s.grows_after (.bind base batch)).untouched hg nofun
  held hCell := by
    rw [getElem?_cells_derive, List.getElem?_append_left (by simpa using hCell),
      Array.getElem?_toList]

theorem lt_size_derive (s : Store) (base : FrameId) (batch : List (String × Value)) :
    (s.derive base batch).2 < (s.derive base batch).1.frames.size := by
  simp [derive]

/-- A name of the batch has a new cell, which holds the value that the name
first occurs with. -/
theorem cell?_derive_of_mem (s : Store) (base : FrameId) {batch : List (String × Value)}
    {name : String} (hName : name ∈ batch.map (·.1)) :
    ∃ cell, (s.derive base batch).1.cell? (s.derive base batch).2 name = some cell ∧
      s.cells.size ≤ cell ∧ (s.derive base batch).1.cells[cell]? = batch.lookup name := by
  obtain ⟨i, v, hi, hValue, hLookup⟩ := exists_findIdx?_firstOccurrences hName
  refine ⟨s.cells.size + i, ?_, Nat.le_add_right _ _, ?_⟩
  · exact (s.cell?_derive base batch name).trans (by rw [hi]; rfl)
  · rw [getElem?_cells_derive, ← Array.length_toList,
      List.getElem?_append_right (Nat.le_add_right _ _), Nat.add_sub_cancel_left, hValue, hLookup]

/-- All other names have the cells that they have in the frame derived
from. -/
theorem cell?_derive_of_notMem (s : Store) (base : FrameId) {batch : List (String × Value)}
    {name : String} (hName : name ∉ batch.map (·.1)) :
    (s.derive base batch).1.cell? (s.derive base batch).2 name = s.cell? base name := by
  refine (s.cell?_derive base batch name).trans ?_
  rw [findIdx?_firstOccurrences_eq_none hName]
  rfl

theorem get?_derive_of_mem (s : Store) (base : FrameId) {batch : List (String × Value)}
    {name : String} (hName : name ∈ batch.map (·.1)) :
    (s.derive base batch).1.get? (s.derive base batch).2 name = batch.lookup name := by
  obtain ⟨cell, hCell, -, hHeld⟩ := s.cell?_derive_of_mem base hName
  rw [get?, hCell, Option.bind_some, hHeld]

/-! ## Frames of calls -/

variable (s : Store) (fn : Closure Value) (args : List Value)

/-- **Making the frame of a call changes nothing.** -/
theorem extends_callFrame : Extends s (s.callFrame fn args).1 := by
  unfold callFrame
  cases fn.rest with
  | none => exact s.extends_derive _ _
  | some rest => exact (s.extends_derive _ _).trans (extends_derive _ _ _)

/-- The frame of a call is new. -/
theorem size_le_callFrame :
    s.frames.size ≤ (s.callFrame fn args).2 ∧
      (s.callFrame fn args).2 < (s.callFrame fn args).1.frames.size := by
  unfold callFrame
  cases fn.rest with
  | none => exact ⟨Nat.le_refl _, s.lt_size_derive _ _⟩
  | some rest => exact ⟨(s.extends_derive _ _).frames_le, lt_size_derive _ _ _⟩

variable {fn}

/-- The name of the rest has a new cell with the list of the arguments
beyond the parameters. -/
theorem cell?_callFrame_rest {rest : String} (hRest : fn.rest = some rest) :
    ∃ cell, (s.callFrame fn args).1.cell? (s.callFrame fn args).2 rest = some cell ∧
      s.cells.size ≤ cell ∧
      (s.callFrame fn args).1.cells[cell]? = some (.list (args.drop fn.params.length)) := by
  unfold callFrame
  rw [hRest]
  have hBatch : rest ∈ [(rest, Value.list (args.drop fn.arity))].map (·.1) := List.mem_cons_self
  obtain ⟨cell, hCell, hNew, hHeld⟩ := cell?_derive_of_mem
    (s.derive fn.frame (fn.params.zip args)).1 (s.derive fn.frame (fn.params.zip args)).2 hBatch
  refine ⟨cell, hCell, Nat.le_trans (s.extends_derive _ _).cells_le hNew, hHeld.trans ?_⟩
  simp [Closure.arity]

variable {args}

/-- A parameter that is not the name of the rest has a new cell with the
argument in its first place. -/
theorem cell?_callFrame_param (hLength : fn.params.length ≤ args.length) {name : String}
    (hName : name ∈ fn.params) (hRest : fn.rest ≠ some name) :
    ∃ cell v, (s.callFrame fn args).1.cell? (s.callFrame fn args).2 name = some cell ∧
      s.cells.size ≤ cell ∧ (s.callFrame fn args).1.cells[cell]? = some v ∧
      args[fn.params.idxOf name]? = some v := by
  have hBatch : name ∈ (fn.params.zip args).map (·.1) := by
    rw [List.map_fst_zip hLength]
    exact hName
  have hArg : fn.params.idxOf name < args.length :=
    Nat.lt_of_lt_of_le (List.idxOf_lt_length_of_mem hName) hLength
  obtain ⟨cell, hCell, hNew, hHeld⟩ := s.cell?_derive_of_mem fn.frame hBatch
  rw [lookup_zip hName hLength, List.getElem?_eq_getElem hArg] at hHeld
  unfold callFrame
  cases hSome : fn.rest with
  | none => exact ⟨cell, _, hCell, hNew, hHeld, List.getElem?_eq_getElem hArg⟩
  | some rest =>
      -- The second derivation leaves the name where the first one put it.
      have hOther : name ∉ [(rest, Value.list (args.drop fn.arity))].map (·.1) := by
        intro hMem
        rw [hSome, List.mem_singleton.1 hMem] at hRest
        exact hRest rfl
      have hOld := (Array.getElem?_eq_some_iff.1 hHeld).1
      exact ⟨cell, _, (cell?_derive_of_notMem _ _ hOther).trans hCell, hNew,
        ((extends_derive _ _ _).held hOld).trans hHeld, List.getElem?_eq_getElem hArg⟩

/-- All other names have the cells that they have in the frame of the
procedure. -/
theorem cell?_callFrame_of_not_binds (hLength : fn.params.length ≤ args.length) {name : String}
    (hName : ¬ fn.Binds name) :
    (s.callFrame fn args).1.cell? (s.callFrame fn args).2 name = s.cell? fn.frame name := by
  have hBatch : name ∉ (fn.params.zip args).map (·.1) := by
    rw [List.map_fst_zip hLength]
    exact fun hParam => hName (.inl hParam)
  have hParams := s.cell?_derive_of_notMem fn.frame hBatch
  unfold callFrame
  cases hSome : fn.rest with
  | none => exact hParams
  | some rest =>
      refine (cell?_derive_of_notMem _ _ fun hMem => hName (.inr ?_)).trans hParams
      rw [hSome, List.mem_singleton.1 hMem]

/-- What a call binds has a new cell, and the cell holds a value. -/
theorem cell?_callFrame_of_binds (hLength : fn.params.length ≤ args.length) {name : String}
    (hName : fn.Binds name) :
    ∃ cell, (s.callFrame fn args).1.cell? (s.callFrame fn args).2 name = some cell ∧
      s.cells.size ≤ cell ∧ cell < (s.callFrame fn args).1.cells.size := by
  by_cases hRest : fn.rest = some name
  · obtain ⟨cell, hCell, hNew, hHeld⟩ := s.cell?_callFrame_rest args hRest
    exact ⟨cell, hCell, hNew, (Array.getElem?_eq_some_iff.1 hHeld).1⟩
  · obtain ⟨cell, v, hCell, hNew, hHeld, -⟩ :=
      s.cell?_callFrame_param hLength (hName.resolve_right hRest) hRest
    exact ⟨cell, hCell, hNew, (Array.getElem?_eq_some_iff.1 hHeld).1⟩

theorem get?_callFrame_param (hLength : fn.params.length ≤ args.length) {name : String}
    (hName : name ∈ fn.params) (hRest : fn.rest ≠ some name) :
    ∃ v, args[fn.params.idxOf name]? = some v ∧
      (s.callFrame fn args).1.get? (s.callFrame fn args).2 name = some v := by
  obtain ⟨cell, v, hCell, -, hHeld, hArg⟩ := s.cell?_callFrame_param hLength hName hRest
  exact ⟨v, hArg, get?_of_cell? hCell hHeld⟩

theorem get?_callFrame_of_not_binds {s : Store} (hApart : s.Unaliased)
    (hLength : fn.params.length ≤ args.length) {name : String} (hName : ¬ fn.Binds name) :
    (s.callFrame fn args).1.get? (s.callFrame fn args).2 name = s.get? fn.frame name := by
  rw [get?, get?, s.cell?_callFrame_of_not_binds hLength hName]
  cases hBound : s.cell? fn.frame name with
  | none => rfl
  | some cell => exact (s.extends_callFrame fn args).held (hApart.lt_size hBound)

variable (args) in
theorem get?_callFrame_rest {rest : String} (hRest : fn.rest = some rest) :
    (s.callFrame fn args).1.get? (s.callFrame fn args).2 rest =
      some (.list (args.drop fn.params.length)) := by
  obtain ⟨cell, hCell, -, hHeld⟩ := s.cell?_callFrame_rest args hRest
  exact get?_of_cell? hCell hHeld

variable (fn args)

/-- **What the frame of a call binds.**  In every store that operations on
frames can lead to, for every procedure and every list of arguments that
the procedure accepts, as many as it has parameters or, if it has a name for
the rest, at least as many:

* the name of the rest has the list of the arguments beyond the parameters;
* any other parameter has the argument in the place where its name first
  occurs;
* these names have cells to which no existing frame leads, before the call
  or after;
* all other names have the very cells that they have now in the frame of
  the procedure, and are unbound if they are unbound there;
* the frame is new, and existing frames and cells are as they were;
* an assignment or definition of a parameter, or of the name of the rest,
  through the frame of the call is seen there, and through no frame that
  existed. -/
theorem callFrame_binds (history : List Change) (hArgs : fn.accepts args.length = true) :
    let s := Store.empty.replay history
    let s' := (s.callFrame fn args).1
    let frame := (s.callFrame fn args).2
    ((fn.rest = none → args.length = fn.params.length) ∧ fn.params.length ≤ args.length) ∧
    (∀ rest, fn.rest = some rest →
      s'.get? frame rest = some (.list (args.drop fn.params.length))) ∧
    (∀ name ∈ fn.params, fn.rest ≠ some name →
      ∃ v, args[fn.params.idxOf name]? = some v ∧ s'.get? frame name = some v) ∧
    (∀ name, fn.Binds name → ∃ cell, s'.cell? frame name = some cell ∧
      ∀ g < s.frames.size, ∀ other, s.cell? g other ≠ some cell ∧ s'.cell? g other ≠ some cell) ∧
    (∀ name, ¬ fn.Binds name → s'.cell? frame name = s.cell? fn.frame name ∧
      s'.get? frame name = s.get? fn.frame name) ∧
    (s.frames.size ≤ frame ∧ frame < s'.frames.size) ∧
    (∀ g < s.frames.size, s'.frame g = s.frame g) ∧
    (∀ cell < s.cells.size, s'.cells[cell]? = s.cells[cell]?) ∧
    (∀ name v, fn.Binds name → ∃ s'', s'.set? frame name v = some s'' ∧
      s'.define frame name v = s'' ∧ s''.get? frame name = some v ∧
      ∀ g < s.frames.size, ∀ other, s''.get? g other = s.get? g other) := by
  intro s s' frame
  have hApart : s.Unaliased := unaliased_empty.replay history
  have hExtends : Extends s s' := s.extends_callFrame fn args
  have hAccepts := (fn.accepts_iff args.length).1 hArgs
  have hLength := hAccepts.2
  refine ⟨hAccepts, fun rest => s.get?_callFrame_rest args,
    fun name => s.get?_callFrame_param hLength, ?_, fun name hName => ?_,
    s.size_le_callFrame fn args, fun g => hExtends.frame, fun cell => hExtends.held, ?_⟩
  · intro name hName
    obtain ⟨cell, hCell, hNew, -⟩ := s.cell?_callFrame_of_binds hLength hName
    refine ⟨cell, hCell, fun g hg other => ?_⟩
    have hOld : s.cell? g other ≠ some cell := fun hSame =>
      absurd (hApart.lt_size hSame) (Nat.not_lt.2 hNew)
    exact ⟨hOld, (hExtends.cell?_eq hg other).symm ▸ hOld⟩
  · exact ⟨s.cell?_callFrame_of_not_binds hLength hName,
      s.get?_callFrame_of_not_binds hApart hLength hName⟩
  · intro name v hName
    obtain ⟨cell, hCell, hNew, hLt⟩ := s.cell?_callFrame_of_binds hLength hName
    refine ⟨s'.write cell v, set?_of_cell? hCell v, define_of_cell? hCell v, ?_, ?_⟩
    · show (s'.cell? frame name).bind _ = _
      rw [hCell]
      show (s'.cells.setIfInBounds cell v)[cell]? = some v
      rw [Array.getElem?_setIfInBounds, if_pos rfl, if_pos hLt]
    · intro g hg other
      exact hExtends.get?_write hApart hNew v hg other

/-- A procedure `(lambda (x y x . y) ...)` made in a frame that binds `x` and
to which `z` was added later, called with four arguments. -/
theorem callFrame_binds_shadowing :
    let history : List Change := [.new, .bind 0 [("x", .int 7)], .define 1 "z" (.int 8)]
    let fn : Closure Value :=
      { id := 0, params := ["x", "y", "x"], rest := some "y", body := [.symbol "z"], frame := 1 }
    let args : List Value := [.int 1, .int 2, .int 3, .int 4]
    let s := Store.empty.replay history
    let s' := (s.callFrame fn args).1
    let frame := (s.callFrame fn args).2
    fn.accepts args.length = true ∧ s'.get? frame "x" = some (.int 1) ∧
      s'.get? frame "y" = some (.list [.int 4]) ∧ s'.get? frame "z" = some (.int 8) ∧
      ∃ s'', s'.set? frame "x" (.int 9) = some s'' ∧ s''.get? 1 "x" = some (.int 7) := by
  intro history fn args s s' frame
  have hArgs : fn.accepts args.length = true := rfl
  obtain ⟨-, hRest, hParam, -, hOther, -, -, -, hWrite⟩ := callFrame_binds fn args history hArgs
  obtain ⟨v, hArg, hValue⟩ := hParam "x" (by decide) (by decide)
  obtain ⟨s'', hSet, -, -, hUnseen⟩ := hWrite "x" (.int 9) (.inl (by decide))
  have hFree : ¬ fn.Binds "z" := by
    rintro (hMem | hSome)
    · exact absurd hMem (by decide)
    · exact absurd hSome (by decide)
  refine ⟨hArgs, ?_, hRest "y" rfl, (hOther "z" hFree).2.trans rfl, s'', hSet, ?_⟩
  · exact hValue.trans hArg.symm
  · exact (hUnseen 1 (by decide) "x").trans rfl

end Store

end MiniScheme
