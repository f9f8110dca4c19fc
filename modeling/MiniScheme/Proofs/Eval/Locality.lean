import MiniScheme.Interpreter
import MiniScheme.Proofs.Eval.Evolution

/-!
# Where an evaluation may define names

Names are defined in argument positions, in the bodies of procedures, in
files that are loaded in the middle of a call; and an evaluation may end in
an error at any point between two definitions.  However it ends, it has
only added names, and only to the frame it was asked to work in, to frames
it made itself and, by loading files, to the global frame.

To say of an evaluation that it loads no file, `evaluateSealed` puts an
`alarm` in the place of every call that would.  An evaluation loads no file
if it goes the same way with the alarms in place (`LoadsNothing`), whatever
the alarm is.

## Main results

* `evaluateSealed_local` — with alarms in place no frame is shared, not even
  the global one.
* `evaluate_tables` — what evaluating an expression in a frame does to the
  tables of all frames.
-/

namespace MiniScheme

namespace Eval

/-! ## Evaluation that loads no file -/

/-- Evaluation that fails with `alarm` where it would load a file. -/
def evaluateSealed (ctx : Context) (alarm : Failure) : Nat → Worker
  | 0, _ => Run.halt .tooDeep
  | depth + 1, task =>
    if loadsFile task then throw alarm else perform ctx (evaluateSealed ctx alarm depth) task

/-- The work never loads a file: it goes the same way whatever failure
stands in the place of loading. -/
def LoadsNothing (ctx : Context) (depth : Nat) (task : Task) (m : Machine) : Prop :=
  ∀ alarm, evaluateSealed ctx alarm depth task m = evaluate ctx depth task m

/-- A call that loads a file does not count as loading nothing. -/
theorem not_loadsNothing_of_loadsFile (ctx : Context) (depth : Nat) {task : Task}
    (hTask : loadsFile task = true) (m : Machine) : ¬ LoadsNothing ctx (depth + 1) task m := by
  intro h
  have hAlarm : ∀ alarm, evaluateSealed ctx alarm (depth + 1) task m = .error alarm m := by
    intro alarm
    rw [evaluateSealed, if_pos hTask]
    rfl
  have hSame := (hAlarm (.fault .tooDeep)).symm.trans
    ((h _).trans ((h (.fault .notUtf8)).symm.trans (hAlarm _)))
  cases hSame

/-- **With alarms in place no frame is shared**: work adds names to the
frame it evaluates in and to frames it made. -/
theorem evaluateSealed_local (ctx : Context) (alarm : Failure) (depth : Nat) :
    Worker.Local ∅ (evaluateSealed ctx alarm depth) := by
  induction depth with
  | zero => exact ⟨fun _ _ => .halt _, fun _ _ => .halt _⟩
  | succ depth ih =>
      refine ⟨fun expr frame => evolves_performEval ih frame expr, fun fn args => ?_⟩
      rw [evaluateSealed]
      split
      · exact .throw alarm
      · next hNoLoad =>
          exact evolves_performApply ih ctx fn args fun hLoad => absurd hLoad hNoLoad

/-! ## The tables after an evaluation -/

theorem grows_evaluate (ctx : Context) (depth : Nat) (expr : Value) (f : FrameId)
    (m : Machine) :
    m.store.Grows {f, ctx.globals}
      ((evaluate ctx depth (.eval expr f)).final m).store :=
  ((evaluate_local ctx depth).eval expr f m).grows

theorem LoadsNothing.grows {ctx : Context} {depth : Nat} {expr : Value} {f : FrameId}
    {m : Machine} (h : LoadsNothing ctx depth (.eval expr f) m) :
    m.store.Grows {f} ((evaluate ctx depth (.eval expr f)).final m).store := by
  have hSealed := (evaluateSealed_local ctx (.fault .tooDeep) depth).eval expr f m
  rw [Run.final, h] at hSealed
  exact hSealed.grows.weaken fun g hg _ => hg.resolve_right (Set.notMem_empty g)

end Eval

namespace Interpreter

/-- An interpreter keeps what a computation leaves behind. -/
theorem machine_run {α : Type} (i : Interpreter) (work : Context → Nat → Run α) :
    (i.run work).2.machine = (work i.context i.depth).final i.machine := by
  rw [run, Run.final]
  cases work i.context i.depth i.machine <;> rfl

/-- **Evaluation only adds names, and only where it works.**  After an
expression has been evaluated in the frame `f`, with whatever result or
failure:

* every frame binds each name it bound, to the same cell;
* the existing frames other than `f` and the global one have the very
  tables they had;
* a name that is new in an existing frame has a cell that is new;
* if no file was loaded, the global frame is no exception.

This holds of every interpreter, in particular of those that any sequence
of operations can reach. -/
theorem evaluate_tables (i : Interpreter) (expr : Value) (f : FrameId) :
    let before := i.machine.store
    let after := (i.run fun ctx depth => Eval.evaluate ctx depth (.eval expr f)).2.machine.store
    (∀ g name cell, before.cell? g name = some cell → after.cell? g name = some cell) ∧
    (∀ g name, before.isBound g name = true → after.isBound g name = true) ∧
    (∀ g < before.frames.size, g ≠ f → g ≠ i.context.globals →
      after.frame g = before.frame g) ∧
    (∀ g < before.frames.size, ∀ name cell, before.cell? g name = none →
      after.cell? g name = some cell → before.cells.size ≤ cell ∧ cell < after.cells.size) ∧
    (Eval.LoadsNothing i.context i.depth (.eval expr f) i.machine →
      ∀ g < before.frames.size, g ≠ f → after.frame g = before.frame g) := by
  intro before after
  have hAfter : after = ((Eval.evaluate i.context i.depth (.eval expr f)).final i.machine).store :=
    congrArg Machine.store (i.machine_run _)
  have hGrows : before.Grows {f, i.context.globals} after := by
    rw [hAfter]
    exact Eval.grows_evaluate i.context i.depth expr f i.machine
  refine ⟨fun _ _ _ => hGrows.kept, ?_, ?_, fun g hg _ _ => hGrows.fresh hg, ?_⟩
  · intro g name hBound
    obtain ⟨cell, hCell⟩ := Option.isSome_iff_exists.1 hBound
    rw [Store.isBound, hGrows.kept hCell, Option.isSome_some]
  · intro g hg hFrame hGlobals
    refine hGrows.untouched hg ?_
    rintro (hSame | hSame)
    · exact hFrame hSame
    · exact hGlobals hSame
  · intro hLoads g hg hFrame
    rw [hAfter]
    exact hLoads.grows.untouched hg hFrame

/-- A definition in the frame below the globals of an interpreter without
the standard primitives. -/
theorem evaluate_tables_define :
    let i := ofTable ⟨fun _ => .error .missing⟩ [] 5 []
    let expr := Value.list [.symbol "define", .symbol "x", .int 7]
    let after := (i.run fun ctx depth => Eval.evaluate ctx depth (.eval expr 0)).2.machine.store
    Eval.LoadsNothing i.context i.depth (.eval expr 0) i.machine ∧
      i.context.globals = 1 ∧ after.cell? 0 "x" = some 2 ∧
      after.frame 1 = i.machine.store.frame 1 := by
  intro i expr after
  have hLoads : Eval.LoadsNothing i.context i.depth (.eval expr 0) i.machine := fun _ => rfl
  refine ⟨hLoads, rfl, ?_, ?_⟩
  · rfl
  · exact (evaluate_tables i expr 0).2.2.2.2 hLoads 1 (by decide) (by decide)

end Interpreter

end MiniScheme
