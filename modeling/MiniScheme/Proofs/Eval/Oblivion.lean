import MiniScheme.Proofs.Eval.Depth
import MiniScheme.Proofs.Eval.TwinRuns

/-!
# Evaluation does not look back

A machine remembers what was written and which files were opened, and no
rule of evaluation asks.  So whatever happened before, a computation does
the same: **what was written and opened before stays in front of what the
computation writes and opens, and all else depends on the store alone.**

`Run.Oblivious` says this of a computation, and with it which faults can
arise.  It is a logic for the policy that asks for nothing of code and data;
the logic compares nothing, and its relation looks at one side only.

## Main results

* `Run.Oblivious.bind` — sequencing.
* `Eval.oblivion` — the logic.
* `Run.Oblivious.eq_behind` — the outcome from a machine in terms of the
  outcome from its store.
-/

namespace MiniScheme

/-- What a machine has done that its store does not show. -/
structure Past where
  /-- The text that was written. -/
  output : String
  /-- The files that were opened. -/
  opened : Array Path

namespace Machine

/-- The machine with a past put before its own. -/
def behind (m : Machine) (past : Past) : Machine :=
  { m with output := past.output ++ m.output, opened := past.opened ++ m.opened }

/-- A machine that has done nothing yet. -/
def fresh (s : Store) : Machine := { store := s, output := "", opened := #[] }

/-- The past of a machine. -/
def past (m : Machine) : Past := { output := m.output, opened := m.opened }

theorem fresh_behind_past (m : Machine) : (fresh m.store).behind m.past = m := by
  simp [behind, fresh, past]

end Machine

namespace Run

variable {α β : Type}

/-- An outcome that leaves a machine, with a past put before the machine's
own. -/
def behind (past : Past) :
    EStateM.Result Failure Machine α → EStateM.Result Failure Machine α
  | .ok a m => .ok a (m.behind past)
  | .error e m => .error e (m.behind past)

/-- The outcome is a good result, an error of the program, or a fault that
evaluation has by design. -/
def EndsWell (files : FileSystem) (good : α → Prop) :
    EStateM.Result Failure Machine α → Prop
  | .ok a _ => good a
  | .error (.error _) _ => True
  | .error (.fault f) _ => Failure.IsOrdinary files (.fault f)

/-- The computation does the same whatever was written and opened before, and
it ends well. -/
structure Oblivious (files : FileSystem) (good : α → Prop) (x : Run α) : Prop where
  moves : ∀ past m, x (m.behind past) = behind past (x m)
  endsWell : ∀ m, EndsWell files good (x m)

namespace Oblivious

variable {files : FileSystem} {good : α → Prop} {better : β → Prop}

/-! ## Sequencing -/

theorem pure {a : α} (ha : good a) : Oblivious files good (Pure.pure a) :=
  ⟨fun _ _ => rfl, fun _ => ha⟩

theorem throw {e : Failure} (he : ∀ f, e = .fault f → Failure.IsOrdinary files (.fault f)) :
    Oblivious files good (MonadExcept.throw e) := by
  refine ⟨fun _ _ => rfl, fun m => ?_⟩
  cases e with
  | error e => trivial
  | fault f => exact he f rfl

theorem bind {x : Run α} {f : α → Run β} (hx : Oblivious files good x)
    (hf : ∀ a, good a → Oblivious files better (f a)) : Oblivious files better (x >>= f) := by
  constructor
  · intro past m
    have hFirst := hx.endsWell m
    have hMoved := hx.moves past m
    cases h : x m with
    | ok a m' =>
        rw [h] at hFirst hMoved
        rw [bind_eq_of_ok hMoved, bind_eq_of_ok h]
        exact (hf a hFirst).moves past m'
    | error e m' =>
        rw [h] at hMoved
        rw [bind_eq_of_error hMoved, bind_eq_of_error h]
        rfl
  · intro m
    have hFirst := hx.endsWell m
    cases h : x m with
    | ok a m' =>
        rw [h] at hFirst
        rw [bind_eq_of_ok h]
        exact (hf a hFirst).endsWell m'
    | error e m' =>
        rw [h] at hFirst
        rw [bind_eq_of_error h]
        cases e with
        | error e => trivial
        | fault f => exact hFirst

/-! ## The computations that evaluation is made of -/

theorem emit (text : String) : Oblivious files (fun _ => True) (emit text) := by
  refine ⟨fun past m => ?_, fun _ => trivial⟩
  show EStateM.Result.ok () _ = EStateM.Result.ok () _
  simp [Machine.behind, String.append_assoc]

theorem noteOpened (path : Path) : Oblivious files (fun _ => True) (noteOpened path) := by
  refine ⟨fun past m => ?_, fun _ => trivial⟩
  show EStateM.Result.ok () _ = EStateM.Result.ok () _
  simp [Machine.behind]

/-- A computation on the store that fails with errors of the program only. -/
theorem of_store {x : Run α} (f : Store → Except Error α × Store)
    (hx : ∀ m, x m = match f m.store with
      | (.ok a, s) => .ok a { m with store := s }
      | (.error e, s) => .error (.error e) { m with store := s }) (hGood : ∀ a, good a) :
    Oblivious files good x := by
  constructor
  · intro past m
    rw [hx, hx]
    show (match f m.store with | (.ok a, s) => _ | (.error e, s) => _) = _
    obtain ⟨result, s⟩ := f m.store
    cases result <;> rfl
  · intro m
    rw [hx]
    obtain ⟨result, s⟩ := f m.store
    cases result with
    | ok a => exact hGood a
    | error e => trivial

section Steps

variable {any : Value → Prop} (hAny : ∀ v, any v)

include hAny

theorem getVar (f : FrameId) (name : String) : Oblivious files any (getVar f name) := by
  refine of_store (fun s => ((s.get? f name).elim (.error (.unbound .getting name)) .ok, s))
    (fun m => ?_) hAny
  rw [getVar_eq]
  cases m.store.get? f name <;> rfl

theorem setVar (f : FrameId) (name : String) (v : Value) :
    Oblivious files any (setVar f name v) := by
  refine of_store (fun s => if s.isBound f name then (.ok v, s.define f name v)
    else (.error (.unbound .setting name), s)) (fun m => ?_) hAny
  rw [setVar_eq]
  cases m.store.isBound f name <;> rfl

theorem defineVar (f : FrameId) (name : String) (v : Value) :
    Oblivious files any (defineVar f name v) :=
  of_store (fun s => (.ok v, s.define f name v)) (fun _ => rfl) hAny

theorem makeClosure (frame : FrameId) (t : Template) :
    Oblivious files any (Eval.makeClosure frame t) := by
  refine of_store (fun s => ((t.instantiate frame s.closures).map .closure,
    if (t.instantiate frame s.closures).isOk then s.nextClosure.1 else s)) (fun m => ?_) hAny
  rw [Eval.makeClosure_eq]
  cases t.instantiate frame m.store.closures <;> rfl

end Steps

theorem create (f : Store → Store × α) : Oblivious files (fun _ => True) (create f) :=
  of_store (fun s => (.ok (f s).2, (f s).1)) (fun _ => rfl) fun _ => trivial

end Oblivious

end Run

/-! ## The logic -/

namespace Eval

/-- Oblivion as a logic.  It looks at one of the two computations only. -/
def oblivion (ctx : Context) : Logic ctx OneWorld where
  toPolicy := {
    anything ctx with
    failure := fun e => ∀ f, e = .fault f → Failure.IsOrdinary ctx.files (.fault f)
    stuck := fun _ _ => nofun
    failure_of_isOrdinary := fun h _ hFault => hFault ▸ h }
  Rel w good x _ := Run.Oblivious ctx.files (good w) x
  pure := .pure
  throw := .throw
  bind hx hf := hx.bind fun a ha => hf .here a trivial ha
  emit := .emit
  noteOpened := .noteOpened
  getVar f _ := .getVar (fun _ _ _ => trivial) f _
  setVar f _ _ := .setVar (fun _ _ _ => trivial) f _ _
  defineVar f _ _ := .defineVar (fun _ _ _ => trivial) f _ _
  makeClosure frame _ := .makeClosure (fun _ _ _ => trivial) frame _
  callFrame _ _ := .create _

end Eval

/-! ## What oblivion means -/

namespace Run.Oblivious

variable {α : Type} {files : FileSystem} {good : α → Prop} {x : Run α}

/-- **The store alone decides**: an outcome is that of a machine which has
done nothing yet, with the machine's past put before it. -/
theorem eq_behind (h : Oblivious files good x) (m : Machine) :
    x m = behind m.past (x (.fresh m.store)) := by
  rw [← h.moves, m.fresh_behind_past]

theorem result_eq (h : Oblivious files good x) (m : Machine) :
    x.result m = x.result (.fresh m.store) := by
  rw [result, h.eq_behind m, result]
  cases x (.fresh m.store) <;> rfl

theorem final_eq (h : Oblivious files good x) (m : Machine) :
    x.final m = (x.final (.fresh m.store)).behind m.past := by
  rw [final, h.eq_behind m, final]
  cases x (.fresh m.store) <;> rfl

end Run.Oblivious

end MiniScheme
