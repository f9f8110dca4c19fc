import MiniScheme.Eval.Basic
import MiniScheme.Proofs.Store.Change

/-!
# How an evaluation changes the store

`Run.Evolves touched x` says that whatever `x` does to the store, whether it
succeeds or fails, is a history of changes that adds names to no existing
frame outside `touched`.  It holds of the small computations of the machine
and is kept by sequencing, so each rule of evaluation needs one line for
each of its steps.

**A call adds names only to a frame that it has made itself.**  This is why
the frames that an application may touch do not depend on what is applied,
and why `Worker.Local` speaks of two kinds of frames only: the one an
expression is evaluated in, and the `shared` ones, in which files are
loaded.

## Main results

* `Run.Evolves.bind` — sequencing.
* `evolves_performEval`, `evolves_performApply` — one piece of work is local
  if the smaller pieces are.
* `evaluate_local` — so is all evaluation, to any depth.
-/

namespace MiniScheme

namespace Run

variable {α β : Type}

/-- The machine that a computation leaves behind, succeeding or not. -/
def final (x : Run α) (m : Machine) : Machine :=
  match x m with
  | .ok _ m' => m'
  | .error _ m' => m'

/-- All that a computation does to the store is a history that adds names to
no existing frame outside `touched`. -/
def Evolves (touched : Set FrameId) (x : Run α) : Prop :=
  ∀ m : Machine, m.store.Evolves touched (x.final m).store

theorem bind_eq_of_ok {x : Run α} {m m' : Machine} {a : α} (h : x m = .ok a m')
    (f : α → Run β) : (x >>= f) m = f a m' := by
  show EStateM.bind x f m = f a m'
  rw [EStateM.bind, h]

theorem bind_eq_of_error {x : Run α} {m m' : Machine} {e : Failure} (h : x m = .error e m')
    (f : α → Run β) : (x >>= f) m = .error e m' := by
  show EStateM.bind x f m = .error e m'
  rw [EStateM.bind, h]

theorem final_bind_of_ok {x : Run α} {m m' : Machine} {a : α} (h : x m = .ok a m')
    (f : α → Run β) : (x >>= f).final m = (f a).final m' := by
  rw [final, bind_eq_of_ok h, final]

theorem final_bind_of_error {x : Run α} {m m' : Machine} {e : Failure} (h : x m = .error e m')
    (f : α → Run β) : (x >>= f).final m = m' := by
  rw [final, bind_eq_of_error h]

theorem getVar_eq (f : FrameId) (name : String) (m : Machine) :
    getVar f name m =
      match m.store.get? f name with
      | some v => .ok v m
      | none => .error (.error (.unbound .getting name)) m := by
  show (match m.store.get? f name with | some v => _ | none => _ : Run Value) m = _
  cases m.store.get? f name <;> rfl

theorem setVar_eq (f : FrameId) (name : String) (v : Value) (m : Machine) :
    setVar f name v m =
      if m.store.isBound f name then .ok v { m with store := m.store.define f name v }
      else .error (.error (.unbound .setting name)) m := by
  show (if m.store.isBound f name then _ else _ : Run Value) m = _
  split <;> rfl

/-- An assignment is a change of the store, which fails if the name is not
bound and changes nothing then. -/
theorem store_final_setVar (f : FrameId) (name : String) (v : Value) (m : Machine) :
    ((setVar f name v).final m).store = m.store.after (.assign f name v) := by
  rw [final, setVar_eq, Store.isBound, Store.after]
  cases h : m.store.cell? f name with
  | none =>
      rw [Store.set?, h]
      rfl
  | some cell =>
      rw [Store.set?_of_cell? h, Option.getD_some]
      exact Store.define_of_cell? h v

namespace Evolves

variable {touched other : Set FrameId}

/-! ## Sequencing -/

/-- What leaves the store alone. -/
theorem of_store_eq {x : Run α} (h : ∀ m, (x.final m).store = m.store) : Evolves touched x := by
  intro m
  rw [h m]
  exact .refl _

theorem bind {x : Run α} {f : α → Run β} (hx : Evolves touched x)
    (hf : ∀ a, Evolves touched (f a)) : Evolves touched (x >>= f) := by
  intro m
  have hFirst := hx m
  cases h : x m with
  | ok a m' =>
      rw [final_bind_of_ok h]
      rw [final, h] at hFirst
      exact hFirst.trans (hf a m') fun g hg _ => hg
  | error e m' =>
      rw [final_bind_of_error h]
      rw [final, h] at hFirst
      exact hFirst

theorem mono {x : Run α} (hx : Evolves touched x) (hSub : touched ⊆ other) :
    Evolves other x :=
  fun m => (Store.Evolves.refl _).trans (hx m) fun _ hg _ => hSub hg

/-! ## The computations that evaluation is made of -/

theorem pure (a : α) : Evolves touched (Pure.pure a : Run α) := of_store_eq fun _ => rfl

theorem throw (e : Failure) : Evolves touched (throw e : Run α) := of_store_eq fun _ => rfl

theorem fail (e : Error) : Evolves touched (fail e : Run α) := throw _

theorem halt (f : Fault) : Evolves touched (halt f : Run α) := throw _

theorem ofExcept (result : Except Error α) : Evolves touched (ofExcept result) := by
  cases result with
  | ok a => exact pure a
  | error e => exact fail e

theorem ofFaulty (result : Except Fault α) : Evolves touched (ofFaulty result) := by
  cases result with
  | ok a => exact pure a
  | error f => exact halt f

theorem ofFailing (result : Except Failure α) : Evolves touched (ofFailing result) := by
  cases result with
  | ok a => exact pure a
  | error failure => exact throw failure

theorem get : Evolves touched (MonadState.get : Run Machine) := of_store_eq fun _ => rfl

theorem emit (text : String) : Evolves touched (emit text) := of_store_eq fun _ => rfl

theorem noteOpened (path : Path) : Evolves touched (noteOpened path) :=
  of_store_eq fun _ => rfl

theorem nextClosure : Evolves touched (create Store.nextClosure) :=
  fun m => .after_of_target?_eq_none m.store .number rfl

theorem getVar (f : FrameId) (name : String) : Evolves touched (getVar f name) := by
  refine bind get fun m => ?_
  split
  · exact pure _
  · exact fail _

/-- An assignment adds no name anywhere. -/
theorem setVar (f : FrameId) (name : String) (v : Value) : Evolves touched (setVar f name v) := by
  intro m
  rw [store_final_setVar]
  exact .after_of_target?_eq_none m.store _ rfl

theorem defineVar {f : FrameId} (hf : f ∈ touched) (name : String) (v : Value) :
    Evolves touched (defineVar f name v) := by
  refine bind (fun m => .after m.store (.define f name v) fun g hg => ?_) fun _ => pure v
  rw [← Option.some_inj.1 hg]
  exact hf

end Evolves

end Run

namespace Store

theorem evolves_derive (s : Store) (base : FrameId) (batch : List (String × Value))
    (touched : Set FrameId) : s.Evolves touched (s.derive base batch).1 :=
  .after_of_target?_eq_none s (.bind base batch) rfl

/-- A call works in a new frame, and making it adds names to no other. -/
theorem evolves_callFrame (s : Store) (fn : Closure Value) (args : List Value)
    (touched : Set FrameId) :
    s.Evolves touched (s.callFrame fn args).1 ∧ s.frames.size ≤ (s.callFrame fn args).2 := by
  have hParams := s.evolves_derive fn.frame (fn.params.zip args) touched
  unfold callFrame
  cases fn.rest with
  | none => exact ⟨hParams, Nat.le_refl _⟩
  | some rest =>
      refine ⟨hParams.trans (evolves_derive _ _ _ touched) fun _ hg _ => hg, ?_⟩
      exact hParams.grows.frames_le

end Store

namespace Eval

open Run (Evolves)

/-- Is the work a call that loads a file?  With a wrong number of arguments
the call fails before it looks for one. -/
def loadsFile : Task → Bool
  | .apply (.primitive _ .load) [_] => true
  | _ => false

/-- Work that adds names to no existing frame but the one in which it
evaluates an expression and those of `shared`. -/
structure Worker.Local (shared : Set FrameId) (sub : Worker) : Prop where
  eval : ∀ expr frame, Evolves (insert frame shared) (sub (.eval expr frame))
  apply : ∀ fn args, Evolves shared (sub (.apply fn args))

section Local

variable {shared : Set FrameId} {sub : Worker} (hSub : Worker.Local shared sub)

include hSub

theorem evolves_evalAll (frame : FrameId) (exprs : List Value) :
    Evolves (insert frame shared) (evalAll sub frame exprs) := by
  induction exprs with
  | nil => exact .pure _
  | cons expr rest ih =>
      refine (hSub.eval expr frame).bind fun v => ?_
      exact ih.bind fun vs => .pure _

theorem evolves_evalLast (frame : FrameId) (last : Value) (exprs : List Value) :
    Evolves (insert frame shared) (evalLast sub frame last exprs) := by
  induction exprs generalizing last with
  | nil => exact .pure _
  | cons expr rest ih => exact (hSub.eval expr frame).bind fun v => ih v

omit hSub in
theorem evolves_makeClosure (frame : FrameId) (t : Template) :
    Evolves shared (makeClosure frame t) := by
  refine Evolves.get.bind fun m => ?_
  refine (Evolves.ofExcept _).bind fun fn => ?_
  exact Evolves.nextClosure.bind fun _ => .pure _

theorem evolves_performForm (frame : FrameId) (form : Form) :
    Evolves (insert frame shared) (performForm sub frame form) := by
  have hHere : frame ∈ insert frame shared := Set.mem_insert frame shared
  cases form with
  | quote datum => exact .pure datum
  | choose test consequent alternative =>
      refine (hSub.eval test frame).bind fun v => ?_
      split
      · exact hSub.eval alternative frame
      · exact hSub.eval consequent frame
  | badChoice parts => exact .fail _
  | assign name value => exact (hSub.eval value frame).bind fun v => .setVar frame name v
  | define name value => exact (hSub.eval value frame).bind fun v => .defineVar hHere name v
  | defineProcedure name t =>
      exact (evolves_makeClosure frame t).bind fun fn => .defineVar hHere name fn
  | lambda t => exact evolves_makeClosure frame t

theorem evolves_performEval (frame : FrameId) (expr : Value) :
    Evolves (insert frame shared) (performEval sub frame expr) := by
  unfold performEval
  split
  any_goals exact .pure _
  · exact .getVar frame _
  · split
    · exact evolves_performForm hSub frame _
    · refine (hSub.eval _ frame).bind fun fn => ?_
      refine (evolves_evalAll hSub frame _).bind fun args => ?_
      exact (hSub.apply fn args).mono (Set.subset_insert frame shared)
  all_goals exact .fail _

omit hSub in
theorem evolves_source (ctx : Context) (name : String) : Evolves shared (source ctx name) := by
  refine (Evolves.ofFaulty _).bind fun path => ?_
  refine (Evolves.noteOpened path).bind fun _ => ?_
  split
  · exact .halt _
  · split
    · exact .fail _
    · split
      · exact .pure _
      · exact .halt _

/-- A file adds names to the global frame. -/
theorem evolves_load (ctx : Context) (name : String) :
    Evolves (insert ctx.globals shared) (load ctx sub name) := by
  refine (evolves_source ctx name).bind fun text => ?_
  refine (Evolves.ofFailing _).bind fun forms => ?_
  exact evolves_evalLast hSub ctx.globals .nil forms

theorem evolves_performPrimitive (ctx : Context) (name : String) (op : Primitive)
    (args : List Value)
    (hLoad : loadsFile (.apply (.primitive name op) args) = true → ctx.globals ∈ shared) :
    Evolves shared (performPrimitive ctx sub op args) := by
  unfold performPrimitive
  split
  · exact .ofExcept _
  · split
    · exact (Evolves.ofFaulty _).bind fun text => (Evolves.emit text).bind fun _ => .pure _
    · exact (Evolves.ofFaulty _).bind fun text => (Evolves.emit text).bind fun _ => .pure _
    · exact (Evolves.emit _).bind fun _ => .pure _
    · exact .fail _
    · exact (Evolves.ofExcept _).bind fun text => .ofFailing _
    · refine (Evolves.ofExcept _).bind fun file => ?_
      have hFile := evolves_load hSub ctx file
      rw [Set.insert_eq_of_mem (hLoad rfl)] at hFile
      exact hFile
    · exact (Evolves.ofExcept _).bind fun items => hSub.apply _ _
    · exact .fail _
    · exact .fail _

/-- The body of a procedure adds names to the frame of the call, which did
not exist before. -/
theorem evolves_performClosure (fn : Closure Value) (args : List Value) :
    Evolves shared (performClosure sub fn args) := by
  unfold performClosure
  split
  · intro m
    obtain ⟨hFrame, hNew⟩ := m.store.evolves_callFrame fn args shared
    -- Of the frames that the body may touch, the one of the call is too new to count.
    refine hFrame.trans (evolves_evalLast hSub _ .foreign fn.body _) fun g hg hOld => ?_
    exact hg.resolve_left fun hSame => absurd hOld (hSame ▸ Nat.not_lt.2 hNew)
  · exact .fail _

theorem evolves_performApply (ctx : Context) (fn : Value) (args : List Value)
    (hLoad : loadsFile (.apply fn args) = true → ctx.globals ∈ shared) :
    Evolves shared (performApply ctx sub fn args) := by
  unfold performApply
  split
  · exact evolves_performClosure hSub _ args
  · exact evolves_performPrimitive hSub ctx _ _ args hLoad
  · exact .fail _

/-- **One piece of work is local if the smaller pieces are**, as long as the
global frame is shared. -/
theorem perform_local {ctx : Context} (hGlobals : ctx.globals ∈ shared) :
    Worker.Local shared (perform ctx sub) where
  eval expr frame := evolves_performEval hSub frame expr
  apply fn args := evolves_performApply hSub ctx fn args fun _ => hGlobals

end Local

/-- **All evaluation is local**: it adds names to no existing frame but the
one it works in and the global one. -/
theorem evaluate_local (ctx : Context) (depth : Nat) :
    Worker.Local {ctx.globals} (evaluate ctx depth) := by
  induction depth with
  | zero => exact ⟨fun _ _ => .halt _, fun _ _ => .halt _⟩
  | succ depth ih => exact perform_local ih (Set.mem_singleton ctx.globals)

end Eval

end MiniScheme
