import MiniScheme.Proofs.Eval.Evolution
import MiniScheme.Proofs.Eval.Logic
import MiniScheme.Proofs.Store.Twins

/-!
# Runs from twins

Two machines are twins for a scope if their stores are and if they have
written and opened the same.  `Run.Paired` says of two computations that,
started from twins, they end alike: with the same good result or the same
ordinary failure, and in twins again.

This makes a logic for the policy that a scope stands for.  So evaluating
code of the scope from twins ends alike, and the values it computes are
sound.

`evaluateInspected` puts every result of every evaluation, however deeply
nested, before an inspector who can stop the run.  If the inspector lets
sound values pass, the run is not stopped (`relates_inspected`).  In this
sense not only the results that a user sees are sound but all that ever
come about.

## Main results

* `Run.Paired.bind` — sequencing.
* `Scope.twinRuns` — the logic.
* `Scope.paired_evaluate` — evaluating code of the scope from twins.
* `Logic.relates_inspected` — inspecting changes nothing.
-/

namespace MiniScheme

/-- The machines differ in hidden cells only. -/
structure Machine.Twins (σ : Scope) (m m' : Machine) : Prop where
  store : m.store.Twins σ m'.store
  output : m'.output = m.output
  opened : m'.opened = m.opened

theorem Machine.Twins.withStore {σ : Scope} {m m' : Machine} (h : m.Twins σ m') {s s' : Store}
    (hStore : s.Twins σ s') : Machine.Twins σ { m with store := s } { m' with store := s' } :=
  { h with store := hStore }

theorem Machine.Twins.eq_of_whole {m m' : Machine} (h : m.Twins .whole m') : m' = m := by
  obtain ⟨s, output, opened⟩ := m
  obtain ⟨s', output', opened'⟩ := m'
  rw [show s' = s from h.store.eq_of_whole, show output' = output from h.output,
    show opened' = opened from h.opened]

/-! ## Making procedures -/

theorem Template.body_of_instantiate {t : Template} {frame : FrameId} {id : Nat}
    {fn : Closure Value} (h : t.instantiate frame id = .ok fn) :
    fn.body = t.body ∧ t.body ≠ [] := by
  unfold Template.instantiate at h
  split at h
  · cases h
  · split at h
    · cases h
    · split at h
      · cases h
      · next hBody =>
          cases h
          exact ⟨rfl, fun hEmpty => hBody (List.isEmpty_iff.2 hEmpty)⟩

theorem Eval.makeClosure_eq (frame : FrameId) (t : Template) (m : Machine) :
    makeClosure frame t m =
      match t.instantiate frame m.store.closures with
      | .ok fn => .ok (.closure fn) { m with store := m.store.nextClosure.1 }
      | .error e => .error (.error e) m := by
  show EStateM.bind (Run.ofExcept (t.instantiate frame m.store.closures)) _ m = _
  cases t.instantiate frame m.store.closures <;> rfl

/-! ## Computations from twins -/

namespace Run

variable {α β : Type} {σ : Scope} {files : FileSystem}

/-- The result of a computation, or its failure. -/
def result (x : Run α) (m : Machine) : Except Failure α :=
  match x m with
  | .ok a _ => .ok a
  | .error e _ => .error e

theorem create_eq (f : Store → Store × α) (m : Machine) :
    create f m = .ok (f m.store).2 { m with store := (f m.store).1 } := rfl

/-- Two outcomes that are alike: a good result or an ordinary failure. -/
inductive Alike (σ : Scope) (files : FileSystem) (good : α → Prop) :
    EStateM.Result Failure Machine α → EStateM.Result Failure Machine α → Prop
  | ok {a : α} {m m' : Machine} (hGood : good a) (hTwins : m.Twins σ m') :
      Alike σ files good (.ok a m) (.ok a m')
  | error {e : Failure} {m m' : Machine} (hOrdinary : e.IsOrdinary files)
      (hTwins : m.Twins σ m') : Alike σ files good (.error e m) (.error e m')

/-- Where nothing is hidden, outcomes that are alike are the same. -/
theorem Alike.eq_of_whole {good : α → Prop}
    {outcome outcome' : EStateM.Result Failure Machine α}
    (h : Alike .whole files good outcome outcome') : outcome' = outcome := by
  cases h with
  | ok _ hTwins => rw [hTwins.eq_of_whole]
  | error _ hTwins => rw [hTwins.eq_of_whole]

/-- From twins, the two computations end alike. -/
def Paired (σ : Scope) (files : FileSystem) (good : α → Prop) (x y : Run α) : Prop :=
  ∀ m m', m.Twins σ m' → Alike σ files good (x m) (y m')

namespace Paired

variable {good : α → Prop} {better : β → Prop}

theorem pure {a : α} (ha : good a) : Paired σ files good (Pure.pure a) (Pure.pure a) :=
  fun _ _ h => .ok ha h

theorem throw {e : Failure} (he : e.IsOrdinary files) :
    Paired σ files good (MonadExcept.throw e) (MonadExcept.throw e) :=
  fun _ _ h => .error he h

theorem bind {x y : Run α} {f g : α → Run β} (hx : Paired σ files good x y)
    (hf : ∀ a, good a → Paired σ files better (f a) (g a)) :
    Paired σ files better (x >>= f) (y >>= g) := by
  intro m m' h
  show Alike σ files better (EStateM.bind x f m) (EStateM.bind y g m')
  rw [EStateM.bind, EStateM.bind]
  have hFirst := hx m m' h
  generalize x m = outcome, y m' = outcome' at hFirst
  cases hFirst with
  | ok hGood hTwins => exact hf _ hGood _ _ hTwins
  | error hOrdinary hTwins => exact .error hOrdinary hTwins

/-- The results of paired computations are equal, and twins are left. -/
theorem result_eq {x y : Run α} (h : Paired σ files good x y) {m m' : Machine}
    (hTwins : m.Twins σ m') :
    y.result m' = x.result m ∧ (x.final m).Twins σ (y.final m') := by
  have hAlike := h m m' hTwins
  unfold result final
  generalize x m = outcome, y m' = outcome' at hAlike
  cases hAlike with
  | ok _ hAfter => exact ⟨rfl, hAfter⟩
  | error _ hAfter => exact ⟨rfl, hAfter⟩

theorem emit (text : String) : Paired σ files (fun _ => True) (emit text) (emit text) :=
  fun _ _ h => .ok trivial { h with output := congrArg (· ++ text) h.output }

theorem noteOpened (path : Path) :
    Paired σ files (fun _ => True) (noteOpened path) (noteOpened path) :=
  fun _ _ h => .ok trivial { h with opened := congrArg (·.push path) h.opened }

theorem getVar (f : FrameId) {name : String} (hName : σ.names name) :
    Paired σ files (Value.All σ.data) (getVar f name) (getVar f name) := by
  intro m m' h
  rw [getVar_eq, getVar_eq, h.store.get?_eq hName]
  cases hValue : m.store.get? f name with
  | some v => exact .ok (h.store.all_data_of_get? hName hValue) h
  | none => exact .error trivial h

theorem defineVar (f : FrameId) {name : String} {v : Value} (hName : σ.names name)
    (hv : v.All σ.data) :
    Paired σ files (Value.All σ.data) (defineVar f name v) (defineVar f name v) := by
  intro m m' h
  have hChange : Store.Change.InScope σ (.define f name v) := ⟨hName, hv⟩
  exact .ok hv (h.withStore (h.store.after hChange))

theorem setVar (f : FrameId) {name : String} {v : Value} (hName : σ.names name)
    (hv : v.All σ.data) :
    Paired σ files (Value.All σ.data) (setVar f name v) (setVar f name v) := by
  intro m m' h
  rw [setVar_eq, setVar_eq, Store.isBound, Store.isBound, h.store.cell?_eq]
  split
  · exact defineVar f hName hv m m' h
  · exact .error trivial h

theorem makeClosure (frame : FrameId) {t : Template} (hBody : ∀ expr ∈ t.body, expr.All σ.code) :
    Paired σ files (Value.All σ.data) (Eval.makeClosure frame t) (Eval.makeClosure frame t) := by
  intro m m' h
  rw [Eval.makeClosure_eq, Eval.makeClosure_eq, h.store.closures]
  cases hMade : t.instantiate frame m.store.closures with
  | error e => exact .error (Template.isOrdinary_of_instantiate hMade files) h
  | ok fn =>
      obtain ⟨hSame, hNonempty⟩ := Template.body_of_instantiate hMade
      have hFn : σ.data (.closure fn) := ⟨hSame ▸ hNonempty, hSame ▸ hBody⟩
      have hChange : Store.Change.InScope σ .number := trivial
      exact .ok ((Value.all_iff_of_isLeaf rfl).2 hFn) (h.withStore (h.store.after hChange))

theorem callFrame (fn : Closure Value) {args : List Value} (hArgs : ∀ v ∈ args, v.All σ.data) :
    Paired σ files (fun _ => True) (create (·.callFrame fn args))
      (create (·.callFrame fn args)) := by
  intro m m' h
  obtain ⟨hTwins, hSame⟩ := h.store.callFrame fn hArgs
  rw [create_eq, create_eq, hSame]
  exact .ok trivial (h.withStore hTwins)

end Paired

end Run

/-! ## The logic of a scope -/

namespace Scope

/-- All forms of the files that can be loaded are code of the scope. -/
def Covers (σ : Scope) (ctx : Context) : Prop :=
  ∀ text forms, ctx.Loads text → Reader.readAll text = .ok forms →
    ∀ form ∈ forms, form.All σ.code

/-- The policy that a scope stands for. -/
def policy (σ : Scope) {ctx : Context} (hFiles : σ.Covers ctx) : Policy ctx OneWorld where
  code := σ.code
  data _ := σ.data
  failure e := e.IsOrdinary ctx.files
  data_mono _ h := h
  data_of_code h := data_of_isSyntax (isSyntax_of_code h)
  data_of_isSyntax := data_of_isSyntax
  body h := h.2
  foreign h hEmpty := absurd hEmpty h.1
  stuck h hNot := absurd (isSyntax_of_code h) hNot
  loaded := hFiles _ _
  failure_of_isOrdinary h := h

/-- Ending alike from twins, as a logic. -/
def twinRuns (σ : Scope) {ctx : Context} (hFiles : σ.Covers ctx) : Logic ctx OneWorld where
  toPolicy := σ.policy hFiles
  Rel w good x y := Run.Paired σ ctx.files (good w) x y
  pure := .pure
  throw := .throw
  bind hx hf := hx.bind fun a ha => hf .here a trivial ha
  emit := .emit
  noteOpened := .noteOpened
  getVar f h := .getVar f h
  setVar f h hv := .setVar f h hv
  defineVar f h hv := .defineVar f h hv
  makeClosure frame h := .makeClosure frame h
  callFrame _ hArgs := .callFrame _ hArgs

/-- **Evaluating code of the scope from twins ends alike.** -/
theorem paired_evaluate {σ : Scope} {ctx : Context} (hFiles : σ.Covers ctx) (depth : Nat)
    {expr : Value} (hExpr : expr.All σ.code) (frame : FrameId) :
    Run.Paired σ ctx.files (Value.All σ.data) (Eval.evaluate ctx depth (.eval expr frame))
      (Eval.evaluate ctx depth (.eval expr frame)) :=
  (Logic.relates_evaluate (σ.twinRuns hFiles) depth).eval .here frame hExpr

end Scope

/-! ## Inspecting every result -/

namespace Eval

/-- The computation, unless its result does not pass. -/
def inspect (passes : Value → Bool) (alarm : Failure) (x : Run Value) : Run Value := do
  let v ← x
  if passes v then pure v else throw alarm

/-- Evaluation in which every result is inspected, however deeply nested,
and the run fails with `alarm` where one does not pass. -/
def evaluateInspected (ctx : Context) (passes : Value → Bool) (alarm : Failure) : Nat → Worker
  | 0, _ => Run.halt .tooDeep
  | depth + 1, task =>
    inspect passes alarm (perform ctx (evaluateInspected ctx passes alarm depth) task)

end Eval

namespace Logic

open Eval

variable {ctx : Context} {World : Type} [Preorder World] {L : Logic ctx World}

theorem Yields.inspect {passes : Value → Bool}
    (hPasses : ∀ w v, v.All (L.data w) → passes v = true) (alarm : Failure) {w : World}
    {x y : Run Value} (h : L.Yields w x y) : L.Yields w (inspect passes alarm x) y := by
  rw [← bind_pure y]
  refine L.bind h fun w' v _ hv => ?_
  rw [if_pos (hPasses w' v hv)]
  exact L.pure hv

/-- **Inspecting changes nothing**, if data passes. -/
theorem relates_inspected {passes : Value → Bool}
    (hPasses : ∀ w v, v.All (L.data w) → passes v = true) (alarm : Failure) (depth : Nat) :
    L.Relates (evaluateInspected ctx passes alarm depth) (evaluate ctx depth) := by
  induction depth with
  | zero => exact ⟨fun _ _ _ _ => halt trivial, fun _ _ _ _ _ => halt trivial⟩
  | succ depth ih =>
      refine ⟨fun w _ frame hExpr => ?_, fun w _ _ hFn hArgs => ?_⟩
      · exact (ih.perform.eval w frame hExpr).inspect hPasses alarm
      · exact (ih.perform.apply w hFn hArgs).inspect hPasses alarm

end Logic

end MiniScheme
