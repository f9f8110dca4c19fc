import MiniScheme.Interpreter
import MiniScheme.Proofs.Eval.Evolution
import MiniScheme.Proofs.Eval.Logic

/-!
# The limit of nesting is transparent

Evaluation that runs out of depth gives up, and nothing holds it up on its
way out: no rule of evaluation looks at a failure.  So more depth changes
nothing about an evaluation that does not give up, neither its outcome nor
what it leaves behind.

`Run.Agrees good x y` says that `y` does what `x` does unless `x` gives up.
It makes a logic for the policy that asks for nothing, and evaluation with
less depth agrees with evaluation with more because the one that has none
left agrees with everything.

## Main results

* `Eval.relates_evaluate_of_le` — evaluation with less depth agrees with
  evaluation with more.
* `depth_transparent` — with growing depth, whatever an interpreter is asked
  to do gives up forever or settles on one outcome.
-/

namespace MiniScheme

namespace Run

variable {α β : Type}

/-- Has a computation ended because it was nested too deeply? -/
def gaveUp : EStateM.Result Failure Machine α → Bool
  | .error (.fault .tooDeep) _ => true
  | _ => false

theorem exists_of_gaveUp {outcome : EStateM.Result Failure Machine α}
    (h : gaveUp outcome = true) : ∃ m, outcome = .error (.fault .tooDeep) m := by
  unfold gaveUp at h
  split at h
  · exact ⟨_, rfl⟩
  · cases h

/-- The second computation does what the first one does, with a `good`
result if there is one, unless the first one gives up. -/
def Agrees (good : α → Prop) (x y : Run α) : Prop :=
  ∀ m, gaveUp (x m) = true ∨ x m = y m ∧ ∀ a m', x m = .ok a m' → good a

namespace Agrees

variable {good : α → Prop} {better : β → Prop}

theorem of_forall (hGood : ∀ a, good a) (x : Run α) : Agrees good x x :=
  fun _ => .inr ⟨rfl, fun a _ _ => hGood a⟩

theorem pure {a : α} (ha : good a) : Agrees good (Pure.pure a) (Pure.pure a) := by
  intro m
  refine .inr ⟨rfl, ?_⟩
  rintro _ _ ⟨⟩
  exact ha

theorem throw (e : Failure) : Agrees good (MonadExcept.throw e) (MonadExcept.throw e) :=
  fun _ => .inr ⟨rfl, nofun⟩

theorem tooDeep (y : Run α) : Agrees good (halt .tooDeep) y := fun _ => .inl rfl

theorem bind {x y : Run α} {f g : α → Run β} (hx : Agrees good x y)
    (hf : ∀ a, good a → Agrees better (f a) (g a)) : Agrees better (x >>= f) (y >>= g) := by
  intro m
  show gaveUp (EStateM.bind x f m) = true ∨ EStateM.bind x f m = EStateM.bind y g m ∧
    ∀ b m', EStateM.bind x f m = .ok b m' → better b
  rw [EStateM.bind, EStateM.bind]
  rcases hx m with hUp | ⟨hSame, hGood⟩
  · obtain ⟨m', h⟩ := exists_of_gaveUp hUp
    rw [h]
    exact .inl rfl
  · rw [← hSame]
    cases h : x m with
    | ok a m' => exact hf a (hGood a m' h) m'
    | error e m' => exact .inr ⟨rfl, nofun⟩

end Agrees

end Run

namespace Eval

/-- The policy that asks for nothing. -/
def anything (ctx : Context) : Policy ctx OneWorld where
  code _ := True
  data _ _ := True
  failure _ := True
  data_mono _ _ := trivial
  data_of_code _ := trivial
  data_of_isSyntax _ := trivial
  body _ _ _ _ _ := trivial
  foreign _ _ := trivial
  stuck _ _ := trivial
  loaded _ _ _ _ _ _ := trivial
  failure_of_isOrdinary _ := trivial

/-- Agreement up to giving up, as a logic. -/
def agreement (ctx : Context) : Logic ctx OneWorld where
  toPolicy := anything ctx
  Rel w good x y := Run.Agrees (good w) x y
  pure := .pure
  throw _ := .throw _
  bind hx hf := hx.bind fun a ha => hf .here a trivial ha
  emit _ := .of_forall (fun _ => trivial) _
  noteOpened _ := .of_forall (fun _ => trivial) _
  getVar _ _ := .of_forall (fun _ _ _ => trivial) _
  setVar _ _ _ := .of_forall (fun _ _ _ => trivial) _
  defineVar _ _ _ := .of_forall (fun _ _ _ => trivial) _
  makeClosure _ _ := .of_forall (fun _ _ _ => trivial) _
  callFrame _ _ := .of_forall (fun _ => trivial) _

/-- **Evaluation with less depth agrees with evaluation with more.** -/
theorem relates_evaluate_of_le (ctx : Context) {d d' : Nat} (hd : d ≤ d') :
    (agreement ctx).Relates (evaluate ctx d) (evaluate ctx d') := by
  -- The induction is on the smaller depth: where none is left, anything is agreed with.
  induction d generalizing d' with
  | zero => exact ⟨fun _ _ _ _ => .tooDeep _, fun _ _ _ _ _ => .tooDeep _⟩
  | succ d ih =>
      obtain ⟨e, rfl⟩ := Nat.exists_eq_add_of_le' (Nat.lt_of_lt_of_le (Nat.succ_pos d) hd)
      exact (ih (Nat.le_of_succ_le_succ hd)).perform

end Eval

/-! ## What an interpreter is asked to do -/

/-- For each machine the work either gives up at every depth or settles on
one outcome, and what it does at a depth where it does not give up is that
outcome.  An outcome is the result or the failure together with all that is
left behind. -/
def Settles {α : Type} (work : Nat → Run α) : Prop :=
  ∀ m,
    (∀ d d', d ≤ d' → Run.gaveUp (work d m) = false → work d' m = work d m) ∧
    ((∃ d₀ outcome, Run.gaveUp outcome = false ∧ ∀ d, d₀ ≤ d → work d m = outcome) ∨
      ∀ d, Run.gaveUp (work d m) = true)

theorem Settles.of_agrees {α : Type} {good : α → Prop} {work : Nat → Run α}
    (h : ∀ d d', d ≤ d' → Run.Agrees good (work d) (work d')) : Settles work := by
  intro m
  have hKept : ∀ d d', d ≤ d' → Run.gaveUp (work d m) = false → work d' m = work d m := by
    intro d d' hd hNot
    rcases h d d' hd m with hUp | ⟨hSame, -⟩
    · rw [hUp] at hNot
      cases hNot
    · exact hSame.symm
  refine ⟨hKept, ?_⟩
  by_cases hAll : ∀ d, Run.gaveUp (work d m) = true
  · exact .inr hAll
  · obtain ⟨d₀, hNot⟩ := not_forall.1 hAll
    have hNot₀ := Bool.eq_false_iff.2 hNot
    exact .inl ⟨d₀, work d₀ m, hNot₀, fun d hd => hKept d₀ d hd hNot₀⟩

/-- Two depths at which the work does not give up make no difference. -/
theorem Settles.eq_of_not_gaveUp {α : Type} {work : Nat → Run α} (h : Settles work) {m : Machine}
    {d d' : Nat} (hd : Run.gaveUp (work d m) = false) (hd' : Run.gaveUp (work d' m) = false) :
    work d m = work d' m := by
  rcases Nat.le_total d d' with hLe | hLe
  · exact ((h m).1 d d' hLe hd).symm
  · exact (h m).1 d' d hLe hd'

theorem all_anything (ctx : Context) (v : Value) : v.All (Eval.anything ctx).code :=
  fun _ _ => trivial

theorem Eval.settles_evaluate (ctx : Context) (task : Task) :
    Settles fun d => evaluate ctx d task := by
  have hAgrees : ∀ d d', d ≤ d' → Run.Agrees (fun v => v.All fun _ => True)
      (evaluate ctx d task) (evaluate ctx d' task) := by
    intro d d' hd
    have hRelates := relates_evaluate_of_le ctx hd
    cases task with
    | eval expr frame => exact hRelates.eval .here frame (all_anything ctx expr)
    | apply fn args =>
        exact hRelates.apply .here (all_anything ctx fn) fun v _ => all_anything ctx v
  exact .of_agrees hAgrees

theorem Interpreter.settles_load (ctx : Context) (name : String) :
    Settles fun d => load ctx d name :=
  .of_agrees fun _ _ hd => (Eval.relates_evaluate_of_le ctx hd).load (w := OneWorld.here) name

/-- **The limit of nesting is transparent.**  In every context, from every
machine, whatever an interpreter is asked to do does at a greater depth what
it does at a smaller one, unless it gives up there; so with growing depth it
gives up forever or settles on one outcome.  This holds of

* evaluating any expression in any frame, and applying anything to anything;
* evaluating the one expression of a text, and all of them;
* loading a file. -/
theorem depth_transparent (ctx : Context) :
    (∀ task, Settles fun d => Eval.evaluate ctx d task) ∧
    (∀ expr, Settles fun d => Interpreter.eval ctx d expr) ∧
    (∀ text, Settles fun d => Interpreter.evalText ctx d text) ∧
    (∀ text, Settles fun d => Interpreter.evalTextAll ctx d text) ∧
    (∀ name, Settles fun d => Interpreter.load ctx d name) := by
  have hRelates := fun {d d'} (hd : d ≤ d') => Eval.relates_evaluate_of_le ctx hd
  have hEval : ∀ {d d'}, d ≤ d' → ∀ expr frame, Run.Agrees (fun v => v.All fun _ => True)
      (Eval.evaluate ctx d (.eval expr frame)) (Eval.evaluate ctx d' (.eval expr frame)) :=
    fun hd expr frame => (hRelates hd).eval .here frame (all_anything ctx expr)
  have hRead : ∀ {α : Type} (result : Except Failure α),
      Run.Agrees (fun _ => True) (Run.ofFailing result) (Run.ofFailing result) :=
    fun result => .of_forall (fun _ => trivial) _
  refine ⟨fun task => ?_, fun expr => ?_, fun text => ?_, fun text => ?_, fun name => ?_⟩
  · cases task with
    | eval expr frame => exact .of_agrees fun d d' hd => hEval hd expr frame
    | apply fn args =>
        refine .of_agrees fun d d' hd => (hRelates hd).apply .here (fun _ _ => trivial) ?_
        exact fun _ _ _ _ => trivial
  · exact .of_agrees fun d d' hd => hEval hd expr ctx.globals
  · exact .of_agrees fun d d' hd =>
      (hRead (Reader.readOne text)).bind fun expr _ => hEval hd expr ctx.globals
  · exact .of_agrees fun d d' hd => (hRead (Reader.readAll text)).bind fun forms _ =>
      (hRelates hd).evalAll (w := OneWorld.here) ctx.globals fun form _ => all_anything ctx form
  · exact .of_agrees fun d d' hd => (hRelates hd).load (w := OneWorld.here) name

/-- A procedure that defines a name and then fails: evaluation gives up at a
depth of three, and from four on leaves the definition behind and fails. -/
theorem depth_transparent_call :
    let ctx : Context := { globals := 0, files := ⟨fun _ => .error .missing⟩, roots := [] }
    let m : Machine := { store := .empty, output := "", opened := #[] }
    let fn := Value.list [.symbol "lambda", .list [.symbol "x"],
      .list [.symbol "define", .symbol "z", .symbol "x"], .symbol "y"]
    let work := fun d => Eval.evaluate ctx d (.eval (.list [fn, .int 1]) 0)
    Run.gaveUp (work 3 m) = true ∧ (work 4).final m ≠ m ∧
      ∀ d, 4 ≤ d → work d m = .error (.error (.unbound .getting "y")) ((work 4).final m) := by
  intro ctx m fn work
  refine ⟨rfl, fun hSame => ?_, fun d hd => ?_⟩
  · have hFrames := congrArg (fun m => m.store.frames.size) hSame
    exact absurd hFrames (by decide)
  · exact (((depth_transparent ctx).1 (.eval (.list [fn, .int 1]) 0)) m).1 4 d hd rfl

end MiniScheme
