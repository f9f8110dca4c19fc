import Mathlib.Order.Basic
import MiniScheme.Proofs.Eval.Failures

/-!
# Relations between evaluations

Many facts about evaluation compare two runs of it: with more depth and
with less, from a store and from one that differs in a cell, with every
result inspected and without.  The rules of evaluation are the same in all
of them, and this module goes through the rules once.

A `Policy` says what the values of a run are made of.  It keeps **code**,
which is evaluated, apart from **data**, which is computed; code may become
data by being quoted, and data never becomes code.  What counts as data may
grow during a run, as procedures are made, so it is relative to a `World`.

A `Logic` is a policy together with a relation between computations that is
kept by sequencing and holds between each step of the machine and itself.

**Evaluation keeps every such relation**: if two ways of doing the smaller
pieces of work are related, so are the two ways of doing one piece of work
(`Relates.perform`), and by induction on the depth evaluation is related to
itself (`relates_evaluate`).

## Main results

* `Form.isCode_of_ofParts?` — a special form is taken apart into code.
* `Logic.Relates.perform` — one piece of work.
* `Logic.relates_evaluate` — all evaluation.
-/

namespace MiniScheme

/-- The text is the source text of a file that loading can come upon. -/
def Context.Loads (ctx : Context) (text : String) : Prop :=
  ∃ name path bytes, ctx.files.resolve ctx.roots name = .ok path ∧ path.isBroken = false ∧
    ctx.files.read path = .ok bytes ∧ sourceText? bytes = some text

/-! ## Forms -/

/-- All that a form evaluates, binds or makes a procedure of is code. -/
def Form.IsCode (code : Value → Prop) : Form → Prop
  | .quote datum => datum.All code
  | .choose test consequent alternative =>
    test.All code ∧ consequent.All code ∧ alternative.All code
  | .badChoice _ => True
  | .assign name value | .define name value => code (.symbol name) ∧ value.All code
  | .defineProcedure name t => code (.symbol name) ∧ ∀ expr ∈ t.body, expr.All code
  | .lambda t => ∀ expr ∈ t.body, expr.All code

/-- The parts of a special form are parts of the expression. -/
theorem Form.isCode_of_ofParts? {code : Value → Prop} {head : Value} {tail : List Value}
    {form : Form} (hCode : (Value.list (head :: tail)).All code)
    (h : Form.ofParts? head tail = some form) : form.IsCode code := by
  have hTail : ∀ v ∈ tail, v.All code := (List.forall_mem_cons.1 (Value.all_list_iff.1 hCode).2).2
  unfold Form.ofParts? at h
  split at h
  · obtain ⟨keyword, -, hForm⟩ := Option.bind_eq_some_iff.1 h
    unfold Keyword.form? at hForm
    split at hForm <;> cases hForm
    case h_3 => trivial
    all_goals simp only [List.forall_mem_cons, Value.all_list_iff, Value.all_dotted_iff] at hTail
    · exact hTail.1
    · exact ⟨hTail.1, hTail.2.1, hTail.2.2.1⟩
    · exact ⟨hTail.1.self, hTail.2.1⟩
    · exact ⟨hTail.1.self, hTail.2.1⟩
    · exact ⟨hTail.1.2.1.self, hTail.2⟩
    · exact ⟨hTail.1.2.1.1.self, hTail.2⟩
    · exact hTail.2
    · exact hTail.2
    · exact hTail.2
  · cases h

/-! ## Policies and logics -/

/-- The only world of a run in which nothing new comes to count as data. -/
inductive OneWorld where
  | here

instance : Preorder OneWorld where
  le _ _ := True
  le_refl _ := trivial
  le_trans _ _ _ _ _ := trivial

/-- What the code and the data of a run are made of, and how a run may
fail. -/
structure Policy (ctx : Context) (World : Type) [Preorder World] where
  /-- May the value occur in an expression? -/
  code : Value → Prop
  /-- May the value occur in a computed one? -/
  data : World → Value → Prop
  failure : Failure → Prop
  data_mono : ∀ {w w' v}, w ≤ w' → data w v → data w' v
  data_of_code : ∀ {w v}, code v → data w v
  data_of_isSyntax : ∀ {w v}, v.IsSyntax → data w v
  /-- The body of a procedure is code. -/
  body : ∀ {w fn}, data w (.closure fn) → ∀ expr ∈ fn.body, expr.All code
  /-- Calling a procedure without a body gives a foreign value. -/
  foreign : ∀ {w fn}, data w (.closure fn) → fn.body = [] → data w .foreign
  /-- What cannot be written is no expression. -/
  stuck : ∀ {v}, code v → ¬ v.IsSyntax → failure (.error (.badForm .unrecognized v))
  loaded : ∀ {text forms}, ctx.Loads text → Reader.readAll text = .ok forms →
    ∀ form ∈ forms, form.All code
  failure_of_isOrdinary : ∀ {e}, e.IsOrdinary ctx.files → failure e

/-- A relation between computations that each step of the machine has to
itself.  `Rel w good x y` says of the computations `x` and `y`, begun in the
world `w`, that they are related and that a result is `good` in the world
they end in. -/
structure Logic (ctx : Context) (World : Type) [Preorder World] extends Policy ctx World where
  Rel : {α : Type} → World → (World → α → Prop) → Run α → Run α → Prop
  pure : ∀ {α : Type} {w} {good : World → α → Prop} {a}, good w a →
    Rel w good (Pure.pure a) (Pure.pure a)
  throw : ∀ {α : Type} {w} {good : World → α → Prop} {e}, failure e →
    Rel w good (MonadExcept.throw e) (MonadExcept.throw e)
  bind : ∀ {α β : Type} {w} {good : World → α → Prop} {better : World → β → Prop}
    {x y : Run α} {f g : α → Run β}, Rel w good x y →
    (∀ w' a, w ≤ w' → good w' a → Rel w' better (f a) (g a)) →
    Rel w better (x >>= f) (y >>= g)
  emit : ∀ {w} text, Rel w (fun _ _ => True) (Run.emit text) (Run.emit text)
  noteOpened : ∀ {w} path, Rel w (fun _ _ => True) (Run.noteOpened path) (Run.noteOpened path)
  getVar : ∀ {w name} f, code (.symbol name) →
    Rel w (fun w v => v.All (data w)) (Run.getVar f name) (Run.getVar f name)
  setVar : ∀ {w name v} f, code (.symbol name) → v.All (data w) →
    Rel w (fun w v => v.All (data w)) (Run.setVar f name v) (Run.setVar f name v)
  defineVar : ∀ {w name v} f, code (.symbol name) → v.All (data w) →
    Rel w (fun w v => v.All (data w)) (Run.defineVar f name v) (Run.defineVar f name v)
  makeClosure : ∀ {w t} frame, (∀ expr ∈ t.body, expr.All code) →
    Rel w (fun w v => v.All (data w)) (Eval.makeClosure frame t) (Eval.makeClosure frame t)
  callFrame : ∀ {w fn args}, data w (.closure fn) → (∀ v ∈ args, v.All (data w)) →
    Rel w (fun _ _ => True) (Run.create (·.callFrame fn args)) (Run.create (·.callFrame fn args))

namespace Logic

open Eval

variable {ctx : Context} {World : Type} [Preorder World] (L : Logic ctx World)

/-- The computations are related and their results are data. -/
def Yields (w : World) (x y : Run Value) : Prop := L.Rel w (fun w v => v.All (L.data w)) x y

/-- Two ways of doing pieces of work that are related on code and data. -/
structure Relates (sub sub' : Worker) : Prop where
  eval : ∀ w {expr} frame, expr.All L.code →
    L.Yields w (sub (.eval expr frame)) (sub' (.eval expr frame))
  apply : ∀ w {fn args}, fn.All (L.data w) → (∀ v ∈ args, v.All (L.data w)) →
    L.Yields w (sub (.apply fn args)) (sub' (.apply fn args))

variable {L} {w w' : World}

theorem all_data_mono (hw : w ≤ w') {v : Value} (hv : v.All (L.data w)) : v.All (L.data w') :=
  hv.mono fun _ => L.data_mono hw

theorem all_data_nil : Value.nil.All (L.data w) :=
  Value.all_list_iff.2 ⟨L.data_of_isSyntax trivial, List.forall_mem_nil _⟩

theorem all_data_of_isSyntax {v : Value} (hv : v.All Value.IsSyntax) : v.All (L.data w) :=
  hv.mono fun _ => L.data_of_isSyntax

/-! ## Failing -/

section Failing

variable {α : Type} {good : World → α → Prop}

theorem halt {f : Fault} (h : Failure.IsOrdinary ctx.files (.fault f)) :
    L.Rel w good (Run.halt f) (Run.halt f) := L.throw (L.failure_of_isOrdinary h)

theorem fail {e : Error} (h : Failure.IsOrdinary ctx.files (.error e)) :
    L.Rel w good (Run.fail e) (Run.fail e) := L.throw (L.failure_of_isOrdinary h)

theorem ofExcept {result : Except Error α} (h : Answers (good w) result) :
    L.Rel w good (Run.ofExcept result) (Run.ofExcept result) := by
  cases result with
  | ok a => exact L.pure h
  | error e => exact fail (h.isOrdinary _)

theorem ofFailing {read : List Char → Except Reader.Stop α} {text : String}
    (h : ∀ a, Reader.run read text = .ok a → good w a) :
    L.Rel w good (Run.ofFailing (Reader.run read text))
      (Run.ofFailing (Reader.run read text)) := by
  cases hRun : Reader.run read text with
  | ok a => exact L.pure (h a hRun)
  | error e => exact L.throw (L.failure_of_isOrdinary (Reader.isOrdinary_of_run hRun _))

theorem toText (v : Value) :
    L.Rel w (fun _ _ => True) (Run.ofExcept v.toText) (Run.ofExcept v.toText) :=
  ofExcept (Answers.toText v)

theorem toItems {v : Value} (hv : v.All (L.data w)) :
    L.Rel w (fun w items => ∀ v ∈ items, v.All (L.data w)) (Run.ofExcept v.toItems)
      (Run.ofExcept v.toItems) :=
  ofExcept (Answers.toItems hv)

theorem ofFaulty {result : Except Fault String}
    (h : ∀ f, result = .error f → Failure.IsOrdinary ctx.files (.fault f)) :
    L.Rel w (fun _ _ => True) (Run.ofFaulty result) (Run.ofFaulty result) := by
  cases result with
  | ok text => exact L.pure trivial
  | error f => exact halt (h f rfl)

theorem render (form : Value → List Char) (v : Value) :
    L.Rel w (fun _ _ => True) (Run.ofFaulty (v.render form)) (Run.ofFaulty (v.render form)) :=
  ofFaulty fun _ hRender => Value.isOrdinary_of_render hRender _

end Failing

/-! ## The rules of evaluation -/

section Rules

variable {sub sub' : Worker} (hSub : L.Relates sub sub')

include hSub

theorem Relates.evalAll (frame : FrameId) {exprs : List Value}
    (hExprs : ∀ expr ∈ exprs, expr.All L.code) :
    L.Rel w (fun w vs => ∀ v ∈ vs, v.All (L.data w)) (evalAll sub frame exprs)
      (evalAll sub' frame exprs) := by
  induction exprs generalizing w with
  | nil => exact L.pure (List.forall_mem_nil _)
  | cons expr rest ih =>
      obtain ⟨hFirst, hRest⟩ := List.forall_mem_cons.1 hExprs
      refine L.bind (hSub.eval w frame hFirst) fun w₁ v _ hv => ?_
      refine L.bind (ih hRest) fun w₂ vs hw hvs => ?_
      exact L.pure (List.forall_mem_cons.2 ⟨all_data_mono hw hv, hvs⟩)

/-- The value to start with matters only where there is no expression. -/
theorem Relates.evalLast (frame : FrameId) {last : Value} {exprs : List Value}
    (hLast : exprs = [] → last.All (L.data w)) (hExprs : ∀ expr ∈ exprs, expr.All L.code) :
    L.Yields w (evalLast sub frame last exprs) (evalLast sub' frame last exprs) := by
  induction exprs generalizing w last with
  | nil => exact L.pure (hLast rfl)
  | cons expr rest ih =>
      obtain ⟨hFirst, hRest⟩ := List.forall_mem_cons.1 hExprs
      exact L.bind (hSub.eval w frame hFirst) fun w₁ v _ hv => ih (fun _ => hv) hRest

theorem Relates.performForm (frame : FrameId) {form : Form} (hForm : form.IsCode L.code) :
    L.Yields w (performForm sub frame form) (performForm sub' frame form) := by
  cases form with
  | quote datum => exact L.pure (hForm.mono fun _ => L.data_of_code)
  | choose test consequent alternative =>
      obtain ⟨hTest, hConsequent, hAlternative⟩ := hForm
      refine L.bind (hSub.eval w frame hTest) fun w₁ v _ _ => ?_
      split
      · exact hSub.eval w₁ frame hAlternative
      · exact hSub.eval w₁ frame hConsequent
  | badChoice parts => exact fail trivial
  | assign name value =>
      refine L.bind (hSub.eval w frame hForm.2) fun w₁ v _ hv => ?_
      exact L.setVar frame hForm.1 hv
  | define name value =>
      refine L.bind (hSub.eval w frame hForm.2) fun w₁ v _ hv => ?_
      exact L.defineVar frame hForm.1 hv
  | defineProcedure name t =>
      refine L.bind (L.makeClosure frame hForm.2) fun w₁ v _ hv => ?_
      exact L.defineVar frame hForm.1 hv
  | lambda t => exact L.makeClosure frame hForm

theorem Relates.performEval (frame : FrameId) {expr : Value} (hExpr : expr.All L.code) :
    L.Yields w (performEval sub frame expr) (performEval sub' frame expr) := by
  cases expr with
  | int | string | bool | char | dotted => exact L.pure (hExpr.mono fun _ => L.data_of_code)
  | symbol name => exact L.getVar frame hExpr.self
  | primitive | closure | foreign => exact L.throw (L.stuck hExpr.self id)
  | list items =>
      cases items with
      | nil => exact L.pure all_data_nil
      | cons head tail =>
          obtain ⟨hHead, hTail⟩ := List.forall_mem_cons.1 (Value.all_list_iff.1 hExpr).2
          simp only [Eval.performEval]
          split
          · next form hForm =>
              exact hSub.performForm frame (Form.isCode_of_ofParts? hExpr hForm)
          · refine L.bind (hSub.eval w frame hHead) fun w₁ fn _ hFn => ?_
            refine L.bind (hSub.evalAll frame hTail) fun w₂ args hw hArgs => ?_
            exact hSub.apply w₂ (all_data_mono hw hFn) hArgs

omit hSub in
/-- What loading comes upon. -/
theorem source (name : String) :
    L.Rel w (fun _ text => ctx.Loads text) (source ctx name) (source ctx name) := by
  have hResolve : L.Rel w (fun _ path => ctx.files.resolve ctx.roots name = .ok path)
      (Run.ofFaulty (ctx.files.resolve ctx.roots name))
      (Run.ofFaulty (ctx.files.resolve ctx.roots name)) := by
    cases hSearch : ctx.files.resolve ctx.roots name with
    | ok path => exact L.pure rfl
    | error f => exact halt (FileSystem.isOrdinary_of_resolve hSearch)
  refine L.bind hResolve fun w₁ path _ hPath => ?_
  refine L.bind (L.noteOpened path) fun w₂ _ _ _ => ?_
  split
  · exact halt trivial
  · next hBroken =>
      split
      · next problem hRead =>
          refine fail ?_
          cases problem with
          | missing | isDirectory | notDirectory => trivial
          | nameTooLong => exact ⟨path, hRead⟩
      · next bytes hRead =>
          split
          · next text hText =>
              exact L.pure ⟨name, path, bytes, hPath, Bool.eq_false_iff.2 hBroken, hRead, hText⟩
          · exact halt trivial

theorem Relates.load (name : String) :
    L.Yields w (load ctx sub name) (load ctx sub' name) := by
  refine L.bind (source name) fun w₁ text _ hText => ?_
  have hRead : L.Rel w₁ (fun _ forms => ∀ form ∈ forms, form.All L.code)
      (Run.ofFailing (Reader.readAll text)) (Run.ofFailing (Reader.readAll text)) :=
    ofFailing fun forms hForms => L.loaded hText hForms
  refine L.bind hRead fun w₂ forms _ hForms => ?_
  exact hSub.evalLast ctx.globals (fun _ => all_data_nil) hForms

theorem Relates.performPrimitive (op : Primitive) {args : List Value}
    (hArgs : ∀ v ∈ args, v.All (L.data w)) :
    L.Yields w (performPrimitive ctx sub op args) (performPrimitive ctx sub' op args) := by
  unfold Eval.performPrimitive
  split
  · next f hOp =>
      exact ofExcept (Primitive.answers_pure? (fun _ => L.data_of_isSyntax) hOp hArgs)
  · split
    · refine L.bind (render _ _) fun _ text _ _ => ?_
      exact L.bind (L.emit text) fun _ _ _ _ => L.pure all_data_nil
    · refine L.bind (render _ _) fun _ text _ _ => ?_
      exact L.bind (L.emit text) fun _ _ _ _ => L.pure all_data_nil
    · exact L.bind (L.emit _) fun _ _ _ _ => L.pure all_data_nil
    · exact fail trivial
    · refine L.bind (toText _) fun _ text _ _ => ?_
      exact ofFailing fun v hv => all_data_of_isSyntax (Reader.all_isSyntax_of_readOne hv)
    · exact L.bind (toText _) fun _ name _ _ => hSub.load name
    · next fn first more _ =>
        obtain ⟨hFn, hMore⟩ := List.forall_mem_cons.1 hArgs
        have hSpread := hMore _ (List.getLast_mem (List.cons_ne_nil first more))
        refine L.bind (toItems hSpread) fun w₁ items hw hItems => ?_
        refine hSub.apply w₁ (all_data_mono hw hFn) fun v hv => ?_
        rcases List.mem_append.1 hv with hFront | hItem
        · exact all_data_mono hw (hMore v (List.dropLast_subset _ hFront))
        · exact hItems v hItem
    · exact fail trivial
    · exact fail trivial

theorem Relates.performClosure {fn : Closure Value} {args : List Value}
    (hFn : L.data w (.closure fn)) (hArgs : ∀ v ∈ args, v.All (L.data w)) :
    L.Yields w (performClosure sub fn args) (performClosure sub' fn args) := by
  unfold Eval.performClosure
  split
  · refine L.bind (L.callFrame hFn hArgs) fun w₁ frame hw _ => ?_
    -- The body runs in a later world, in which the procedure is still data.
    have hFn₁ := L.data_mono hw hFn
    refine hSub.evalLast frame (fun hEmpty => ?_) (L.body hFn₁)
    exact (Value.all_iff_of_isLeaf rfl).2 (L.foreign hFn₁ hEmpty)
  · exact fail trivial

/-- **One piece of work** is done in related ways if the smaller pieces
are. -/
theorem Relates.perform : L.Relates (perform ctx sub) (perform ctx sub') where
  eval w _ frame hExpr := hSub.performEval frame hExpr
  apply w fn args hFn hArgs := by
    show L.Yields w (performApply ctx sub fn args) (performApply ctx sub' fn args)
    unfold performApply
    split
    · exact hSub.performClosure hFn.self hArgs
    · exact hSub.performPrimitive _ hArgs
    · exact fail trivial

end Rules

/-- **Evaluation is related to itself**, by every logic and to any depth. -/
theorem relates_evaluate (L : Logic ctx World) (depth : Nat) :
    L.Relates (evaluate ctx depth) (evaluate ctx depth) := by
  induction depth with
  | zero => exact ⟨fun _ _ _ _ => halt trivial, fun _ _ _ _ _ => halt trivial⟩
  | succ depth ih => exact ih.perform

end Logic

end MiniScheme
