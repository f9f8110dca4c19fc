import MiniScheme.Proofs.Eval.TwinRuns

/-!
# The identity of procedures

A procedure carries the number under which it was made, and procedures are
compared by their numbers.  This is sound only if no two procedures that a
program can come by have one number.

Imagine a register of all procedures, in the order in which they were made.
A procedure is `Genuine` if the register has it under its number.  Two
genuine procedures with one number are one procedure, and a procedure that
is about to be made has the number behind the last entry, which no genuine
one has.  **Evaluation keeps all that can be found genuine**, while the
register only grows: this is a logic whose worlds are registers.

A user may hand procedures over inside of expressions, so code is not free
of them.  It holds procedures that were made before the evaluation began,
and `base` is the register at that time.

Not only what an evaluation returns is genuine.  `evaluateWatched` shows
every piece of work that is done inside of it, with the store before and
after, to a watcher who can stop the run, and a watcher who lets sound
moments pass does not stop it.

## Main results

* `Value.Genuine.eq_of_eqv` — equivalent procedures are the same.
* `Register.identity` — the logic.
* `Register.relates_watched` — every piece of work inside is sound.
-/

namespace MiniScheme

/-! ## Genuine procedures -/

/-- A procedure is the one that was made under its number. -/
def Value.Genuine (made : List (Closure Value)) : Value → Prop
  | .closure fn => made[fn.id]? = some fn
  | _ => True

namespace Value

variable {made made' : List (Closure Value)} {f g : Closure Value} {v : Value}

theorem genuine_of_isSyntax (h : v.IsSyntax) : v.Genuine made := by
  cases v with
  | closure => cases h
  | _ => trivial

theorem Genuine.mono (hGrown : made <+: made') (h : v.Genuine made) : v.Genuine made' := by
  cases v with
  | closure fn =>
      obtain ⟨later, rfl⟩ := hGrown
      exact (List.getElem?_append_left (List.getElem?_eq_some_iff.1 h).1).trans h
  | _ => trivial

theorem All.genuine_mono (hGrown : made <+: made') (h : v.All (Genuine made)) :
    v.All (Genuine made') :=
  h.mono fun _ => Genuine.mono hGrown

theorem Genuine.id_lt (h : (closure f).Genuine made) : f.id < made.length :=
  (List.getElem?_eq_some_iff.1 h).1

theorem eqv_closure_iff : (closure f).eqv (closure g) = true ↔ f.id = g.id := by
  rw [eqv, beq_iff_eq]

/-- **Equivalent procedures are the same**, if they are genuine. -/
theorem Genuine.eq_of_eqv (hf : (closure f).Genuine made) (hg : (closure g).Genuine made)
    (h : (closure f).eqv (closure g) = true) : f = g := by
  have hSame : made[f.id]? = some f := hf
  rw [eqv_closure_iff.1 h] at hSame
  exact Option.some.inj (hSame.symm.trans hg)

end Value

/-- A procedure is made under the number it is given. -/
theorem Template.id_of_instantiate {t : Template} {frame : FrameId} {id : Nat}
    {fn : Closure Value} (h : t.instantiate frame id = .ok fn) : fn.id = id := by
  unfold Template.instantiate at h
  split at h
  · cases h
  · split at h
    · cases h
    · split at h
      · cases h
      · cases h
        rfl

/-! ## What the cells hold -/

namespace Store

/-- All that the cells hold has the property. -/
def Holds (s : Store) (p : Value → Prop) : Prop := ∀ v ∈ s.cells, p v

variable {s : Store} {p : Value → Prop}

theorem Holds.of_get? (h : s.Holds p) {f : FrameId} {name : String} {v : Value}
    (hv : s.get? f name = some v) : p v := by
  obtain ⟨cell, -, hHeld⟩ := Option.bind_eq_some_iff.1 hv
  exact h v (Array.mem_of_getElem? hHeld)

theorem Holds.define (h : s.Holds p) (f : FrameId) (name : String) {v : Value} (hv : p v) :
    (s.define f name v).Holds p := by
  intro u hu
  cases hCell : s.cell? f name with
  | some cell =>
      rw [define_of_cell? hCell] at hu
      rcases Array.mem_or_eq_of_mem_setIfInBounds hu with hOld | rfl
      · exact h u hOld
      · exact hv
  | none =>
      rw [define_of_unbound hCell] at hu
      rcases Array.mem_push.1 hu with hOld | rfl
      · exact h u hOld
      · exact hv

theorem Holds.derive (h : s.Holds p) (base : FrameId) {batch : List (String × Value)}
    (hBatch : ∀ entry ∈ batch, p entry.2) : (s.derive base batch).1.Holds p := by
  intro u hu
  have hSplit : u ∈ s.cells.toList ++ (firstOccurrences batch).map (·.2) := by
    rw [← Array.toList_appendList]
    exact Array.mem_def.1 hu
  rcases List.mem_append.1 hSplit with hOld | hNew
  · exact h u (Array.mem_def.2 hOld)
  · obtain ⟨entry, hEntry, rfl⟩ := List.mem_map.1 hNew
    exact hBatch entry (firstOccurrences_subset batch hEntry)

theorem Holds.callFrame (h : s.Holds p) (fn : Closure Value) {args : List Value}
    (hArgs : ∀ v ∈ args, p v) (hRest : p (.list (args.drop fn.arity))) :
    (s.callFrame fn args).1.Holds p := by
  have hParams := h.derive fn.frame fun entry (hEntry : entry ∈ fn.params.zip args) =>
    hArgs _ (List.of_mem_zip hEntry).2
  unfold Store.callFrame
  cases fn.rest with
  | none => exact hParams
  | some rest => exact hParams.derive _ (List.forall_mem_singleton.2 hRest)

theorem closures_define (s : Store) (f : FrameId) (name : String) (v : Value) :
    (s.define f name v).closures = s.closures := by
  rw [Store.define]
  split <;> rfl

theorem closures_callFrame (s : Store) (fn : Closure Value) (args : List Value) :
    (s.callFrame fn args).1.closures = s.closures := by
  rw [Store.callFrame]
  cases fn.rest <;> rfl

end Store

/-! ## Registers -/

/-- The procedures made so far, the first of which are those of `base`.  The
bodies of all of them hold no procedures but these first ones. -/
structure Register (base : List (Closure Value)) where
  made : List (Closure Value)
  grown : base <+: made
  body : ∀ fn ∈ made, ∀ expr ∈ fn.body, expr.All (Value.Genuine base)

namespace Register

variable {base : List (Closure Value)}

instance : Preorder (Register base) where
  le w w' := w.made <+: w'.made
  le_refl w := List.prefix_refl w.made
  le_trans _ _ _ := List.IsPrefix.trans

/-- The register is that of a store: it has as many entries as procedures
were made, and all that the cells hold is genuine. -/
structure Fits (w : Register base) (s : Store) : Prop where
  count : s.closures = w.made.length
  cells : s.Holds (Value.All (Value.Genuine w.made))

/-- The register with one more procedure. -/
def add (w : Register base) (fn : Closure Value)
    (hBody : ∀ expr ∈ fn.body, expr.All (Value.Genuine base)) : Register base where
  made := w.made ++ [fn]
  grown := w.grown.trans (List.prefix_append _ _)
  body := by
    intro other hOther
    rcases List.mem_append.1 hOther with hOld | hNew
    · exact w.body other hOld
    · rw [List.mem_singleton.1 hNew]
      exact hBody

theorem le_add (w : Register base) {fn : Closure Value}
    (hBody : ∀ expr ∈ fn.body, expr.All (Value.Genuine base)) : w ≤ w.add fn hBody :=
  List.prefix_append _ _

/-! ## Computations that keep the register -/

variable {α β : Type} {w : Register base} {good : Register base → α → Prop}
  {better : Register base → β → Prop}

/-- The outcome leaves a store with a register that has grown from `w`, in
which a result is `good`. -/
def Ends (w : Register base) (good : Register base → α → Prop) :
    EStateM.Result Failure Machine α → Prop
  | .ok a m => ∃ w', w ≤ w' ∧ w'.Fits m.store ∧ good w' a
  | .error _ m => ∃ w', w ≤ w' ∧ w'.Fits m.store

/-- Where the register fits, the two computations do the same and keep it. -/
def Keeps (w : Register base) (good : Register base → α → Prop) (x y : Run α) : Prop :=
  ∀ m, w.Fits m.store → x m = y m ∧ w.Ends good (y m)

theorem Ends.of_le {w' : Register base} (hw : w ≤ w')
    {outcome : EStateM.Result Failure Machine α} (h : w'.Ends good outcome) :
    w.Ends good outcome := by
  cases outcome with
  | ok a m =>
      obtain ⟨w'', hw', hRest⟩ := h
      exact ⟨w'', le_trans hw hw', hRest⟩
  | error e m =>
      obtain ⟨w'', hw', hRest⟩ := h
      exact ⟨w'', le_trans hw hw', hRest⟩

theorem Keeps.pure {a : α} (ha : good w a) : w.Keeps good (Pure.pure a) (Pure.pure a) :=
  fun _ hFits => ⟨rfl, w, le_refl w, hFits, ha⟩

theorem Keeps.throw (e : Failure) :
    w.Keeps good (MonadExcept.throw e) (MonadExcept.throw e) :=
  fun _ hFits => ⟨rfl, w, le_refl w, hFits⟩

theorem Keeps.bind {x y : Run α} {f g : α → Run β} (hx : w.Keeps good x y)
    (hf : ∀ w' a, w ≤ w' → good w' a → w'.Keeps better (f a) (g a)) :
    w.Keeps better (x >>= f) (y >>= g) := by
  intro m hFits
  obtain ⟨hSame, hEnds⟩ := hx m hFits
  cases hFirst : y m with
  | ok a m' =>
      rw [hFirst] at hSame hEnds
      obtain ⟨w', hw, hFits', hGood⟩ := hEnds
      obtain ⟨hSame', hEnds'⟩ := hf w' a hw hGood m' hFits'
      rw [Run.bind_eq_of_ok hSame, Run.bind_eq_of_ok hFirst]
      exact ⟨hSame', hEnds'.of_le hw⟩
  | error e m' =>
      rw [hFirst] at hSame hEnds
      rw [Run.bind_eq_of_error hSame, Run.bind_eq_of_error hFirst]
      exact ⟨rfl, hEnds⟩

/-- A computation that leaves the store alone. -/
theorem Keeps.of_store_eq {x : Run α}
    (hx : ∀ m, ∃ a m', x m = .ok a m' ∧ m'.store = m.store) (hGood : ∀ a, good w a) :
    w.Keeps good x x := by
  intro m hFits
  obtain ⟨a, m', hOutcome, hStore⟩ := hx m
  rw [hOutcome]
  exact ⟨rfl, w, le_refl w, hStore ▸ hFits, hGood a⟩

section Steps

variable {v : Value}

theorem Keeps.emit (text : String) :
    w.Keeps (fun _ _ => True) (Run.emit text) (Run.emit text) :=
  .of_store_eq (fun _ => ⟨_, _, rfl, rfl⟩) fun _ => trivial

theorem Keeps.noteOpened (path : Path) :
    w.Keeps (fun _ _ => True) (Run.noteOpened path) (Run.noteOpened path) :=
  .of_store_eq (fun _ => ⟨_, _, rfl, rfl⟩) fun _ => trivial

theorem Keeps.getVar (f : FrameId) (name : String) :
    w.Keeps (fun w v => v.All (Value.Genuine w.made)) (Run.getVar f name)
      (Run.getVar f name) := by
  intro m hFits
  refine ⟨rfl, ?_⟩
  rw [Run.getVar_eq]
  cases hv : m.store.get? f name with
  | some v => exact ⟨w, le_refl w, hFits, hFits.cells.of_get? hv⟩
  | none => exact ⟨w, le_refl w, hFits⟩

theorem Fits.define {s : Store} (hFits : w.Fits s) (f : FrameId) (name : String)
    (hv : v.All (Value.Genuine w.made)) : w.Fits (s.define f name v) where
  count := (s.closures_define f name v).trans hFits.count
  cells := hFits.cells.define f name hv

theorem Keeps.defineVar (f : FrameId) (name : String) (hv : v.All (Value.Genuine w.made)) :
    w.Keeps (fun w v => v.All (Value.Genuine w.made)) (Run.defineVar f name v)
      (Run.defineVar f name v) :=
  fun _ hFits => ⟨rfl, w, le_refl w, hFits.define f name hv, hv⟩

theorem Keeps.setVar (f : FrameId) (name : String) (hv : v.All (Value.Genuine w.made)) :
    w.Keeps (fun w v => v.All (Value.Genuine w.made)) (Run.setVar f name v)
      (Run.setVar f name v) := by
  intro m hFits
  refine ⟨rfl, ?_⟩
  rw [Run.setVar_eq]
  split
  · exact ⟨w, le_refl w, hFits.define f name hv, hv⟩
  · exact ⟨w, le_refl w, hFits⟩

/-- A new procedure is entered under its number, which is the number of the
entries so far. -/
theorem Keeps.makeClosure (frame : FrameId) {t : Template}
    (hBody : ∀ expr ∈ t.body, expr.All (Value.Genuine base)) :
    w.Keeps (fun w v => v.All (Value.Genuine w.made)) (Eval.makeClosure frame t)
      (Eval.makeClosure frame t) := by
  intro m hFits
  refine ⟨rfl, ?_⟩
  rw [Eval.makeClosure_eq]
  cases hMade : t.instantiate frame m.store.closures with
  | error e => exact ⟨w, le_refl w, hFits⟩
  | ok fn =>
      have hFn : ∀ expr ∈ fn.body, expr.All (Value.Genuine base) :=
        (Template.body_of_instantiate hMade).1.symm ▸ hBody
      have hLe := w.le_add hFn
      have hEntry : (w.add fn hFn).made[fn.id]? = some fn := by
        rw [Template.id_of_instantiate hMade, hFits.count]
        exact List.getElem?_concat_length
      refine ⟨w.add fn hFn, hLe, ⟨?_, ?_⟩, (Value.all_iff_of_isLeaf rfl).2 hEntry⟩
      · show m.store.closures + 1 = (w.made ++ [fn]).length
        rw [hFits.count, List.length_append, List.length_singleton]
      · exact fun v hv => (hFits.cells v hv).genuine_mono hLe

theorem Keeps.callFrame (fn : Closure Value) {args : List Value}
    (hArgs : ∀ v ∈ args, v.All (Value.Genuine w.made)) :
    w.Keeps (fun _ _ => True) (Run.create (·.callFrame fn args))
      (Run.create (·.callFrame fn args)) := by
  intro m hFits
  have hRest : (Value.list (args.drop fn.arity)).All (Value.Genuine w.made) :=
    Value.all_list_iff.2 ⟨trivial, fun v hv => hArgs v (List.mem_of_mem_drop hv)⟩
  refine ⟨rfl, w, le_refl w, ⟨?_, hFits.cells.callFrame fn hArgs hRest⟩, trivial⟩
  exact (m.store.closures_callFrame fn args).trans hFits.count

end Steps

/-! ## The logic -/

/-- Code holds procedures of the base only, and data those of the register. -/
def policy (ctx : Context) (base : List (Closure Value)) : Policy ctx (Register base) where
  code := Value.Genuine base
  data w := Value.Genuine w.made
  failure _ := True
  data_mono := Value.Genuine.mono
  data_of_code {w _} := Value.Genuine.mono w.grown
  data_of_isSyntax := Value.genuine_of_isSyntax
  body {w _} h := w.body _ (List.mem_of_getElem? h)
  foreign _ _ := trivial
  stuck _ _ := trivial
  loaded _ hRead form hForm :=
    (Reader.all_isSyntax_of_readAll hRead form hForm).mono fun _ => Value.genuine_of_isSyntax
  failure_of_isOrdinary _ := trivial

/-- **Evaluation keeps all that can be found genuine**, as a logic. -/
def identity (ctx : Context) (base : List (Closure Value)) : Logic ctx (Register base) where
  toPolicy := policy ctx base
  Rel w good x y := w.Keeps good x y
  pure := .pure
  throw _ := .throw _
  bind hx hf := hx.bind hf
  emit := .emit
  noteOpened := .noteOpened
  getVar f _ := .getVar f _
  setVar f _ hv := .setVar f _ hv
  defineVar f _ hv := .defineVar f _ hv
  makeClosure frame hBody := .makeClosure frame hBody
  callFrame _ hArgs := .callFrame _ hArgs

end Register

/-! ## Moments -/

/-- The values that a piece of work is given. -/
def Task.values : Task → List Value
  | .eval expr _ => [expr]
  | .apply fn args => fn :: args

/-- Is the work to evaluate a form that makes a procedure? -/
def Task.makesProcedure : Task → Bool
  | .eval (.list (head :: tail)) _ =>
    match Form.ofParts? head tail with
    | some (.lambda _) | some (.defineProcedure _ _) => true
    | _ => false
  | _ => false

/-- A piece of work that was done, with the stores before and after. -/
structure Moment where
  task : Task
  before : Store
  result : Except Failure Value
  after : Store

namespace Moment

/-- The moment at which the work is done in the given way. -/
def of (task : Task) (x : Run Value) (m : Machine) : Moment where
  task
  before := m.store
  result := x.result m
  after := (x.final m).store

/-- The procedure could be found when the work began: in what the work was
given, or in a cell. -/
def Begins (moment : Moment) (fn : Closure Value) : Prop :=
  ∃ v, (v ∈ moment.task.values ∨ v ∈ moment.before.cells) ∧ Value.Occurs (.closure fn) v

/-- The procedure can be found when the work has ended: in its result, or in
a cell. -/
def Ends (moment : Moment) (fn : Closure Value) : Prop :=
  ∃ v, (moment.result = .ok v ∨ v ∈ moment.after.cells) ∧ Value.Occurs (.closure fn) v

/-- The identity of procedures is sound at the moment. -/
structure Sound (moment : Moment) : Prop where
  /-- Equivalent procedures are the same, also if one is found before and
  the other after. -/
  same : ∀ f g, moment.Begins f ∨ moment.Ends f → moment.Begins g ∨ moment.Ends g →
    (Value.closure f).eqv (.closure g) = true → f = g
  /-- What is found was made before, and the count of what was made is not
  turned back. -/
  begins_lt : ∀ f, moment.Begins f → f.id < moment.before.closures
  ends_lt : ∀ f, moment.Ends f → f.id < moment.after.closures
  count_le : moment.before.closures ≤ moment.after.closures
  /-- A procedure that is made is equivalent to none that was made before. -/
  fresh : moment.task.makesProcedure = true → ∀ v, moment.result = .ok v →
    ∃ fn, v = .closure fn ∧
      ∀ g, g.id < moment.before.closures → (Value.closure fn).eqv (.closure g) = false

end Moment

namespace Eval

theorem closure_of_makeClosure {frame : FrameId} {t : Template} {m m' : Machine} {v : Value}
    (h : makeClosure frame t m = .ok v m') : ∃ fn, v = .closure fn ∧ fn.id = m.store.closures := by
  rw [makeClosure_eq] at h
  cases hMade : t.instantiate frame m.store.closures with
  | error e =>
      rw [hMade] at h
      cases h
  | ok fn =>
      rw [hMade] at h
      cases h
      exact ⟨fn, rfl, Template.id_of_instantiate hMade⟩

/-- **A form that makes a procedure** makes one with the next number, however
the smaller pieces of work are done. -/
theorem closure_of_makesProcedure {ctx : Context} {sub : Worker} {task : Task}
    (hTask : task.makesProcedure = true) {m m' : Machine} {v : Value}
    (h : perform ctx sub task m = .ok v m') :
    ∃ fn, v = .closure fn ∧ fn.id = m.store.closures := by
  unfold Task.makesProcedure at hTask
  split at hTask
  · next head tail frame =>
      split at hTask
      · next t hForm =>
          rw [perform, performEval, hForm] at h
          exact closure_of_makeClosure h
      · next name t hForm =>
          rw [perform, performEval, hForm] at h
          have hSteps : (makeClosure frame t >>= Run.defineVar frame name) m = .ok v m' := h
          cases hMade : makeClosure frame t m with
          | error e m₁ =>
              rw [Run.bind_eq_of_error hMade] at hSteps
              cases hSteps
          | ok fn m₁ =>
              rw [Run.bind_eq_of_ok hMade] at hSteps
              cases hSteps
              exact closure_of_makeClosure hMade
      · cases hTask
  · cases hTask

/-- The work, unless the moment at which it is done does not pass. -/
def watch (passes : Moment → Bool) (alarm : Failure) (task : Task) (x : Run Value) : Run Value :=
  fun m => if passes (.of task x m) then x m else .error alarm (x.final m)

/-- Evaluation in which every piece of work is watched, however deeply nested
and however it ends, and the run fails with `alarm` where a moment does not
pass. -/
def evaluateWatched (ctx : Context) (passes : Moment → Bool) (alarm : Failure) : Nat → Worker
  | 0, _ => Run.halt .tooDeep
  | depth + 1, task =>
    watch passes alarm task (perform ctx (evaluateWatched ctx passes alarm depth) task)

end Eval

/-! ## Every moment is sound -/

namespace Register

open Eval

variable {base : List (Closure Value)} {w w' : Register base}

/-- What the outcome leaves has a register, and a result is good in it. -/
theorem Ends.exists_fits {α : Type} {good : Register base → α → Prop} {x : Run α} {m : Machine}
    (h : w.Ends good (x m)) :
    ∃ w', w ≤ w' ∧ w'.Fits (x.final m).store ∧ ∀ a, x.result m = .ok a → good w' a := by
  unfold Run.final Run.result
  cases hOutcome : x m with
  | ok a m' =>
      rw [hOutcome] at h
      obtain ⟨w', hw, hFits, hGood⟩ := h
      refine ⟨w', hw, hFits, ?_⟩
      rintro _ ⟨⟩
      exact hGood
  | error e m' =>
      rw [hOutcome] at h
      obtain ⟨w', hw, hFits⟩ := h
      exact ⟨w', hw, hFits, nofun⟩

/-- A moment is sound if what is found before is in one register and what is
found after in one that has grown from it. -/
theorem sound_of_fits {moment : Moment} (hw : w ≤ w') (hBefore : w.Fits moment.before)
    (hTask : ∀ v ∈ moment.task.values, v.All (Value.Genuine w.made))
    (hAfter : w'.Fits moment.after)
    (hResult : ∀ v, moment.result = .ok v → v.All (Value.Genuine w'.made))
    (hMade : moment.task.makesProcedure = true → ∀ v, moment.result = .ok v →
      ∃ fn, v = .closure fn ∧ fn.id = moment.before.closures) : moment.Sound := by
  have hBegins : ∀ fn, moment.Begins fn → (Value.closure fn).Genuine w.made := by
    rintro fn ⟨v, hGiven | hCell, hOccurs⟩
    · exact hTask v hGiven _ hOccurs
    · exact hBefore.cells v hCell _ hOccurs
  have hEnds : ∀ fn, moment.Ends fn → (Value.closure fn).Genuine w'.made := by
    rintro fn ⟨v, hGiven | hCell, hOccurs⟩
    · exact hResult v hGiven _ hOccurs
    · exact hAfter.cells v hCell _ hOccurs
  have hFound : ∀ fn, moment.Begins fn ∨ moment.Ends fn → (Value.closure fn).Genuine w'.made := by
    rintro fn (h | h)
    · exact (hBegins fn h).mono hw
    · exact hEnds fn h
  refine ⟨fun f g hf hg => (hFound f hf).eq_of_eqv (hFound g hg), fun f hf => ?_, fun f hf => ?_,
    ?_, fun hForm v hv => ?_⟩
  · rw [hBefore.count]
    exact (hBegins f hf).id_lt
  · rw [hAfter.count]
    exact (hEnds f hf).id_lt
  · rw [hBefore.count, hAfter.count]
    exact hw.length_le
  · obtain ⟨fn, rfl, hId⟩ := hMade hForm v hv
    refine ⟨fn, rfl, fun g hg => Bool.eq_false_iff.2 fun hSame => ?_⟩
    exact absurd hg (Nat.not_lt.2 (Nat.le_of_eq (hId.symm.trans (Value.eqv_closure_iff.1 hSame))))

variable {ctx : Context} {passes : Moment → Bool}
  (hPasses : ∀ moment : Moment, moment.Sound → passes moment = true)

include hPasses

theorem Keeps.watch (alarm : Failure) {task : Task}
    (hTask : ∀ v ∈ task.values, v.All (Value.Genuine w.made)) {sub : Worker} {y : Run Value}
    (h : w.Keeps (fun w v => v.All (Value.Genuine w.made)) (perform ctx sub task) y) :
    w.Keeps (fun w v => v.All (Value.Genuine w.made))
      (Eval.watch passes alarm task (perform ctx sub task)) y := by
  intro m hFits
  obtain ⟨hSame, hEnds⟩ := h m hFits
  obtain ⟨w', hw, hAfter, hResult⟩ := Ends.exists_fits (hSame.symm ▸ hEnds)
  have hMade : task.makesProcedure = true → ∀ v, (perform ctx sub task).result m = .ok v →
      ∃ fn, v = .closure fn ∧ fn.id = m.store.closures := by
    intro hForm v hv
    unfold Run.result at hv
    split at hv
    · next hOutcome =>
        cases hv
        exact closure_of_makesProcedure hForm hOutcome
    · cases hv
  have hSound : (Moment.of task (perform ctx sub task) m).Sound :=
    sound_of_fits hw hFits hTask hAfter hResult hMade
  refine ⟨?_, hEnds⟩
  rw [Eval.watch, if_pos (hPasses _ hSound)]
  exact hSame

/-- **Watching changes nothing**, if sound moments pass: so every piece of
work is done at a sound moment. -/
theorem relates_watched (alarm : Failure) (depth : Nat) :
    (identity ctx base).Relates (evaluateWatched ctx passes alarm depth)
      (evaluate ctx depth) := by
  induction depth with
  | zero => exact ⟨fun _ _ _ _ => Logic.halt trivial, fun _ _ _ _ _ => Logic.halt trivial⟩
  | succ depth ih =>
      refine ⟨fun w expr frame hExpr => ?_, fun w fn args hFn hArgs => ?_⟩
      · have hTask : ∀ v ∈ (Task.eval expr frame).values, v.All (Value.Genuine w.made) :=
          List.forall_mem_singleton.2 (hExpr.genuine_mono w.grown)
        exact Keeps.watch hPasses alarm hTask (ih.perform.eval w frame hExpr)
      · have hTask : ∀ v ∈ (Task.apply fn args).values, v.All (Value.Genuine w.made) :=
          List.forall_mem_cons.2 ⟨hFn, hArgs⟩
        exact Keeps.watch hPasses alarm hTask (ih.perform.apply w hFn hArgs)

end Register

end MiniScheme
