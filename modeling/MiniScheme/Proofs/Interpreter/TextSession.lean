import MiniScheme.Proofs.Eval.TwinRuns
import MiniScheme.Proofs.Interpreter.Session
import MiniScheme.Repl

/-!
# Sessions fed with text

Some rules of evaluation have an answer for things that no text can ask
for: for evaluating a procedure object, for calling a procedure without a
body, for taking a dotted list without elements apart.  This module shows
that programs given as text do not get there.

An `Input` is what a user can give an interpreter as text: expressions,
files, lines of the interactive loop, arguments.  Whatever was given before,
and however it ended, **all that the cells hold and all that is computed is
proper**: no foreign value anywhere, something before every dot, and in
every procedure a body that could have been written.

The invariant is that the machine is its own twin for the scope in which
every name may be used and nothing is hidden.

## Main results

* `Logic.Relates.workWith` — what an input computes is data, in every logic.
* `Sound.feed`, `Sound.feedAll` — an input, and a session, keeps the
  invariant.
* `text_stays_proper` — what follows for results, cells, failures and all
  evaluations inside.
-/

namespace MiniScheme

/-- No foreign value occurs in the value, no dotted list without elements,
and no procedure without a body that could have been written. -/
structure Value.Proper (v : Value) : Prop where
  foreign : ¬ Value.Occurs .foreign v
  /-- Every dotted list that occurs can be taken apart. -/
  dotted : ∀ head tail, Value.Occurs (.dotted head tail) v →
    head ≠ [] ∧ ((Value.dotted head tail).uncons?).isSome = true
  closure : ∀ fn, Value.Occurs (.closure fn) v →
    fn.body ≠ [] ∧ ∀ expr ∈ fn.body, expr.All Value.IsSyntax

theorem Value.uncons?_isSome_of_ne_nil {head : List Value} (h : head ≠ []) (tail : Value) :
    ((Value.dotted head tail).uncons?).isSome = true := by
  match head with
  | [] => exact absurd rfl h
  | [first] => rfl
  | first :: second :: rest => rfl

namespace Scope

theorem all_code_whole {v : Value} (h : v.All Value.IsSyntax) : v.All whole.code := by
  refine h.mono fun w hw => ?_
  cases w with
  | symbol => trivial
  | _ => exact hw

/-- Whatever can be read is code, if every name may be used. -/
theorem covers_whole (ctx : Context) : whole.Covers ctx :=
  fun _ _ _ hRead form hForm => all_code_whole (Reader.all_isSyntax_of_readAll hRead form hForm)

theorem proper_of_all_data {v : Value} (h : v.All whole.data) : v.Proper where
  foreign hOccurs := h _ hOccurs
  dotted head tail hOccurs :=
    ⟨h _ hOccurs, Value.uncons?_isSome_of_ne_nil (h _ hOccurs) tail⟩
  closure fn hOccurs := by
    obtain ⟨hNonempty, hBody⟩ := h _ hOccurs
    exact ⟨hNonempty, fun expr hExpr => (hBody expr hExpr).mono fun _ => isSyntax_of_code⟩

end Scope

/-- What cannot be reported of an ordinary failure is an ordinary fault. -/
theorem Failure.isOrdinary_of_report {failure : Failure} {f : Fault} {files : FileSystem}
    {depth : Nat} (h : failure.IsOrdinary files) (hReport : failure.report depth = .error f) :
    IsOrdinary files (.fault f) := by
  unfold report at hReport
  split at hReport
  · exact Error.isOrdinary_of_messageWithin hReport files
  · cases hReport
  · cases hReport
    exact h

namespace Interpreter

/-- What a user can give to an interpreter as text. -/
inductive Input where
  /-- A text with one expression. -/
  | one (text : String)
  /-- A text with any number of expressions. -/
  | all (text : String)
  /-- A file to load. -/
  | file (name : String)
  /-- A line of the interactive loop. -/
  | line (text : String)
  /-- The arguments of a program. -/
  | args (texts : List String)

namespace Input

/-- What is evaluated for an input.  The results are the values. -/
def work : Input → Context → Nat → Run (List Value)
  | .one text, ctx, depth => do return [← evalText ctx depth text]
  | .all text, ctx, depth => evalTextAll ctx depth text
  | .file name, ctx, depth => do return [← load ctx depth name]
  | .line text, ctx, depth => do
    match ← Run.ofFailing (Reader.readOptional text) with
    | none => return []
    | some expr =>
      let v ← eval ctx depth expr
      printLine depth v
      return [v]
  | .args _, _, _ => return []

/-- The same with another way of doing the pieces of work. -/
def workWith (sub : Eval.Worker) (ctx : Context) (depth : Nat) : Input → Run (List Value)
  | .one text => do
    let expr ← Run.ofFailing (Reader.readOne text)
    let v ← sub (.eval expr ctx.globals)
    return [v]
  | .all text => do Eval.evalAll sub ctx.globals (← Run.ofFailing (Reader.readAll text))
  | .file name => do return [← Eval.load ctx sub name]
  | .line text => do
    match ← Run.ofFailing (Reader.readOptional text) with
    | none => return []
    | some expr =>
      let v ← sub (.eval expr ctx.globals)
      printLine depth v
      return [v]
  | .args _ => return []

theorem workWith_evaluate (input : Input) (ctx : Context) (depth : Nat) :
    input.workWith (Eval.evaluate ctx depth) ctx depth = input.work ctx depth := by
  cases input with
  | one text =>
      rw [workWith, work, evalText, bind_assoc]
      rfl
  | all | file | line | args => rfl

/-- A line of the interactive loop is evaluated like any other input. -/
theorem performLine_eq (text : String) (ctx : Context) (depth : Nat) :
    Repl.performLine text ctx depth = do
      let _ ← (Input.line text).work ctx depth
      return () := by
  rw [Repl.performLine, work, bind_assoc]
  congr 1
  funext expr?
  cases expr? with
  | none => rfl
  | some expr => simp

end Input

/-- The interpreter after an input, successful or not. -/
def feed (i : Interpreter) : Input → Interpreter
  | .line text => (Repl.answer i text).1
  | .args texts => i.bindArgs texts
  | input => (i.run input.work).2

/-- The interpreter after a sequence of inputs. -/
def feedAll (i : Interpreter) (session : List Input) : Interpreter := session.foldl feed i

end Interpreter

/-! ## Inputs in a logic -/

namespace Logic

open Interpreter (Input)

variable {ctx : Context} {World : Type} [Preorder World] {L : Logic ctx World} {w : World}

theorem printLine (depth : Nat) (v : Value) :
    L.Rel w (fun _ _ => True) (Interpreter.printLine depth v) (Interpreter.printLine depth v) := by
  have hText : L.Rel w (fun _ _ => True) (Run.ofFaulty (v.writtenWithin depth))
      (Run.ofFaulty (v.writtenWithin depth)) :=
    ofFaulty fun _ hWritten => Value.isOrdinary_of_writtenWithin hWritten _
  exact L.bind hText fun _ _ _ _ => L.emit _

/-- **What an input computes is data**, and related ways of doing the pieces
of work lead to related computations, if all that can be written is code. -/
theorem Relates.workWith {sub sub' : Eval.Worker} (hSub : L.Relates sub sub')
    (hCode : ∀ {v : Value}, v.All Value.IsSyntax → v.All L.code) (input : Input) (depth : Nat) :
    L.Rel w (fun w vs => ∀ v ∈ vs, v.All (L.data w)) (input.workWith sub ctx depth)
      (input.workWith sub' ctx depth) := by
  cases input with
  | one text =>
      have hRead : L.Rel w (fun _ v => v.All Value.IsSyntax)
          (Run.ofFailing (Reader.readOne text)) (Run.ofFailing (Reader.readOne text)) :=
        ofFailing fun v hv => Reader.all_isSyntax_of_readOne hv
      refine L.bind hRead fun w₁ expr _ hExpr => ?_
      refine L.bind (hSub.eval w₁ ctx.globals (hCode hExpr)) fun w₂ v _ hv => ?_
      exact L.pure (List.forall_mem_singleton.2 hv)
  | all text =>
      have hRead : L.Rel w (fun _ vs => ∀ v ∈ vs, v.All Value.IsSyntax)
          (Run.ofFailing (Reader.readAll text)) (Run.ofFailing (Reader.readAll text)) :=
        ofFailing fun vs hvs => Reader.all_isSyntax_of_readAll hvs
      refine L.bind hRead fun w₁ forms _ hForms => ?_
      exact hSub.evalAll ctx.globals fun form hForm => hCode (hForms form hForm)
  | file name =>
      refine L.bind (hSub.load name) fun w₁ v _ hv => ?_
      exact L.pure (List.forall_mem_singleton.2 hv)
  | line text =>
      have hRead : L.Rel w (fun _ expr? => ∀ v, expr? = some v → v.All Value.IsSyntax)
          (Run.ofFailing (Reader.readOptional text))
          (Run.ofFailing (Reader.readOptional text)) := by
        refine ofFailing ?_
        rintro _ hv v rfl
        exact Reader.all_isSyntax_of_readOptional hv
      refine L.bind hRead fun w₁ expr? _ hExpr => ?_
      cases expr? with
      | none => exact L.pure (List.forall_mem_nil _)
      | some expr =>
          refine L.bind (hSub.eval w₁ ctx.globals (hCode (hExpr expr rfl))) fun w₂ v _ hv => ?_
          refine L.bind (printLine depth v) fun w₃ _ hw _ => ?_
          exact L.pure (List.forall_mem_singleton.2 (all_data_mono hw hv))
  | args texts => exact L.pure (List.forall_mem_nil _)

end Logic

/-! ## Sessions keep what is sound -/

namespace Interpreter

open Run (Paired)

/-- The interpreter works with the given files, and all that its cells hold
is sound. -/
structure Sound (files : FileSystem) (i : Interpreter) : Prop where
  files_eq : i.context.files = files
  store : i.machine.store.Twins .whole i.machine.store

/-- An input computes sound values or fails in an ordinary way, in whatever
related ways its pieces are done. -/
theorem paired_workWith {ctx : Context} {sub sub' : Eval.Worker}
    (hSub : (Scope.whole.twinRuns (Scope.covers_whole ctx)).Relates sub sub') (input : Input)
    (depth : Nat) :
    Paired .whole ctx.files (fun vs => ∀ v ∈ vs, v.All Scope.whole.data)
      (input.workWith sub ctx depth) (input.workWith sub' ctx depth) :=
  hSub.workWith (w := OneWorld.here) Scope.all_code_whole input depth

theorem paired_work (input : Input) (ctx : Context) (depth : Nat) :
    Paired .whole ctx.files (fun vs => ∀ v ∈ vs, v.All Scope.whole.data)
      (input.work ctx depth) (input.work ctx depth) := by
  rw [← input.workWith_evaluate]
  exact paired_workWith (Logic.relates_evaluate _ depth) input depth

namespace Sound

variable {files : FileSystem} {i : Interpreter}

/-- A computation that pairs with itself has a good result or fails in an
ordinary way, and leaves a sound interpreter. -/
theorem run {α : Type} {good : α → Prop} (hi : i.Sound files) {work : Context → Nat → Run α}
    (h : Paired .whole i.context.files good (work i.context i.depth) (work i.context i.depth)) :
    (match (i.run work).1 with
      | .ok a => good a
      | .error e => e.IsOrdinary files) ∧ (i.run work).2.Sound files := by
  obtain ⟨rfl, hStore⟩ := hi
  have hAlike := h i.machine i.machine ⟨hStore, rfl, rfl⟩
  unfold Interpreter.run
  dsimp only
  generalize work i.context i.depth i.machine = outcome at hAlike
  cases outcome with
  | ok a m =>
      cases hAlike with
      | ok hGood hTwins => exact ⟨hGood, rfl, hTwins.store⟩
  | error e m =>
      cases hAlike with
      | error hOrdinary hTwins => exact ⟨hOrdinary, rfl, hTwins.store⟩

theorem emit (hi : i.Sound files) (text : String) : (i.emit text).Sound files :=
  ⟨hi.files_eq, hi.store⟩

/-- **A line of the interactive loop** leaves a sound interpreter, and only
an ordinary fault ends the loop. -/
theorem answer (hi : i.Sound files) (text : String) :
    (Repl.answer i text).1.Sound files ∧
      ∀ f, (Repl.answer i text).2 = some (.fault f) → Failure.IsOrdinary files (.fault f) := by
  have hLine : Paired .whole i.context.files (fun _ => True)
      (Repl.performLine text i.context i.depth) (Repl.performLine text i.context i.depth) := by
    rw [Input.performLine_eq]
    exact (paired_work (.line text) i.context i.depth).bind fun _ _ => .pure trivial
  obtain ⟨hResult, hAfter⟩ := hi.run hLine
  unfold Repl.answer
  split
  · exact ⟨hi, nofun⟩
  · generalize i.run (Repl.performLine text) = outcome at hResult hAfter
    obtain ⟨result, after⟩ := outcome
    cases result with
    | ok _ => exact ⟨hAfter, nofun⟩
    | error failure =>
        dsimp only
        cases hReport : failure.report after.depth with
        | ok message => exact ⟨hAfter.emit _, nofun⟩
        | error f =>
            refine ⟨hAfter, ?_⟩
            rintro _ ⟨⟩
            exact Failure.isOrdinary_of_report hResult hReport

/-- **An input** leaves a sound interpreter. -/
theorem feed (hi : i.Sound files) (input : Input) : (i.feed input).Sound files := by
  cases input with
  | line text => exact (hi.answer text).1
  | args texts =>
      have hArgs : (Value.list (texts.map Value.string)).All Scope.whole.data := by
        refine Value.all_list_iff.2 ⟨trivial, fun v hv => ?_⟩
        obtain ⟨text, -, rfl⟩ := List.mem_map.1 hv
        exact (Value.all_iff_of_isLeaf rfl).2 trivial
      exact ⟨hi.files_eq, (hi.store.derive _ (List.forall_mem_singleton.2 hArgs)).1⟩
  | one text => exact (hi.run (paired_work (.one text) _ _)).2
  | all text => exact (hi.run (paired_work (.all text) _ _)).2
  | file name => exact (hi.run (paired_work (.file name) _ _)).2

/-- **A session** leaves a sound interpreter. -/
theorem feedAll (hi : i.Sound files) (session : List Input) :
    (i.feedAll session).Sound files := by
  induction session generalizing i with
  | nil => exact hi
  | cons input session ih => exact ih (hi.feed input)

end Sound

theorem sound_ofTable (files : FileSystem) (roots : List Path) (depth : Nat)
    (table : Primitive.Table) : (ofTable files roots depth table).Sound files := by
  refine ⟨rfl, ?_⟩
  rw [store_ofTable]
  refine Store.twins_empty.replay (List.forall_mem_cons.2 ⟨trivial, ?_⟩)
  refine List.forall_mem_singleton.2 fun entry hEntry => ?_
  obtain ⟨_, -, rfl⟩ := List.mem_map.1 hEntry
  exact (Value.all_iff_of_isLeaf rfl).2 trivial

/-- **Programs given as text stay proper.**  After any session that an
interpreter was fed as text:

* all that the cells hold is proper;
* an input gives proper values or fails in an ordinary way; in particular
  it never fails because something is no expression;
* if a line ends the interactive loop by a fault, the fault is an ordinary
  one;
* so are the results of all evaluations inside, however deeply nested: an
  inspector who lets proper values pass changes nothing. -/
theorem text_stays_proper (files : FileSystem) (roots : List Path) (depth : Nat)
    (table : Primitive.Table) (session : List Input) :
    let i := (ofTable files roots depth table).feedAll session
    (∀ (cell : CellId) (v : Value), i.machine.store.cells[cell]? = some v → v.Proper) ∧
    (∀ input : Input,
      match (i.run input.work).1 with
      | .ok vs => ∀ v ∈ vs, v.Proper
      | .error failure => failure.IsOrdinary files) ∧
    (∀ text f, (Repl.answer i text).2 = some (.fault f) →
      Failure.IsOrdinary files (.fault f)) ∧
    (∀ passes alarm, (∀ v : Value, v.Proper → passes v = true) → ∀ input : Input,
      (i.run fun ctx depth =>
        input.workWith (Eval.evaluateInspected ctx passes alarm depth) ctx depth) =
          i.run input.work) := by
  intro i
  have hi : i.Sound files := (sound_ofTable files roots depth table).feedAll session
  refine ⟨fun cell v hCell => ?_, fun input => ?_, fun text => (hi.answer text).2, ?_⟩
  · exact Scope.proper_of_all_data (hi.store.data cell (Set.notMem_empty cell) v hCell)
  · have hRun := (hi.run (paired_work input i.context i.depth)).1
    cases hResult : (i.run input.work).1 with
    | ok vs =>
        rw [hResult] at hRun
        exact fun v hv => Scope.proper_of_all_data (hRun v hv)
    | error failure =>
        rw [hResult] at hRun
        exact hRun
  · intro passes alarm hPasses input
    have hRelates : (Scope.whole.twinRuns (Scope.covers_whole i.context)).Relates
        (Eval.evaluateInspected i.context passes alarm i.depth)
        (Eval.evaluate i.context i.depth) :=
      Logic.relates_inspected (fun _ v hv => hPasses v (Scope.proper_of_all_data hv)) alarm i.depth
    -- Where nothing is hidden, to end alike is to end the same.
    have hAlike := paired_workWith hRelates input i.depth i.machine i.machine ⟨hi.store, rfl, rfl⟩
    rw [input.workWith_evaluate] at hAlike
    simp only [Interpreter.run, hAlike.eq_of_whole]

/-- After a definition and a line that cannot be read, a call makes a dotted
list.  It is proper. -/
theorem text_stays_proper_pair :
    let i := (ofTable ⟨fun _ => .error .missing⟩ [] 10 Primitive.standard).feedAll
      [.all "(define (f . r) (cons 1 (car r)))", .line "(f"]
    ∃ v, (i.run (Input.one "(f 2)").work).1 = .ok [v] ∧ v.isKind .pair = true ∧ v.Proper := by
  intro i
  have hPair : (i.run (Input.one "(f 2)").work).1.toOption.map (List.map (·.isKind .pair)) =
      some [true] := by decide +kernel
  have hProper := (text_stays_proper ⟨fun _ => .error .missing⟩ [] 10 Primitive.standard
    [.all "(define (f . r) (cons 1 (car r)))", .line "(f"]).2.1 (.one "(f 2)")
  cases hResult : (i.run (Input.one "(f 2)").work).1 with
  | error failure => rw [hResult] at hPair; cases hPair
  | ok vs =>
      rw [hResult] at hPair hProper
      obtain ⟨v, rfl, hKind⟩ := List.map_eq_singleton_iff.1 (Option.some.inj hPair)
      exact ⟨v, rfl, hKind, hProper v List.mem_cons_self⟩

end Interpreter

end MiniScheme
