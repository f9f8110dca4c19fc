import MiniScheme.Proofs.Eval.Carrying
import MiniScheme.Proofs.Eval.Identity
import MiniScheme.Proofs.Interpreter.TextSession

/-!
# The identity of procedures in a session

A user feeds an interpreter with text, and also asks for pieces of work: to
evaluate a value as an expression in some frame, to apply a value to others.
Such a value may hold procedures.  They are not made up: the user was given
them, or found them in a cell.

`Reached` is what can be reached in this way, together with the values that
were returned on the way.  **Whatever is reached has a register of all
procedures that were made** (`Reached.exists_accounts`), and every procedure
that can be found is in it under its number.

## Main results

* `Reached.exists_accounts` — the register, by induction on the session.
* `procedures_identified` — what follows: equivalent procedures are the
  same, a new one is equivalent to none that was there, and one that is
  carried about stays equivalent to itself.
-/

namespace MiniScheme.Interpreter

open Eval

/-! ## What can be reached -/

/-- The procedure can be found in a value that was returned or in a cell. -/
def Shows (i : Interpreter) (returned : List Value) (fn : Closure Value) : Prop :=
  ∃ v, (v ∈ returned ∨ v ∈ i.machine.store.cells) ∧ Value.Occurs (.closure fn) v

/-- The values that an input returns.  Of the value of a line only its text is
shown. -/
def answers (i : Interpreter) : Input → List Value
  | .line _ => []
  | input => (i.run input.work).1.toOption.getD []

/-- Does a piece of work that is nested at most `depth` levels deep. -/
def perform (i : Interpreter) (depth : Nat) (task : Task) : Except Failure Value × Interpreter :=
  i.run fun ctx _ => evaluate ctx depth task

/-- All procedures in what the work is given can be found. -/
def Grants (i : Interpreter) (returned : List Value) (task : Task) : Prop :=
  ∀ v ∈ task.values, ∀ fn, Value.Occurs (.closure fn) v → i.Shows returned fn

/-- An interpreter that can be reached, with the values that were returned on
the way. -/
inductive Reached : Interpreter → List Value → Prop
  | start (files : FileSystem) (roots : List Path) (depth : Nat) (table : Primitive.Table) :
      Reached (ofTable files roots depth table) []
  | fed {i : Interpreter} {returned : List Value} (h : Reached i returned) (input : Input) :
      Reached (i.feed input) (i.answers input ++ returned)
  | worked {i : Interpreter} {returned : List Value} (h : Reached i returned) (depth : Nat)
      {task : Task} (hTask : i.Grants returned task) :
      Reached (i.perform depth task).2 ((i.perform depth task).1.toOption.toList ++ returned)

/-! ## What an input does to the store -/

theorem result_run {α : Type} (i : Interpreter) (work : Context → Nat → Run α) :
    (i.run work).1 = (work i.context i.depth).result i.machine := by
  rw [run, Run.result]
  cases work i.context i.depth i.machine <;> rfl

/-- What an input returns is what is evaluated for it. -/
theorem exists_of_mem_answers {i : Interpreter} {input : Input} {v : Value}
    (h : v ∈ i.answers input) :
    ∃ vs, (input.work i.context i.depth).result i.machine = .ok vs ∧ v ∈ vs := by
  unfold answers at h
  split at h
  · cases h
  · rw [result_run] at h
    cases hResult : (input.work i.context i.depth).result i.machine with
    | ok vs =>
        rw [hResult] at h
        exact ⟨vs, rfl, h⟩
    | error e =>
        rw [hResult] at h
        cases h

/-- The store is changed by what is evaluated for an input, and by nothing
else.  A line that ends the loop is not evaluated. -/
theorem store_feed (i : Interpreter) {input : Input} (hInput : ∀ texts, input ≠ .args texts) :
    ((i.feed input).machine.store = i.machine.store ∧ i.answers input = []) ∨
      (i.feed input).machine.store =
        ((input.work i.context i.depth).final i.machine).store := by
  cases input with
  | args texts => exact absurd rfl (hInput texts)
  | one | all | file => exact .inr (congrArg Machine.store (i.machine_run _))
  | line text =>
      have hLine : ((Repl.performLine text i.context i.depth).final i.machine).store =
          (((Input.line text).work i.context i.depth).final i.machine).store := by
        rw [Input.performLine_eq]
        cases h : (Input.line text).work i.context i.depth i.machine with
        | ok vs m => rw [Run.final_bind_of_ok h, Run.final, Run.final, h]; rfl
        | error e m => rw [Run.final_bind_of_error h, Run.final, h]
      rw [← hLine, ← machine_run]
      show ((Repl.answer i text).1.machine.store = _ ∧ _) ∨
        (Repl.answer i text).1.machine.store = _
      unfold Repl.answer
      split
      · exact .inl ⟨rfl, rfl⟩
      · right
        cases i.run (Repl.performLine text) with
        | mk result after =>
            cases result with
            | ok => rfl
            | error failure =>
                dsimp only
                cases failure.report after.depth <;> rfl

theorem evolves_work (input : Input) (ctx : Context) (depth : Nat) :
    Run.Evolves {ctx.globals} (input.work ctx depth) := by
  cases input with
  | one text => exact (evolves_evalText ctx depth text).bind fun _ => .pure _
  | all text => exact evolves_evalTextAll ctx depth text
  | file name => exact (evolves_load ctx depth name).bind fun _ => .pure _
  | line text =>
      refine (Run.Evolves.ofFailing _).bind fun expr? => ?_
      cases expr? with
      | none => exact .pure _
      | some expr =>
          refine (evolves_eval ctx depth expr).bind fun v => ?_
          exact ((Run.Evolves.ofFaulty _).bind fun _ => .emit _).bind fun _ => .pure _
  | args texts => exact .pure _

/-- Names are kept apart in all that is reached. -/
theorem Reached.unaliased {i : Interpreter} {returned : List Value} (h : Reached i returned) :
    i.machine.store.Unaliased := by
  induction h with
  | start files roots depth table =>
      rw [store_ofTable]
      exact Store.unaliased_empty.replay _
  | @fed i returned _ input ih =>
      by_cases hArgs : ∃ texts, input = .args texts
      · obtain ⟨texts, rfl⟩ := hArgs
        exact ih.of_evolves (i.machine.store.evolves_derive _ _ ∅)
      · rcases i.store_feed (fun texts hSame => hArgs ⟨texts, hSame⟩) with ⟨hSame, -⟩ | hSame
        · rwa [hSame]
        · rw [hSame]
          exact ih.of_evolves (evolves_work input i.context i.depth i.machine)
  | @worked i returned _ depth task _ ih =>
      rw [perform, machine_run]
      cases task with
      | eval expr frame =>
          exact ih.of_evolves ((evaluate_local i.context depth).eval expr frame i.machine)
      | apply fn args =>
          exact ih.of_evolves ((evaluate_local i.context depth).apply fn args i.machine)

/-! ## The register of a session -/

/-- The procedures that were made, in their order: the interpreter counts as
many, and all that can be found is genuine. -/
structure Accounts (made : List (Closure Value)) (i : Interpreter) (returned : List Value) :
    Prop where
  body : ∀ fn ∈ made, ∀ expr ∈ fn.body, expr.All (Value.Genuine made)
  count : i.machine.store.closures = made.length
  cells : i.machine.store.Holds (Value.All (Value.Genuine made))
  returned : ∀ v ∈ returned, v.All (Value.Genuine made)

namespace Accounts

variable {made : List (Closure Value)} {i i' : Interpreter} {returned new : List Value}

/-- The register with which the next piece of work begins. -/
def register (h : Accounts made i returned) : Register made :=
  ⟨made, List.prefix_refl made, h.body⟩

theorem fits (h : Accounts made i returned) : h.register.Fits i.machine.store :=
  ⟨h.count, h.cells⟩

theorem genuine (h : Accounts made i returned) {fn : Closure Value} (hFn : i.Shows returned fn) :
    (Value.closure fn).Genuine made := by
  obtain ⟨v, hReturned | hCell, hOccurs⟩ := hFn
  · exact h.returned v hReturned _ hOccurs
  · exact h.cells v hCell _ hOccurs

/-- What is granted to a piece of work is genuine. -/
theorem all_genuine (h : Accounts made i returned) {task : Task} (hTask : i.Grants returned task) :
    ∀ v ∈ task.values, v.All (Value.Genuine made) := by
  intro v hv u hu
  cases u with
  | closure fn => exact h.genuine (hTask v hv fn hu)
  | _ => trivial

/-- The register that a piece of work leaves, at the end of the session so
far. -/
theorem of_fits (h : Accounts made i returned) {w : Register made}
    (hFits : w.Fits i'.machine.store) (hNew : ∀ v ∈ new, v.All (Value.Genuine w.made)) :
    Accounts w.made i' (new ++ returned) where
  body fn hFn expr hExpr := (w.body fn hFn expr hExpr).genuine_mono w.grown
  count := hFits.count
  cells := hFits.cells
  returned := List.forall_mem_append.2
    ⟨hNew, fun v hv => (h.returned v hv).genuine_mono w.grown⟩

/-- A piece of work keeps the register, in whatever related way it is done. -/
theorem keeps_task (h : Accounts made i returned) {task : Task} (hTask : i.Grants returned task)
    {sub sub' : Worker} (hSub : (Register.identity i.context made).Relates sub sub') :
    h.register.Keeps (fun w v => v.All (Value.Genuine w.made)) (sub task) (sub' task) := by
  have hGiven := h.all_genuine hTask
  cases task with
  | eval expr frame => exact hSub.eval h.register frame (hGiven expr List.mem_cons_self)
  | apply fn args =>
      obtain ⟨hFn, hArgs⟩ := List.forall_mem_cons.1 hGiven
      exact hSub.apply h.register hFn hArgs

/-- So does an input. -/
theorem keeps_input (h : Accounts made i returned) (input : Input) {sub sub' : Worker}
    (hSub : (Register.identity i.context made).Relates sub sub') (depth : Nat) :
    h.register.Keeps (fun w vs => ∀ v ∈ vs, v.All (Value.Genuine w.made))
      (input.workWith sub i.context depth) (input.workWith sub' i.context depth) :=
  hSub.workWith (w := h.register) (fun hSyntax => hSyntax.mono fun _ => Value.genuine_of_isSyntax)
    input depth

theorem bindArgs (h : Accounts made i returned) (texts : List String) :
    Accounts made (i.bindArgs texts) returned := by
  have hTexts : (Value.list (texts.map Value.string)).All (Value.Genuine made) := by
    refine Value.all_list_iff.2 ⟨trivial, fun v hv => ?_⟩
    obtain ⟨text, -, rfl⟩ := List.mem_map.1 hv
    exact (Value.all_iff_of_isLeaf rfl).2 trivial
  exact { h with
    count := h.count
    cells := h.cells.derive i.context.globals (List.forall_mem_singleton.2 hTexts) }

theorem feed (h : Accounts made i returned) (input : Input) :
    ∃ made', Accounts made' (i.feed input) (i.answers input ++ returned) := by
  by_cases hArgs : ∃ texts, input = .args texts
  · obtain ⟨texts, rfl⟩ := hArgs
    exact ⟨made, h.bindArgs texts⟩
  · rcases i.store_feed (fun texts hSame => hArgs ⟨texts, hSame⟩) with ⟨hStore, hNone⟩ | hStore
    · rw [hNone]
      exact ⟨made, { h with count := hStore ▸ h.count, cells := hStore ▸ h.cells }⟩
    · have hKeeps := h.keeps_input input (Logic.relates_evaluate _ i.depth) i.depth
      rw [input.workWith_evaluate] at hKeeps
      obtain ⟨w, -, hFits, hResult⟩ := Register.Ends.exists_fits (hKeeps i.machine h.fits).2
      refine ⟨w.made, h.of_fits (hStore ▸ hFits) fun v hv => ?_⟩
      obtain ⟨vs, hOk, hMem⟩ := exists_of_mem_answers hv
      exact hResult vs hOk v hMem

theorem perform (h : Accounts made i returned) (depth : Nat) {task : Task}
    (hTask : i.Grants returned task) :
    ∃ made', Accounts made' (i.perform depth task).2
      ((i.perform depth task).1.toOption.toList ++ returned) := by
  have hKeeps := h.keeps_task hTask (Logic.relates_evaluate _ depth)
  obtain ⟨w, -, hFits, hResult⟩ := Register.Ends.exists_fits (hKeeps i.machine h.fits).2
  refine ⟨w.made, h.of_fits ?_ fun v hv => ?_⟩
  · rw [Interpreter.perform, machine_run]
    exact hFits
  · rw [Interpreter.perform, result_run] at hv
    cases hOk : (evaluate i.context depth task).result i.machine with
    | ok u =>
        rw [hOk] at hv
        rw [List.mem_singleton.1 hv]
        exact hResult u hOk
    | error e =>
        rw [hOk] at hv
        cases hv

end Accounts

theorem accounts_ofTable (files : FileSystem) (roots : List Path) (depth : Nat)
    (table : Primitive.Table) : Accounts [] (ofTable files roots depth table) [] where
  body := nofun
  count := rfl
  cells := by
    have hEmpty : Store.empty.newFrame.1.Holds (Value.All (Value.Genuine [])) := nofun
    refine hEmpty.derive 0 fun entry hEntry => ?_
    obtain ⟨_, -, rfl⟩ := List.mem_map.1 hEntry
    exact (Value.all_iff_of_isLeaf rfl).2 trivial
  returned := nofun

/-- **Whatever is reached has a register.** -/
theorem Reached.exists_accounts {i : Interpreter} {returned : List Value}
    (h : Reached i returned) : ∃ made, Accounts made i returned := by
  induction h with
  | start files roots depth table => exact ⟨[], accounts_ofTable files roots depth table⟩
  | fed _ input ih =>
      obtain ⟨made, hAccounts⟩ := ih
      exact hAccounts.feed input
  | worked _ depth hTask ih =>
      obtain ⟨made, hAccounts⟩ := ih
      exact hAccounts.perform depth hTask

/-! ## Procedures are identified -/

/-- **The identity of procedures is sound.**  In all that can be reached:

* two procedures that can be found, in results or in cells and inside of any
  lists, and that are equivalent have the same parameters, rest, body and
  frame, and are indeed the same;
* a procedure that evaluating a `lambda` or a definition of a procedure gives,
  in any frame, is equivalent to none that could be found before;
* both hold at every moment inside of every piece of work and every input,
  however deeply nested and however it ends: a watcher who lets sound moments
  pass changes nothing;
* a procedure in a variable is `eqv?` to what becomes of it when it is
  carried about, as long as the primitives have their usual names. -/
theorem procedures_identified {i : Interpreter} {returned : List Value}
    (h : Reached i returned) :
    (∀ f g, i.Shows returned f → i.Shows returned g →
      (Value.closure f).eqv (.closure g) = true →
        (f.params = g.params ∧ f.rest = g.rest ∧ f.body = g.body ∧ f.frame = g.frame) ∧ f = g) ∧
    (∀ depth expr frame v m', (Task.eval expr frame).makesProcedure = true →
      evaluate i.context depth (.eval expr frame) i.machine = .ok v m' →
      ∃ fn, v = .closure fn ∧ ∀ g, i.Shows returned g →
        (Value.closure fn).eqv (.closure g) = false ∧
        (Value.closure g).eqv (.closure fn) = false) ∧
    (∀ passes alarm, (∀ moment : Moment, moment.Sound → passes moment = true) →
      (∀ depth task, i.Grants returned task →
        evaluateWatched i.context passes alarm depth task i.machine =
          evaluate i.context depth task i.machine) ∧
      ∀ input : Input,
        (i.run fun ctx depth =>
          input.workWith (evaluateWatched ctx passes alarm depth) ctx depth) = i.run input.work) ∧
    (∀ frame x fn expr,
      (∀ {name op}, (name, op) ∈ Primitive.carriers →
        ∃ p, i.machine.store.get? frame name = some (.primitive p op)) →
      i.machine.store.get? frame x = some (.closure fn) → Carries x [] (.expr expr) [] →
      ∃ m' d₀, ∀ d, d₀ ≤ d →
        evaluate i.context d (.eval (.list [.symbol "eqv?", .symbol x, expr]) frame) i.machine =
          .ok (.bool true) m') := by
  obtain ⟨made, hAccounts⟩ := h.exists_accounts
  refine ⟨?_, ?_, fun passes alarm hPasses => ⟨?_, ?_⟩, ?_⟩
  · intro f g hf hg hSame
    obtain rfl := (hAccounts.genuine hf).eq_of_eqv (hAccounts.genuine hg) hSame
    exact ⟨⟨rfl, rfl, rfl, rfl⟩, rfl⟩
  · intro depth expr frame v m' hForm hv
    cases depth with
    | zero => cases hv
    | succ depth =>
        obtain ⟨fn, rfl, hNumber⟩ := closure_of_makesProcedure hForm hv
        refine ⟨fn, rfl, fun g hg => ?_⟩
        have hOld : g.id < fn.id := by
          rw [hNumber, hAccounts.count]
          exact (hAccounts.genuine hg).id_lt
        constructor
        · exact Bool.eq_false_iff.2 fun hSame => hOld.ne' (Value.eqv_closure_iff.1 hSame)
        · exact Bool.eq_false_iff.2 fun hSame => hOld.ne (Value.eqv_closure_iff.1 hSame)
  · intro depth task hTask
    exact (hAccounts.keeps_task hTask (Register.relates_watched hPasses alarm depth)
      i.machine hAccounts.fits).1
  · intro input
    have hSame := (hAccounts.keeps_input input (Register.relates_watched hPasses alarm i.depth)
      i.depth i.machine hAccounts.fits).1
    rw [input.workWith_evaluate] at hSame
    simp only [run, hSame]
  · intro frame x fn expr hNames hFn hCarries
    obtain ⟨m', hTrue⟩ := hCarries.eqv ⟨h.unaliased, hNames⟩ hFn
    exact ⟨m', Filter.eventually_atTop.1 hTrue.eventually⟩

/-- A procedure is defined.  Another one with the same text in the same frame
is not equivalent to it; the second element of a list to which it was
passed through a third one is. -/
theorem procedures_identified_twin :
    let start := ofTable ⟨fun _ => .error .missing⟩ [] 9 Primitive.standard
    let definition := Value.list [.symbol "define", .list [.symbol "f", .symbol "x"], .symbol "x"]
    let i := (start.perform 1 (.eval definition 1)).2
    let f : Closure Value :=
      { id := 0, params := ["x"], rest := none, body := [.symbol "x"], frame := 1 }
    let twin : Closure Value := { f with id := 1 }
    let carried := Value.list [.symbol "car", .list [.symbol "cdr", .list [.symbol "list",
      (Value.int 1).quote,
      .list [.lambda (.list [.symbol "y"]) [.symbol "y"], .symbol "f"]]]]
    Reached i [.closure f] ∧ i.Shows [.closure f] f ∧
      (∃ m', evaluate i.context 1 (.eval (.lambda (.list [.symbol "x"]) [.symbol "x"]) 1)
        i.machine = .ok (.closure twin) m') ∧
      (Value.closure twin).eqv (.closure f) = false ∧
      ∃ m' d₀, ∀ d, d₀ ≤ d →
        evaluate i.context d (.eval (.list [.symbol "eqv?", .symbol "f", carried]) 1) i.machine =
          .ok (.bool true) m' := by
  intro start definition i f twin carried
  have hSymbol : ∀ name, (Value.symbol name).All Value.IsSyntax :=
    fun _ => (Value.all_iff_of_isLeaf rfl).2 trivial
  have hSyntax : definition.All Value.IsSyntax := by
    simp [definition, Value.all_list_iff, hSymbol, Value.IsSyntax]
  have hGrants : start.Grants [] (.eval definition 1) := by
    intro v hv fn hOccurs
    rw [List.mem_singleton.1 hv] at hOccurs
    exact (hSyntax _ hOccurs).elim
  have hReached : Reached i [.closure f] :=
    .worked (.start ⟨fun _ => .error .missing⟩ [] 9 Primitive.standard) 1 hGrants
  have hShows : i.Shows [.closure f] f := ⟨_, .inl List.mem_cons_self, .here⟩
  obtain ⟨-, hFresh, -, hCarried⟩ := procedures_identified hReached
  have hTwin : evaluate i.context 1 (.eval (.lambda (.list [.symbol "x"]) [.symbol "x"]) 1)
      i.machine = .ok (.closure twin)
        { i.machine with store := i.machine.store.nextClosure.1 } := rfl
  obtain ⟨_, hSame, hApart⟩ := hFresh 1 _ 1 _ _ rfl hTwin
  cases hSame
  refine ⟨hReached, hShows, ⟨_, hTwin⟩, (hApart f hShows).1, hCarried 1 "f" f carried ?_ rfl ?_⟩
  · intro name op hName
    simp only [Primitive.carriers, List.mem_cons, Prod.mk.injEq, List.not_mem_nil, or_false] at hName
    rcases hName with ⟨rfl, rfl⟩ | ⟨rfl, rfl⟩ | ⟨rfl, rfl⟩ | ⟨rfl, rfl⟩ | ⟨rfl, rfl⟩ | ⟨rfl, rfl⟩ <;>
      exact ⟨_, rfl⟩
  · have hFree : ∀ name ∈ ["y"], Primitive.IsFree name := by decide
    exact .called (.taken .first (.called (.taken .rest (.called (.listed [.int 1] []
      (.called (.passed [] [] [] [] rfl rfl List.not_mem_nil hFree .named .named)))))))

end MiniScheme.Interpreter
