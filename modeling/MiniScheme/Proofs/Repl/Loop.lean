import MiniScheme.CommandLine
import MiniScheme.Proofs.Interpreter.Batch

/-!
# The interactive loop, line by line

The loop threads one store through its lines.  Nothing else of a line
reaches the next one: what was written and opened before makes no difference
to what a line does, because evaluation does not look back.

So a run of the loop is told by its stores.  `storeAfter` says what a line
makes of a store: lines without an expression nothing, all other lines what
the evaluation of the expression leaves behind, whether it succeeds or not.
A run goes through the lines with it, and stops at the end of the input, or
at the first line that quits or fails beyond reporting
(`Outcome.StopsWithin`).

**A run can be cut between any two lines.**  The second part is a run of its
own, from the store that the first part left.

## Main results

* `answer_behind`, `run_behind` — a line and a run do not look back.
* `answer_spec`, `stopsWithin_run` — what a line and a run do to the store,
  and when they stop.
* `run_append` — a run on the lines of two runs.
* `escapes_tooDeep_iff` — where running out of depth ends the loop.
* `lines_isolated` — all of this together.
* `deep_error_ends_loop` — an error that shows too deep a value ends it.
-/

namespace MiniScheme

namespace Interpreter

/-- The interpreter with a past put before its own. -/
def behind (i : Interpreter) (past : Past) : Interpreter :=
  { i with machine := i.machine.behind past }

@[simp] theorem depth_behind (i : Interpreter) (past : Past) : (i.behind past).depth = i.depth :=
  rfl

/-- An interpreter with the given store that has done nothing yet. -/
def startAt (i : Interpreter) (s : Store) : Interpreter := { i with machine := .fresh s }

theorem startAt_behind_past (i : Interpreter) :
    (i.startAt i.machine.store).behind i.machine.past = i := by
  rw [behind, startAt, i.machine.fresh_behind_past]

theorem emit_behind (i : Interpreter) (past : Past) (text : String) :
    (i.behind past).emit text = (i.emit text).behind past := by
  simp [emit, behind, Machine.behind, String.append_assoc]

end Interpreter

/-- What cannot be reported is a fault other than running out of depth, or an
error that cannot be worded. -/
theorem Failure.report_eq_error_iff {depth : Nat} {failure : Failure} {f : Fault} :
    failure.report depth = .error f ↔
      (failure = .fault f ∧ f ≠ .tooDeep) ∨
        ∃ e, failure = .error e ∧ e.messageWithin depth = .error f := by
  cases failure with
  | error e => simp [report]
  | fault g => cases g <;> simp [report] <;> grind

namespace Repl

open Interpreter (Input)

/-- The line asks for the end of the loop. -/
def Quits (line : String) : Prop := Text.strip line.toList = quitCommand

instance : DecidablePred Quits := fun line =>
  inferInstanceAs (Decidable (Text.strip line.toList = quitCommand))

/-- The store after a line that does not quit. -/
def storeAfter (ctx : Context) (depth : Nat) (s : Store) (line : String) : Store :=
  match Reader.readOptional line with
  | .ok (some expr) => ((Interpreter.eval ctx depth expr).final (.fresh s)).store
  | .ok none => s
  | .error _ => s

/-- From the store, the line fails in a way that cannot be reported. -/
def Escapes (ctx : Context) (depth : Nat) (s : Store) (line : String) (f : Fault) : Prop :=
  ∃ failure, (performLine line ctx depth).result (.fresh s) = .error failure ∧
    ((failure = .fault f ∧ f ≠ .tooDeep) ∨
      ∃ e, failure = .error e ∧ e.messageWithin depth = .error f)

/-- Begun with the store, the loop gets through the lines: none of them quits
or fails beyond reporting, each taken in the store that the one before it
left. -/
def Passes (ctx : Context) (depth : Nat) : Store → List String → Prop
  | _, [] => True
  | s, line :: rest => ¬ Quits line ∧ (∀ f, ¬ Escapes ctx depth s line f) ∧
    Passes ctx depth (storeAfter ctx depth s line) rest

theorem Passes.not_stops {ctx : Context} {depth : Nat} {s : Store} {before rest : List String}
    {line : String} (h : Passes ctx depth s (before ++ line :: rest)) :
    ¬ Quits line ∧ ∀ f, ¬ Escapes ctx depth (before.foldl (storeAfter ctx depth) s) line f := by
  induction before generalizing s with
  | nil => exact ⟨h.1, h.2.1⟩
  | cons first before ih => exact ih h.2.2

namespace Outcome

/-- What the loop and the programs on its lines have written. -/
def output (o : Outcome) : String := o.interpreter.machine.output

/-- The store that the loop leaves. -/
def store (o : Outcome) : Store := o.interpreter.machine.store

/-- Where a run of the loop that began with the store `s` stopped in its
lines, and what it left. -/
def StopsWithin (ctx : Context) (depth : Nat) (s : Store) (lines : List String) (o : Outcome) :
    Prop :=
  match o.ending with
  | .endOfInput => Passes ctx depth s lines ∧ o.prompts = lines.length + 1 ∧
    o.store = lines.foldl (storeAfter ctx depth) s
  | .quit => ∃ before line rest, lines = before ++ line :: rest ∧
    Passes ctx depth s before ∧ Quits line ∧ o.prompts = before.length + 1 ∧
      o.store = before.foldl (storeAfter ctx depth) s
  | .fault f => ∃ before line rest, lines = before ++ line :: rest ∧
    Passes ctx depth s before ∧ ¬ Quits line ∧
      Escapes ctx depth (before.foldl (storeAfter ctx depth) s) line f ∧
      o.prompts = before.length + 1 ∧ o.store = (before ++ [line]).foldl (storeAfter ctx depth) s

/-- One line more at the front, which does not stop the run. -/
theorem StopsWithin.cons {ctx : Context} {depth : Nat} {s s' : Store} {line : String}
    {lines : List String} {o : Outcome} (hNot : ¬ Quits line)
    (hStays : ∀ f, ¬ Escapes ctx depth s line f) (hStore : s' = storeAfter ctx depth s line)
    (h : o.StopsWithin ctx depth s' lines) :
    StopsWithin ctx depth s (line :: lines) { o with prompts := o.prompts + 1 } := by
  subst hStore
  unfold StopsWithin at h ⊢
  dsimp only
  cases hEnding : o.ending with
  | endOfInput =>
      rw [hEnding] at h
      obtain ⟨hPasses, hPrompts, hLeft⟩ := h
      exact ⟨⟨hNot, hStays, hPasses⟩, congrArg (· + 1) hPrompts, hLeft⟩
  | quit =>
      rw [hEnding] at h
      obtain ⟨before, last, rest, rfl, hPasses, hQuit, hPrompts, hLeft⟩ := h
      exact ⟨line :: before, last, rest, rfl, ⟨hNot, hStays, hPasses⟩, hQuit,
        congrArg (· + 1) hPrompts, hLeft⟩
  | fault f =>
      rw [hEnding] at h
      obtain ⟨before, last, rest, rfl, hPasses, hLast, hEscapes, hPrompts, hLeft⟩ := h
      exact ⟨line :: before, last, rest, rfl, ⟨hNot, hStays, hPasses⟩, hLast, hEscapes,
        congrArg (· + 1) hPrompts, hLeft⟩

end Outcome

/-! ## Answers -/

section Answers

variable {i : Interpreter} {line : String} {m : Machine}

theorem answer_of_quits (h : Quits line) : answer i line = (i, some .quit) := if_pos h

theorem answer_of_ok (hNot : ¬ Quits line)
    (h : performLine line i.context i.depth i.machine = .ok () m) :
    answer i line = ({ i with machine := m }, none) := by
  rw [answer, if_neg (show ¬ Text.strip line.toList = quitCommand from hNot), Interpreter.run]
  simp only [h]

theorem answer_of_error {failure : Failure} (hNot : ¬ Quits line)
    (h : performLine line i.context i.depth i.machine = .error failure m) :
    answer i line =
      match failure.report i.depth with
      | .ok text => (Interpreter.emit { i with machine := m } (text ++ "\n"), none)
      | .error f => ({ i with machine := m }, some (.fault f)) := by
  rw [answer, if_neg (show ¬ Text.strip line.toList = quitCommand from hNot), Interpreter.run]
  cases hReport : failure.report i.depth <;> simp only [h, hReport]

end Answers

/-! ## Lines do not look back -/

theorem oblivious_performLine (line : String) (ctx : Context) (depth : Nat) :
    Run.Oblivious ctx.files (fun _ => True) (performLine line ctx depth) := by
  rw [Input.performLine_eq]
  exact (Interpreter.oblivious_work (.line line) ctx depth).bind fun _ _ => .pure trivial

theorem answer_behind (i : Interpreter) (past : Past) (line : String) :
    answer (i.behind past) line = ((answer i line).1.behind past, (answer i line).2) := by
  by_cases hQuit : Quits line
  · rw [answer_of_quits hQuit, answer_of_quits hQuit]
  · have hMoves : performLine line i.context i.depth (i.machine.behind past) =
        Run.behind past (performLine line i.context i.depth i.machine) :=
      (oblivious_performLine line i.context i.depth).moves past i.machine
    cases h : performLine line i.context i.depth i.machine with
    | ok _ m =>
        rw [h] at hMoves
        rw [answer_of_ok hQuit h, answer_of_ok hQuit hMoves]
        rfl
    | error failure m =>
        rw [h] at hMoves
        rw [answer_of_error hQuit h, answer_of_error hQuit hMoves, Interpreter.depth_behind]
        cases failure.report i.depth with
        | ok text =>
            dsimp only
            rw [← Interpreter.emit_behind]
            rfl
        | error f => rfl

theorem run_behind (echo : String) (i : Interpreter) (past : Past) (lines : List String) :
    run echo (i.behind past) lines =
      { run echo i lines with interpreter := (run echo i lines).interpreter.behind past } := by
  induction lines generalizing i with
  | nil => rw [run, run, i.emit_behind past]
  | cons line rest ih =>
      rw [run, run, i.emit_behind past, answer_behind]
      obtain ⟨next, ending?⟩ := answer (i.emit echo) line
      cases ending? with
      | some ending => rfl
      | none =>
          dsimp only
          rw [ih next]

/-! ## What lines do to the store -/

theorem performLine_of_expr {line : String} {expr : Value}
    (h : Reader.readOptional line = .ok (some expr)) (ctx : Context) (depth : Nat) :
    performLine line ctx depth =
      Interpreter.eval ctx depth expr >>= Interpreter.printLine depth := by
  rw [performLine, h]
  simp [Run.ofFailing]

theorem store_final_printLine (depth : Nat) (v : Value) (m : Machine) :
    ((Interpreter.printLine depth v).final m).store = m.store := by
  unfold Interpreter.printLine
  cases v.writtenWithin depth <;> rfl

/-- What a line does to the store is what its expression does to it. -/
theorem store_final_performLine (line : String) (ctx : Context) (depth : Nat) (m : Machine) :
    ((performLine line ctx depth).final m).store = storeAfter ctx depth m.store line := by
  rw [storeAfter]
  cases hRead : Reader.readOptional line with
  | error failure =>
      rw [performLine, hRead]
      rfl
  | ok expr? =>
      cases expr? with
      | none =>
          rw [performLine, hRead]
          rfl
      | some expr =>
          have hEval : ((Interpreter.eval ctx depth expr).final m).store =
              ((Interpreter.eval ctx depth expr).final (.fresh m.store)).store := by
            rw [(Interpreter.oblivious_eval ctx depth expr).final_eq m]
            rfl
          refine Eq.trans ?_ hEval
          rw [performLine_of_expr hRead]
          cases h : Interpreter.eval ctx depth expr m with
          | ok v m' =>
              rw [Run.final_bind_of_ok h, store_final_printLine, Run.final, h]
          | error e m' => rw [Run.final_bind_of_error h, Run.final, h]

/-- **One line.**  It keeps the settings of the interpreter; the loop ends
there if and only if the line quits or fails beyond reporting; and the store
is the one that the line makes of the store before. -/
theorem answer_spec (i : Interpreter) (line : String) :
    ∃ m, (answer i line).1 = { i with machine := m } ∧
      match (answer i line).2 with
      | none => ¬ Quits line ∧ (∀ f, ¬ Escapes i.context i.depth i.machine.store line f) ∧
        m.store = storeAfter i.context i.depth i.machine.store line
      | some .quit => Quits line ∧ m.store = i.machine.store
      | some .endOfInput => False
      | some (.fault f) => ¬ Quits line ∧
        Escapes i.context i.depth i.machine.store line f ∧
        m.store = storeAfter i.context i.depth i.machine.store line := by
  have hStore := store_final_performLine line i.context i.depth i.machine
  have hResult := (oblivious_performLine line i.context i.depth).result_eq i.machine
  rw [Run.final] at hStore
  rw [Run.result] at hResult
  by_cases hQuit : Quits line
  · rw [answer_of_quits hQuit]
    exact ⟨i.machine, rfl, hQuit, rfl⟩
  · cases h : performLine line i.context i.depth i.machine with
    | ok _ m =>
        rw [h] at hStore hResult
        rw [answer_of_ok hQuit h]
        refine ⟨m, rfl, hQuit, ?_, hStore⟩
        rintro f ⟨failure, hFails, -⟩
        cases hResult.trans hFails
    | error failure m =>
        rw [h] at hStore hResult
        rw [answer_of_error hQuit h]
        cases hReport : failure.report i.depth with
        | ok text =>
            refine ⟨{ m with output := m.output ++ (text ++ "\n") }, rfl, hQuit, ?_, hStore⟩
            rintro f ⟨_, hFails, hBeyond⟩
            cases hResult.trans hFails
            cases hReport.symm.trans (Failure.report_eq_error_iff.2 hBeyond)
        | error f =>
            refine ⟨m, rfl, hQuit, ⟨failure, hResult.symm, ?_⟩, hStore⟩
            exact Failure.report_eq_error_iff.1 hReport

/-! ## Runs -/

/-- **A run of the loop** stops at the end of the input, at the first line
that quits or at the first one that fails beyond reporting, and its store
has gone through the lines before. -/
theorem stopsWithin_run (echo : String) (i : Interpreter) (lines : List String) :
    (run echo i lines).StopsWithin i.context i.depth i.machine.store lines := by
  induction lines generalizing i with
  | nil => exact ⟨trivial, rfl, rfl⟩
  | cons line rest ih =>
      obtain ⟨m, hNext, hEnding⟩ := answer_spec (i.emit echo) line
      rw [run]
      generalize answer (i.emit echo) line = answered at hNext hEnding
      obtain ⟨next, ending?⟩ := answered
      obtain rfl := hNext
      match ending? with
      | some .quit =>
          obtain ⟨hQuit, hStore⟩ := hEnding
          exact ⟨[], line, rest, rfl, trivial, hQuit, rfl, hStore⟩
      | some (.fault f) =>
          obtain ⟨hNot, hEscapes, hStore⟩ := hEnding
          exact ⟨[], line, rest, rfl, trivial, hNot, hEscapes, rfl, hStore⟩
      | none =>
          obtain ⟨hNot, hStays, hStore⟩ := hEnding
          exact .cons hNot hStays hStore (ih _)

/-- A run that gets to the end of its lines can be continued: with more
lines, the rest of the run starts from the machine that is left before the
end of the input is noticed. -/
theorem run_append (echo : String) (i : Interpreter) {xs : List String} (ys : List String)
    (hEnd : (run echo i xs).ending = .endOfInput) :
    ∃ m, (run echo i xs).interpreter = Interpreter.emit { i with machine := m } (echo ++ "\n") ∧
      run echo i (xs ++ ys) =
        { run echo { i with machine := m } ys with
          prompts := xs.length + (run echo { i with machine := m } ys).prompts } := by
  induction xs generalizing i with
  | nil => exact ⟨i.machine, rfl, by rw [List.nil_append, List.length_nil, Nat.zero_add]⟩
  | cons line rest ih =>
      obtain ⟨m, hNext, hEnding⟩ := answer_spec (i.emit echo) line
      rw [List.cons_append, run, run]
      rw [run] at hEnd
      generalize answer (i.emit echo) line = answered at hNext hEnding hEnd
      obtain ⟨next, ending?⟩ := answered
      obtain rfl := hNext
      match ending? with
      | none =>
          obtain ⟨m', hRest, hMore⟩ := ih _ hEnd
          refine ⟨m', hRest, ?_⟩
          dsimp only
          rw [hMore, List.length_cons]
          dsimp only [Interpreter.emit]
          rw [Nat.add_right_comm]
      | some .quit => cases hEnd
      | some (.fault f) => cases hEnd

/-- A run that gets through its lines stops at the end of the input, and its
store has gone through all lines. -/
theorem Passes.run {i : Interpreter} {lines : List String}
    (h : Passes i.context i.depth i.machine.store lines) (echo : String) :
    (run echo i lines).ending = .endOfInput ∧
      (Repl.run echo i lines).store =
        lines.foldl (storeAfter i.context i.depth) i.machine.store := by
  have hStops := stopsWithin_run echo i lines
  unfold Outcome.StopsWithin at hStops
  cases hEnding : (Repl.run echo i lines).ending with
  | endOfInput =>
      rw [hEnding] at hStops
      exact ⟨rfl, hStops.2.2⟩
  | quit =>
      rw [hEnding] at hStops
      obtain ⟨before, line, rest, rfl, -, hQuit, -⟩ := hStops
      exact absurd hQuit h.not_stops.1
  | fault f =>
      rw [hEnding] at hStops
      obtain ⟨before, line, rest, rfl, -, -, hEscapes, -⟩ := hStops
      exact absurd hEscapes (h.not_stops.2 f)

/-- The loop runs out of depth over the wording of an error, and over nothing
else. -/
theorem escapes_tooDeep_iff {ctx : Context} {depth : Nat} {s : Store} {line : String} :
    Escapes ctx depth s line .tooDeep ↔
      ∃ e, (performLine line ctx depth).result (.fresh s) = .error (.error e) ∧
        e.messageWithin depth = .error .tooDeep := by
  constructor
  · rintro ⟨failure, hFails, ⟨-, hDeep⟩ | ⟨e, rfl, hMessage⟩⟩
    · exact absurd rfl hDeep
    · exact ⟨e, hFails, hMessage⟩
  · rintro ⟨e, hFails, hMessage⟩
    exact ⟨.error e, hFails, .inr ⟨e, rfl, hMessage⟩⟩

/-- What else a line can fail with beyond reporting. -/
theorem Escapes.fault_cases {ctx : Context} {depth : Nat} {s : Store} {line : String} {f : Fault}
    (h : Escapes ctx depth s line f) (hDeep : f ≠ .tooDeep) :
    f = .tooManyDigits ∨ f = .badFileName ∨ f = .notUtf8 ∨
      (f = .longFileName ∧ ctx.files.HasLongestPath) := by
  obtain ⟨failure, hFails, hReport⟩ := h
  rcases hReport with ⟨rfl, -⟩ | ⟨e, -, hMessage⟩
  · have hEnds := (oblivious_performLine line ctx depth).endsWell (.fresh s)
    rw [Run.result] at hFails
    cases hRun : performLine line ctx depth (.fresh s) with
    | ok _ m =>
        rw [hRun] at hFails
        cases hFails
    | error failure m =>
        rw [hRun] at hFails hEnds
        cases hFails
        cases f with
        | tooDeep => exact absurd rfl hDeep
        | tooManyDigits | badFileName | notUtf8 => simp
        | longFileName => exact .inr (.inr (.inr ⟨rfl, hEnds⟩))
        | limitTooLarge | notOneCharacter => exact hEnds.elim
  · exact .inl ((Error.fault_cases_of_messageWithin hMessage).resolve_left hDeep)

/-- **Lines are isolated, and runs compose.**  For every interpreter:

* a run of the loop stops at the end of its lines, or at the first line that
  quits or fails beyond reporting; it asks once for every line it uses and
  once more at the end of the input; and the store goes from line to line,
  each expression being evaluated in the store that the line before left,
  failed or not, and nothing else changing it;
* nesting is beyond reporting exactly where a line fails with an error whose
  wording shows a value that is nested too deeply; so neither evaluating nor
  printing too deep a value ends the loop, and no error does whose wording
  has room;
* with room enough every error is worded as it is without a limit;
* otherwise, beyond reporting are integers that are too long to be read or
  written, file names that cannot be used, which includes their length only
  where paths have a greatest one, and files that cannot be decoded;
* unless such a fault ends it, the exit status is zero;
* where a run gets through its lines, a run on them and more lines writes
  what it writes, up to the notice of the end of the input, and then what a
  run on the other lines writes from the store that was left; it ends in the
  same way as that run, with the same store. -/
theorem lines_isolated (echo : String) (i : Interpreter) :
    (∀ lines, (run echo i lines).StopsWithin i.context i.depth i.machine.store lines) ∧
    (∀ s line, Escapes i.context i.depth s line .tooDeep ↔
      ∃ e, (performLine line i.context i.depth).result (.fresh s) = .error (.error e) ∧
        e.messageWithin i.depth = .error .tooDeep) ∧
    (∀ e : Error, ∃ room, ∀ depth, room < depth → e.messageWithin depth = e.message) ∧
    (∀ s line f, Escapes i.context i.depth s line f → f ≠ .tooDeep →
      f = .tooManyDigits ∨ f = .badFileName ∨ f = .notUtf8 ∨
        (f = .longFileName ∧ i.context.files.HasLongestPath)) ∧
    (∀ lines, (∀ f, (run echo i lines).ending ≠ .fault f) →
      (CommandLine.runLoop i echo lines).ending = .exit 0) ∧
    (∀ xs ys, Passes i.context i.depth i.machine.store xs →
      let left := xs.foldl (storeAfter i.context i.depth) i.machine.store
      let rest := run echo (i.startAt left) ys
      ∃ written, (run echo i xs).output = written ++ (echo ++ "\n") ∧
        (run echo i (xs ++ ys)).output = written ++ rest.output ∧
        (run echo i (xs ++ ys)).store = rest.store ∧
        (run echo i (xs ++ ys)).ending = rest.ending ∧
        (run echo i (xs ++ ys)).prompts = xs.length + rest.prompts) := by
  refine ⟨stopsWithin_run echo i, fun s line => escapes_tooDeep_iff,
    fun e => e.exists_messageWithin_eq, fun s line f h hDeep => h.fault_cases hDeep,
    fun lines hFault => ?_, ?_⟩
  · rw [CommandLine.runLoop]
    cases hEnding : (run echo i lines).ending with
    | quit | endOfInput => rfl
    | fault f => exact absurd hEnding (hFault f)
  · intro xs ys hPasses left rest
    obtain ⟨hEnd, hStore⟩ := hPasses.run echo
    obtain ⟨m, hFirst, hBoth⟩ := run_append echo i ys hEnd
    have hLeft : left = m.store := by
      refine hStore.symm.trans ?_
      rw [Outcome.store, hFirst]
      rfl
    have hStart : (i.startAt left).behind m.past = { i with machine := m } := by
      rw [hLeft]
      exact Interpreter.startAt_behind_past { i with machine := m }
    have hRest : run echo { i with machine := m } ys =
        { rest with interpreter := rest.interpreter.behind m.past } := by
      rw [← hStart]
      exact run_behind echo (i.startAt left) m.past ys
    refine ⟨m.output, ?_, ?_⟩
    · rw [Outcome.output, hFirst]
      rfl
    · rw [hBoth, hRest]
      exact ⟨rfl, rfl, rfl, rfl⟩

/-- The third line assigns and then fails, and the fourth cannot be read.
The run on the other lines shows what was assigned, and stops at the second
of them. -/
theorem lines_isolated_failed_line :
    let i := Interpreter.ofTable ⟨fun _ => .error .missing⟩ [] 5 [("car", .car)]
    let xs := ["(define x 1)", "; nothing", "(car (set! x 2))", "(car"]
    let ys := ["x", " quit ", "(car x)"]
    ∃ written, (run "> " i xs).output = written ++ ("> " ++ "\n") ∧
      (run "> " i (xs ++ ys)).output = written ++ "> 2\n> " := by
  intro i xs ys
  have hPasses : Passes i.context i.depth i.machine.store xs := by
    have hStops := (lines_isolated "> " i).1 xs
    have hEnd : (match (run "> " i xs).ending with | .endOfInput => true | _ => false) = true := by
      decide +kernel
    unfold Outcome.StopsWithin at hStops
    split at hEnd
    · next hEnding =>
        rw [hEnding] at hStops
        exact hStops.1
    · cases hEnd
  obtain ⟨written, hFirst, hBoth, -⟩ := (lines_isolated "> " i).2.2.2.2.2 xs ys hPasses
  refine ⟨written, hFirst, hBoth.trans (congrArg (written ++ ·) ?_)⟩
  decide +kernel

/-- A list is nested until the loop reports that it is too deep to be printed.
Then it is called like a procedure.  That is an error of the program and would
be reported as one with more room; with the room that the loop has, the line
ends it. -/
theorem deep_error_ends_loop :
    let i := Interpreter.ofTable ⟨fun _ => .error .missing⟩ [] 5 [("list", .list)]
    let lines := "(define x (list))" :: List.replicate 3 "(set! x (list x))"
    (run "> " i lines).ending = .endOfInput ∧
      (run "> " i lines).output =
        "> ()\n> (())\n> ((()))\n> Maximum recursion depth exceeded\n> \n" ∧
      (∃ failure, (performLine "(x)" i.context i.depth).result
          (.fresh (run "> " i lines).store) = .error failure ∧
        failure.report 7 = .ok "Invalid type: expected procedure, found (((())))") ∧
      (run "> " i (lines ++ ["(x)"])).ending = .fault .tooDeep ∧
      (CommandLine.runLoop i "> " (lines ++ ["(x)"])).ending = .fault .tooDeep := by
  intro i lines
  have hReport : ((performLine "(x)" i.context i.depth).result
      (.fresh (run "> " i lines).store)).mapError (·.report 7) =
        .error (.ok "Invalid type: expected procedure, found (((())))") := by
    decide +kernel
  have hEnding : (run "> " i (lines ++ ["(x)"])).ending = .fault .tooDeep := by decide +kernel
  refine ⟨by decide +kernel, by decide +kernel, ?_, hEnding, ?_⟩
  · cases hFails : (performLine "(x)" i.context i.depth).result
        (.fresh (run "> " i lines).store) with
    | ok _ =>
        rw [hFails] at hReport
        cases hReport
    | error failure =>
        rw [hFails] at hReport
        exact ⟨failure, rfl, Except.error.inj hReport⟩
  · rw [CommandLine.runLoop, hEnding]

end Repl

end MiniScheme
