import MiniScheme.CommandLine
import MiniScheme.Proofs.Eval.Application
import MiniScheme.Proofs.Repl.Transcript
import MiniScheme.Proofs.Store.CallFrame

/-!
# Running a file

A file is run by way of an expression: its name is written as a string
literal, the literal is put into a call of `load`, and the text is read and
evaluated like any other.  **No name can break out of the literal.**  The
text is the written form of a list of two elements (`loadExpression_eq`),
and written forms of strings are read back, whatever characters they hold.

So the detour makes no difference: running a file does what binding its
arguments and loading it does, with the value or the message reported.

## Main results

* `readOne_loadExpression` — what the expression for a file name is read as.
* `evalText_loadExpression` — evaluating it is loading the file, two levels
  of nesting further in.
* `runText_eq` — what is answered, in terms of how evaluation ends.
* `runFile_loads` — running a file is loading it.
-/

namespace MiniScheme

/-! ## The expression that loads a file -/

theorem readable_load : (Value.symbol "load").Readable := by
  have hWord : Reader.IsWord "load".toList :=
    Reader.isWord_cons (c := 'l') (w := ['o', 'a', 'd']) (by decide) (by decide)
  refine .symbol hWord (by decide) (by decide) ?_
  rw [← beginsNumeral_iff_of_isWord hWord]
  exact Reader.not_beginsNumeral_of_numeral? rfl

theorem load_ne_keyword (keyword : Keyword) : "load" ≠ keyword.name := by
  cases keyword <;> decide

namespace CommandLine

/-- The expression is the written form of a call. -/
theorem loadExpression_eq (name : String) :
    loadExpression name = String.ofList (Value.list [.symbol "load", .string name]).text := by
  apply String.toList_inj.1
  simp [loadExpression, Text.stringLiteral, Value.text, Value.spaced]

/-- **Whatever the name**, the expression is read as a list of two elements:
the symbol and the name. -/
theorem readOne_loadExpression (name : String) :
    Reader.readOne (loadExpression name) = .ok (.list [.symbol "load", .string name]) := by
  have hReadable : (Value.list [.symbol "load", .string name]).Readable := by
    refine .list fun v hv => ?_
    rcases List.mem_pair.1 hv with rfl | rfl
    · exact readable_load
    · exact .string name
  rw [Reader.readOne_eq_ok_iff_readAll, loadExpression_eq]
  exact Reader.readAll_of_readable hReadable

theorem evalText_loadExpression_eq (ctx : Context) (depth : Nat) (name : String) :
    Interpreter.evalText ctx depth (loadExpression name) =
      Interpreter.eval ctx depth (.list [.symbol "load", .string name]) := by
  rw [Interpreter.evalText, readOne_loadExpression]
  exact pure_bind _ _

/-- **Evaluating the expression is loading the file**, two levels of nesting
further in, where the global frame has the primitive. -/
theorem evalText_loadExpression {ctx : Context} {m : Machine} {p : String}
    (hLoad : m.store.get? ctx.globals "load" = some (.primitive p .load)) (name : String)
    (d : Nat) :
    Interpreter.evalText ctx (d + 2) (loadExpression name) m = Interpreter.load ctx d name m := by
  rw [evalText_loadExpression_eq]
  exact Eval.evaluate_load_call hLoad rfl

/-- Depths at which neither of the two gives up make no difference. -/
theorem evalText_loadExpression_eq_load {ctx : Context} {m : Machine} {p : String}
    (hLoad : m.store.get? ctx.globals "load" = some (.primitive p .load)) {name : String}
    {depth d : Nat}
    (hText : Run.gaveUp (Interpreter.evalText ctx depth (loadExpression name) m) = false)
    (hDirect : Run.gaveUp (Interpreter.load ctx d name m) = false) :
    Interpreter.evalText ctx depth (loadExpression name) m = Interpreter.load ctx d name m := by
  have hDeep : 2 ≤ depth := by
    refine Nat.le_of_not_lt fun hShallow => ?_
    rw [evalText_loadExpression_eq, Interpreter.eval,
      Eval.gaveUp_application load_ne_keyword _ hShallow] at hText
    cases hText
  obtain ⟨e, rfl⟩ := Nat.exists_eq_add_of_le' hDeep
  rw [evalText_loadExpression hLoad] at hText ⊢
  exact (Interpreter.settles_load ctx name).eq_of_not_gaveUp hText hDirect

/-! ## Answers -/

/-- What is answered to a failure, with the machine that it leaves. -/
def answerToFailure (i : Interpreter) (failure : Failure) (m : Machine) : Answer :=
  match failure.report i.depth with
  | .ok message =>
    { interpreter := { i with machine := m }
      complaint := message ++ "\n"
      ending := .exit 1 }
  | .error f => { interpreter := { i with machine := m }, complaint := "", ending := .fault f }

/-- What is answered when the evaluation of a source ends in the given way:
the value is printed, or the failure is reported. -/
def answerTo (i : Interpreter) : EStateM.Result Failure Machine Value → Answer
  | .ok v m =>
    match v.writtenWithin i.depth with
    | .ok text =>
      { interpreter := { i with machine := { m with output := m.output ++ (text ++ "\n") } }
        complaint := ""
        ending := .exit 0 }
    | .error f => answerToFailure i (.fault f) m
  | .error failure m => answerToFailure i failure m

/-- Running a text answers to how its evaluation ends. -/
theorem runText_eq (i : Interpreter) (text : String) :
    runText i text =
      answerTo i (Interpreter.evalText i.context i.depth text i.machine) := by
  obtain ⟨ctx, depth, m⟩ := i
  unfold runText Interpreter.run
  dsimp only
  cases hEval : Interpreter.evalText ctx depth text m with
  | error failure m' =>
      rw [performText, Run.bind_eq_of_error hEval]
      rfl
  | ok v m' =>
      rw [performText, Run.bind_eq_of_ok hEval]
      cases hWritten : v.writtenWithin depth with
      | ok shown => simp only [Repl.printLine_of_writtenWithin hWritten, answerTo, hWritten]
      | error f =>
          have hPrint : Interpreter.printLine depth v m' = .error (.fault f) m' := by
            rw [Interpreter.printLine, hWritten]
            rfl
          simp only [hPrint, answerTo, hWritten]
          rfl

end CommandLine

/-! ## Arguments -/

namespace Interpreter

variable (i : Interpreter) (args : List String)

theorem args_bindArgs :
    (i.bindArgs args).global? "args" = some (.list (args.map Value.string)) :=
  i.machine.store.get?_derive_of_mem i.context.globals List.mem_cons_self

/-- Names other than `args` have the cells they had. -/
theorem cell?_bindArgs {name : String} (hName : name ≠ "args") :
    (i.bindArgs args).machine.store.cell? (i.bindArgs args).context.globals name =
      i.machine.store.cell? i.context.globals name :=
  i.machine.store.cell?_derive_of_notMem i.context.globals
    fun hMem => hName (List.mem_singleton.1 hMem)

theorem extends_bindArgs : i.machine.store.Extends (i.bindArgs args).machine.store :=
  i.machine.store.extends_derive _ _

variable {i}

/-- What was known globally under another name than `args` still is. -/
theorem global?_bindArgs {name : String} (hName : name ≠ "args") {v : Value}
    (h : i.global? name = some v) : (i.bindArgs args).global? name = some v := by
  rw [← h, global?, global?, Store.get?, Store.get?, cell?_bindArgs i args hName]
  cases hCell : i.machine.store.cell? i.context.globals name with
  | none => rfl
  | some cell =>
      rw [global?, Store.get?, hCell, Option.bind_some] at h
      exact (extends_bindArgs i args).held (Array.getElem?_eq_some_iff.1 h).1

end Interpreter

namespace CommandLine

/-- **Running a file is loading it**, whatever its name and its arguments, if
the global frame has the primitive `load`:

* the expression made of the name is read as a call with that name;
* `args` is the list of the arguments, in a new frame over the old global
  one, and no existing frame or cell is changed by binding it;
* evaluating the expression is loading the file at a depth of two less.

At all depths at which neither the run nor a direct load gives up, the run
leaves the machine that the load leaves, and

* a value that can be shown is printed on a line, with status 0, unless the
  run gives up on it;
* an error whose message can be rendered is the complaint, with status 1
  and nothing added to the output, unless the run gives up on it;
* a value that the run gives up on is reported to be too deep;
* otherwise the run ends with the fault of the load, or of the rendering. -/
theorem runFile_loads (i : Interpreter) (name : String) (args : List String) {p : String}
    (hLoad : i.global? "load" = some (.primitive p .load)) :
    let started := i.bindArgs args
    let ctx := started.context
    let m := started.machine
    Reader.readOne (loadExpression name) = .ok (.list [.symbol "load", .string name]) ∧
    (ctx.globals = i.machine.store.frames.size ∧
      started.global? "args" = some (.list (args.map Value.string)) ∧
      (∀ other ≠ "args", m.store.cell? ctx.globals other =
        i.machine.store.cell? i.context.globals other) ∧
      i.machine.store.Extends m.store) ∧
    (∀ d, Interpreter.evalText ctx (d + 2) (loadExpression name) m =
      Interpreter.load ctx d name m) ∧
    (∀ d, Run.gaveUp (Interpreter.load ctx d name m) = false →
      Run.gaveUp (Interpreter.evalText ctx i.depth (loadExpression name) m) = false →
      (∀ v m' text, Interpreter.load ctx d name m = .ok v m' → v.written = .ok text →
        v.writtenWithin i.depth ≠ .error .tooDeep →
        runFile i name args =
          { interpreter :=
              { started with machine := { m' with output := m'.output ++ (text ++ "\n") } }
            complaint := ""
            ending := .exit 0 }) ∧
      (∀ e m' message, Interpreter.load ctx d name m = .error (.error e) m' →
        e.message = .ok message → e.messageWithin i.depth ≠ .error .tooDeep →
        runFile i name args =
          { interpreter := { started with machine := m' }
            complaint := message ++ "\n"
            ending := .exit 1 }) ∧
      (∀ v m', Interpreter.load ctx d name m = .ok v m' →
        v.writtenWithin i.depth = .error .tooDeep →
        runFile i name args =
          { interpreter := { started with machine := m' }
            complaint := depthMessage ++ "\n"
            ending := .exit 1 }) ∧
      (∀ v m' f, Interpreter.load ctx d name m = .ok v m' → v.written = .error f →
        v.writtenWithin i.depth ≠ .error .tooDeep →
        runFile i name args =
          { interpreter := { started with machine := m' }, complaint := "", ending := .fault f }) ∧
      (∀ failure m' f, Interpreter.load ctx d name m = .error failure m' →
        failure.report i.depth = .error f →
        runFile i name args =
          { interpreter := { started with machine := m' }, complaint := "", ending := .fault f })) := by
  intro started ctx m
  have hStarted : m.store.get? ctx.globals "load" = some (.primitive p .load) :=
    Interpreter.global?_bindArgs args (by decide) hLoad
  refine ⟨readOne_loadExpression name, ⟨rfl, i.args_bindArgs args, ?_, i.extends_bindArgs args⟩,
    evalText_loadExpression hStarted name, ?_⟩
  · intro other hOther
    exact i.cell?_bindArgs args hOther
  · intro d hDirect hText
    have hAnswer : runFile i name args = answerTo started (Interpreter.load ctx d name m) := by
      rw [← evalText_loadExpression_eq_load hStarted hText hDirect]
      exact runText_eq started (loadExpression name)
    have hDepth : started.depth = i.depth := rfl
    rw [hAnswer]
    refine ⟨?_, ?_, ?_, ?_, ?_⟩
    · intro v m' text hOutcome hWritten hRoom
      have hWithin := (Value.writtenWithin_eq_of_ne hRoom).trans hWritten
      simp only [hOutcome, answerTo, hDepth, hWithin]
    · intro e m' message hOutcome hMessage hRoom
      have hWithin := (Error.messageWithin_eq_of_ne hRoom).trans hMessage
      simp only [hOutcome, answerTo, answerToFailure, Failure.report, hDepth, hWithin]
    · intro v m' hOutcome hDeep
      simp only [hOutcome, answerTo, answerToFailure, Failure.report, hDepth, hDeep]
    · intro v m' f hOutcome hWritten hRoom
      obtain rfl := Value.eq_tooManyDigits_of_render hWritten
      have hWithin := (Value.writtenWithin_eq_of_ne hRoom).trans hWritten
      simp only [hOutcome, answerTo, answerToFailure, Failure.report, hDepth, hWithin]
    · intro failure m' f hOutcome hReport
      simp only [hOutcome, answerTo, answerToFailure, hDepth, hReport]

/-- A file whose name holds a quote, a backslash, a parenthesis, a semicolon,
a newline and a tab is run with an argument. -/
theorem runFile_loads_punctuation :
    let name := "a\"b\\c);\n\td"
    let files := FileSystem.ofFiles [(name, "(display args) (car args)".toUTF8)]
    let i := Interpreter.ofTable files [] 9 Primitive.standard
    let started := i.bindArgs ["x"]
    i.global? "load" = some (.primitive "load" .load) ∧
      Reader.readOne (loadExpression name) = .ok (.list [.symbol "load", .string name]) ∧
      ∃ v m', Interpreter.load started.context 7 name started.machine = .ok v m' ∧
        v.written = .ok "\"x\"" ∧ m'.output = "(\"x\")" ∧
        runFile i name ["x"] =
          { interpreter :=
              { started with machine := { m' with output := m'.output ++ ("\"x\"" ++ "\n") } }
            complaint := ""
            ending := .exit 0 } := by
  intro name files i started
  have hLoad : i.global? "load" = some (.primitive "load" .load) := rfl
  obtain ⟨hRead, -, hDeeper, hRun⟩ := runFile_loads i name ["x"] hLoad
  have hDirect : ((Interpreter.load started.context 7 name).result started.machine).toOption.map
      (fun v => (v.writtenWithin i.depth).toOption) = some (some "\"x\"") := by decide +kernel
  have hOutput : ((Interpreter.load started.context 7 name).final started.machine).output =
      "(\"x\")" := by decide +kernel
  cases hOutcome : Interpreter.load started.context 7 name started.machine with
  | error failure m' =>
      rw [Run.result, hOutcome] at hDirect
      cases hDirect
  | ok v m' =>
      rw [Run.result, hOutcome] at hDirect
      rw [Run.final, hOutcome] at hOutput
      cases hWithin : v.writtenWithin i.depth with
      | error f =>
          have hNone : (Except.error f : Except Fault String).toOption = some "\"x\"" := by
            rw [← hWithin]
            exact Option.some.inj hDirect
          cases hNone
      | ok text =>
          have hShown : (Except.ok text : Except Fault String).toOption = some "\"x\"" := by
            rw [← hWithin]
            exact Option.some.inj hDirect
          obtain rfl : text = "\"x\"" := Option.some.inj hShown
          have hWritten := Value.written_of_writtenWithin hWithin
          have hRoom : v.writtenWithin i.depth ≠ .error .tooDeep := by simp [hWithin]
          have hEnds : Run.gaveUp (Interpreter.load started.context 7 name started.machine) =
              false := by
            rw [hOutcome]
            rfl
          have hText : Run.gaveUp (Interpreter.evalText started.context (7 + 2)
              (loadExpression name) started.machine) = false := by
            rw [hDeeper 7]
            exact hEnds
          exact ⟨hLoad, hRead, v, m', rfl, hWritten, hOutput,
            (hRun 7 hEnds hText).1 v m' _ hOutcome hWritten hRoom⟩

end CommandLine

end MiniScheme
