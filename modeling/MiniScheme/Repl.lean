import MiniScheme.Interpreter

/-!
# The interactive loop

The loop asks for a line, evaluates the expression on it and prints the
value, until a line says `quit` or the input ends.  Whatever a program does
wrong is printed and the loop goes on with the store as the failed line
left it.  Faults other than running out of depth end the loop.

Nobody listens while a failure is reported: **an error that shows a value
nested too deeply ends the loop too**, although the value alone, as the
result of a line, would have been reported as too deep.
-/

namespace MiniScheme

/-- What is said when an evaluation is nested too deeply. -/
def depthMessage : String := "Maximum recursion depth exceeded"

/-- The text that reports a failure, with `depth` levels of recursion to
spare, or the fault that cannot be reported. -/
def Failure.report (depth : Nat) : Failure → Except Fault String
  | .error e => e.messageWithin depth
  | .fault .tooDeep => .ok depthMessage
  | .fault f => .error f

namespace Interpreter

/-- Writes to the standard output of the interpreter's programs. -/
def emit (i : Interpreter) (text : String) : Interpreter :=
  { i with machine := { i.machine with output := i.machine.output ++ text } }

end Interpreter

namespace Repl

/-- The line that ends the loop. -/
def quitCommand : List Char := "quit".toList

/-- Why the loop ends. -/
inductive Ending where
  | quit
  | endOfInput
  | fault (f : Fault)
  deriving DecidableEq, Repr

/-- Does what a line asks for: evaluates the expression on it and prints the
value.  A line that holds nothing asks for nothing. -/
def performLine (line : String) (ctx : Context) (depth : Nat) : Run Unit := do
  match ← Run.ofFailing (Reader.readOptional line) with
  | none => pure ()
  | some expr => Interpreter.printLine depth (← Interpreter.eval ctx depth expr)

/-- Answers one line: the interpreter after it, and whether the loop ends. -/
def answer (i : Interpreter) (line : String) : Interpreter × Option Ending :=
  if Text.strip line.toList = quitCommand then (i, some .quit)
  else
    match i.run (performLine line) with
    | (.ok _, i) => (i, none)
    | (.error failure, i) =>
      match failure.report i.depth with
      | .ok text => (i.emit (text ++ "\n"), none)
      | .error f => (i, some (.fault f))

/-- What a run of the loop leaves. -/
structure Outcome where
  interpreter : Interpreter
  /-- How often a line was asked for. -/
  prompts : Nat
  ending : Ending

/-- Runs the loop on the lines that asking for them gives.  `echo` is what
asking leaves in the output: the prompt, or nothing where the prompt is
shown elsewhere. -/
def run (echo : String) : Interpreter → List String → Outcome
  | i, [] => { interpreter := i.emit (echo ++ "\n"), prompts := 1, ending := .endOfInput }
  | i, line :: rest =>
    match answer (i.emit echo) line with
    | (i, some ending) => { interpreter := i, prompts := 1, ending }
    | (i, none) =>
      let outcome := run echo i rest
      { outcome with prompts := outcome.prompts + 1 }

end Repl

end MiniScheme
