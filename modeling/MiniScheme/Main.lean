import MiniScheme.CommandLine

/-!
# The program

The outer layer: arguments, environment variables, files and the terminal.
The interpreter itself is a function of the files it sees, so this layer
finds out which files a run opens, reads those, and runs again, until a run
opens nothing new.  Only what the last run wrote is shown.

The interactive loop is run line by line, so that each prompt appears
before its line is read.
-/

namespace MiniScheme.Main

/-- What is known about the files so far. -/
abbrev Known := List (Path × Except FileProblem ByteArray)

/-- The file system that holds what is known. -/
def Known.files (known : Known) : FileSystem :=
  { read := fun path => (known.lookup path).getD (.error .missing) }

/-- The paths to look at because a run opened the given ones. -/
def Known.unseen (known : Known) (roots opened : List Path) : List Path :=
  (opened.flatMap fun path => path :: roots.map path.under).filter fun path =>
    (known.lookup path).isNone

/-- Reads a file. -/
def readFile (path : Path) : IO (Except FileProblem ByteArray) := do
  try
    return .ok (← IO.FS.readBinFile path.text)
  catch
    | .inappropriateType _ 21 _ => return .error .isDirectory
    | .inappropriateType _ _ _ => return .error .notDirectory
    | .invalidArgument _ _ _ => return .error .nameTooLong
    | _ => return .error .missing

/-- Runs `attempt` until all the files it opens are known. -/
partial def settle {α : Type} (roots : List Path) (known : Known) (attempt : FileSystem → α)
    (opened : α → List Path) : IO (α × Known) := do
  let result := attempt known.files
  match known.unseen roots (opened result) with
  | [] => return (result, known)
  | paths =>
    let found ← paths.mapM fun path => return (path, ← readFile path)
    settle roots (found ++ known) attempt opened

/-- The settings in the environment of the program. -/
def environment : IO Settings :=
  return {
    path := ← IO.getEnv "SCHEMELET_PATH"
    prompt := ← IO.getEnv "SCHEMELET_PROMPT"
    recursionLimit := ← IO.getEnv "SCHEMELET_RECURSION_LIMIT"
    logLevel := ← IO.getEnv "LOGLEVEL" }

/-- The exit status of an ending. -/
def status : CommandLine.Ending → UInt32
  | .exit n => n.toUInt32
  | .fault _ => 1

/-- Answers one line with the files that it needs. -/
def answer (i : Interpreter) (known : Known) (line : String) :
    IO ((Interpreter × Option Repl.Ending) × Known) :=
  settle i.context.roots known
    (fun files => Repl.answer { i with context := { i.context with files } } line)
    (·.1.machine.opened.toList)

/-- Runs the interactive loop on the terminal. -/
partial def converse (settings : Settings) (i : Interpreter) (known : Known) : IO UInt32 := do
  let output ← IO.getStdout
  output.putStr settings.promptText
  output.flush
  let line ← (← IO.getStdin).getLine
  if line.isEmpty then
    output.putStrLn ""
    return 0
  let ((after, ending), known) ← answer i known ((CommandLine.inputLines line).headD "")
  let opened := after.machine.opened.toList.drop i.machine.opened.size
  IO.eprint (logText settings.level (opened.map LogEntry.fileOpened))
  let (text, after) := after.takeOutput
  output.putStr text
  match ending with
  | none => converse settings after known
  | some (.fault _) => return 1
  | some _ => return 0

/-- Runs the program on its arguments; the result is its exit status. -/
def run (args : List String) : IO UInt32 := do
  let settings ← environment
  match Invocation.ofArgs args with
  | .run none _ =>
    match CommandLine.start settings (Known.files []) with
    | .error _ =>
      IO.eprint (logText settings.level (CommandLine.limitLog settings))
      return 1
    | .ok i =>
      IO.eprint (logText settings.level (CommandLine.startLog settings))
      converse settings i []
  | _ =>
    let (outcome, _) ← settle settings.roots [] (CommandLine.run settings · "" args) (·.opened)
    IO.print outcome.output
    IO.eprint outcome.errors
    return status outcome.ending

end MiniScheme.Main

/-- The program. -/
def main (args : List String) : IO UInt32 := MiniScheme.Main.run args
