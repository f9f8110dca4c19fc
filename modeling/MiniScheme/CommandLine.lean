import MiniScheme.Repl
import MiniScheme.Settings
import MiniScheme.Text.StringLiteral

/-!
# The command line

Without arguments the program runs the interactive loop.  Otherwise its
first argument is a source: an expression if it begins with a parenthesis,
else the name of a file to load.  What follows the source is for the
program that is run, options included.

Options stand before the source.  `Invocation.ofArgs` sorts the arguments
out; `CommandLine.run` does what they ask for.
-/

namespace MiniScheme

/-! ## Arguments -/

/-- What one argument in front of the source is. -/
inductive Argument where
  | help
  | version
  /-- An option that takes no value, with one. -/
  | withValue (option value : String)
  /-- A shortened option that could be one of several. -/
  | ambiguous
  | unknown
  | source
  deriving DecidableEq, Repr

namespace Argument

/-- Is the argument a negative number?  A newline at its end makes no
difference. -/
def isNegative : List Char → Bool
  | '-' :: digits =>
    let digits := if digits.getLast? = some '\n' then digits.dropLast else digits
    let isDigit c := (Text.digitValue? c).isSome
    match digits.dropWhile isDigit with
    | [] => !digits.isEmpty
    | '.' :: places => !places.isEmpty && places.all isDigit
    | _ => false
  | _ => false

/-- An argument that has the form of an option without being one. -/
def unmatched (arg : List Char) : Argument :=
  if isNegative arg || arg.contains ' ' then .source else .unknown

/-- The long option that a text spells or begins, with the value joined to
it. -/
def long (arg : List Char) : Argument :=
  let name := arg.takeWhile (· != '=')
  let value? := if arg.contains '=' then some (arg.drop (name.length + 1)) else none
  let matched (plain : Argument) (option : String) : Argument :=
    match value? with
    | none => plain
    | some value => .withValue option (String.ofList value)
  match name.isPrefixOf "--help".toList, name.isPrefixOf "--version".toList with
  | true, true => .ambiguous
  | true, false => matched .help "-h/--help"
  | false, true => matched .version "--version"
  | false, false => unmatched arg

/-- The short option with letters joined to it.  They are short options
again, of which there is only the one; what is behind the last of them is a
value. -/
def short (letters : List Char) : Argument :=
  match letters.dropWhile (· == 'h') with
  | [] => .help
  | value => .withValue "-h/--help" (String.ofList value)

/-- What an argument is.  An equals sign between the short option and its
letters is skipped; with nothing behind it, it gives an empty value. -/
def classify (arg : String) : Argument :=
  match arg.toList with
  | '-' :: '-' :: rest => long ('-' :: '-' :: rest)
  | ['-', 'h', '='] => .withValue "-h/--help" ""
  | '-' :: 'h' :: '=' :: letters => short letters
  | '-' :: 'h' :: letters => short letters
  | '-' :: c :: rest => unmatched ('-' :: c :: rest)
  | _ => .source

end Argument

/-- What the arguments ask for. -/
inductive Invocation where
  | help
  | version
  /-- The arguments are wrong, for the given reason. -/
  | wrong (reason : String)
  | run (source : Option String) (args : List String)
  deriving DecidableEq, Repr

namespace Invocation

/-- The mark behind which no argument is an option. -/
def endOfOptions : String := "--"

/-- The source and its arguments, unless unknown options stood before
them. -/
def finish (unknown : List String) (source : Option String) (args : List String) : Invocation :=
  if unknown.isEmpty then .run source args
  else .wrong ("unrecognized arguments: " ++ " ".intercalate unknown)

/-- Sorts out the arguments behind the given unknown options. -/
def scan (unknown : List String) : List String → Invocation
  | [] => finish unknown none []
  | arg :: rest =>
    if arg = endOfOptions then
      match rest with
      | [] => finish unknown none []
      | source :: args => finish unknown (some source) args
    else
      match Argument.classify arg with
      | .help => .help
      | .version => .version
      | .withValue option value =>
        .wrong ("argument " ++ option ++ ": ignored explicit argument " ++ Text.quoted value)
      | .ambiguous | .unknown => scan (unknown ++ [arg]) rest
      | .source =>
        finish unknown (some arg) (if rest.head? = some endOfOptions then rest.drop 1 else rest)

/-- What the arguments ask for.  An ambiguous option is wrong wherever it
stands. -/
def ofArgs (args : List String) : Invocation :=
  match (args.takeWhile (· ≠ endOfOptions)).find? (Argument.classify · = .ambiguous) with
  | some arg => .wrong ("ambiguous option: " ++ arg ++ " could match --help, --version")
  | none => scan [] args

end Invocation

/-! ## Running -/

namespace CommandLine

/-- The first line of every explanation. -/
def usage : String := "usage: schemelet [-h] [--version] [source] ...\n"

/-- The explanation of the command line. -/
def helpText : String :=
  usage ++ "\nA small Scheme interpreter\n\n"
    ++ "positional arguments:\n"
    ++ "  source      expression (starting with '(') or file to run\n"
    ++ "  args        arguments bound to `args` when running a file\n\n"
    ++ "options:\n"
    ++ "  -h, --help  show this help message and exit\n"
    ++ "  --version   show program's version number and exit\n\n"
    ++ "Examples:\n"
    ++ "  schemelet                      # Start the REPL\n"
    ++ "  schemelet \"(+ 1 2)\"            # Evaluate one expression\n"
    ++ "  schemelet script.scm a b       # Run a file; (car args) is \"a\"\n        \n"

/-- What the program says about its version. -/
def versionText : String := "schemelet 0.1.0\n"

/-- How a run of the program ends. -/
inductive Ending where
  | exit (status : Nat)
  | fault (f : Fault)

/-- What a run of the program leaves behind. -/
structure Outcome where
  ending : Ending
  output : String
  errors : String
  /-- The files that were opened, the first one first. -/
  opened : List Path

/-- What running a source leaves: the interpreter, the text of a failure,
and how the run ends. -/
structure Answer where
  interpreter : Interpreter
  complaint : String
  ending : Ending

/-- Evaluates the one expression of a text and prints the value. -/
def performText (text : String) (ctx : Context) (depth : Nat) : Run Unit := do
  Interpreter.printLine depth (← Interpreter.evalText ctx depth text)

/-- Runs the one expression of a text. -/
def runText (i : Interpreter) (text : String) : Answer :=
  match i.run (performText text) with
  | (.ok _, i) => { interpreter := i, complaint := "", ending := .exit 0 }
  | (.error failure, i) =>
    match failure.report i.depth with
    | .ok message => { interpreter := i, complaint := message ++ "\n", ending := .exit 1 }
    | .error f => { interpreter := i, complaint := "", ending := .fault f }

/-- The expression that loads a file. -/
def loadExpression (name : String) : String := "(load " ++ Text.stringLiteral name ++ ")"

/-- Loads a file with its arguments bound. -/
def runFile (i : Interpreter) (name : String) (args : List String) : Answer :=
  runText (i.bindArgs args) (loadExpression name)

/-- Runs the interactive loop, the prompts going to the output. -/
def runLoop (i : Interpreter) (prompt : String) (lines : List String) : Answer :=
  let outcome := Repl.run prompt i lines
  match outcome.ending with
  | .quit | .endOfInput =>
    { interpreter := outcome.interpreter, complaint := "", ending := .exit 0 }
  | .fault f => { interpreter := outcome.interpreter, complaint := "", ending := .fault f }

/-- The lines of an input; the last one need not be ended. -/
def inputLines (input : String) : List String :=
  let fields := Text.fields '\n' input.toList
  (if fields.getLast? = some [] then fields.dropLast else fields).map String.ofList

/-- How deeply the program is nested when it has an interpreter: a limit
that is not above it cannot be set. -/
def startDepth : Nat := 10

/-- How deeply the program is nested while it reads a source.  A limit
leaves to evaluation what is above it. -/
def readingDepth : Nat := 45

/-- The largest limit of nesting that can be set. -/
def largestLimit : Nat := 2147483647

/-- The depth of nesting that the settings leave to evaluation, unless they
ask for a limit that cannot be set. -/
def depth (settings : Settings) : Except Fault Nat :=
  match settings.limit? with
  | .ok (some limit) =>
    if limit ≤ startDepth then .error .tooDeep
    else if largestLimit < limit then .error .limitTooLarge
    else .ok (min (limit - readingDepth) defaultDepth)
  | _ => .ok defaultDepth

/-- The interpreter that the settings ask for. -/
def start (settings : Settings) (files : FileSystem) : Except Fault Interpreter := do
  return Interpreter.ofTable files settings.roots (← depth settings) Primitive.standard

/-- What is logged about the limit of nesting. -/
def limitLog (settings : Settings) : List LogEntry :=
  match settings.limit? with
  | .ok none => []
  | .ok (some limit) => [.limitSet limit]
  | .error warning => [warning]

/-- What is logged before anything runs. -/
def startLog (settings : Settings) : List LogEntry :=
  limitLog settings ++ [.primitivesBound Primitive.standard.complete.length]

/-- Runs a source, or the interactive loop on the given input. -/
def runSource (i : Interpreter) (prompt input : String) (source : Option String)
    (args : List String) : Answer :=
  match source with
  | none => runLoop i prompt (inputLines input)
  | some text => if text.toList.head? = some '(' then runText i text else runFile i text args

/-- Sets an interpreter up and runs a source, or the interactive loop on the
given input. -/
def execute (settings : Settings) (files : FileSystem) (input : String) (source : Option String)
    (args : List String) : Outcome :=
  match start settings files with
  | .error f =>
    { ending := .fault f, output := "", errors := logText settings.level (limitLog settings),
      opened := [] }
  | .ok i =>
    let answer := runSource i settings.promptText input source args
    let machine := answer.interpreter.machine
    let opened := machine.opened.toList
    { ending := answer.ending
      output := machine.output
      errors := logText settings.level (startLog settings ++ opened.map LogEntry.fileOpened)
        ++ answer.complaint
      opened }

/-- Runs the program: its arguments, its settings, the files it can see and
its standard input. -/
def run (settings : Settings) (files : FileSystem) (input : String) (args : List String) :
    Outcome :=
  match Invocation.ofArgs args with
  | .help => { ending := .exit 0, output := helpText, errors := "", opened := [] }
  | .version => { ending := .exit 0, output := versionText, errors := "", opened := [] }
  | .wrong reason =>
    { ending := .exit 2, output := "", errors := usage ++ "schemelet: error: " ++ reason ++ "\n",
      opened := [] }
  | .run source args => execute settings files input source args

end CommandLine

end MiniScheme
