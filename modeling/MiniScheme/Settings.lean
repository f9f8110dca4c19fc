import MiniScheme.Error.Basic
import MiniScheme.Files.Path
import MiniScheme.Numeral
import MiniScheme.Text.LetterCase

/-!
# Settings

Four environment variables set the interpreter up.  `Settings` holds their
texts as they were given, and one function for each says what it means.

A limit that is no positive integer is ignored with a warning; the other
variables take any text.
-/

namespace MiniScheme

/-! ## The log -/

/-- How important a message is. -/
inductive LogLevel where
  | all
  | debug
  | info
  | warning
  | error
  | critical
  deriving DecidableEq, Repr

namespace LogLevel

/-- The number of a level; more important is higher. -/
def number : LogLevel → Nat
  | .all => 0
  | .debug => 10
  | .info => 20
  | .warning => 30
  | .error => 40
  | .critical => 50

/-- The names of the levels.  Two of them have two. -/
def names : List (String × LogLevel) :=
  [("NOTSET", .all), ("DEBUG", .debug), ("INFO", .info), ("WARNING", .warning),
    ("WARN", .warning), ("ERROR", .error), ("CRITICAL", .critical), ("FATAL", .critical)]

/-- The level of the given name, in any mixture of small letters and
capitals. -/
def ofName? (name : String) : Option LogLevel :=
  names.lookup (String.ofList (name.toList.map Text.upper))

/-- The word for a level in front of a message. -/
def word (level : LogLevel) : String :=
  ((names.find? (·.2 = level)).map (·.1)).getD ""

end LogLevel

/-- What the log reports. -/
inductive LogEntry where
  | notAnInteger (setting : String)
  | notPositive (setting : String)
  | limitSet (limit : Nat)
  | primitivesBound (count : Nat)
  | fileOpened (path : Path)
  deriving DecidableEq, Repr

namespace LogEntry

/-- How important an entry is. -/
def level : LogEntry → LogLevel
  | .notAnInteger _ | .notPositive _ => .warning
  | .limitSet _ | .primitivesBound _ | .fileOpened _ => .debug

/-- Which part of the program an entry comes from. -/
def origin : LogEntry → String
  | .notAnInteger _ | .notPositive _ => "schemelet.config"
  | .limitSet _ => "schemelet.cli"
  | .primitivesBound _ => "schemelet.evaluation.evaluator"
  | .fileOpened _ => "schemelet.interpreter"

/-- The wording of an entry. -/
def message : LogEntry → String
  | .notAnInteger setting =>
    "Ignoring SCHEMELET_RECURSION_LIMIT=" ++ Text.quoted setting ++ ": not an integer"
  | .notPositive setting =>
    "Ignoring SCHEMELET_RECURSION_LIMIT=" ++ Text.quoted setting ++ ": must be positive"
  | .limitSet limit => "Setting recursion limit to " ++ toString limit
  | .primitivesBound count => "Binding " ++ toString count ++ " primitives"
  | .fileOpened path => "Loading " ++ path.text

/-- An entry as a line of the log. -/
def line (entry : LogEntry) : String :=
  entry.level.word ++ " " ++ entry.origin ++ ": " ++ entry.message ++ "\n"

end LogEntry

/-- The lines of the entries that are at least as important as `level`. -/
def logText (level : LogLevel) (entries : List LogEntry) : String :=
  String.join ((entries.filter fun entry => level.number ≤ entry.level.number).map LogEntry.line)

/-! ## The variables -/

/-- The texts of the environment variables, as far as they are set. -/
structure Settings where
  path : Option String
  prompt : Option String
  recursionLimit : Option String
  logLevel : Option String

namespace Settings

/-- The paths in a list with colons between them. -/
def pathList (s : String) : List Path :=
  (((Text.fields ':' s.toList).map Text.strip).filter (· ≠ [])).map fun field =>
    Path.ofText (String.ofList field)

/-- The directories that are searched, `defaults` unless the variable holds
something. -/
def rootsOr (settings : Settings) (defaults : List Path) : List Path :=
  match settings.path with
  | none | some "" => defaults
  | some s => pathList s

/-- The directories that are searched for files to load. -/
def roots (settings : Settings) : List Path := settings.rootsOr []

/-- The text that asks for the next line. -/
def promptText (settings : Settings) : String := settings.prompt.getD "Lisp>>> "

/-- The limit of nesting that is asked for, or the reason for ignoring the
variable; nothing if it is not set. -/
def limit? (settings : Settings) : Except LogEntry (Option Nat) :=
  match settings.recursionLimit with
  | none | some "" => .ok none
  | some s =>
    match Numeral.ofSetting? s.toList with
    | none => .error (.notAnInteger s)
    | some n => if n ≤ 0 then .error (.notPositive s) else .ok (some n.toNat)

/-- The least level of what is logged. -/
def level (settings : Settings) : LogLevel :=
  (LogLevel.ofName? (settings.logLevel.getD "")).getD .warning

end Settings

end MiniScheme
