import MiniScheme.Error.Parse
import MiniScheme.Value.Rendering

/-!
# Errors of programs

An `Error` says what a program did wrong and holds the values concerned; a
`Failure` is that or a fault of the machine.

Wording is kept apart from failing: `Error.message` renders an error when
somebody asks, and rendering can itself be refused, because a value it
shows may hold an integer too long to be written.  Who reports the error has
only so much room for it, and `Error.messageWithin` is refused to values that
are nested too deeply as well.
-/

namespace MiniScheme

/-- What can be wrong with a form. -/
inductive FormFlaw where
  /-- The form is no expression at all. -/
  | unrecognized
  | paramNotSymbol
  | restNotSymbol
  | emptyBody
  deriving DecidableEq, Repr

/-- The wording of a flaw. -/
def FormFlaw.message : FormFlaw → String
  | .unrecognized => "Unrecognized special form"
  | .paramNotSymbol => "Parameter is not a symbol"
  | .restNotSymbol => "Rest parameter is not a symbol"
  | .emptyBody => "Procedure body is empty"

/-- The two uses of a variable that need it bound. -/
inductive Access where
  | getting
  | setting
  deriving DecidableEq, Repr

/-- The wording of a failed access. -/
def Access.message : Access → String
  | .getting => "Getting an unbound variable"
  | .setting => "Setting an unbound variable"

/-- Why a file cannot be read. -/
inductive FileProblem where
  | missing
  | isDirectory
  /-- The path leads through something that is no directory. -/
  | notDirectory
  /-- The path, or one of the names it goes through, is too long. -/
  | nameTooLong
  deriving DecidableEq, Repr

/-- The wording of a problem with a file. -/
def FileProblem.message : FileProblem → String
  | .missing => "No such file or directory"
  | .isDirectory => "Is a directory"
  | .notDirectory => "Not a directory"
  | .nameTooLong => "File name too long"

/-- The word for a kind of value in a type error. -/
def Kind.word : Kind → String
  | .null => "null"
  | .pair => "pair"
  | .list => "list"
  | .symbol => "symbol"
  | .string => "string"
  | .number => "number"
  | .boolean => "boolean"
  | .char => "char"
  | .procedure => "procedure"

/-- The errors of programs. -/
inductive Error where
  /-- A procedure or form was given the wrong number of arguments. -/
  | arity (expected : Nat) (received : List Value)
  | type (expected : Kind) (value : Value)
  | parse (error : ParseError)
  | badForm (flaw : FormFlaw) (form : Value)
  | unbound (access : Access) (name : String)
  | divisionByZero
  | cannotLoad (file : String) (problem : FileProblem)

namespace Error

/-- The values that the wording of an error shows, the first one first. -/
def shown : Error → List Value
  | .arity _ received => received
  | .type _ value => [value]
  | .badForm _ form => [form]
  | .parse _ | .unbound _ _ | .divisionByZero | .cannotLoad _ _ => []

/-- The wording of an error. -/
def wording : Error → String
  | .arity expected received =>
    "Expected " ++ toString expected ++ " args; found values "
      ++ String.ofList (Value.spaced received)
  | .type expected value =>
    "Invalid type: expected " ++ expected.word ++ ", found " ++ String.ofList value.text
  | .parse e => e.message
  | .badForm flaw form => flaw.message ++ ": " ++ String.ofList form.text
  | .unbound access name => access.message ++ ": " ++ name
  | .divisionByZero => "Division by zero"
  | .cannotLoad file problem => "Cannot load " ++ file ++ ": " ++ problem.message

/-- The wording of an error, or the fault of trying to word it. -/
def message (e : Error) : Except Fault String :=
  if Value.haveText e.shown then .ok e.wording else .error .tooManyDigits

/-- The wording of an error, with `depth` levels of recursion to spare for
each value that it shows. -/
def messageWithin (depth : Nat) (e : Error) : Except Fault String :=
  match Value.writingFaults? depth e.shown with
  | none => .ok e.wording
  | some f => .error f

/-- The limit decides only whether the wording is given up. -/
theorem messageWithin_eq_of_ne {depth : Nat} {e : Error}
    (h : e.messageWithin depth ≠ .error .tooDeep) : e.messageWithin depth = e.message := by
  have hDeep : Value.writingFaults? depth e.shown ≠ some .tooDeep := by
    intro hDeep
    rw [messageWithin, hDeep] at h
    exact h rfl
  rw [messageWithin, Value.writingFaults?_eq_of_ne hDeep, message]
  cases Value.haveText e.shown <;> rfl

/-- With room enough, an error is worded as it is without a limit. -/
theorem exists_messageWithin_eq (e : Error) :
    ∃ room, ∀ depth, room < depth → e.messageWithin depth = e.message := by
  obtain ⟨room, hRoom⟩ := Value.exists_rooms e.shown
  refine ⟨room, fun depth hDepth => messageWithin_eq_of_ne ?_⟩
  have hStays := hRoom depth hDepth
  unfold messageWithin
  split
  · nofun
  · next f hFault =>
      rintro ⟨⟩
      exact hStays hFault

end Error

/-- How a computation fails. -/
inductive Failure where
  | error (e : Error)
  | fault (f : Fault)

end MiniScheme
