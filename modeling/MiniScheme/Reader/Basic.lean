import MiniScheme.Reader.Expr

/-!
# Reading whole texts

Three entry points take a whole text: `readOne` wants exactly one
expression, `readOptional` at most one, `readAll` any number with
separators between them.  Blanks and comments may stand before and after.

Where an expression is optional and cannot be read, the text is judged as
if it should have ended there.
-/

namespace MiniScheme.Reader

/-- The stop for a text that should have ended where `rest` begins. -/
def trailing (rest : List Char) : Stop := .mismatch rest .expectedEnd

/-- Reads one expression and what surrounds it. -/
def one (s : List Char) : Except Stop Value :=
  match expr (gap s) with
  | .ok r => if (gap r.rest).isEmpty then .ok r.result else .error (trailing (gap r.rest))
  | .error stop => .error stop

/-- Reads at most one expression and what surrounds it. -/
def optional (s : List Char) : Except Stop (Option Value) :=
  match expr (gap s) with
  | .ok r => if (gap r.rest).isEmpty then .ok (some r.result) else .error (trailing (gap r.rest))
  | .error (.mismatch _ _) => if (gap s).isEmpty then .ok none else .error (trailing (gap s))
  | .error stop => .error stop

/-- Reads the expressions that follow one, each behind a separator, to the
end of the text. -/
def more (s : List Char) : Except Stop (List Value) :=
  if sep : startsGap s then
    have := gap_length_lt sep
    match expr (gap s) with
    | .ok r =>
      have := r.shorter
      match more r.rest with
      | .ok values => .ok (r.result :: values)
      | .error stop => .error stop
    | .error (.mismatch _ _) => if (gap s).isEmpty then .ok [] else .error (trailing (gap s))
    | .error stop => .error stop
  else if s.isEmpty then .ok []
  else .error (trailing s)
termination_by s.length
decreasing_by omega

/-- Reads any number of expressions and what surrounds them. -/
def all (s : List Char) : Except Stop (List Value) :=
  match expr (gap s) with
  | .ok r =>
    match more r.rest with
    | .ok values => .ok (r.result :: values)
    | .error stop => .error stop
  | .error (.mismatch _ _) => if (gap s).isEmpty then .ok [] else .error (trailing (gap s))
  | .error stop => .error stop

/-- Applies a reading function to a text, and says where it failed. -/
def run {α : Type} (read : List Char → Except Stop α) (text : String) : Except Failure α :=
  (read text.toList).mapError (Stop.toFailure text.toList)

/-- The one expression of a text. -/
def readOne (text : String) : Except Failure Value := run one text

/-- The expression of a text, or nothing if the text is blank. -/
def readOptional (text : String) : Except Failure (Option Value) := run optional text

/-- The expressions of a text. -/
def readAll (text : String) : Except Failure (List Value) := run all text

end MiniScheme.Reader
