import MiniScheme.Error.Basic

/-!
# Special forms

Five keywords have their own rules of evaluation.  `Keyword.form?` looks at
what follows the keyword and says which rule applies.  It answers `none`
when the shape is not one the keyword accepts, and the expression is then a
call like any other.

The checks of a procedure's parameters come after its shape is known and
fail in a fixed order: first the parameters, then the rest parameter, then
the body.
-/

namespace MiniScheme

/-- The keywords that begin special forms. -/
inductive Keyword where
  | quote
  | cond
  | assign
  | define
  | lambda
  deriving DecidableEq, Repr

/-- How the keyword is spelled. -/
def Keyword.name : Keyword → String
  | .quote => "quote"
  | .cond => "if"
  | .assign => "set!"
  | .define => "define"
  | .lambda => "lambda"

/-- The keyword of the given spelling. -/
def Keyword.ofName? : String → Option Keyword
  | "quote" => some .quote
  | "if" => some .cond
  | "set!" => some .assign
  | "define" => some .define
  | "lambda" => some .lambda
  | _ => none

/-- Reading a keyword's spelling gives the keyword. -/
theorem Keyword.ofName?_name (keyword : Keyword) : ofName? keyword.name = some keyword := by
  cases keyword <;> rfl

/-- A procedure as a program writes it: parameters, what stands behind a
dot among them, body, and the whole form for reports. -/
structure Template where
  params : List Value
  rest : Option Value
  body : List Value
  form : Value

namespace Template

/-- The names of the parameters. -/
def paramNames? : List Value → Option (List String)
  | [] => some []
  | .symbol name :: more => (paramNames? more).map (name :: ·)
  | _ :: _ => none

/-- The name of the rest parameter, if there is one.  A foreign value stands
for its absence. -/
def restName? : Option Value → Option (Option String)
  | none => some none
  | some .foreign => some none
  | some (.symbol name) => some (some name)
  | some _ => none

/-- The procedure that a template describes, made in `frame` and numbered
`id`. -/
def instantiate (t : Template) (frame : FrameId) (id : Nat) : Except Error (Closure Value) :=
  match paramNames? t.params with
  | none => .error (.badForm .paramNotSymbol t.form)
  | some params =>
    match restName? t.rest with
    | none => .error (.badForm .restNotSymbol t.form)
    | some rest =>
      if t.body.isEmpty then .error (.badForm .emptyBody t.form)
      else .ok { id, params, rest, body := t.body, frame }

end Template

/-- A special form, taken apart. -/
inductive Form where
  /-- The value itself, not evaluated. -/
  | quote (datum : Value)
  /-- The first expression decides which of the other two is evaluated. -/
  | choose (test consequent alternative : Value)
  /-- A choice with a wrong number of parts. -/
  | badChoice (parts : List Value)
  | assign (name : String) (value : Value)
  | define (name : String) (value : Value)
  | defineProcedure (name : String) (template : Template)
  | lambda (template : Template)

/-- The form that a keyword makes with what follows it, if it accepts the
shape. -/
def Keyword.form? (keyword : Keyword) (tail : List Value) : Option Form :=
  let template (params : List Value) (rest : Option Value) (body : List Value) : Template :=
    { params, rest, body, form := .list (.symbol keyword.name :: tail) }
  match keyword, tail with
  | .quote, [datum] => some (.quote datum)
  | .cond, [test, consequent, alternative] => some (.choose test consequent alternative)
  | .cond, parts => some (.badChoice parts)
  | .assign, [.symbol name, value] => some (.assign name value)
  | .define, [.symbol name, value] => some (.define name value)
  | .define, .list (.symbol name :: params) :: body =>
    some (.defineProcedure name (template params none body))
  | .define, .dotted (.symbol name :: params) rest :: body =>
    some (.defineProcedure name (template params (some rest) body))
  | .lambda, .list params :: body => some (.lambda (template params none body))
  | .lambda, .dotted params rest :: body => some (.lambda (template params (some rest) body))
  | .lambda, .symbol rest :: body => some (.lambda (template [] (some (.symbol rest)) body))
  | _, _ => none

/-- The special form that an expression with the given head and tail is. -/
def Form.ofParts? (head : Value) (tail : List Value) : Option Form :=
  match head with
  | .symbol name => (Keyword.ofName? name).bind (·.form? tail)
  | _ => none

end MiniScheme
