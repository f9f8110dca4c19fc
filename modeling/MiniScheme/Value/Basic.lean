import MiniScheme.Primitive.Basic

/-!
# Values

One type serves for programs and for what they compute, as the language
has it: `quote` turns code into data, and the evaluator takes any value as
an expression.

Two constructors represent lists.  `list` is a proper list; `dotted` is one
or more elements followed by a tail.  **Nothing is normalised**: a dotted
list whose tail is a list differs from the proper list of the same
elements, and is kept as it was written.  `Value.dotted` with no elements
at all is never built by the reader or by a primitive.

A closure carries the number it was given when it was made.  The number is
its identity: two closures are the same procedure exactly when their
numbers agree.
-/

namespace MiniScheme

/-- A number by which the store knows a frame. -/
abbrev FrameId := Nat

/-- A procedure written in the language: its fixed parameters, the name for
the arguments beyond them, the forms of its body, and the frame it was made
in.  The frame is shared, not copied, so later definitions there are seen
by the procedure. -/
structure Closure (Form : Type) where
  /-- The identity of the procedure. -/
  id : Nat
  params : List String
  rest : Option String
  body : List Form
  frame : FrameId

namespace Closure

variable {Form : Type}

/-- How many arguments the procedure names one by one. -/
def arity (fn : Closure Form) : Nat := fn.params.length

/-- May the procedure be called with `count` arguments? -/
def accepts (fn : Closure Form) (count : Nat) : Bool :=
  match fn.rest with
  | none => count == fn.arity
  | some _ => fn.arity ≤ count

end Closure

/-- The values of the language. -/
inductive Value where
  | symbol (name : String)
  | int (n : Int)
  | string (text : String)
  | bool (b : Bool)
  | char (c : Char)
  /-- A proper list. -/
  | list (items : List Value)
  /-- The elements before the dot, and what stands behind it. -/
  | dotted (head : List Value) (tail : Value)
  /-- A primitive procedure, with the name it was bound to. -/
  | primitive (name : String) (op : Primitive)
  | closure (fn : Closure Value)
  /-- A value of the surroundings that is nothing in the language. -/
  | foreign

namespace Value

instance : Inhabited Value := ⟨.foreign⟩

/-- The empty list. -/
abbrev nil : Value := .list []

/-- Is the value of the given kind? -/
def isKind : Value → Kind → Bool
  | .list items, .null => items.isEmpty
  | .list items, .pair => !items.isEmpty
  | .dotted _ _, .pair => true
  | .list _, .list => true
  | .symbol _, .symbol => true
  | .string _, .string => true
  | .int _, .number => true
  | .bool _, .boolean => true
  | .char _, .char => true
  | .primitive _ _, .procedure => true
  | .closure _, .procedure => true
  | _, _ => false

/-- The form `(quote v)`. -/
def quote (v : Value) : Value := .list [.symbol "quote", v]

end Value

end MiniScheme
