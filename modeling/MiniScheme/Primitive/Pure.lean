import MiniScheme.Primitive.Arithmetic
import MiniScheme.Primitive.Pair
import MiniScheme.Value.Equivalence

/-!
# Primitives that only compute

What a primitive returns when its answer depends on nothing but its
arguments.  The primitives that write, read, load or call are left to the
evaluator, and `Primitive.pure?` returns `none` for them.

A primitive first counts its arguments and then looks at them one by one,
so a wrong number of arguments is reported before an argument of the wrong
kind.
-/

namespace MiniScheme

namespace Value

/-- The text that a value is. -/
def toText : Value → Except Error String
  | .string s => .ok s
  | v => .error (.type .string v)

/-- The truth value that a value is. -/
def toBool : Value → Except Error Bool
  | .bool b => .ok b
  | v => .error (.type .boolean v)

/-- The name of the symbol that a value is. -/
def toName : Value → Except Error String
  | .symbol name => .ok name
  | v => .error (.type .symbol v)

/-- The items of the proper list that a value is. -/
def toItems : Value → Except Error (List Value)
  | .list items => .ok items
  | v => .error (.type .list v)

/-- The two parts of the pair that a value is. -/
def toPair (v : Value) : Except Error (Value × Value) :=
  match v.uncons? with
  | some parts => .ok parts
  | none => .error (.type .pair v)

end Value

/-- The connective of two truth values. -/
def Connective.join : Connective → Bool → Bool → Bool
  | .and, a, b => a && b
  | .or, a, b => a || b

namespace Primitive

/-- Hands the only argument to `f`. -/
def unary {α : Type} (f : Value → Except Error α) : List Value → Except Error α
  | [v] => f v
  | args => .error (.arity 1 args)

/-- Hands the two arguments to `f`. -/
def binary {α : Type} (f : Value → Value → Except Error α) : List Value → Except Error α
  | [v, w] => f v w
  | args => .error (.arity 2 args)

/-- The answer of `f` about two arguments, each converted in its turn. -/
def relation {α : Type} (convert : Value → Except Error α) (f : α → α → Bool) :
    List Value → Except Error Value :=
  binary fun v w => do
    let a ← convert v
    let b ← convert w
    return .bool (f a b)

/-- What a primitive that only computes makes of its arguments. -/
def pure? : Primitive → Option (List Value → Except Error Value)
  | .arithmetic op => some fun args => (op.fold args).map Value.int
  | .compareNumbers op => some (relation Value.toInt fun a b => op.holds (compare a b))
  | .connect op => some (relation Value.toBool op.join)
  | .compareStrings op => some (relation Value.toText fun a b => op.holds (compare a b))
  | .car => some (unary fun v => v.toPair.map (·.1))
  | .cdr => some (unary fun v => v.toPair.map (·.2))
  | .cons => some (binary fun v w => .ok (Value.cons v w))
  | .list => some fun args => .ok (.list args)
  | .length => some (unary fun v => v.toItems.map fun items => .int items.length)
  | .eqv => some (binary fun v w => .ok (.bool (v.eqv w)))
  | .equal => some (binary fun v w => .ok (.bool (v.equal w)))
  | .test kind => some (unary fun v => .ok (.bool (v.isKind kind)))
  | .stringLength => some (unary fun v => v.toText.map fun s => .int s.length)
  | .stringAppend => some fun args => (args.mapM Value.toText).map fun parts =>
      .string (String.join parts)
  | .symbolToString => some (unary fun v => v.toName.map Value.string)
  | .stringToSymbol => some (unary fun v => v.toText.map Value.symbol)
  | .display | .write | .newline | .read | .load | .apply => none

end Primitive

end MiniScheme
