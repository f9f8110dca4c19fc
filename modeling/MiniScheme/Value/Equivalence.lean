import MiniScheme.Value.Basic

/-!
# Equivalence of values

The language has two equivalence predicates.  `eqv` compares values
constructor by constructor, and procedures by identity; `equal` descends
into lists on its own account and asks `eqv` about everything else.  A
foreign value is equivalent to nothing, not even to itself.
-/

namespace MiniScheme.Value

mutual

/-- The same value, constructor by constructor; procedures by identity. -/
def eqv : Value → Value → Bool
  | .symbol a, .symbol b => a == b
  | .int m, .int n => m == n
  | .string a, .string b => a == b
  | .bool a, .bool b => a == b
  | .char a, .char b => a == b
  | .list xs, .list ys => eqvAll xs ys
  | .dotted xs x, .dotted ys y => eqvAll xs ys && eqv x y
  | .primitive a _, .primitive b _ => a == b
  | .closure f, .closure g => f.id == g.id
  | _, _ => false

/-- Two lists of one length whose elements are `eqv` pairwise. -/
def eqvAll : List Value → List Value → Bool
  | [], [] => true
  | x :: xs, y :: ys => eqv x y && eqvAll xs ys
  | _, _ => false

end

mutual

/-- Lists element by element, anything else by `eqv`. -/
def equal : Value → Value → Bool
  | .list xs, .list ys => equalAll xs ys
  | .dotted xs x, .dotted ys y => equalAll xs ys && equal x y
  | a, b => eqv a b

/-- Two lists of one length whose elements are `equal` pairwise. -/
def equalAll : List Value → List Value → Bool
  | [], [] => true
  | x :: xs, y :: ys => equal x y && equalAll xs ys
  | _, _ => false

end

end MiniScheme.Value
