import MiniScheme.Value.Basic

/-!
# Pairs

The language speaks of pairs, the representation has proper and dotted
lists.  `Value.cons` puts an element in front of whatever it is given, and
makes a dotted list of one element only where there is no list to put it in
front of; `Value.uncons?` takes the first element off again.
-/

namespace MiniScheme.Value

/-- The pair of `first` and `second`. -/
def cons (first second : Value) : Value :=
  match second with
  | .list items => .list (first :: items)
  | .dotted head tail => .dotted (first :: head) tail
  | tail => .dotted [first] tail

/-- The two parts of a pair. -/
def uncons? : Value → Option (Value × Value)
  | .list (first :: rest) => some (first, .list rest)
  | .dotted [first] tail => some (first, tail)
  | .dotted (first :: second :: rest) tail => some (first, .dotted (second :: rest) tail)
  | _ => none

end MiniScheme.Value
