/-!
# Sets of characters given by ranges of code points

A property of characters that a standard fixes by enumeration — being a
letter, being printable — is kept as a list of closed ranges of code
points.  `Ranges.has` is the only reader of such a list: a plain search,
so that membership of a concrete character reduces in the kernel and a
statement about a whole table is a statement about `List.any`.
-/

namespace MiniScheme.Text

/-- A set of characters: the code points that lie in one of the closed
ranges `(lo, hi)`. -/
abbrev Ranges := List (Nat × Nat)

/-- Does the set hold the character `c`? -/
def Ranges.has (table : Ranges) (c : Char) : Bool :=
  table.any fun range => range.1 ≤ c.toNat && c.toNat ≤ range.2

/-- Membership, said with the ranges themselves. -/
theorem Ranges.has_iff {table : Ranges} {c : Char} :
    table.has c = true ↔ ∃ range ∈ table, range.1 ≤ c.toNat ∧ c.toNat ≤ range.2 := by
  simp [Ranges.has]

end MiniScheme.Text
