import MiniScheme.Error.Basic

/-!
# Integer arithmetic

Seven operations, each folded from the left over two or more integers.
Every argument is checked when its turn comes, so of several bad arguments
the first one is reported, and a division by zero before a later argument
of the wrong type.
-/

namespace MiniScheme

/-- The integer that a value is. -/
def Value.toInt : Value → Except Error Int
  | .int n => .ok n
  | v => .error (.type .number v)

namespace Arithmetic

/-- Does the operation divide? -/
def divides : Arithmetic → Bool
  | .floorDivide | .modulo | .quotient | .remainder => true
  | .add | .subtract | .multiply => false

/-- The quotient rounded toward zero: that of the magnitudes, negated where
the signs differ. -/
def truncated (a b : Int) : Int :=
  let magnitude : Int := (a.natAbs / b.natAbs : Nat)
  if a < 0 ↔ b < 0 then magnitude else -magnitude

/-- The operation on two integers, where it is defined. -/
def result (op : Arithmetic) (a b : Int) : Int :=
  match op with
  | .add => a + b
  | .subtract => a - b
  | .multiply => a * b
  | .floorDivide => a.fdiv b
  | .modulo => a.fmod b
  | .quotient => truncated a b
  | .remainder => a - b * truncated a b

/-- The operation on two integers. -/
def combine (op : Arithmetic) (a b : Int) : Except Error Int :=
  if op.divides ∧ b = 0 then .error .divisionByZero else .ok (op.result a b)

/-- The operation folded over an argument list. -/
def fold (op : Arithmetic) : List Value → Except Error Int
  | first :: second :: rest => do
    (second :: rest).foldlM (fun a v => do op.combine a (← v.toInt)) (← first.toInt)
  | args => .error (.arity 2 args)

end Arithmetic

end MiniScheme
