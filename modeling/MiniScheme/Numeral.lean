import MiniScheme.Text.Blank
import MiniScheme.Text.Digit

/-!
# Numerals

Integers are unbounded, their decimal text is not: a number of more than
`digitLimit` decimal digits can be computed with, but neither written nor
read in decimal.  `hasText` says which integers can be written; the three
power-of-two radixes of the reader are not limited.

The module also reads the integers that settings are given as
(`ofSetting?`), which is a wider notation than a program's: digits of any
script, single underscores between them, a sign, blanks around.
-/

namespace MiniScheme.Numeral

/-- The most decimal digits a number may have in text. -/
def digitLimit : Nat := 4300

/-- The least magnitude that is too long to be written. -/
def bound : Nat := Nat.pow 10 digitLimit

/-- Can `n` be written in decimal? -/
def hasText (n : Int) : Bool := n.natAbs < bound

/-- The decimal text of `n`. -/
def decimal (n : Int) : List Char :=
  if n < 0 then '-' :: Nat.toDigits 10 n.natAbs else Nat.toDigits 10 n.natAbs

/-- The number whose digits in `base` are given, the highest first. -/
def ofDigits (base : Nat) (digits : List Nat) : Nat :=
  digits.foldl (fun n d => n * base + d) 0

/-! ## Radixes of the reader -/

/-- The radixes in which a program may write a number. -/
inductive Radix where
  | binary
  | octal
  | decimal
  | hexadecimal
  deriving DecidableEq, Repr

/-- How many digits a radix has. -/
def Radix.base : Radix → Nat
  | .binary => 2
  | .octal => 8
  | .decimal => 10
  | .hexadecimal => 16

/-- The radix that a letter behind a `#` announces. -/
def Radix.ofLetter? : Char → Option Radix
  | 'b' | 'B' => some .binary
  | 'o' | 'O' => some .octal
  | 'd' | 'D' => some .decimal
  | 'x' | 'X' => some .hexadecimal
  | _ => none

/-- The value of an ASCII digit, the letters `a` to `f` counting from ten. -/
def asciiDigit? (c : Char) : Option Nat :=
  if '0' ≤ c && c ≤ '9' then some (c.toNat - '0'.toNat)
  else if 'a' ≤ c && c ≤ 'f' then some (c.toNat - 'a'.toNat + 10)
  else if 'A' ≤ c && c ≤ 'F' then some (c.toNat - 'A'.toNat + 10)
  else none

/-- The value of `c` as a digit of the radix. -/
def Radix.digit? (radix : Radix) (c : Char) : Option Nat :=
  (asciiDigit? c).filter (· < radix.base)

/-- A digit of a radix is worth less than its base. -/
theorem Radix.digit?_lt {radix : Radix} {c : Char} {d : Nat} (h : radix.digit? c = some d) :
    d < radix.base := by
  simp only [Radix.digit?, Option.filter_eq_some_iff, decide_eq_true_eq] at h
  exact h.2

/-- Is `c` a digit of the radix? -/
def Radix.isDigit (radix : Radix) (c : Char) : Bool := (radix.digit? c).isSome

/-- The number that a run of digits of the radix stands for. -/
def Radix.value (radix : Radix) (digits : List Char) : Nat :=
  ofDigits radix.base (digits.filterMap radix.digit?)

/-! ## Integers in settings -/

/-- The blanks that may surround a setting's integer: all but the four
information separators. -/
def isMargin (c : Char) : Bool :=
  Text.isBlank c && !(0x1C ≤ c.toNat && c.toNat ≤ 0x1F)

/-- The values of one or more digits of any script, of which two neighbours
may have one underscore between them. -/
def spacedDigits? : List Char → Option (List Nat)
  | [] => none
  | [c] => (Text.digitValue? c).map ([·])
  | c :: '_' :: rest => do return (← Text.digitValue? c) :: (← spacedDigits? rest)
  | c :: rest => do return (← Text.digitValue? c) :: (← spacedDigits? rest)

/-- The number that one or more digits stand for, unless they are too many. -/
def magnitude? (s : List Char) : Option Nat := do
  let digits ← spacedDigits? s
  guard (digits.length ≤ digitLimit)
  return ofDigits 10 digits

/-- The integer that a setting gives: blanks around it, one optional sign,
digits. -/
def ofSetting? (s : List Char) : Option Int :=
  match Text.stripBy isMargin s with
  | '-' :: digits => (magnitude? digits).map fun n => -(n : Int)
  | '+' :: digits => (magnitude? digits).map Int.ofNat
  | digits => (magnitude? digits).map Int.ofNat

end MiniScheme.Numeral
