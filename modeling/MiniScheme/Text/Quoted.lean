import MiniScheme.Text.Printable

/-!
# Quoted text in diagnostics

A diagnostic shows a text between single quotes, or between double quotes
when that saves escaping: the text holds a single quote and no double one.
Inside, the backslash and the quote in use are escaped by a backslash, the
three common controls by a letter, and any other unprintable character by
its number in two, four or eight hexadecimal digits, the fewest that fit.

This is the form for people.  The form the reader takes back is
`MiniScheme.Text.StringLiteral`.
-/

namespace MiniScheme.Text.Quoted

/-- The quote that a text is shown between. -/
def delimiter (s : List Char) : Char :=
  if s.contains '\'' && !s.contains '"' then '"' else '\''

/-- The number `n` in hexadecimal, filled up with zeros to `width` digits. -/
def hexadecimal (width n : Nat) : List Char :=
  let digits := Nat.toDigits 16 n
  List.replicate (width - digits.length) '0' ++ digits

/-- The numbered escape of a character. -/
def numbered (c : Char) : List Char :=
  if c.toNat < 0x100 then '\\' :: 'x' :: hexadecimal 2 c.toNat
  else if c.toNat < 0x10000 then '\\' :: 'u' :: hexadecimal 4 c.toNat
  else '\\' :: 'U' :: hexadecimal 8 c.toNat

/-- What stands for `c` between two quotes `q`. -/
def encodeChar (q c : Char) : List Char :=
  if c = q || c = '\\' then ['\\', c]
  else if c = '\n' then ['\\', 'n']
  else if c = '\r' then ['\\', 'r']
  else if c = '\t' then ['\\', 't']
  else if isPrintable c then [c]
  else numbered c

/-- The text between quotes. -/
def encode (s : List Char) : List Char :=
  let q := delimiter s
  q :: (s.flatMap (encodeChar q) ++ [q])

end MiniScheme.Text.Quoted

namespace MiniScheme.Text

/-- The text between quotes, as a diagnostic shows it. -/
def quoted (s : String) : String := String.ofList (Quoted.encode s.toList)

end MiniScheme.Text
