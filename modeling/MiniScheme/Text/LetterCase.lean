/-!
# Letter case, as far as ASCII words can tell

Two places compare a word with a list of ASCII words after changing its
case.  Only the characters whose other case is an ASCII letter can make
such a comparison succeed, and these are few: besides ASCII itself, the
Kelvin sign lowers to `k`, the dotless i raises to `I` and the long s
raises to `S`.  Characters whose other case is several letters (a ligature,
the sharp s) are left alone: no word in question holds their expansion.
-/

namespace MiniScheme.Text

/-- The small letter of `c`, for comparison with ASCII words. -/
def lower (c : Char) : Char :=
  if c = '\u212A' then 'k' else c.toLower

/-- The capital of `c`, for comparison with ASCII words. -/
def upper (c : Char) : Char :=
  if c = '\u0131' then 'I' else if c = '\u017F' then 'S' else c.toUpper

end MiniScheme.Text
