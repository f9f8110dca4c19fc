import MiniScheme.Error.Basic

/-!
# How reading ends, well or badly

A reading function takes what is left of the text.  When it succeeds it
returns a `Reading`: a result and a shorter rest, the proof of "shorter"
being what makes the recursion of the reader terminate.  When it does not,
it returns a `Stop`, which names its place in the text by the rest that
begins there.

The three kinds of stop differ in what an enclosing list may do about them.
A mismatch only says that no expression is found here, and the list may
still close.  The other two say that the text is beyond repair, and end the
reading at once.
-/

namespace MiniScheme.Reader

/-- A result read from the front of `s`, and what follows it. -/
structure Reading (α : Type) (s : List Char) where
  result : α
  rest : List Char
  shorter : rest.length < s.length

/-- The same result and rest, as a reading of a longer text. -/
def Reading.extend {α : Type} {s t : List Char} (r : Reading α s) (h : s.length ≤ t.length) :
    Reading α t :=
  { result := r.result, rest := r.rest, shorter := Nat.lt_of_lt_of_le r.shorter h }

/-- Applies a function to what was read. -/
def Reading.map {α β : Type} {s : List Char} (f : α → β) (r : Reading α s) : Reading β s :=
  { result := f r.result, rest := r.rest, shorter := r.shorter }

/-- Why reading does not go on. -/
inductive Stop where
  /-- What was looked for is not here. -/
  | mismatch (place : List Char) (reason : ParseReason)
  /-- The text cannot be mended by reading it in another way. -/
  | fatal (place : List Char) (reason : ParseReason)
  /-- A decimal number is too long. -/
  | tooManyDigits

/-- The failure that a stop in the reading of `text` means. -/
def Stop.toFailure (text : List Char) : Stop → Failure
  | .mismatch place reason => .error (.parse (ParseError.locate text place reason))
  | .fatal place reason => .error (.parse (ParseError.locate text place reason))
  | .tooManyDigits => .fault .tooManyDigits

end MiniScheme.Reader
