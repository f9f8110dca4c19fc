import MiniScheme.Text.Quoted

/-!
# Faults of the machine

A computation can fail in two ways.  An error is the program's own doing,
and the interactive loop reports it and goes on.  A `Fault` is a limit of
the machine that runs the program.  Of these only running out of depth is
reported, unless it is the report of an error that runs out of it; the
others end the run.
-/

namespace MiniScheme

/-- A limit of the machine that runs a program. -/
inductive Fault where
  /-- An evaluation, or a value to be written, is nested too deeply. -/
  | tooDeep
  /-- An integer is too long to be written or read in decimal. -/
  | tooManyDigits
  /-- A file name holds the character that ends names. -/
  | badFileName
  /-- A file cannot be searched for under so long a name. -/
  | longFileName
  /-- A loaded file is no UTF-8 text. -/
  | notUtf8
  /-- A limit of nesting is too large to be set. -/
  | limitTooLarge
  /-- A text given for a character is not one character long. -/
  | notOneCharacter (text : String)
  deriving DecidableEq, Repr

/-- What a fault has to say beyond its kind. -/
def Fault.detail? : Fault → Option String
  | .notOneCharacter text =>
    some ("Character expects exactly one code point, got " ++ Text.quoted text)
  | _ => none

end MiniScheme
