import MiniScheme.Numeral
import MiniScheme.Text.StringLiteral
import MiniScheme.Value.Basic

/-!
# The written form of values

`Value.text` writes a value the way the reader takes it back, except for
procedures, foreign values and symbols whose names are no symbol syntax.
It is total; whether a value may be shown at all is a separate question,
`Value.hasText`, because an integer can be too long to be written.
-/

namespace MiniScheme

/-- The characters that have a name, each with the name it is written by. -/
def characterNames : List (Char × String) :=
  [('\x1b', "altmode"), ('\x1f', "backnext"), ('\x08', "backspace"), ('\x1a', "call"),
    ('\n', "newline"), ('\r', "return"), ('\x0c', "page"), ('\x7f', "rubout"), ('\t', "tab"),
    (' ', "space")]

/-- The name that `c` is written by, if it has one. -/
def characterName? (c : Char) : Option String := characterNames.lookup c

namespace Closure

variable {Form : Type}

/-- The parameter list of a procedure as it would be written in its
`lambda`. -/
def paramText (fn : Closure Form) : List Char :=
  let names := (" ".intercalate fn.params).toList
  match fn.params, fn.rest with
  | _, none => '(' :: (names ++ [')'])
  | [], some rest => rest.toList
  | _, some rest => '(' :: (names ++ ' ' :: '.' :: ' ' :: (rest.toList ++ [')']))

/-- How a procedure of the language is shown: its parameters, and dots for
the body. -/
def text (fn : Closure Form) : List Char :=
  "(lambda ".toList ++ fn.paramText ++ " ...)".toList

end Closure

/-- How a primitive bound to `name` is shown. -/
def Primitive.text (name : String) : List Char := ("<primitive " ++ name ++ ">").toList

namespace Value

mutual

/-- The written form of a value. -/
def text : Value → List Char
  | .symbol name => name.toList
  | .int n => Numeral.decimal n
  | .string s => Text.StringLiteral.encode s.toList
  | .bool true => ['#', 't']
  | .bool false => ['#', 'f']
  | .char c => '#' :: '\\' :: (characterName? c).elim [c] String.toList
  | .list items => '(' :: (spaced items ++ [')'])
  | .dotted head tail => '(' :: (spaced head ++ ' ' :: '.' :: ' ' :: (text tail ++ [')']))
  | .primitive name _ => Primitive.text name
  | .closure fn => fn.text
  | .foreign => "None".toList

/-- The written forms of several values, with single spaces between them. -/
def spaced : List Value → List Char
  | [] => []
  | [v] => text v
  | v :: w :: rest => text v ++ ' ' :: spaced (w :: rest)

end

mutual

/-- Is every integer that the written form would show short enough? -/
def hasText : Value → Bool
  | .int n => Numeral.hasText n
  | .list items => haveText items
  | .dotted head tail => haveText head && hasText tail
  | _ => true

/-- `hasText` of every value of a list. -/
def haveText : List Value → Bool
  | [] => true
  | v :: rest => hasText v && haveText rest

end

/-- The form for people: a string or character at the top stands for
itself. -/
def displayText : Value → List Char
  | .string s => s.toList
  | .char c => [c]
  | v => v.text

end Value

end MiniScheme
