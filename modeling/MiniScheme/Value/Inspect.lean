import MiniScheme.Text.Quoted
import MiniScheme.Value.Printer

/-!
# The diagnostic form of values

Where a person debugs the interpreter and not a program, values are shown
with their constructors spelled out, so that a symbol, a string and a
character of the same spelling can be told apart.  Texts inside are quoted
as in `MiniScheme.Text.Quoted`; procedures look as they are written.
-/

namespace MiniScheme.Value

mutual

/-- The diagnostic form of a value. -/
def inspect : Value → List Char
  | .symbol name => "Atom(".toList ++ Text.Quoted.encode name.toList ++ [')']
  | .int n => Numeral.decimal n
  | .string s => Text.Quoted.encode s.toList
  | .bool true => "True".toList
  | .bool false => "False".toList
  | .char c => "Character(char=".toList ++ Text.Quoted.encode [c] ++ [')']
  | .list items => '[' :: (listed items ++ [']'])
  | .dotted [v] tail =>
    "DottedList(head=(".toList ++ inspect v ++ ",), tail=".toList ++ inspect tail ++ [')']
  | .dotted head tail =>
    "DottedList(head=(".toList ++ listed head ++ "), tail=".toList ++ inspect tail ++ [')']
  | .primitive name _ => Primitive.text name
  | .closure fn => fn.text
  | .foreign => "None".toList

/-- The diagnostic forms of several values, with commas between them. -/
def listed : List Value → List Char
  | [] => []
  | [v] => inspect v
  | v :: w :: rest => inspect v ++ ',' :: ' ' :: listed (w :: rest)

end

/-- The diagnostic form, except that a string or symbol at the top stands
for itself. -/
def plainText : Value → List Char
  | .string s => s.toList
  | .symbol name => name.toList
  | v => v.inspect

end MiniScheme.Value
