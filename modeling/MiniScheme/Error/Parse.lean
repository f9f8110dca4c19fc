import MiniScheme.Text.Blank
import MiniScheme.Text.Quoted

/-!
# Why a text is no program, and where

The reader works on what is left of its text, so the place of a failure is
known to it as a rest of the text.  `ParseError.locate` turns that rest
into what a person needs: the position counted in characters, the line and
column, and the token found there.

Lines are ended by the newline character alone, and lines and columns count
from one.
-/

namespace MiniScheme

/-- What is wrong with a text. -/
inductive ParseReason where
  | expectedExpression
  /-- No expression could be read where a list was tried in both its
  notations. -/
  | expectedString
  | expectedClose
  | expectedSeparator
  | expectedEnd
  /-- A backslash in a string before a character that has no escape. -/
  | unknownEscape (code : Char)
  /-- A character called by a name that no character has. -/
  | unknownCharacter (name : String)
  deriving DecidableEq, Repr

/-- The wording of a reason. -/
def ParseReason.message : ParseReason → String
  | .expectedExpression => "Expected expression"
  | .expectedString => "Expected string"
  | .expectedClose => "Expected ')'"
  | .expectedSeparator => "Expected whitespace or comment"
  | .expectedEnd => "Expected end of text"
  | .unknownEscape code => "unknown escape sequence '\\" ++ code.toString ++ "'"
  | .unknownCharacter name => "unrecognized character name '" ++ name ++ "'"

/-- A rejected text: the reason, and where it applies. -/
structure ParseError where
  reason : ParseReason
  /-- How many characters stand before the place. -/
  position : Nat
  line : Nat
  column : Nat
  /-- What stands at the place. -/
  token : String
  deriving DecidableEq, Repr

namespace ParseError

/-- The longest token that an error quotes. -/
def tokenLimit : Nat := 20

/-- What an error says it found when `rest` was left to read: nothing, one
blank, or the start of a word. -/
def tokenAt (rest : List Char) : String :=
  match rest with
  | [] => "end of input"
  | c :: _ =>
    if Text.isBlank c then c.toString
    else String.ofList ((rest.take tokenLimit).takeWhile fun d => !Text.isBlank d)

/-- The error at the place of `text` where `rest` is left to read. -/
def locate (text rest : List Char) (reason : ParseReason) : ParseError :=
  let position := text.length - rest.length
  let before := text.take position
  { reason
    position
    line := before.count '\n' + 1
    column := (before.reverse.takeWhile (· ≠ '\n')).length + 1
    token := tokenAt rest }

/-- The wording of a parse error. -/
def message (e : ParseError) : String :=
  "Parse error at line " ++ toString e.line ++ ", column " ++ toString e.column ++ " near "
    ++ Text.quoted e.token ++ ": " ++ e.reason.message

end ParseError

end MiniScheme
