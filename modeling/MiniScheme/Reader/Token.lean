import MiniScheme.Numeral
import MiniScheme.Reader.Stop
import MiniScheme.Text.Letter
import MiniScheme.Text.LetterCase
import MiniScheme.Text.StringLiteral

/-!
# Tokens

The expressions that have no parts: strings, characters, numbers and
symbols.  Each kind is tried in this order and takes as much of the text as
it can.  Nothing is asked about what follows a token, so `12ab` is the
number twelve followed by something the caller will not accept.

A token can be recognised and still be wrong.  A closed string may hold an
escape that does not exist, and a character may be called by a name that no
character has; both are fatal.

## Main results

* `token?_shorter` — every token takes at least one character, which is
  what the reader's recursion rests on.
-/

namespace MiniScheme.Reader

/-! ## Symbols -/

/-- The punctuation that symbols are made of, besides letters. -/
def symbolMarks : List Char := "!#$%&|*+-/:<=>?@^_~".toList

/-- May a symbol begin with `c`? -/
def startsSymbol (c : Char) : Bool := Text.isLetter c || symbolMarks.contains c

/-- May a symbol go on with `c`? -/
def continuesSymbol (c : Char) : Bool := startsSymbol c || c.isDigit

/-- What a word that has the form of a symbol stands for. -/
def wordValue (word : List Char) : Value :=
  if word = ['#', 't'] then .bool true
  else if word = ['#', 'f'] then .bool false
  else .symbol (String.ofList word)

/-- Reads a symbol or a boolean. -/
def symbol? : List Char → Option (Value × List Char)
  | [] => none
  | c :: rest =>
    if startsSymbol c then
      some (wordValue (c :: rest.takeWhile continuesSymbol), rest.dropWhile continuesSymbol)
    else none

/-! ## Numbers -/

/-- A run of digits, and the radix to read them in. -/
structure DigitRun where
  radix : Numeral.Radix
  digits : List Char
  deriving DecidableEq, Repr

/-- Splits off the longest run of digits of a radix, unless it is empty. -/
def digitRun? (radix : Numeral.Radix) (s : List Char) : Option (DigitRun × List Char) :=
  match s.takeWhile radix.isDigit with
  | [] => none
  | digits => some ({ radix, digits }, s.dropWhile radix.isDigit)

/-- Splits off a numeral: digits, or digits behind the mark of a radix. -/
def numeral? : List Char → Option (DigitRun × List Char)
  | '#' :: letter :: rest => (Numeral.Radix.ofLetter? letter).bind (digitRun? · rest)
  | s => digitRun? .decimal s

/-- The number that a run of digits stands for.  Only the decimal radix
limits their count. -/
def DigitRun.value (run : DigitRun) : Except Stop Value :=
  if run.radix = .decimal ∧ Numeral.digitLimit < run.digits.length then .error .tooManyDigits
  else .ok (.int (run.radix.value run.digits))

/-! ## Characters -/

/-- The names that characters can be read by.  The newline has two. -/
def namedCharacters : List (String × Char) :=
  [("altmode", '\x1b'), ("backnext", '\x1f'), ("backspace", '\x08'), ("call", '\x1a'),
    ("linefeed", '\n'), ("newline", '\n'), ("page", '\x0c'), ("return", '\r'),
    ("rubout", '\x7f'), ("tab", '\t'), ("space", ' ')]

/-- The character of the given name, in any mixture of small letters and
capitals. -/
def characterNamed? (name : List Char) : Option Char :=
  namedCharacters.lookup (String.ofList (name.map Text.lower))

/-- Reads what follows the mark `#\` at `start`: a name of two letters or
more, or any one character. -/
def character? (start : List Char) : List Char → Except Stop (Option (Value × List Char))
  | [] => .ok none
  | c :: rest =>
    let name := (c :: rest).takeWhile Text.isLetter
    if 2 ≤ name.length then
      match characterNamed? name with
      | some d => .ok (some (.char d, (c :: rest).dropWhile Text.isLetter))
      | none => .error (.fatal start (.unknownCharacter (String.ofList name)))
    else .ok (some (.char c, rest))

/-! ## Strings -/

/-- Reads what follows the opening quote of a string. -/
def string? (s : List Char) : Except Stop (Option (Value × List Char)) :=
  match Text.StringLiteral.cut? s with
  | none => .ok none
  | some (body, rest) =>
    match Text.StringLiteral.decodeBody body with
    | .ok text => .ok (some (.string (String.ofList text), rest))
    | .error bad => .error (.fatal (bad.place ++ '"' :: rest) (.unknownEscape bad.code))

/-! ## All kinds of tokens -/

/-- Reads a number, or else a symbol. -/
def word? (s : List Char) : Except Stop (Option (Value × List Char)) :=
  match numeral? s with
  | some (run, rest) => run.value.map fun v => some (v, rest)
  | none => .ok (symbol? s)

/-- Reads a token, if the text begins with one. -/
def token? (s : List Char) : Except Stop (Option (Value × List Char)) :=
  match s with
  | '"' :: rest => string? rest
  | '#' :: '\\' :: rest => do
    match ← character? s rest with
    | some found => return some found
    | none => word? s
  | _ => word? s

/-! ## Progress

Every token takes at least one character. -/

/-- What a run leaves is shorter than the text if the run is not empty. -/
theorem length_dropWhile_lt {p : Char → Bool} {s : List Char} (h : s.takeWhile p ≠ []) :
    (s.dropWhile p).length < s.length := by
  have parts := congrArg List.length (List.takeWhile_append_dropWhile (p := p) (l := s))
  have := List.length_pos_iff.2 h
  rw [List.length_append] at parts
  omega

theorem symbol?_shorter {s rest : List Char} {v : Value} (h : symbol? s = some (v, rest)) :
    rest.length < s.length := by
  match s with
  | [] => simp [symbol?] at h
  | c :: tail =>
      simp only [symbol?, Option.ite_none_right_eq_some, Option.some.injEq, Prod.mk.injEq] at h
      have := (List.dropWhile_sublist continuesSymbol (l := tail)).length_le
      rw [← h.2.2, List.length_cons]
      omega

theorem digitRun?_shorter {radix : Numeral.Radix} {s rest : List Char} {run : DigitRun}
    (h : digitRun? radix s = some (run, rest)) : rest.length < s.length := by
  unfold digitRun? at h
  split at h
  · cases h
  · next nonempty =>
      simp only [Option.some.injEq, Prod.mk.injEq] at h
      rw [← h.2]
      exact length_dropWhile_lt nonempty

theorem numeral?_shorter {s rest : List Char} {run : DigitRun}
    (h : numeral? s = some (run, rest)) : rest.length < s.length := by
  unfold numeral? at h
  split at h
  · obtain ⟨radix, _, found⟩ := Option.bind_eq_some_iff.1 h
    have := digitRun?_shorter found
    simp only [List.length_cons]
    omega
  · exact digitRun?_shorter h

theorem character?_shorter {start s rest : List Char} {v : Value}
    (h : character? start s = .ok (some (v, rest))) : rest.length < s.length := by
  unfold character? at h
  split at h
  · simp at h
  · next c tail =>
      simp only at h
      split at h
      · next long =>
          split at h
          · simp only [Except.ok.injEq, Option.some.injEq, Prod.mk.injEq] at h
            rw [← h.2]
            exact length_dropWhile_lt fun empty => by simp [empty] at long
          · simp at h
      · simp only [Except.ok.injEq, Option.some.injEq, Prod.mk.injEq] at h
        simp [← h.2]

theorem string?_shorter {s rest : List Char} {v : Value}
    (h : string? s = .ok (some (v, rest))) : rest.length < s.length := by
  unfold string? at h
  split at h
  · simp at h
  · next body tail cut =>
      split at h
      · simp only [Except.ok.injEq, Option.some.injEq, Prod.mk.injEq] at h
        rw [← h.2]
        exact Text.StringLiteral.cut?_length cut
      · simp at h

theorem word?_shorter {s rest : List Char} {v : Value}
    (h : word? s = .ok (some (v, rest))) : rest.length < s.length := by
  unfold word? at h
  split at h
  · next run tail found =>
      have := numeral?_shorter found
      unfold DigitRun.value at h
      split at h
      · simp [Except.map] at h
      · simp only [Except.map, Except.ok.injEq, Option.some.injEq, Prod.mk.injEq] at h
        rw [← h.2]
        exact this
  · exact symbol?_shorter (Except.ok.inj h)

theorem token?_shorter {s rest : List Char} {v : Value}
    (h : token? s = .ok (some (v, rest))) : rest.length < s.length := by
  unfold token? at h
  split at h
  · have := string?_shorter h
    simp only [List.length_cons]
    omega
  · next tail =>
      cases read : character? ('#' :: '\\' :: tail) tail with
      | error stop => simp [read, bind, Except.bind] at h
      | ok found =>
          cases found with
          | none =>
              simp only [read, bind, Except.bind] at h
              exact word?_shorter h
          | some pair =>
              simp only [read, bind, Except.bind, pure, Except.pure, Except.ok.injEq,
                Option.some.injEq] at h
              subst h
              have := character?_shorter read
              simp only [List.length_cons]
              omega
  · exact word?_shorter h

end MiniScheme.Reader
