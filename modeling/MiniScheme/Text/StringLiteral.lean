/-!
# String literals

A string literal stands between double quotes.  Five characters have an
escape: the double quote, the backslash, tab, newline and return.  Writing
always escapes those five; reading also takes the three controls as they
are, and refuses a backslash before any other character.

Writing and reading have a table each, `escapes` and `meanings`.  That the
two fit is a fact about them and not a matter of course.

## Main results

* `escapes_perm` — the tables fit.
* `exists_meaning?_of_escape?`, `escape?_of_mem_meanings` — what is written
  for a character is read as that character, and nothing else is.
* `cut?_length` — cutting a literal at its closing quote takes something
  away.
-/

namespace MiniScheme.Text

/-! ## Tables -/

section Tables

variable {α β : Type} [BEq α] [LawfulBEq α] {table : List (α × β)} {key : α} {b : β}

theorem mem_of_lookup_eq_some (h : table.lookup key = some b) : (key, b) ∈ table := by
  obtain ⟨before, after, rfl, _⟩ := List.lookup_eq_some_iff.1 h
  simp

/-- In a table that lists no key twice, what is found is what is listed. -/
theorem lookup_eq_some_iff_mem
    (listed : ∀ entry ∈ table, table.lookup entry.1 = some entry.2) :
    table.lookup key = some b ↔ (key, b) ∈ table :=
  ⟨mem_of_lookup_eq_some, listed (key, b)⟩

end Tables

end MiniScheme.Text

namespace MiniScheme.Text.StringLiteral

/-- What is written for the characters that have an escape. -/
def escapes : List (Char × List Char) :=
  [('"', ['\\', '"']), ('\\', ['\\', '\\']), ('\n', ['\\', 'n']), ('\t', ['\\', 't']),
    ('\r', ['\\', 'r'])]

/-- The escape that is written for `c`, if it has one. -/
def escape? (c : Char) : Option (List Char) := escapes.lookup c

/-- The characters that may follow a backslash, each with the character that
is read. -/
def meanings : List (Char × Char) :=
  [('"', '"'), ('\\', '\\'), ('t', '\t'), ('n', '\n'), ('r', '\r')]

/-- The character that an escape is read as. -/
def meaning? (code : Char) : Option Char := meanings.lookup code

/-- What stands for `c` inside a literal. -/
def encodeChar (c : Char) : List Char := (escape? c).getD [c]

/-- The characters between the quotes of a literal for `s`. -/
def encodeBody (s : List Char) : List Char := s.flatMap encodeChar

/-- The literal for `s`. -/
def encode (s : List Char) : List Char := '"' :: (encodeBody s ++ ['"'])

/-- Cuts a literal at its closing quote: given what follows the opening
quote, the characters up to the closing one and the text behind it.  A
backslash takes the character after it along, whatever that is, so an
escaped quote closes nothing. -/
def cut? : List Char → Option (List Char × List Char)
  | [] => none
  | '"' :: rest => some ([], rest)
  | ['\\'] => none
  | '\\' :: c :: rest => (cut? rest).map fun (body, tail) => ('\\' :: c :: body, tail)
  | c :: rest => (cut? rest).map fun (body, tail) => (c :: body, tail)

/-- An escape without a meaning: its code, and the characters of the body
from its backslash on. -/
structure BadEscape where
  code : Char
  place : List Char

/-- What the characters between the quotes stand for, or the first escape
without a meaning. -/
def decodeBody : List Char → Except BadEscape (List Char)
  | [] => .ok []
  | '\\' :: c :: rest =>
    match meaning? c with
    | some d => (decodeBody rest).map (d :: ·)
    | none => .error { code := c, place := '\\' :: c :: rest }
  | c :: rest => (decodeBody rest).map (c :: ·)

/-- What follows the closing quote is shorter than what followed the opening
one. -/
theorem cut?_length {s body tail : List Char} (h : cut? s = some (body, tail)) :
    tail.length < s.length := by
  fun_induction cut? s generalizing body tail with
  | case1 => simp at h
  | case2 rest =>
      simp only [Option.some.injEq, Prod.mk.injEq] at h
      simp [← h.2]
  | case3 => simp at h
  | case4 c rest ih =>
      obtain ⟨⟨body', tail'⟩, cut, eq⟩ := Option.map_eq_some_iff.1 h
      have := ih cut
      simp only [Prod.mk.injEq] at eq
      simp only [List.length_cons, ← eq.2]
      omega
  | case5 c rest _ _ _ ih =>
      obtain ⟨⟨body', tail'⟩, cut, eq⟩ := Option.map_eq_some_iff.1 h
      have := ih cut
      simp only [Prod.mk.injEq] at eq
      simp only [List.length_cons, ← eq.2]
      omega

/-! ## The tables fit -/

/-- The escapes that are written are those that are read, each for the
character that it is read as. -/
theorem escapes_perm : escapes.Perm (meanings.map fun entry => (entry.2, ['\\', entry.1])) := by
  decide

/-- Every code is read as the character it is listed for. -/
theorem meaning?_eq_some_iff {c code : Char} :
    meaning? code = some c ↔ (code, c) ∈ meanings :=
  lookup_eq_some_iff_mem (by decide)

/-- Every escape is read back as the character it was written for. -/
theorem exists_meaning?_of_escape? {c : Char} {w : List Char} (h : escape? c = some w) :
    ∃ code, w = ['\\', code] ∧ meaning? code = some c := by
  have written : (c, w) ∈ escapes := mem_of_lookup_eq_some h
  obtain ⟨⟨code, d⟩, read, same⟩ := List.mem_map.1 (escapes_perm.mem_iff.1 written)
  cases same
  exact ⟨code, rfl, meaning?_eq_some_iff.2 read⟩

/-- Every escape that can be read is the one that is written for its
character. -/
theorem escape?_of_mem_meanings {c code : Char} (h : (code, c) ∈ meanings) :
    escape? c = some ['\\', code] := by
  have written : (c, ['\\', code]) ∈ escapes :=
    escapes_perm.mem_iff.2 (List.mem_map_of_mem h)
  exact (lookup_eq_some_iff_mem (by decide)).2 written

end MiniScheme.Text.StringLiteral

namespace MiniScheme.Text

/-- The string literal that stands for `s`. -/
def stringLiteral (s : String) : String := String.ofList (StringLiteral.encode s.toList)

end MiniScheme.Text
