import MiniScheme.Text.Ranges

/-!
# Blank characters

The characters that separate things: the reader skips them between
expressions, and `strip` removes them from both ends of a text.  Besides
the ASCII blanks these are the four information separators, the next-line
control and every space of the standard's separator categories.
-/

namespace MiniScheme.Text

/-- The blank characters, as ranges of code points. -/
def blankRanges : Ranges :=
  [(0x9, 0xD), (0x1C, 0x20), (0x85, 0x85), (0xA0, 0xA0), (0x1680, 0x1680), (0x2000, 0x200A),
    (0x2028, 0x2029), (0x202F, 0x202F), (0x205F, 0x205F), (0x3000, 0x3000)]

/-- Is `c` blank? -/
def isBlank (c : Char) : Bool := blankRanges.has c

/-- The text without the blanks at its two ends, where `blank` says which
characters count. -/
def stripBy (blank : Char → Bool) (s : List Char) : List Char :=
  ((s.dropWhile blank).reverse.dropWhile blank).reverse

/-- The text without the blanks at its two ends. -/
def strip (s : List Char) : List Char := stripBy isBlank s

/-- Every character that core calls white space is blank. -/
theorem isBlank_of_isWhitespace {c : Char} (h : c.isWhitespace = true) : isBlank c = true := by
  simp only [Char.isWhitespace, Bool.or_eq_true, decide_eq_true_eq] at h
  rcases h with ((rfl | rfl) | rfl) | rfl <;> decide

end MiniScheme.Text
