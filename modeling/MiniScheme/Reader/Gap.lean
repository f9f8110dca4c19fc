import MiniScheme.Text.Blank

/-!
# What separates expressions

Between two expressions stands a separator: blanks and comments, at least
one.  A comment begins with a semicolon and ends with the line.  `gap`
skips as many of them as there are, possibly none; `startsGap` tells
whether there is at least one.

## Main results

* `gap_length_lt` — a separator takes something away.
* `gap_eq_self` — without a separator nothing is skipped.
-/

namespace MiniScheme.Reader

mutual

/-- The text without the blanks and comments it begins with. -/
def gap : List Char → List Char
  | [] => []
  | ';' :: rest => comment rest
  | c :: rest => if Text.isBlank c then gap rest else c :: rest

/-- What `gap` leaves of a text that begins inside a comment. -/
def comment : List Char → List Char
  | [] => []
  | '\n' :: rest => gap rest
  | _ :: rest => comment rest

end

/-- Does the text begin with a blank or a comment? -/
def startsGap : List Char → Bool
  | [] => false
  | c :: _ => c == ';' || Text.isBlank c

mutual

/-- Skipping never makes a text longer. -/
theorem gap_length_le : ∀ s : List Char, (gap s).length ≤ s.length
  | [] => by simp [gap]
  | c :: rest => by
      have blanks := gap_length_le rest
      have comments := comment_length_le rest
      by_cases semicolon : c = ';'
      · subst semicolon
        simp only [gap, List.length_cons]
        omega
      · simp only [gap, List.length_cons]
        split
        · omega
        · exact Nat.le_refl _

/-- Skipping the rest of a comment never makes a text longer. -/
theorem comment_length_le : ∀ s : List Char, (comment s).length ≤ s.length
  | [] => by simp [comment]
  | c :: rest => by
      have blanks := gap_length_le rest
      have comments := comment_length_le rest
      by_cases newline : c = '\n'
      · subst newline
        simp only [comment, List.length_cons]
        omega
      · simp only [comment, List.length_cons]
        omega

end

/-- A separator takes something away. -/
theorem gap_length_lt {s : List Char} (h : startsGap s = true) : (gap s).length < s.length := by
  match s with
  | [] => simp [startsGap] at h
  | c :: rest =>
      have blanks := gap_length_le rest
      have comments := comment_length_le rest
      simp only [startsGap, Bool.or_eq_true, beq_iff_eq] at h
      by_cases semicolon : c = ';'
      · subst semicolon
        simp only [gap, List.length_cons]
        omega
      · simp only [gap, h.resolve_left semicolon, if_true, List.length_cons]
        omega

/-- What skipping leaves is no longer than the text. -/
theorem length_le_of_gap_eq {s rest : List Char} (h : gap s = rest) :
    rest.length ≤ s.length := h ▸ gap_length_le s

/-- What skipping a separator leaves is shorter than the text. -/
theorem length_lt_of_gap_eq {s rest : List Char} (sep : startsGap s = true) (h : gap s = rest) :
    rest.length < s.length := h ▸ gap_length_lt sep

/-- What follows the character at which skipping stops is shorter. -/
theorem length_lt_of_gap_eq_cons {s rest : List Char} {c : Char} (h : gap s = c :: rest) :
    rest.length < s.length := by
  have := gap_length_le s
  rw [h, List.length_cons] at this
  omega

/-- Without a separator nothing is skipped. -/
theorem gap_eq_self {s : List Char} (h : startsGap s = false) : gap s = s := by
  match s with
  | [] => simp [gap]
  | c :: rest =>
      simp only [startsGap, Bool.or_eq_false_iff, beq_eq_false_iff_ne] at h
      have semicolon : ¬ c = ';' := h.1
      simp [gap, h.2]

end MiniScheme.Reader
