/-!
# Fields

A text cut at every occurrence of one character.  A text without that
character is one field, so the empty text has one empty field.

## Main results

* `intercalate_fields` — joining the fields gives the text back.
-/

namespace MiniScheme.Text

/-- The fields of a text, with `sep` between them. -/
def fields (sep : Char) : List Char → List (List Char)
  | [] => [[]]
  | c :: rest =>
    if c = sep then [] :: fields sep rest
    else
      match fields sep rest with
      | [] => [[c]]
      | field :: more => (c :: field) :: more

/-- There is always a field. -/
theorem fields_ne_nil (sep : Char) (s : List Char) : fields sep s ≠ [] := by
  cases s with
  | nil => simp [fields]
  | cons c rest =>
      simp only [fields]
      split
      · simp
      · split <;> simp

/-- The text from the joined fields: cutting loses nothing. -/
theorem intercalate_fields (sep : Char) (s : List Char) :
    [sep].intercalate (fields sep s) = s := by
  induction s with
  | nil => simp [fields]
  | cons c rest ih =>
      have some_field := fields_ne_nil sep rest
      simp only [fields]
      match h : fields sep rest with
      | [] => exact absurd h some_field
      | field :: more =>
          rw [h] at ih
          split
          · next isSep =>
              subst isSep
              rw [List.intercalate_cons_cons, ih]
              simp
          · cases more with
            | nil => simp_all
            | cons next others =>
                rw [List.intercalate_cons_cons] at ih ⊢
                simp [← ih]

end MiniScheme.Text
