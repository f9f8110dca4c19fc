import MiniScheme.Proofs.Reader.Grammar

/-!
# Gaps are skipped as the grammar has them

`gap` runs over blanks and comments as far as they go.  Two facts tie it to
the grammar.  A gap at the front is skipped and skipping goes on behind it
(`gap_append`), so in front of an expression exactly the gap disappears.
And what disappears is a gap (`skips_gap`), with one exception: a comment
that no newline ends takes everything up to the end of the text.

The exception never matters inside a list, because the list still needs its
parenthesis and nothing is left.
-/

namespace MiniScheme.Reader

/-! ## A gap is skipped -/

theorem comment_append {body : List Char} (hBody : '\n' ∉ body) (rest : List Char) :
    comment (body ++ '\n' :: rest) = gap rest := by
  induction body with
  | nil => rfl
  | cons c body ih =>
      have hc : c ≠ '\n' := by
        rintro rfl
        exact hBody (by simp)
      rw [List.cons_append, comment, ih fun h => hBody (by simp [h])]
      exact hc

theorem comment_eq_nil {body : List Char} (hBody : '\n' ∉ body) : comment body = [] := by
  induction body with
  | nil => rfl
  | cons c body ih =>
      rw [comment, ih fun h => hBody (by simp [h])]
      rintro rfl
      exact hBody (by simp)

/-- A gap at the front is skipped, and skipping goes on behind it. -/
theorem gap_append {g : List Char} (hGap : IsGap g) (rest : List Char) :
    gap (g ++ rest) = gap rest := by
  induction hGap with
  | nil => rfl
  | @blank c g hBlank _ ih =>
      have hc : c ≠ ';' := by
        rintro rfl
        revert hBlank
        decide
      rw [List.cons_append, gap, if_pos hBlank, ih]
      exact hc
  | @comment body g hBody _ ih =>
      rw [List.cons_append, List.append_assoc, List.cons_append, gap, comment_append hBody, ih]

theorem gap_append_cons {g : List Char} {c : Char} (hGap : IsGap g) (hc : startsGap [c] = false)
    (rest : List Char) : gap (g ++ c :: rest) = c :: rest := by
  rw [gap_append hGap, gap_eq_self]
  exact hc

theorem BeginsExpr.startsGap {s : List Char} (hs : BeginsExpr s) : startsGap s = false := by
  obtain ⟨c, rest, rfl, hc, _⟩ := hs
  simp only [endsToken, Bool.or_eq_false_iff] at hc
  simp only [Reader.startsGap, hc.1.1, hc.1.2, Bool.or_self]

/-- In front of an expression exactly the gap is skipped. -/
theorem gap_append_of_beginsExpr {g s : List Char} (hGap : IsGap g) (hs : BeginsExpr s) :
    gap (g ++ s) = s := by
  rw [gap_append hGap, gap_eq_self hs.startsGap]

theorem IsTrailingGap.gap_eq_nil {g : List Char} (hGap : IsTrailingGap g) : gap g = [] := by
  cases hGap with
  | closed hGap =>
      rw [← List.append_nil g, gap_append hGap]
      rfl
  | @unclosed g body hGap hBody =>
      rw [gap_append hGap]
      exact comment_eq_nil hBody

/-! ## A gap ends a token -/

theorem ends_of_startsGap {s : List Char} (h : startsGap s = true) : Ends s := by
  match s with
  | [] => exact ends_nil
  | c :: s =>
      simp only [startsGap, Bool.or_eq_true] at h
      apply ends_cons
      rcases h with h | h <;> simp [endsToken, h]

theorem IsSeparator.startsGap {g : List Char} (hSep : IsSeparator g) (rest : List Char) :
    startsGap (g ++ rest) = true := by
  obtain ⟨hGap, hNil⟩ := hSep
  cases hGap with
  | nil => exact absurd rfl hNil
  | blank hBlank => simp [Reader.startsGap, hBlank]
  | comment => rfl

theorem IsSeparator.ends {g : List Char} (hSep : IsSeparator g) (rest : List Char) :
    Ends (g ++ rest) :=
  ends_of_startsGap (hSep.startsGap rest)

theorem IsGap.ends {g rest : List Char} (hGap : IsGap g) (hRest : Ends rest) :
    Ends (g ++ rest) := by
  by_cases hNil : g = []
  · subst hNil
    exact hRest
  · exact IsSeparator.ends ⟨hGap, hNil⟩ rest

theorem IsTrailingGap.ends {g : List Char} (hGap : IsTrailingGap g) : Ends g := by
  cases hGap with
  | closed hGap =>
      rw [← List.append_nil g]
      exact hGap.ends ends_nil
  | unclosed hGap => exact hGap.ends (ends_cons (by decide))

/-! ## What is skipped is a gap -/

/-- Between `s` and its end `rest` stands a gap, or `s` is the gap at the end
of a text. -/
def Skips (s rest : List Char) : Prop :=
  (∃ g, IsGap g ∧ s = g ++ rest) ∨ (rest = [] ∧ IsTrailingGap s)

theorem IsTrailingGap.prepend {g t : List Char} (ht : IsTrailingGap t) (hGap : IsGap g) :
    IsTrailingGap (g ++ t) := by
  cases ht with
  | closed hGap' => exact .closed (hGap.append hGap')
  | unclosed hGap' hBody =>
      rw [← List.append_assoc]
      exact .unclosed (hGap.append hGap') hBody

theorem Skips.prepend {g s rest : List Char} (h : Skips s rest) (hGap : IsGap g) :
    Skips (g ++ s) rest := by
  rcases h with ⟨g', hGap', rfl⟩ | ⟨rfl, hTrailing⟩
  · exact .inl ⟨g ++ g', hGap.append hGap', (List.append_assoc _ _ _).symm⟩
  · exact .inr ⟨rfl, hTrailing.prepend hGap⟩

mutual

/-- What `gap` skips is a gap. -/
theorem skips_gap : ∀ s : List Char, Skips s (gap s)
  | [] => .inl ⟨[], .nil, rfl⟩
  | c :: rest => by
      by_cases hSemicolon : c = ';'
      · subst hSemicolon
        exact skips_comment rest [] (by simp)
      · rw [gap]
        · split
          · next hBlank => exact (skips_gap rest).prepend (.blank hBlank .nil)
          · exact .inl ⟨[], .nil, rfl⟩
        · exact hSemicolon

/-- The same from inside a comment, of which `body` has been seen. -/
theorem skips_comment : ∀ (s body : List Char), '\n' ∉ body →
    Skips (';' :: (body ++ s)) (comment s)
  | [], body, hBody => by
      rw [List.append_nil]
      exact .inr ⟨rfl, .unclosed .nil hBody⟩
  | c :: rest, body, hBody => by
      by_cases hNewline : c = '\n'
      · subst hNewline
        have h := (skips_gap rest).prepend (.comment hBody .nil)
        simpa [comment] using h
      · rw [comment]
        · have h := skips_comment rest (body ++ [c]) (by simp [hBody, Ne.symm hNewline])
          simpa using h
        · exact hNewline

end

theorem exists_isGap_of_gap_eq_cons {s rest : List Char} {c : Char} (h : gap s = c :: rest) :
    ∃ g, IsGap g ∧ s = g ++ c :: rest := by
  rcases skips_gap s with ⟨g, hGap, hText⟩ | ⟨hNil, _⟩
  · rw [h] at hText
    exact ⟨g, hGap, hText⟩
  · rw [h] at hNil
    cases hNil

theorem exists_isSeparator_of_gap_eq_cons {s rest : List Char} {c : Char}
    (hSep : startsGap s = true) (h : gap s = c :: rest) :
    ∃ g, IsSeparator g ∧ s = g ++ c :: rest := by
  obtain ⟨g, hGap, hText⟩ := exists_isGap_of_gap_eq_cons h
  refine ⟨g, ⟨hGap, ?_⟩, hText⟩
  rintro rfl
  have hLess := gap_length_lt hSep
  rw [h, hText] at hLess
  exact Nat.lt_irrefl _ hLess

/-- A text of which skipping leaves nothing is a gap at the end of a text. -/
theorem isTrailingGap_iff {s : List Char} : IsTrailingGap s ↔ gap s = [] := by
  constructor
  · exact IsTrailingGap.gap_eq_nil
  · intro hNil
    rcases skips_gap s with ⟨g, hGap, hText⟩ | ⟨_, hTrailing⟩
    · rw [hNil, List.append_nil] at hText
      rw [hText]
      exact .closed hGap
    · exact hTrailing

end MiniScheme.Reader
