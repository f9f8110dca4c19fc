import MiniScheme.Proofs.Reader.Gap
import MiniScheme.Proofs.Reader.Token

/-!
# Expressions are read as the grammar has them

The reader commits itself at every step: it takes the longest token, it
decides between the two kinds of list by one look behind each element, and
it never comes back.  The grammar commits itself to nothing.  This module
shows that the reader loses no derivation by that and invents none.

1. **Steps** (`Reads`, `ReadsItems`).  One lemma for each way in which the
   reader goes on, and for each of its two functions one that lists all
   ways (`reads_cases`, `readsItems_cases`).  Nothing after this section
   opens the reader's definition.
2. **Soundness** (`Reads.sound`).  What is read is derivable, whatever
   follows it.  Behind the first element of a list only part of a
   derivation is there; `Closes` says what is missing.
3. **Completeness** (`ExprText.reads`).  What is derivable is read, when
   what follows can stand behind an expression (`Ends`).
-/

namespace MiniScheme.Reader

/-! ## Steps of the reader -/

/-- Reading an expression from `s` gives `v` and leaves `rest`. -/
def Reads (s : List Char) (v : Value) (rest : List Char) : Prop :=
  ∃ hShorter, expr s = .ok { result := v, rest, shorter := hShorter }

/-- Reading what follows the first element of a list from `s` gives `its`
and leaves `rest`. -/
def ReadsItems (s : List Char) (its : Items) (rest : List Char) : Prop :=
  ∃ hShorter, items s = .ok { result := its, rest, shorter := hShorter }

theorem reads_of_expr {s : List Char} {r : Reading Value s} (h : expr s = .ok r) :
    Reads s r.result r.rest := ⟨r.shorter, h⟩

theorem reads_of_token? {s rest : List Char} {v : Value} (hOpening : opening s = .token)
    (h : token? s = .ok (some (v, rest))) : Reads s v rest := by
  refine ⟨token?_shorter h, ?_⟩
  unfold expr
  split
  · next hFront => rw [hOpening] at hFront; cases hFront
  · next hFront => rw [hOpening] at hFront; cases hFront
  · split
    · next hRead =>
        rw [h] at hRead
        cases hRead
        rfl
    · next hRead => rw [h] at hRead; cases hRead
    · next hRead => rw [h] at hRead; cases hRead

theorem Reads.quote {s rest : List Char} {v : Value} (h : Reads s v rest) :
    Reads ('\'' :: s) v.quote rest := by
  obtain ⟨hShorter, h⟩ := h
  refine ⟨Nat.lt_succ_of_lt hShorter, ?_⟩
  unfold expr
  split
  · next t hFront =>
      cases hFront
      rw [h]
      rfl
  · next hFront => cases hFront
  · next hFront => cases hFront

theorem reads_nil {s rest : List Char} (h : gap s = ')' :: rest) :
    Reads ('(' :: s) .nil rest := by
  refine ⟨Nat.lt_succ_of_lt (length_lt_of_gap_eq_cons h), ?_⟩
  unfold expr
  split
  · next hFront => cases hFront
  · next t hFront =>
      cases hFront
      split
      · next after hInner =>
        rw [h] at hInner
        cases hInner
        rfl
      · next hNot => exact absurd h (hNot rest)
  · next hFront => cases hFront

theorem reads_list {s r rest : List Char} {v : Value} {its : Items}
    (hClose : ∀ after, gap s ≠ ')' :: after) (hFirst : Reads (gap s) v r)
    (hItems : ReadsItems r its rest) : Reads ('(' :: s) (its.withFirst v) rest := by
  obtain ⟨hShorter, hFirst⟩ := hFirst
  obtain ⟨hShorter', hItems⟩ := hItems
  have hGap := gap_length_le s
  refine ⟨by simp only [List.length_cons]; omega, ?_⟩
  unfold expr
  split
  · next hFront => cases hFront
  · next t hFront =>
      cases hFront
      split
      · next after hInner => exact absurd hInner (hClose after)
      · rw [hFirst]
        dsimp only
        rw [hItems]
        rfl
  · next hFront => cases hFront

theorem eq_of_opening_quote {s t : List Char} (h : opening s = .quote t) : s = '\'' :: t := by
  unfold opening at h
  split at h <;> cases h
  rfl

theorem eq_of_opening_list {s t : List Char} (h : opening s = .list t) : s = '(' :: t := by
  unfold opening at h
  split at h <;> cases h
  rfl

/-- All the ways in which an expression is read. -/
theorem reads_cases {s rest : List Char} {v : Value} (h : Reads s v rest) :
    (∃ t u, s = '\'' :: t ∧ Reads t u rest ∧ v = u.quote) ∨
    (∃ t, s = '(' :: t ∧ gap t = ')' :: rest ∧ v = .nil) ∨
    (∃ t u r its, s = '(' :: t ∧ Reads (gap t) u r ∧ ReadsItems r its rest ∧
      v = its.withFirst u) ∨
    token? s = .ok (some (v, rest)) := by
  obtain ⟨_, h⟩ := h
  unfold expr at h
  split at h
  · next t hFront =>
      have hText := eq_of_opening_quote hFront
      split at h
      · next r hExpr =>
          cases h
          exact .inl ⟨t, r.result, hText, reads_of_expr hExpr, rfl⟩
      · cases h
  · next t hFront =>
      have hText := eq_of_opening_list hFront
      split at h
      · next after hInner =>
          cases h
          exact .inr (.inl ⟨t, hText, hInner, rfl⟩)
      · split at h
        · next r hExpr =>
            split at h
            · next more hItems =>
                cases h
                exact .inr (.inr (.inl ⟨t, r.result, r.rest, more.result, hText,
                  reads_of_expr hExpr, ⟨more.shorter, hItems⟩, rfl⟩))
            · cases h
        · split at h <;> cases h
        · cases h
  · split at h
    · next hToken =>
        cases h
        exact .inr (.inr (.inr hToken))
    · cases h
    · cases h

theorem readsItems_close {s rest : List Char} (h : gap s = ')' :: rest) :
    ReadsItems s { elements := [], tail? := none } rest := by
  refine ⟨length_lt_of_gap_eq_cons h, ?_⟩
  unfold items
  split
  · next after hInner =>
      rw [h] at hInner
      cases hInner
      rfl
  · next hInner => rw [h] at hInner; cases hInner
  · next hClose _ => exact absurd h (hClose rest)

theorem readsItems_dot {s t r rest : List Char} {v : Value} (hDot : gap s = '.' :: t)
    (hSep : startsGap s = true) (hSep' : startsGap t = true) (hExpr : Reads (gap t) v r)
    (hClose : gap r = ')' :: rest) :
    ReadsItems s { elements := [], tail? := some v } rest := by
  obtain ⟨hShorter, hExpr⟩ := hExpr
  have hInside := length_lt_of_gap_eq_cons hDot
  have hAfter := length_lt_of_gap_eq_cons hClose
  have hGap := gap_length_le t
  refine ⟨by omega, ?_⟩
  unfold items
  split
  · next hInner => rw [hDot] at hInner; cases hInner
  · next t' hInner =>
      rw [hDot] at hInner
      cases hInner
      simp only [hSep, hSep', Bool.not_true, Bool.false_eq_true, if_false]
      rw [hExpr]
      dsimp only
      split
      · next after hInner =>
          rw [hClose] at hInner
          cases hInner
          rfl
      · next hNot => exact absurd hClose (hNot rest)
  · next hNot => exact absurd hDot (hNot t)

/-- A further element: it may begin neither with a parenthesis that closes
the list nor with a dot. -/
theorem readsItems_element {s r rest : List Char} {v : Value} {its : Items}
    (hSep : startsGap s = true) (hClose : ∀ after, gap s ≠ ')' :: after)
    (hDot : ∀ after, gap s ≠ '.' :: after) (hExpr : Reads (gap s) v r)
    (hItems : ReadsItems r its rest) : ReadsItems s (its.cons v) rest := by
  obtain ⟨hShorter, hExpr⟩ := hExpr
  obtain ⟨hShorter', hItems⟩ := hItems
  have hGap := gap_length_le s
  refine ⟨by omega, ?_⟩
  unfold items
  split
  · next after hInner => exact absurd hInner (hClose after)
  · next after hInner => exact absurd hInner (hDot after)
  · simp only [hSep, dif_pos]
    rw [hExpr]
    dsimp only
    rw [hItems]
    rfl

/-- All the ways in which the rest of a list is read. -/
theorem readsItems_cases {s rest : List Char} {its : Items} (h : ReadsItems s its rest) :
    (gap s = ')' :: rest ∧ its = { elements := [], tail? := none }) ∨
    (∃ t v r, gap s = '.' :: t ∧ startsGap s = true ∧ startsGap t = true ∧ Reads (gap t) v r ∧
      gap r = ')' :: rest ∧ its = { elements := [], tail? := some v }) ∨
    (∃ v r its', startsGap s = true ∧ Reads (gap s) v r ∧ ReadsItems r its' rest ∧
      its = its'.cons v) := by
  obtain ⟨_, h⟩ := h
  unfold items at h
  split at h
  · next after hInner =>
      cases h
      exact .inl ⟨hInner, rfl⟩
  · next t hInner =>
      split at h
      · cases h
      · next hSep =>
          split at h
          · cases h
          · next hSep' =>
              split at h
              · next r hExpr =>
                  split at h
                  · next hClose =>
                      cases h
                      exact .inr (.inl ⟨t, r.result, r.rest, hInner, by simpa using hSep,
                        by simpa using hSep', reads_of_expr hExpr, hClose, rfl⟩)
                  · cases h
              · cases h
  · split at h
    · next hSep =>
        split at h
        · next r hExpr =>
            split at h
            · next more hItems =>
                cases h
                exact .inr (.inr ⟨r.result, r.rest, more.result, hSep, reads_of_expr hExpr,
                  ⟨more.shorter, hItems⟩, rfl⟩)
            · cases h
        · cases h
        · cases h
    · cases h


/-! ## Soundness -/

/-- An expression does not begin where the text ends. -/
theorem Reads.exists_cons {s rest : List Char} {v : Value} (h : Reads s v rest) :
    ∃ c t, s = c :: t := by
  obtain ⟨hShorter, _⟩ := h
  exact List.exists_cons_of_length_pos (Nat.lt_of_le_of_lt (Nat.zero_le _) hShorter)

/-- The list of the given items. -/
def Items.close (its : Items) : Value :=
  match its.tail? with
  | none => .list its.elements
  | some tail => .dotted its.elements tail

/-- The items with several more in front. -/
def Items.prepend (vs : List Value) (its : Items) : Items :=
  { its with elements := vs ++ its.elements }

theorem Items.prepend_cons (vs : List Value) (v : Value) (its : Items) :
    (its.cons v).prepend vs = its.prepend (vs ++ [v]) := by
  simp [Items.prepend, Items.cons]

/-- The text `t` is all that a list lacks of which a gap and some elements
have been seen, and `its` are the items it adds. -/
def Closes (t : List Char) (its : Items) : Prop :=
  ∀ g w vs, IsGap g → ElementsText w vs → ExprText ('(' :: (g ++ w ++ t)) (its.prepend vs).close

theorem closes_close {g : List Char} (hGap : IsGap g) :
    Closes (g ++ [')']) { elements := [], tail? := none } := by
  intro g₁ w vs hGap₁ hElements
  have h := ExprText.list hGap₁ hElements hGap
  simpa [Items.close, Items.prepend] using h

theorem closes_dot {s s' w g : List Char} {v : Value} (hSep : IsSeparator s)
    (hSep' : IsSeparator s') (hExpr : ExprText w v) (hGap : IsGap g) :
    Closes (s ++ '.' :: (s' ++ w ++ g ++ [')'])) { elements := [], tail? := some v } := by
  intro g₁ w₁ vs hGap₁ hElements
  have h := ExprText.dotted hGap₁ hElements hSep hSep' hExpr hGap
  simpa [Items.close, Items.prepend] using h

/-- An element more that has been seen is an element less that is missing. -/
theorem Closes.element {s w t : List Char} {v : Value} {its : Items} (hRest : Closes t its)
    (hSep : IsSeparator s) (hExpr : ExprText w v) : Closes (s ++ w ++ t) (its.cons v) := by
  intro g w₁ vs hGap hElements
  have h := hRest g (w₁ ++ s ++ w) (vs ++ [v]) hGap (hElements.snoc hSep hExpr)
  rw [Items.prepend_cons]
  simpa using h

-- The recursion is the reader's own: every part is read from a shorter text.
mutual

/--
**Soundness**: what is read off the front of a text is an expression of the
grammar for the value returned, whatever follows it.
-/
theorem Reads.sound {s rest : List Char} {v : Value} (h : Reads s v rest) :
    ∃ w, s = w ++ rest ∧ ExprText w v := by
  rcases reads_cases h with ⟨t, u, hs, hExpr, rfl⟩ | ⟨t, rfl, hClose, rfl⟩ |
    ⟨t, u, r, its, hs, hFirst, hItems, rfl⟩ | hToken
  · have hLength : t.length < s.length := by simp [hs]
    obtain ⟨w, rfl, hText⟩ := hExpr.sound
    exact ⟨'\'' :: w, hs, .quote hText⟩
  · obtain ⟨g, hGap, rfl⟩ := exists_isGap_of_gap_eq_cons hClose
    exact ⟨'(' :: (g ++ [')']), by simp, .nil hGap⟩
  · have hLength : t.length < s.length := by simp [hs]
    have hGapLength := gap_length_le t
    have hFirstLength := hFirst.1
    obtain ⟨c, x, hc⟩ := hFirst.exists_cons
    obtain ⟨g, hGap, hText⟩ := exists_isGap_of_gap_eq_cons hc
    obtain ⟨w, hw, hExpr⟩ := hFirst.sound
    obtain ⟨t', hr, hCloses⟩ := hItems.sound
    refine ⟨'(' :: (g ++ w ++ t'), ?_, hCloses g w [u] hGap (.one hExpr)⟩
    rw [hs, hText, ← hc, hw, hr]
    simp
  · obtain ⟨w, rfl, hText⟩ := exists_tokenText_of_token? hToken
    exact ⟨w, rfl, .token hText⟩
termination_by s.length
decreasing_by all_goals omega

/-- What is read behind the first element is what the list lacks. -/
theorem ReadsItems.sound {s rest : List Char} {its : Items} (h : ReadsItems s its rest) :
    ∃ t, s = t ++ rest ∧ Closes t its := by
  rcases readsItems_cases h with ⟨hClose, rfl⟩ |
    ⟨t, v, r, hDot, hSep, hSep', hExpr, hClose, rfl⟩ | ⟨v, r, its', hSep, hExpr, hItems, rfl⟩
  · obtain ⟨g, hGap, rfl⟩ := exists_isGap_of_gap_eq_cons hClose
    exact ⟨g ++ [')'], by simp, closes_close hGap⟩
  · have hDotLength := length_lt_of_gap_eq_cons hDot
    have hGapLength := gap_length_le t
    obtain ⟨g, hSepText, hText⟩ := exists_isSeparator_of_gap_eq_cons hSep hDot
    obtain ⟨c, x, hc⟩ := hExpr.exists_cons
    obtain ⟨g', hSepText', ht⟩ := exists_isSeparator_of_gap_eq_cons hSep' hc
    obtain ⟨g'', hGap, hr⟩ := exists_isGap_of_gap_eq_cons hClose
    obtain ⟨w, hw, hTail⟩ := hExpr.sound
    refine ⟨_, ?_, closes_dot hSepText hSepText' hTail hGap⟩
    rw [hText, ht, ← hc, hw, hr]
    simp
  · have hGapLength := gap_length_lt hSep
    have hExprLength := hExpr.1
    obtain ⟨c, x, hc⟩ := hExpr.exists_cons
    obtain ⟨g, hSepText, hText⟩ := exists_isSeparator_of_gap_eq_cons hSep hc
    obtain ⟨w, hw, hElement⟩ := hExpr.sound
    obtain ⟨t, hr, hCloses⟩ := hItems.sound
    refine ⟨_, ?_, hCloses.element hSepText hElement⟩
    rw [hText, ← hc, hw, hr]
    simp
termination_by s.length
decreasing_by all_goals omega

end

/-- What is read behind a gap. -/
theorem Reads.sound_behind_gap {s rest : List Char} {v : Value} (h : Reads (gap s) v rest) :
    ∃ g w, IsGap g ∧ ExprText w v ∧ s = g ++ w ++ rest := by
  obtain ⟨c, t, hc⟩ := h.exists_cons
  obtain ⟨g, hGap, hText⟩ := exists_isGap_of_gap_eq_cons hc
  obtain ⟨w, hw, hExpr⟩ := h.sound
  refine ⟨g, w, hGap, hExpr, ?_⟩
  rw [hText, ← hc, hw, List.append_assoc]

/-- What is read behind a separator. -/
theorem Reads.sound_behind_separator {s rest : List Char} {v : Value} (hSep : startsGap s = true)
    (h : Reads (gap s) v rest) : ∃ g w, IsSeparator g ∧ ExprText w v ∧ s = g ++ w ++ rest := by
  obtain ⟨c, t, hc⟩ := h.exists_cons
  obtain ⟨g, hSepText, hText⟩ := exists_isSeparator_of_gap_eq_cons hSep hc
  obtain ⟨w, hw, hExpr⟩ := h.sound
  refine ⟨g, w, hSepText, hExpr, ?_⟩
  rw [hText, ← hc, hw, List.append_assoc]

/-! ## Completeness -/

theorem TokenText.opening {w : List Char} {v : Value} (h : TokenText w v) (rest : List Char) :
    opening (w ++ rest) = .token := by
  have hQuote : continuesSymbol '\'' = false := by decide
  have hParen : continuesSymbol '(' = false := by decide
  obtain ⟨c, t, rfl, rfl | hc⟩ := h.head
  · rfl
  · rw [List.cons_append]
    unfold Reader.opening
    split
    · next hEq =>
        rw [(List.cons.inj hEq).1, hQuote] at hc
        cases hc
    · next hEq =>
        rw [(List.cons.inj hEq).1, hParen] at hc
        cases hc
    · rfl

theorem BeginsExpr.ne_close {s : List Char} (hs : BeginsExpr s) (t : List Char) :
    s ≠ ')' :: t := by
  obtain ⟨c, rest, rfl, hc, _⟩ := hs
  intro hEq
  rw [(List.cons.inj hEq).1] at hc
  revert hc
  decide

theorem BeginsExpr.ne_dot {s : List Char} (hs : BeginsExpr s) (t : List Char) :
    s ≠ '.' :: t := by
  obtain ⟨c, rest, rfl, _, hDot⟩ := hs
  intro hEq
  exact hDot (List.cons.inj hEq).1

/-- Reading from `s` gives one element or more, which are `vs`, and what
closes their list. -/
def ReadsElements (s : List Char) (vs : List Value) (tail : Option Value) (rest : List Char) :
    Prop :=
  ∃ v vs' r, vs = v :: vs' ∧ Reads s v r ∧ ReadsItems r { elements := vs', tail? := tail } rest

theorem reads_paren {g w after rest : List Char} {vs : List Value} {tail : Option Value}
    (hGap : IsGap g) (hElements : ElementsText w vs)
    (hRead : ReadsElements (w ++ after) vs tail rest) :
    Reads ('(' :: (g ++ (w ++ after))) ({ elements := vs, tail? := tail } : Items).close rest := by
  obtain ⟨v, vs', r, rfl, hFirst, hItems⟩ := hRead
  have hBegins : BeginsExpr (w ++ after) := hElements.beginsExpr.append after
  have hSkip : gap (g ++ (w ++ after)) = w ++ after := gap_append_of_beginsExpr hGap hBegins
  rw [← hSkip] at hFirst
  refine reads_list ?_ hFirst hItems
  rw [hSkip]
  exact hBegins.ne_close

mutual

/--
**Completeness**: an expression of the grammar is read whole, for its value,
when what follows can stand behind an expression.
-/
theorem ExprText.reads {w rest : List Char} {v : Value} (h : ExprText w v) (hEnds : Ends rest) :
    Reads (w ++ rest) v rest := by
  cases h with
  | token hToken =>
      exact reads_of_token? (hToken.opening rest) (token?_append_of_ends hToken hEnds)
  | quote hExpr => exact (hExpr.reads hEnds).quote
  | @nil g hGap =>
      have hClose : gap (g ++ ')' :: rest) = ')' :: rest := gap_append_cons hGap (by decide) rest
      simpa using reads_nil hClose
  | @list g w g' vs hGap hElements hGap' =>
      have hClose : gap (g' ++ ')' :: rest) = ')' :: rest :=
        gap_append_cons hGap' (by decide) rest
      have hParen : Ends (g' ++ ')' :: rest) := hGap'.ends (ends_cons (by decide))
      have hRead := reads_paren hGap hElements (hElements.reads hParen (readsItems_close hClose))
      simpa [Items.close] using hRead
  | @dotted g w s s' t g' vs v hGap hElements hSep hSep' hTail hGap' =>
      have hClose : gap (g' ++ ')' :: rest) = ')' :: rest :=
        gap_append_cons hGap' (by decide) rest
      have hParen : Ends (g' ++ ')' :: rest) := hGap'.ends (ends_cons (by decide))
      have hTailRead := hTail.reads hParen
      rw [← gap_append_of_beginsExpr hSep'.1 (hTail.beginsExpr.append _)] at hTailRead
      have hDot := gap_append_cons (c := '.') hSep.1 (by decide) (s' ++ (t ++ (g' ++ ')' :: rest)))
      have hItems := readsItems_dot hDot (hSep.startsGap _) (hSep'.startsGap _) hTailRead hClose
      have hRead := reads_paren hGap hElements (hElements.reads (hSep.ends _) hItems)
      simpa [Items.close] using hRead

/-- Elements are read one after the other, if what follows the last one
closes their list. -/
theorem ElementsText.reads {w after rest : List Char} {vs : List Value} {tail : Option Value}
    (h : ElementsText w vs) (hEnds : Ends after)
    (hItems : ReadsItems after { elements := [], tail? := tail } rest) :
    ReadsElements (w ++ after) vs tail rest := by
  cases h with
  | @one w v hExpr => exact ⟨v, [], after, rfl, hExpr.reads hEnds, hItems⟩
  | @more w s t v vs hExpr hSep hRest =>
      obtain ⟨u, us, r, rfl, hNext, hMore⟩ := hRest.reads hEnds hItems
      have hBegins : BeginsExpr (t ++ after) := hRest.beginsExpr.append after
      have hSkip : gap (s ++ (t ++ after)) = t ++ after := gap_append_of_beginsExpr hSep.1 hBegins
      have hFirst := hExpr.reads (hSep.ends (t ++ after))
      rw [← hSkip] at hNext
      refine ⟨v, u :: us, s ++ (t ++ after), rfl, by simpa using hFirst, ?_⟩
      refine readsItems_element (hSep.startsGap _) ?_ ?_ hNext hMore
      · rw [hSkip]
        exact hBegins.ne_close
      · rw [hSkip]
        exact hBegins.ne_dot

end

end MiniScheme.Reader
