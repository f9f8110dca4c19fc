import MiniScheme.Proofs.Reader.Unfinished

/-!
# Where texts are rejected

A rejected text fails in several places at once, and the reader reports one
of them.  It may be far from where the list around it began, and the rules
by which it is chosen forget some failures and prefer others.  Whatever they
choose, **the text before the reported place could have been finished**: the
blame is never laid past the first thing that is beyond repair.

1. **Steps** (`token?_error_cases`, `expr_error_cases`,
   `items_error_cases`).  All the ways in which a part of the reader gives
   up.  Nothing after these lemmas opens the reader's definition.
2. **Justification** (`Stop.Justified`).  A stop is justified if the text
   before its place is viable and the text around it bears out its reason.
   The reader descends into a text, and what it has read so far is an open
   text (`Entry.Opens`); every stop inside is justified in the whole.
3. **Whole texts** (`Entry.justified_of_scan`).

The two reasons that end a reading at once say what is wrong and where, and
`Entry.Explains` states what they say: an unknown escape lies inside a string
literal that was begun where an expression could begin, and every escape
before it is known; an unknown name of a character is the whole run of
letters behind its mark.

## Main results

* `Entry.justified_of_scan` — every stop of an entry point is justified.
* `Entry.exists_cut_of_read` — so is every place that an error reports.
* `rejected_at_viable_place` — the text before a reported place can be
  extended to an acceptable one.
-/

namespace MiniScheme.Reader

open Text.StringLiteral

/-! ## How tokens fail -/

theorem error_of_map_eq_error {ε α β : Type} {x : Except ε α} {f : α → β} {e : ε}
    (h : x.map f = .error e) : x = .error e := by
  cases x with
  | error e' => exact congrArg Except.error (Except.error.inj h)
  | ok a => cases h

/-- A body that cannot be decoded is cut at its first unknown escape. -/
theorem exists_badEscape {w : List Char} {bad : BadEscape} (hBody : RawBody w)
    (hDecode : decodeBody w = .error bad) :
    ∃ body s more, w = body ++ '\\' :: bad.code :: more ∧ StringBody body s ∧ RawBody more ∧
      meaning? bad.code = none ∧ bad.place = '\\' :: bad.code :: more := by
  induction hBody with
  | nil => cases hDecode
  | plain hQuote hBackslash _ ih =>
      rw [decodeBody_plain hBackslash] at hDecode
      obtain ⟨body, s, more, rfl, hKnown, hRest⟩ := ih (error_of_map_eq_error hDecode)
      exact ⟨_ :: body, _ :: s, more, rfl, .plain hQuote hBackslash hKnown, hRest⟩
  | escape hMore ih =>
      simp only [decodeBody] at hDecode
      split at hDecode
      · next c hMeaning =>
          obtain ⟨body, s, more, rfl, hKnown, hRest⟩ := ih (error_of_map_eq_error hDecode)
          exact ⟨_ :: _ :: body, c :: s, more, rfl,
            .escape (meaning?_eq_some_iff.1 hMeaning) hKnown, hRest⟩
      · next hNone =>
          cases hDecode
          exact ⟨[], [], _, rfl, .nil, hMore, hNone, rfl⟩

/-- A string fails at its first unknown escape. -/
theorem string?_error {s : List Char} {stop : Stop} (h : string? s = .error stop) :
    ∃ body text code more rest, s = body ++ '\\' :: code :: (more ++ '"' :: rest) ∧
      StringBody body text ∧ RawBody more ∧ meaning? code = none ∧
      stop = .fatal ('\\' :: code :: (more ++ '"' :: rest)) (.unknownEscape code) := by
  unfold string? at h
  split at h
  · cases h
  · next body rest hCut =>
      split at h
      · cases h
      · next bad hDecode =>
          cases h
          obtain ⟨rfl, hBody⟩ := rawBody_of_cut? hCut
          obtain ⟨known, text, more, rfl, hKnown, hMore, hNone, hPlace⟩ :=
            exists_badEscape hBody hDecode
          rw [hPlace]
          exact ⟨known, text, bad.code, more, rest, by simp, hKnown, hMore, hNone, rfl⟩

/-- A character fails when the letters behind its mark are no name. -/
theorem character?_error {start s : List Char} {stop : Stop}
    (h : character? start s = .error stop) :
    ∃ name rest, s = name ++ rest ∧ 2 ≤ name.length ∧ (∀ c ∈ name, Text.isLetter c = true) ∧
      (∀ c ∈ rest.head?, Text.isLetter c = false) ∧ characterNamed? name = none ∧
      stop = .fatal start (.unknownCharacter (String.ofList name)) := by
  match s with
  | [] => cases h
  | c :: t =>
      simp only [character?] at h
      split at h
      · next hLong =>
          split at h
          · cases h
          · next hNone =>
              cases h
              refine ⟨_, (c :: t).dropWhile Text.isLetter, List.takeWhile_append_dropWhile.symm,
                hLong, fun d hd => List.mem_takeWhile_imp hd, fun d hd => ?_, hNone, rfl⟩
              have hHead := List.head?_dropWhile_not Text.isLetter (c :: t)
              rw [Option.mem_def.1 hd] at hHead
              exact hHead
      · cases h

/-- A word fails only by its length. -/
theorem word?_error {s : List Char} {stop : Stop} (h : word? s = .error stop) :
    stop = .tooManyDigits := by
  unfold word? at h
  split at h
  · next run tail _ =>
      have hValue := error_of_map_eq_error h
      unfold DigitRun.value at hValue
      split at hValue
      · exact (Except.error.inj hValue).symm
      · cases hValue
  · cases h

/-- All the ways in which a token fails. -/
theorem token?_error_cases {s : List Char} {stop : Stop} (h : token? s = .error stop) :
    stop = .tooManyDigits ∨ (∃ t, s = '"' :: t ∧ string? t = .error stop) ∨
      (∃ t, s = '#' :: '\\' :: t ∧ character? s t = .error stop) := by
  unfold token? at h
  split at h
  · next t => exact .inr (.inl ⟨t, rfl, h⟩)
  · next t =>
      cases hRead : character? ('#' :: '\\' :: t) t with
      | error stop' =>
          rw [hRead] at h
          cases h
          exact .inr (.inr ⟨t, rfl, hRead⟩)
      | ok found =>
          rw [hRead] at h
          cases found with
          | none => exact .inl (word?_error (s := '#' :: '\\' :: t) h)
          | some pair => cases h
  · exact .inl (word?_error h)

/-! ## How expressions fail -/

/-- A stop that is met for the second time. -/
def Stop.again : Stop → Stop
  | .mismatch place reason => .mismatch place (Reader.again reason)
  | stop => stop

/-- All the ways in which an expression fails. -/
theorem expr_error_cases {s : List Char} {stop : Stop} (h : expr s = .error stop) :
    (∃ t, s = '\'' :: t ∧ expr t = .error stop) ∨
    (∃ t, s = '(' :: t ∧ stop = .mismatch (gap t) .expectedClose) ∨
    (∃ t inner, s = '(' :: t ∧ expr (gap t) = .error inner ∧ stop = inner.again) ∨
    (∃ t v r, s = '(' :: t ∧ Reads (gap t) v r ∧ items r = .error stop) ∨
    stop = .mismatch s .expectedExpression ∨ token? s = .error stop := by
  unfold expr at h
  split at h
  · next t hFront =>
      have hText := eq_of_opening_quote hFront
      split at h
      · cases h
      · next hExpr =>
          cases h
          exact .inl ⟨t, hText, hExpr⟩
  · next t hFront =>
      have hText := eq_of_opening_list hFront
      split at h
      · cases h
      · split at h
        · next r hExpr =>
            split at h
            · cases h
            · next hItems =>
                cases h
                exact .inr (.inr (.inr (.inl ⟨t, r.result, r.rest, hText, reads_of_expr hExpr,
                  hItems⟩)))
        · next place reason hExpr =>
            split at h
            · cases h
              exact .inr (.inr (.inl ⟨t, _, hText, hExpr, rfl⟩))
            · cases h
              exact .inr (.inl ⟨t, hText, rfl⟩)
        · next inner hSoft hExpr =>
            cases h
            refine .inr (.inr (.inl ⟨t, stop, hText, hExpr, ?_⟩))
            cases stop with
            | mismatch place reason => exact absurd rfl (hSoft place reason)
            | fatal | tooManyDigits => rfl
  · split at h
    · cases h
    · cases h
      exact .inr (.inr (.inr (.inr (.inl rfl))))
    · next hToken =>
        cases h
        exact .inr (.inr (.inr (.inr (.inr hToken))))

/-- All the ways in which what follows the first element of a list fails. -/
theorem items_error_cases {s : List Char} {stop : Stop} (h : items s = .error stop) :
    stop = .mismatch (gap s) .expectedClose ∨
    (∃ t, gap s = '.' :: t ∧ startsGap s = true ∧ stop = .mismatch t .expectedSeparator) ∨
    (∃ t, gap s = '.' :: t ∧ startsGap s = true ∧ startsGap t = true ∧
      expr (gap t) = .error stop) ∨
    (∃ t v r, gap s = '.' :: t ∧ startsGap s = true ∧ startsGap t = true ∧ Reads (gap t) v r ∧
      stop = .mismatch (gap r) .expectedClose) ∨
    (startsGap s = true ∧ expr (gap s) = .error stop) ∨
    (∃ v r, startsGap s = true ∧ Reads (gap s) v r ∧ items r = .error stop) := by
  unfold items at h
  split at h
  · cases h
  · next t hInner =>
      split at h
      · cases h
        exact .inl (by rw [hInner])
      · next hSep =>
          split at h
          · cases h
            exact .inr (.inl ⟨t, hInner, by simpa using hSep, rfl⟩)
          · next hSep' =>
              split at h
              · next r hExpr =>
                  split at h
                  · cases h
                  · cases h
                    exact .inr (.inr (.inr (.inl ⟨t, r.result, r.rest, hInner, by simpa using hSep,
                      by simpa using hSep', reads_of_expr hExpr, rfl⟩)))
              · next hExpr =>
                  cases h
                  exact .inr (.inr (.inl ⟨t, hInner, by simpa using hSep, by simpa using hSep',
                    hExpr⟩))
  · split at h
    · next hSep =>
        split at h
        · next r hExpr =>
            split at h
            · cases h
            · next hItems =>
                cases h
                exact .inr (.inr (.inr (.inr (.inr ⟨r.result, r.rest, hSep, reads_of_expr hExpr,
                  hItems⟩))))
        · cases h
          exact .inl rfl
        · next hExpr =>
            cases h
            exact .inr (.inr (.inr (.inr (.inl ⟨hSep, hExpr⟩))))
    · cases h
      exact .inl rfl

/-! ## Justified stops -/

/-- The text around a reported place bears out the reason: `before` stands
before the place, and `place` from there on. -/
def Entry.Explains (entry : Entry) (before place : List Char) : ParseReason → Prop
  | .unknownEscape code =>
    -- the literal, and what of it stands before the escape
    ∃ h body text, before = h ++ '"' :: body ∧ entry.Opens h ∧ StringBody body text ∧
      -- the escape, and how the literal goes on
      ∃ more rest, place = '\\' :: code :: (more ++ '"' :: rest) ∧ RawBody more ∧
        code ∉ ['"', '\\', 't', 'n', 'r']
  | .unknownCharacter name =>
    entry.Opens before ∧ ∃ rest, place = '#' :: '\\' :: (name.toList ++ rest) ∧
      2 ≤ name.toList.length ∧ (∀ c ∈ name.toList, Text.isLetter c = true) ∧
      (∀ c ∈ rest.head?, Text.isLetter c = false) ∧
      ∀ c, (String.ofList (name.toList.map Text.lower), c) ∉ namedCharacters
  | _ => True

/-- Before the place of the stop stands what can be finished, and around it
what bears out its reason. -/
def Stop.Justified (entry : Entry) (text : List Char) : Stop → Prop
  | .mismatch place reason | .fatal place reason =>
    ∃ before, text = before ++ place ∧ entry.Viable before ∧ entry.Explains before place reason
  | .tooManyDigits => True

section Justified

variable {entry : Entry} {h s text : List Char} {stop : Stop}

theorem Stop.Justified.again (hStop : stop.Justified entry text) :
    stop.again.Justified entry text := by
  cases stop with
  | mismatch place reason =>
      obtain ⟨before, hText, hViable, hExplains⟩ := hStop
      refine ⟨before, hText, hViable, ?_⟩
      cases reason with
      | expectedExpression => trivial
      | _ => exact hExplains
  | fatal | tooManyDigits => exact hStop

theorem notMem_of_meaning? {code : Char} (h : meaning? code = none) :
    code ∉ ['"', '\\', 't', 'n', 'r'] := by
  intro hMem
  simp only [List.mem_cons, List.not_mem_nil, or_false] at hMem
  rcases hMem with rfl | rfl | rfl | rfl | rfl <;> cases h

/-- A token that fails where an expression is to begin fails for a reason. -/
theorem justified_of_token? (hOpens : entry.Opens h) (hError : token? s = .error stop) :
    stop.Justified entry (h ++ s) := by
  rcases token?_error_cases hError with rfl | ⟨t, rfl, hString⟩ | ⟨t, rfl, hCharacter⟩
  · trivial
  · obtain ⟨body, text, code, more, rest, rfl, hBody, hMore, hNone, rfl⟩ := string?_error hString
    refine ⟨h ++ '"' :: body, by simp, ?_, h, body, text, rfl, hOpens, hBody, more, rest, rfl,
      hMore, notMem_of_meaning? hNone⟩
    exact hOpens.viable_of_part (p := '"' :: body) (.token (.string hBody))
  · obtain ⟨name, rest, rfl, hLong, hLetters, hEnd, hNone, rfl⟩ := character?_error hCharacter
    refine ⟨h, rfl, hOpens.viable_self, hOpens, rest, ?_⟩
    rw [String.toList_ofList]
    refine ⟨rfl, hLong, hLetters, hEnd, fun c hName => ?_⟩
    rw [characterNamed?_eq_some_iff.2 hName] at hNone
    cases hNone

/-- A place behind a gap is viable if every gap may stand there. -/
theorem exists_viable_gap (hGaps : ∀ g, IsGap g → entry.Viable (h ++ g)) (s : List Char) :
    ∃ before, h ++ s = before ++ gap s ∧ entry.Viable before := by
  rcases skips_gap s with ⟨g, hGap, hText⟩ | ⟨hNil, hTrailing⟩
  · refine ⟨h ++ g, ?_, hGaps g hGap⟩
    rw [List.append_assoc, ← hText]
  · refine ⟨h ++ s, by rw [hNil, List.append_nil], ?_⟩
    have hViable := hGaps _ hTrailing.isSeparator_newline.1
    rw [← List.append_assoc] at hViable
    exact hViable.of_append

/-- An expression that fails behind a gap.  Where the gap takes the rest of
the text, the expression is missed at the end of it. -/
theorem justified_behind_gap
    (hOpens : ∀ g, IsGap g → (startsGap s = true → g ≠ []) → entry.Opens (h ++ g))
    (hError : expr (gap s) = .error stop)
    (hStop : ∀ h', entry.Opens h' → stop.Justified entry (h' ++ gap s)) :
    stop.Justified entry (h ++ s) := by
  rcases skips_gap s with ⟨g, hGap, hText⟩ | ⟨hNil, hTrailing⟩
  · have hSome : startsGap s = true → g ≠ [] := by
      rintro hSep rfl
      have hLess := gap_length_lt hSep
      rw [List.nil_append] at hText
      rw [← hText] at hLess
      exact Nat.lt_irrefl _ hLess
    have hJustified := hStop _ (hOpens g hGap hSome)
    rwa [List.append_assoc, ← hText] at hJustified
  · rw [hNil, expr_of_eq_nil rfl] at hError
    cases hError
    have hOpen := hOpens _ hTrailing.isSeparator_newline.1 fun _ => by simp
    refine ⟨h ++ s, by simp, ?_, trivial⟩
    have hViable := hOpen.viable_self
    rw [← List.append_assoc] at hViable
    exact hViable.of_append

theorem isSeparator_space : IsSeparator [' '] := ⟨.blank (by decide) .nil, by simp⟩

-- The recursion is the reader's own, and the open text grows as it descends.
mutual

/-- An expression that fails where one is to begin fails for a reason. -/
theorem justified_of_expr {h s : List Char} {stop : Stop} (hOpens : entry.Opens h)
    (hError : expr s = .error stop) : stop.Justified entry (h ++ s) := by
  rcases expr_error_cases hError with ⟨t, hs, hQuoted⟩ | ⟨t, hs, rfl⟩ |
    ⟨t, inner, hs, hFirst, rfl⟩ | ⟨t, v, r, hs, hFirst, hItems⟩ | rfl | hToken
  · have hLength : t.length < s.length := by simp [hs]
    have hStop := justified_of_expr hOpens.quote hQuoted
    rw [hs]
    simpa using hStop
  · have hClose : ∀ g, IsGap g → entry.Viable (h ++ ['('] ++ g) := by
      intro g hGap
      have hViable := hOpens.viable_of_part (p := '(' :: g) (.nil hGap)
      simpa using hViable
    obtain ⟨before, hText, hViable⟩ := exists_viable_gap hClose t
    exact ⟨before, by rw [hs, ← hText]; simp, hViable, trivial⟩
  · have hLength : t.length < s.length := by simp [hs]
    have hGapLength := gap_length_le t
    have hFirstOpens : ∀ g, IsGap g → (startsGap t = true → g ≠ []) →
        entry.Opens (h ++ ['('] ++ g) := by
      intro g hGap _
      have hOpen := hOpens.first hGap
      simpa using hOpen
    have hStop := justified_behind_gap hFirstOpens hFirst fun h' hOpens' =>
      justified_of_expr hOpens' hFirst
    rw [hs]
    simpa using hStop.again
  · have hLength : t.length < s.length := by simp [hs]
    have hGapLength := gap_length_le t
    have hFirstLength := hFirst.1
    obtain ⟨g, w, hGap, hExpr, hText⟩ := hFirst.sound_behind_gap
    have hStop := justified_of_items hOpens hGap (.one hExpr) hItems
    rw [hs, hText]
    simpa using hStop
  · exact ⟨h, rfl, hOpens.viable_self, trivial⟩
  · exact justified_of_token? hOpens hToken
termination_by s.length
decreasing_by all_goals omega

/-- So does what follows the first element of a list. -/
theorem justified_of_items {h g w s : List Char} {vs : List Value} {stop : Stop}
    (hOpens : entry.Opens h) (hGap : IsGap g) (hElements : ElementsText w vs)
    (hError : items s = .error stop) : stop.Justified entry (h ++ '(' :: (g ++ w) ++ s) := by
  rcases items_error_cases hError with rfl | ⟨t, hDot, hSep, rfl⟩ | ⟨t, hDot, hSep, hSep', hTail⟩ |
    ⟨t, v, r, hDot, hSep, hSep', hTail, rfl⟩ | ⟨hSep, hElement⟩ | ⟨v, r, hSep, hElement, hItems⟩
  · have hClose : ∀ g', IsGap g' → entry.Viable (h ++ '(' :: (g ++ w) ++ g') := by
      intro g' hGap'
      have hList : ExprText ('(' :: (g ++ w ++ g') ++ [')']) (.list vs) :=
        .list hGap hElements hGap'
      have hViable := hOpens.viable_of_part hList
      simpa using hViable
    obtain ⟨before, hText, hViable⟩ := exists_viable_gap hClose s
    exact ⟨before, hText, hViable, trivial⟩
  · obtain ⟨sep, hSepText, hText⟩ := exists_isSeparator_of_gap_eq_cons hSep hDot
    have hDotted : ExprText ('(' :: (g ++ w ++ sep ++ ['.']) ++ [' ', '(', ')', ')'])
        (.dotted vs .nil) := by
      have hExpr := ExprText.dotted hGap hElements hSepText isSeparator_space (.nil .nil) .nil
      simpa using hExpr
    refine ⟨h ++ '(' :: (g ++ w ++ sep ++ ['.']), by simp [hText], ?_, trivial⟩
    exact hOpens.viable_of_part hDotted
  · have hDotLength := length_lt_of_gap_eq_cons hDot
    have hGapLength := gap_length_le t
    obtain ⟨sep, hSepText, hText⟩ := exists_isSeparator_of_gap_eq_cons hSep hDot
    have hTailOpens : ∀ g', IsGap g' → (startsGap t = true → g' ≠ []) →
        entry.Opens (h ++ '(' :: (g ++ w ++ sep ++ ['.']) ++ g') := by
      intro g' hGap' hSome
      have hOpen := hOpens.behindDot hGap hElements hSepText ⟨hGap', hSome hSep'⟩
      simpa using hOpen
    have hStop := justified_behind_gap hTailOpens hTail fun h' hOpens' =>
      justified_of_expr hOpens' hTail
    rw [hText]
    simpa using hStop
  · obtain ⟨sep, hSepText, hText⟩ := exists_isSeparator_of_gap_eq_cons hSep hDot
    obtain ⟨sep', u, hSepText', hExpr, ht⟩ := hTail.sound_behind_separator hSep'
    have hClose : ∀ g', IsGap g' →
        entry.Viable (h ++ '(' :: (g ++ w ++ sep ++ '.' :: (sep' ++ u)) ++ g') := by
      intro g' hGap'
      have hDotted : ExprText ('(' :: (g ++ w ++ sep ++ '.' :: (sep' ++ u ++ g')) ++ [')'])
          (.dotted vs v) := by
        have hExpr := ExprText.dotted hGap hElements hSepText hSepText' hExpr hGap'
        simpa using hExpr
      have hViable := hOpens.viable_of_part hDotted
      simpa using hViable
    obtain ⟨before, hBefore, hViable⟩ := exists_viable_gap hClose r
    refine ⟨before, ?_, hViable, trivial⟩
    rw [← hBefore, hText, ht]
    simp
  · have hGapLength := gap_length_lt hSep
    have hLaterOpens : ∀ g', IsGap g' → (startsGap s = true → g' ≠ []) →
        entry.Opens (h ++ '(' :: (g ++ w) ++ g') := by
      intro g' hGap' hSome
      have hOpen := hOpens.later hGap hElements ⟨hGap', hSome hSep⟩
      simpa using hOpen
    exact justified_behind_gap hLaterOpens hElement fun h' hOpens' =>
      justified_of_expr hOpens' hElement
  · have hGapLength := gap_length_lt hSep
    have hElementLength := hElement.1
    obtain ⟨sep, u, hSepText, hExpr, hText⟩ := hElement.sound_behind_separator hSep
    have hStop := justified_of_items hOpens hGap (hElements.snoc hSepText hExpr) hItems
    rw [hText]
    simpa using hStop
termination_by s.length
decreasing_by all_goals omega

end

/-! ## Whole texts -/

/-- A text that should have ended behind a gap. -/
theorem justified_of_trailing (hGaps : ∀ g, IsGap g → entry.Viable (h ++ g)) (s : List Char) :
    (trailing (gap s)).Justified entry (h ++ s) := by
  obtain ⟨before, hText, hViable⟩ := exists_viable_gap hGaps s
  exact ⟨before, hText, hViable, trivial⟩

/-- The first expression of a text fails for a reason. -/
theorem justified_of_first (hError : expr (gap s) = .error stop) : stop.Justified entry s :=
  justified_behind_gap (h := []) (fun _ hGap _ => .start (.gap hGap)) hError
    fun _ hOpens => justified_of_expr hOpens hError

/-- What stands behind the one expression of a text. -/
theorem justified_of_rest {v : Value} {r : List Char} (hReads : Reads (gap s) v r) :
    (trailing (gap r)).Justified entry s := by
  obtain ⟨g, w, hGap, hExpr, rfl⟩ := hReads.sound_behind_gap
  have hGaps : ∀ g', IsGap g' → entry.Viable (g ++ w ++ g') := by
    intro g' hGap'
    refine Entry.viable_of_sequenceText (.elements hGap (.one hExpr) (.closed hGap')) ?_
    cases entry <;> rfl
  exact justified_of_trailing hGaps r

/-- A text is blank as far as it is a gap. -/
theorem justified_of_blank (hNone : entry.allows 0 = true) :
    (trailing (gap s)).Justified entry s :=
  justified_of_trailing (h := []) (fun _ hGap =>
    Entry.viable_of_sequenceText (.blank (.closed hGap)) hNone) s

theorem justified_of_one (hError : one s = .error stop) : stop.Justified entry s := by
  unfold one at hError
  split at hError
  · next r hExpr =>
      split at hError
      · cases hError
      · cases hError
        exact justified_of_rest (reads_of_expr hExpr)
  · next hExpr =>
      cases hError
      exact justified_of_first hExpr

theorem justified_of_optional (hError : optional s = .error stop) :
    stop.Justified .optional s := by
  unfold optional at hError
  split at hError
  · next r hExpr =>
      split at hError
      · cases hError
      · cases hError
        exact justified_of_rest (reads_of_expr hExpr)
  · split at hError
    · cases hError
    · cases hError
      exact justified_of_blank rfl
  · next hExpr =>
      cases hError
      exact justified_of_first hExpr

/-- All the ways in which a sequence fails. -/
theorem all_error_cases (hError : all s = .error stop) :
    stop = trailing (gap s) ∨ expr (gap s) = .error stop ∨
      ∃ v r, Reads (gap s) v r ∧ more r = .error stop := by
  unfold all at hError
  split at hError
  · next r hExpr =>
      split at hError
      · cases hError
      · next hMore =>
          cases hError
          exact .inr (.inr ⟨r.result, r.rest, reads_of_expr hExpr, hMore⟩)
  · split at hError
    · cases hError
    · cases hError
      exact .inl rfl
  · next hExpr =>
      cases hError
      exact .inr (.inl hExpr)

/-- What is left to read of a sequence: all of it, or a part that a separator
sets off from the expressions before it. -/
inductive Continues : List Char → List Char → Prop
  | start (s : List Char) : Continues [] s
  | elements {g w s : List Char} {vs : List Value} (hGap : IsGap g)
      (hElements : ElementsText w vs) (hSep : startsGap s = true) : Continues (g ++ w) s

theorem Continues.precedes (hc : Continues h s) {g : List Char} (hGap : IsGap g)
    (hSome : startsGap s = true → g ≠ []) : Entry.all.Precedes (h ++ g) := by
  cases hc with
  | start => exact .gap hGap
  | elements hGap₁ hElements hSep => exact .elements hGap₁ hElements ⟨hGap, hSome hSep⟩

theorem Continues.viable (hc : Continues h s) {g : List Char} (hGap : IsGap g) :
    Entry.all.Viable (h ++ g) := by
  cases hc with
  | start => exact Entry.viable_of_sequenceText (.blank (.closed hGap)) rfl
  | elements hGap₁ hElements =>
      exact Entry.viable_of_sequenceText (.elements hGap₁ hElements (.closed hGap)) rfl

theorem Continues.more (hc : Continues h s) {r : List Char} {v : Value}
    (hReads : Reads (gap s) v r) : ∃ g w vs, IsGap g ∧ ElementsText w vs ∧ h ++ s = g ++ w ++ r := by
  cases hc with
  | start =>
      obtain ⟨g, w, hGap, hExpr, hText⟩ := hReads.sound_behind_gap
      exact ⟨g, w, _, hGap, .one hExpr, hText⟩
  | @elements g₁ w₁ _ vs hGap₁ hElements hSep =>
      obtain ⟨sep, w, hSepText, hExpr, hText⟩ := hReads.sound_behind_separator hSep
      refine ⟨g₁, _, _, hGap₁, hElements.snoc hSepText hExpr, ?_⟩
      rw [hText]
      simp

theorem justified_of_all {h s : List Char} {stop : Stop} (hc : Continues h s)
    (hError : all s = .error stop) : stop.Justified .all (h ++ s) := by
  rcases all_error_cases hError with rfl | hExpr | ⟨v, r, hReads, hMore⟩
  · exact justified_of_trailing (fun _ hGap => hc.viable hGap) s
  · exact justified_behind_gap (fun _ hGap hSome => .start (hc.precedes hGap hSome)) hExpr
      fun _ hOpens => justified_of_expr hOpens hExpr
  · have hLength := hReads.1
    have hGapLength := gap_length_le s
    obtain ⟨g, w, vs, hGap, hElements, hText⟩ := hc.more hReads
    rw [hText]
    rw [more_eq] at hMore
    split at hMore
    · next hSep => exact justified_of_all (.elements hGap hElements hSep) hMore
    · split at hMore
      · cases hMore
      · cases hMore
        have hSequence := SequenceText.elements hGap hElements (.closed .nil)
        rw [List.append_nil] at hSequence
        exact ⟨g ++ w, rfl, Entry.viable_of_sequenceText hSequence rfl, trivial⟩
termination_by s.length
decreasing_by omega

end Justified

/-- **Every stop of an entry point is justified.** -/
theorem Entry.justified_of_scan {entry : Entry} {s : List Char} {stop : Stop}
    (h : entry.scan s = .error stop) : stop.Justified entry s := by
  cases entry with
  | one => exact justified_of_one (error_of_map_eq_error h)
  | optional => exact justified_of_optional (error_of_map_eq_error h)
  | all => exact justified_of_all (.start s) h

/-! ## Reported places -/

/-- **Every reported place is justified**: it cuts the text in two, the error
says where it is cut, and why. -/
theorem Entry.exists_cut_of_read {entry : Entry} {text : String} {e : ParseError}
    (h : entry.read text = .error (.error (.parse e))) :
    ∃ before place, text.toList = before ++ place ∧
      e = ParseError.locate (before ++ place) place e.reason ∧
      entry.Viable before ∧ entry.Explains before place e.reason := by
  rw [Entry.read_eq_run, run] at h
  cases hScan : entry.scan text.toList with
  | ok vs =>
      rw [hScan] at h
      cases h
  | error stop =>
      rw [hScan] at h
      have hJustified := Entry.justified_of_scan hScan
      cases stop with
      | mismatch place reason | fatal place reason =>
          obtain ⟨before, hText, hViable, hExplains⟩ := hJustified
          cases h
          rw [hText]
          exact ⟨before, place, rfl, rfl, hViable, hExplains⟩
      | tooManyDigits => cases h

/-- The position counts the characters before the place. -/
theorem locate_position (before place : List Char) (reason : ParseReason) :
    (ParseError.locate (before ++ place) place reason).position = before.length := by
  simp [ParseError.locate]

/-- The error that reading a text reports, if it reports one. -/
def Entry.rejection? (entry : Entry) (text : String) : Option ParseError :=
  match entry.read text with
  | .error (.error (.parse e)) => some e
  | _ => none

theorem Entry.read_of_rejection? {entry : Entry} {text : String} {e : ParseError}
    (h : entry.rejection? text = some e) : entry.read text = .error (.error (.parse e)) := by
  unfold Entry.rejection? at h
  split at h
  · next hRead =>
      cases h
      exact hRead
  · cases h

/-- **No text is blamed past the point where it was beyond repair.**  The
reported place lies in the text or at its end, and what stands before it can
be extended to a text that the same entry point accepts. -/
theorem rejected_at_viable_place (entry : Entry) (text : String) (e : ParseError)
    (h : entry.read text = .error (.error (.parse e))) :
    e.position ≤ text.length ∧
      ∃ more vs, entry.read (String.ofList (text.toList.take e.position ++ more)) = .ok vs := by
  obtain ⟨before, place, hText, hError, ⟨more, vs, hScan⟩, -⟩ := Entry.exists_cut_of_read h
  have hPosition : e.position = before.length := by rw [hError, locate_position]
  have hBefore : text.toList.take e.position = before := by rw [hText, hPosition, List.take_left]
  refine ⟨?_, more, vs, ?_⟩
  · rw [hPosition, ← String.length_toList, hText, List.length_append]
    exact Nat.le_add_right _ _
  · rw [hBefore, Entry.read_eq_run, run_eq_ok_iff, String.toList_ofList]
    exact hScan

/-- The escape is reported, and not that the lists around it stay open. -/
theorem rejected_at_viable_place_escape :
    Entry.optional.read "(f '(1 . (\"ab\\q\" ; x" =
        .error (.error (.parse ⟨.unknownEscape 'q', 13, 1, 14, "\\q\""⟩)) ∧
      ∃ more vs, Entry.optional.read (String.ofList ("(f '(1 . (\"ab".toList ++ more)) = .ok vs := by
  have hRead : Entry.optional.read "(f '(1 . (\"ab\\q\" ; x" =
      .error (.error (.parse ⟨.unknownEscape 'q', 13, 1, 14, "\\q\""⟩)) :=
    Entry.read_of_rejection? (by decide +kernel)
  have hViable := rejected_at_viable_place _ _ _ hRead
  exact ⟨hRead, hViable.2⟩

end MiniScheme.Reader
