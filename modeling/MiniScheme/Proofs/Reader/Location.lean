import MiniScheme.Proofs.Reader.Rejection

/-!
# What is told of a rejection

Whoever wrote a rejected text is told of a line, a column and a word, and has
to find the place again from these.  The module says what each of them is,
in terms of the text alone, and that nothing is lost: **a line and a column
name one place of a text**.

* `Stands before line column` gives the coordinates of the place behind
  `before`.  A column counts from the last newline, and the newline that
  ends a line belongs to that line.
* `Quotes rest token` says what is quoted of a text with `rest` still to be
  read.  A word is quoted up to a limit, and no word can be mistaken for
  the end of the text.
* Why the text is wrong there is stated by `Entry.Explains`.

## Main results

* `Stands.position_unique` — a place is found again by its coordinates.
* `Quotes.eq_endOfInput_iff` — the end of the text is quoted as such, and
  nothing else is.
* `rejection_located` — the coordinates, the token and the reason of every
  rejection.
-/

namespace MiniScheme.Reader

/-! ## Lines and columns -/

/-- `LastNewline s i`: the last newline of `s` has the index `i`.  A text
without a newline is taken to follow one. -/
inductive LastNewline : List Char → Int → Prop
  | none {line : List Char} (hLine : '\n' ∉ line) : LastNewline line (-1)
  | behind {lines line : List Char} (hLine : '\n' ∉ line) :
      LastNewline (lines ++ '\n' :: line) lines.length

/-- The place behind `before` has these coordinates. -/
structure Stands (before : List Char) (line column : Nat) : Prop where
  line_eq : line = 1 + before.count '\n'
  column_eq : ∃ i, LastNewline before i ∧ (column : Int) = before.length - i

theorem exists_lastNewline (s : List Char) : ∃ i, LastNewline s i := by
  induction s with
  | nil => exact ⟨-1, .none List.not_mem_nil⟩
  | cons c s ih =>
      obtain ⟨i, hLast⟩ := ih
      cases hLast with
      | none hLine =>
          by_cases hc : c = '\n'
          · subst hc
            exact ⟨_, @LastNewline.behind [] s hLine⟩
          · exact ⟨-1, .none (by simp [hLine, Ne.symm hc])⟩
      | @behind lines line hLine => exact ⟨_, @LastNewline.behind (c :: lines) line hLine⟩

theorem takeWhile_reverse_of_notMem {line : List Char} (hLine : '\n' ∉ line) (s : List Char) :
    (line.reverse ++ s).takeWhile (· ≠ '\n') = line.reverse ++ s.takeWhile (· ≠ '\n') := by
  refine List.takeWhile_append_of_pos fun c hc => decide_eq_true ?_
  rintro rfl
  exact hLine (List.mem_reverse.1 hc)

/-- The distance to the last newline, counted from the end of the text. -/
theorem LastNewline.distance {s : List Char} {i : Int} (h : LastNewline s i) :
    (s.length : Int) - i = ((s.reverse.takeWhile (· ≠ '\n')).length + 1 : Nat) := by
  cases h with
  | none hLine =>
      have hAll := takeWhile_reverse_of_notMem hLine []
      rw [List.append_nil] at hAll
      rw [hAll, List.takeWhile_nil, List.append_nil, List.length_reverse]
      omega
  | @behind lines line hLine =>
      have hReverse : (lines ++ '\n' :: line).reverse = line.reverse ++ '\n' :: lines.reverse := by
        simp
      rw [hReverse, takeWhile_reverse_of_notMem hLine]
      simp

theorem stands_iff {before : List Char} {line column : Nat} :
    Stands before line column ↔ line = before.count '\n' + 1 ∧
      column = (before.reverse.takeWhile (· ≠ '\n')).length + 1 := by
  constructor
  · rintro ⟨hLine, i, hLast, hColumn⟩
    rw [hLast.distance] at hColumn
    exact ⟨by omega, Int.ofNat.inj hColumn⟩
  · rintro ⟨rfl, rfl⟩
    obtain ⟨i, hLast⟩ := exists_lastNewline before
    exact ⟨by omega, i, hLast, hLast.distance.symm⟩

/-- Text without a newline moves the column, all other text the line. -/
theorem Stands.eq_nil_of_append {before more : List Char} {line column : Nat}
    (h : Stands before line column) (hMore : Stands (before ++ more) line column) : more = [] := by
  obtain ⟨hLine, hColumn⟩ := stands_iff.1 h
  obtain ⟨hLine', hColumn'⟩ := stands_iff.1 hMore
  have hNone : '\n' ∉ more := by
    rw [List.count_append] at hLine'
    exact List.count_eq_zero.1 (by omega)
  rw [List.reverse_append, takeWhile_reverse_of_notMem hNone, List.length_append,
    List.length_reverse] at hColumn'
  exact List.eq_nil_of_length_eq_zero (by omega)

/-- **A place is found again by its coordinates.** -/
theorem Stands.position_unique {text : List Char} {p q line column : Nat}
    (hp : p ≤ text.length) (hq : q ≤ text.length) (h : Stands (text.take p) line column)
    (h' : Stands (text.take q) line column) : q = p := by
  wlog hLe : p ≤ q generalizing p q
  · exact (this hq hp h' h (Nat.le_of_not_le hLe)).symm
  obtain ⟨k, rfl⟩ := Nat.exists_eq_add_of_le hLe
  rw [List.take_add] at h'
  have hNil := congrArg List.length (h.eq_nil_of_append h')
  rw [List.length_take, List.length_drop, List.length_nil] at hNil
  omega

/-! ## Tokens -/

/-- What an error quotes of a text with `rest` still to be read: that it has
ended, one blank, or the word that begins there. -/
inductive Quotes : List Char → String → Prop
  | endOfInput : Quotes [] "end of input"
  | blank {c : Char} {rest : List Char} (hBlank : Text.isBlank c = true) :
      Quotes (c :: rest) (String.singleton c)
  | word {run rest : List Char} (hSome : run ≠ []) (hRun : ∀ c ∈ run, Text.isBlank c = false)
      (hEnd : ∀ c ∈ rest.head?, Text.isBlank c = true) :
      Quotes (run ++ rest) (String.ofList (run.take 20))

theorem quotes_tokenAt (rest : List Char) : Quotes rest (ParseError.tokenAt rest) := by
  cases rest with
  | nil => exact .endOfInput
  | cons c s =>
      rw [ParseError.tokenAt]
      split
      · next hBlank => exact .blank hBlank
      · next hWord =>
          rw [← List.take_takeWhile]
          have hCut := List.takeWhile_append_dropWhile (p := fun d => !Text.isBlank d) (l := c :: s)
          nth_rewrite 1 [← hCut]
          refine .word ?_ (fun d hd => ?_) fun d hd => ?_
          · rw [List.takeWhile_cons_of_pos (by simpa using hWord)]
            exact List.cons_ne_nil _ _
          · simpa using List.mem_takeWhile_imp hd
          · have hHead := List.head?_dropWhile_not (fun d => !Text.isBlank d) (c :: s)
            rw [Option.mem_def.1 hd] at hHead
            simpa using hHead

/-- No word and no blank reads like the end of the text. -/
theorem Quotes.eq_endOfInput_iff {rest : List Char} {token : String} (h : Quotes rest token) :
    token = "end of input" ↔ rest = [] := by
  cases h with
  | endOfInput => exact ⟨fun _ => rfl, fun _ => rfl⟩
  | blank =>
      refine ⟨fun hToken => ?_, fun hNil => nomatch hNil⟩
      have hLength := congrArg String.length hToken
      rw [String.length_singleton] at hLength
      exact absurd hLength (by decide)
  | @word run rest hSome hRun =>
      refine ⟨fun hToken => ?_, fun hNil => absurd (List.append_eq_nil_iff.1 hNil).1 hSome⟩
      -- the phrase holds a blank, and a word does not
      have hChars := congrArg String.toList hToken
      rw [String.toList_ofList] at hChars
      have hSpace : ' ' ∈ run.take 20 := by
        rw [hChars]
        decide
      have hNot := hRun ' ' (List.mem_of_mem_take hSpace)
      exact absurd hNot (by decide)

/-! ## Rejections -/

theorem stands_locate (before place : List Char) (reason : ParseReason) :
    Stands before (ParseError.locate (before ++ place) place reason).line
      (ParseError.locate (before ++ place) place reason).column := by
  rw [stands_iff]
  simp [ParseError.locate]

/-- **What is told of a rejection is so.**  Line and column are those of the
position, and of no other position of the text; the token is what stands
there; and the text around the place bears out the reason. -/
theorem rejection_located (entry : Entry) (text : String) (e : ParseError)
    (h : entry.read text = .error (.error (.parse e))) :
    e.position ≤ text.length ∧
      Stands (text.toList.take e.position) e.line e.column ∧ 1 ≤ e.column ∧
      (∀ q ≤ text.length, Stands (text.toList.take q) e.line e.column → q = e.position) ∧
      Quotes (text.toList.drop e.position) e.token ∧
      (e.token = "end of input" ↔ e.position = text.length) ∧
      entry.Explains (text.toList.take e.position) (text.toList.drop e.position) e.reason := by
  obtain ⟨before, place, hText, hError, -, hExplains⟩ := Entry.exists_cut_of_read h
  have hPosition : e.position = before.length := by rw [hError, locate_position]
  have hBefore : text.toList.take e.position = before := by rw [hText, hPosition, List.take_left]
  have hPlace : text.toList.drop e.position = place := by rw [hText, hPosition, List.drop_left]
  have hLength : text.length = e.position + place.length := by
    rw [← String.length_toList, hText, List.length_append, hPosition]
  have hStands : Stands (text.toList.take e.position) e.line e.column := by
    rw [hBefore, hError]
    exact stands_locate before place e.reason
  have hQuotes : Quotes place e.token := by
    rw [hError]
    exact quotes_tokenAt place
  have hInside : e.position ≤ text.toList.length := by
    rw [String.length_toList]
    omega
  refine ⟨by omega, hStands, ?_, fun q hq hq' => ?_, ?_, ?_, ?_⟩
  · rw [(stands_iff.1 hStands).2]
    exact Nat.le_add_left _ _
  · rw [← String.length_toList] at hq
    exact hStands.position_unique hInside hq hq'
  · rw [hPlace]
    exact hQuotes
  · rw [hQuotes.eq_endOfInput_iff, ← List.length_eq_zero_iff]
    omega
  · rw [hBefore, hPlace]
    exact hExplains

/-- A list, a comment and a known escape stand before the unknown one. -/
theorem rejection_located_second_line :
    Entry.all.read "(a ; \"\n \"b\\tc\\qd\" x" =
        .error (.error (.parse ⟨.unknownEscape 'q', 13, 2, 7, "\\qd\""⟩)) ∧
      Stands "(a ; \"\n \"b\\tc".toList 2 7 ∧
      (∀ q ≤ 19, Stands ("(a ; \"\n \"b\\tc\\qd\" x".toList.take q) 2 7 → q = 13) ∧
      Quotes "\\qd\" x".toList "\\qd\"" ∧
      Entry.all.Explains "(a ; \"\n \"b\\tc".toList "\\qd\" x".toList (.unknownEscape 'q') := by
  have hRead : Entry.all.read "(a ; \"\n \"b\\tc\\qd\" x" =
      .error (.error (.parse ⟨.unknownEscape 'q', 13, 2, 7, "\\qd\""⟩)) :=
    Entry.read_of_rejection? (by decide +kernel)
  obtain ⟨-, hStands, -, hOnly, hQuotes, -, hExplains⟩ := rejection_located _ _ _ hRead
  exact ⟨hRead, hStands, hOnly, hQuotes, hExplains⟩

-- A newline ends the line it stands in, also as the last character of the text.
example : Entry.one.rejection? "(a\n" = some ⟨.expectedClose, 3, 2, 1, "end of input"⟩ := by
  decide +kernel

end MiniScheme.Reader
