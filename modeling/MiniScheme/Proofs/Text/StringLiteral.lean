import MiniScheme.Proofs.Reader.RoundTrip

/-!
# String literals that writing gives back

Every string has one written literal, and many literals may be read as the
same string: a newline, a tab and a return can stand in a literal as they
are or be escaped.  This freedom is the only one.  Escapes have one spelling
each, and a character without an escape stands for itself.

**Writing what was read replaces the raw controls by their escapes and
changes nothing else** (`encodeBody_of_stringBody`).  So a literal comes back
as it was exactly if it has no raw control, and these literals are all that
is ever written.

Reading makes two passes over a literal, one that looks for the closing
quote and one that decodes what stands before it.  That both cut a run of
backslashes into the same pairs is in `cut?_append_of_stringBody` and
`stringBody_of_cut?`; here only the grammar is used.

## Main results

* `isLiteral_iff_stringBody` — a text that is one string token is a string
  body between quotes.
* `literals_written_back` — which literals come back when they are read and
  written again, and which are written at all.
-/

namespace MiniScheme.Text.StringLiteral

open Reader (StringBody TokenText)

/-- The text is one string token of the reader, from its first character to
its last, and stands for `s`. -/
def IsLiteral (lit s : String) : Prop := Reader.token? lit.toList = .ok (some (.string s, []))

/-- The characters that have an escape and may also stand in a literal as
they are. -/
def rawControls : List Char := ['\t', '\n', '\r']

/-- The text has no newline, tab or return in it. -/
def IsPlain (lit : String) : Prop := ∀ c ∈ lit.toList, c ∉ rawControls

instance (lit : String) : Decidable (IsPlain lit) :=
  List.decidableBAll (· ∉ rawControls) lit.toList

/-! ## Writing a body again -/

/-- What stands for a character of a body once the body is read and written
again. -/
def rewriteChar (c : Char) : List Char := if c ∈ rawControls then encodeChar c else [c]

/-- The characters without an escape are those that a literal holds only as
they are: no quote, no backslash and no control. -/
theorem escape?_eq_none_iff {c : Char} :
    escape? c = none ↔ c ≠ '"' ∧ c ≠ '\\' ∧ c ∉ rawControls := by
  rw [escape?, List.lookup_eq_none_iff]
  simp only [escapes, List.forall_mem_cons, rawControls]
  grind

/-- A raw control is written as an escape. -/
theorem encodeChar_of_mem_rawControls {c : Char} (hc : c ∈ rawControls) :
    ∃ code, encodeChar c = ['\\', code] := by
  obtain ⟨w, hEscape⟩ := Option.ne_none_iff_exists'.1 fun hNone =>
    (escape?_eq_none_iff.1 hNone).2.2 hc
  obtain ⟨code, rfl, -⟩ := exists_meaning?_of_escape? hEscape
  exact ⟨code, by rw [encodeChar, hEscape, Option.getD_some]⟩

/-- No escape is made of raw controls. -/
theorem rewriteChar_of_mem_meanings {c code : Char} (h : (code, c) ∈ meanings) :
    rewriteChar code = [code] := by
  have hCodes : ∀ entry ∈ meanings, entry.1 ∉ rawControls := by decide
  exact if_neg (hCodes _ h)

/-- An escape is written as it was read. -/
theorem encodeChar_of_mem_meanings {c code : Char} (h : (code, c) ∈ meanings) :
    encodeChar c = rewriteChar '\\' ++ rewriteChar code := by
  rw [encodeChar, escape?_of_mem_meanings h, rewriteChar_of_mem_meanings h]
  rfl

/-- **Writing what was read** replaces the raw controls of the body by their
escapes. -/
theorem encodeBody_of_stringBody {w s : List Char} (hBody : StringBody w s) :
    encodeBody s = w.flatMap rewriteChar := by
  induction hBody with
  | nil => rfl
  | @plain c w s hQuote hBackslash _ ih =>
      have hChar : encodeChar c = rewriteChar c := by
        by_cases hc : c ∈ rawControls
        · rw [rewriteChar, if_pos hc]
        · rw [rewriteChar, if_neg hc, encodeChar, escape?_eq_none_iff.2 ⟨hQuote, hBackslash, hc⟩,
            Option.getD_none]
      rw [encodeBody, List.flatMap_cons, ← encodeBody, ih, hChar, List.flatMap_cons]
  | @escape c code w s hCode _ ih =>
      rw [encodeBody, List.flatMap_cons, ← encodeBody, ih, encodeChar_of_mem_meanings hCode,
        List.flatMap_cons, List.flatMap_cons, List.append_assoc]

/-- Nothing is replaced exactly if there is nothing to replace. -/
theorem flatMap_rewriteChar_eq_self_iff {w : List Char} :
    w.flatMap rewriteChar = w ↔ ∀ c ∈ w, c ∉ rawControls := by
  induction w with
  | nil => simp
  | cons c w ih =>
      rw [List.flatMap_cons, List.forall_mem_cons, ← ih, rewriteChar]
      by_cases hc : c ∈ rawControls
      · obtain ⟨code, hCode⟩ := encodeChar_of_mem_rawControls hc
        rw [if_pos hc, hCode]
        constructor
        · intro hSame
          -- The text would have to begin with a backslash, which is no control.
          have hControl : '\\' ∈ rawControls := (List.cons.inj hSame).1 ▸ hc
          exact absurd hControl (by decide)
        · exact fun hBoth => absurd hc hBoth.1
      · rw [if_neg hc, List.singleton_append, List.cons_inj_right]
        exact ⟨fun hSame => ⟨hc, hSame⟩, And.right⟩

/-! ## Whole literals -/

theorem stringBody_of_tokenText {u : List Char} {s : String} (hToken : TokenText u (.string s)) :
    ∃ w, u = '"' :: (w ++ ['"']) ∧ StringBody w s.toList := by
  cases hToken with
  | @string w t hBody =>
      rw [← String.toList_ofList (l := t)] at hBody
      exact ⟨w, rfl, hBody⟩

/-- A text that is one string token is a string body between quotes. -/
theorem isLiteral_iff_stringBody {lit s : String} :
    IsLiteral lit s ↔ ∃ w, lit.toList = '"' :: (w ++ ['"']) ∧ StringBody w s.toList := by
  constructor
  · intro hLit
    obtain ⟨u, hText, hToken⟩ := Reader.exists_tokenText_of_token? hLit
    rw [List.append_nil] at hText
    rw [hText]
    exact stringBody_of_tokenText hToken
  · rintro ⟨w, hText, hBody⟩
    have hToken := Reader.token?_append_of_ends (.string hBody) Reader.ends_nil
    rw [List.append_nil, ← hText, String.ofList_toList] at hToken
    exact hToken

theorem IsLiteral.readOne {lit s : String} (hLit : IsLiteral lit s) :
    Reader.readOne lit = .ok (.string s) := by
  obtain ⟨w, hText, hBody⟩ := isLiteral_iff_stringBody.1 hLit
  have hToken := TokenText.string hBody
  rw [String.ofList_toList] at hToken
  rw [Reader.readOne, Reader.run_eq_ok_iff, Reader.one_eq_ok_iff]
  exact ⟨[], lit.toList, [], by simp, .nil, .token (hText ▸ hToken), .closed .nil⟩

/-- What is written is one string token. -/
theorem isLiteral_stringLiteral (s : String) : IsLiteral (stringLiteral s) s := by
  rw [isLiteral_iff_stringBody, stringLiteral, String.toList_ofList]
  exact ⟨encodeBody s.toList, rfl, stringBody_encodeBody s.toList⟩

/-- A literal is what is written for its text exactly if it has no raw
control. -/
theorem IsLiteral.stringLiteral_eq_iff {lit s : String} (hLit : IsLiteral lit s) :
    stringLiteral s = lit ↔ IsPlain lit := by
  obtain ⟨w, hText, hBody⟩ := isLiteral_iff_stringBody.1 hLit
  have hQuote : '"' ∉ rawControls := by decide
  calc stringLiteral s = lit ↔ encode s.toList = lit.toList := by
        rw [stringLiteral, ← String.toList_inj, String.toList_ofList]
    _ ↔ w.flatMap rewriteChar = w := by
        rw [encode, hText, encodeBody_of_stringBody hBody, List.cons_inj_right,
          List.append_left_inj]
    _ ↔ ∀ c ∈ w, c ∉ rawControls := flatMap_rewriteChar_eq_self_iff
    _ ↔ IsPlain lit := by
        simp [IsPlain, hText, or_imp, forall_and, hQuote]

/-- **Writing gives back the literals without raw controls, and writes no
others.**  A text that is one string token is read as a string.  If the
string is written again, the same text comes out exactly if it has no
newline, tab or return in it; and the texts that are written for some string
are the string tokens without these three. -/
theorem literals_written_back :
    (∀ lit s, IsLiteral lit s →
      Reader.readOne lit = .ok (.string s) ∧ (stringLiteral s = lit ↔ IsPlain lit)) ∧
    Set.range stringLiteral = { lit | (∃ s, IsLiteral lit s) ∧ IsPlain lit } := by
  refine ⟨fun lit s hLit => ⟨hLit.readOne, hLit.stringLiteral_eq_iff⟩, ?_⟩
  ext lit
  constructor
  · rintro ⟨s, rfl⟩
    have hLit := isLiteral_stringLiteral s
    exact ⟨⟨s, hLit⟩, hLit.stringLiteral_eq_iff.1 rfl⟩
  · rintro ⟨⟨s, hLit⟩, hPlain⟩
    exact ⟨s, hLit.stringLiteral_eq_iff.2 hPlain⟩

/-- Two literals of one string, a backslash and a tab.  The one with the tab
escaped is written, the other is not. -/
theorem literals_written_back_tab :
    IsLiteral "\"\\\\\\t\"" "\\\t" ∧ stringLiteral "\\\t" = "\"\\\\\\t\"" ∧
      IsLiteral "\"\\\\\t\"" "\\\t" ∧ stringLiteral "\\\t" ≠ "\"\\\\\t\"" := by
  have hEscaped : IsLiteral "\"\\\\\\t\"" "\\\t" := rfl
  have hRaw : IsLiteral "\"\\\\\t\"" "\\\t" := rfl
  refine ⟨hEscaped, ?_, hRaw, ?_⟩
  · exact (literals_written_back.1 _ _ hEscaped).2.2 (by decide)
  · intro hSame
    have hPlain := (literals_written_back.1 _ _ hRaw).2.1 hSame
    exact hPlain '\t' (by decide) (by decide)

end MiniScheme.Text.StringLiteral
