import MiniScheme.Proofs.Repl.Loop

/-!
# The interactive loop and batches

The loop reads a line, evaluates it and prints the value before it looks at
the next line.  A batch reads everything first and gives all values at the
end.  Where nothing fails the difference does not show: **the loop on some
lines and the batch of the lines joined by newlines do the same.**

A `Transcript` of such a session has one `Reply` to each line.  The loop and
the batch are compared with the transcript, each by an induction over the
lines; for the batch, the lines have to be read as parts of one text
(`Reader.readAll_intercalate`).

## Main results

* `transcript_iff` — transcripts can be computed.
* `Transcript.evalAll` — the batch of the expressions on the lines.
* `Transcript.run` — the loop on the lines.
* `batch_agrees` — both together.
-/

namespace MiniScheme.Repl

/-- What the loop answers to a line that goes well. -/
structure Reply where
  /-- What the evaluation wrote. -/
  printed : String
  /-- The value and its text, if the line holds an expression. -/
  value? : Option (Value × String)

/-- What appears of a reply. -/
def Reply.text (reply : Reply) : String :=
  match reply.value? with
  | some (_, text) => reply.printed ++ (text ++ "\n")
  | none => reply.printed

/-- The line holds nothing but blanks and comments. -/
def isBlankLine (line : String) : Bool :=
  match Reader.readOptional line with
  | .ok none => true
  | _ => false

/-- `Transcript ctx depth s lines replies s'`: begun with the store `s`, every
line is blank or holds an expression that evaluates to a value with a text,
in the store that the line before left, with room enough to evaluate and to
write it; the replies are those given, and the last line leaves `s'`. -/
inductive Transcript (ctx : Context) (depth : Nat) :
    Store → List String → List Reply → Store → Prop
  | nil {s : Store} : Transcript ctx depth s [] [] s
  | blank {s s' : Store} {line : String} {lines : List String} {replies : List Reply}
      (hRead : Reader.readOptional line = .ok none)
      (hRest : Transcript ctx depth s lines replies s') :
      Transcript ctx depth s (line :: lines) (⟨"", none⟩ :: replies) s'
  | value {s s' : Store} {line text : String} {lines : List String} {replies : List Reply}
      {expr v : Value} {m : Machine} (hRead : Reader.readOptional line = .ok (some expr))
      (hEval : Interpreter.eval ctx depth expr (.fresh s) = .ok v m)
      (hText : v.writtenWithin depth = .ok text)
      (hRest : Transcript ctx depth m.store lines replies s') :
      Transcript ctx depth s (line :: lines) (⟨m.output, some (v, text)⟩ :: replies) s'

/-- Computes the replies and the last store of a transcript, if there is
one. -/
def transcript? (ctx : Context) (depth : Nat) : Store → List String → Option (List Reply × Store)
  | s, [] => some ([], s)
  | s, line :: lines =>
    match Reader.readOptional line with
    | .error _ => none
    | .ok none => (transcript? ctx depth s lines).map fun rest => (⟨"", none⟩ :: rest.1, rest.2)
    | .ok (some expr) =>
      match Interpreter.eval ctx depth expr (.fresh s) with
      | .error _ _ => none
      | .ok v m =>
        match v.writtenWithin depth with
        | .error _ => none
        | .ok text => (transcript? ctx depth m.store lines).map fun rest =>
            (⟨m.output, some (v, text)⟩ :: rest.1, rest.2)

theorem transcript_of_transcript? {ctx : Context} {depth : Nat} {s s' : Store}
    {lines : List String} {replies : List Reply}
    (h : transcript? ctx depth s lines = some (replies, s')) :
    Transcript ctx depth s lines replies s' := by
  induction lines generalizing s replies with
  | nil =>
      cases h
      exact .nil
  | cons line lines ih =>
      rw [transcript?] at h
      split at h
      · cases h
      · next hRead =>
          obtain ⟨rest, hRest, hEq⟩ := Option.map_eq_some_iff.1 h
          cases hEq
          exact .blank hRead (ih hRest)
      · next expr hRead =>
          split at h
          · cases h
          · next v m hEval =>
              split at h
              · cases h
              · next text hText =>
                  obtain ⟨rest, hRest, hEq⟩ := Option.map_eq_some_iff.1 h
                  cases hEq
                  exact .value hRead hEval hText (ih hRest)

/-- **Transcripts can be computed**, and there is at most one. -/
theorem transcript_iff {ctx : Context} {depth : Nat} {s s' : Store} {lines : List String}
    {replies : List Reply} :
    Transcript ctx depth s lines replies s' ↔
      transcript? ctx depth s lines = some (replies, s') := by
  refine ⟨fun h => ?_, transcript_of_transcript?⟩
  induction h with
  | nil => rfl
  | blank hRead _ ih => simp only [transcript?, hRead, ih, Option.map_some]
  | value hRead hEval hText _ ih =>
      simp only [transcript?, hRead, hEval, hText, ih, Option.map_some]

/-- A machine evaluates as its store does. -/
theorem eval_of_fresh {ctx : Context} {depth : Nat} {expr v : Value} {m m' : Machine}
    (h : Interpreter.eval ctx depth expr (.fresh m.store) = .ok v m') :
    Interpreter.eval ctx depth expr m = .ok v (m'.behind m.past) := by
  rw [(Interpreter.oblivious_eval ctx depth expr).eq_behind m, h]
  rfl

theorem printLine_of_writtenWithin {depth : Nat} {v : Value} {text : String}
    (h : v.writtenWithin depth = .ok text) (m : Machine) :
    Interpreter.printLine depth v m = .ok () { m with output := m.output ++ (text ++ "\n") } := by
  rw [Interpreter.printLine, h]
  rfl

/-- After a line that goes well the loop goes on from what the line left. -/
theorem run_cons_of_ok {echo line : String} {i : Interpreter} {m : Machine} (hNot : ¬ Quits line)
    (h : performLine line i.context i.depth (i.emit echo).machine = .ok () m)
    (rest : List String) :
    run echo i (line :: rest) =
      { run echo { i with machine := m } rest with
        prompts := (run echo { i with machine := m } rest).prompts + 1 } := by
  rw [run, answer_of_ok hNot h]
  rfl

namespace Transcript

variable {ctx : Context} {depth : Nat} {s s' : Store} {lines : List String}
  {replies : List Reply}

/-! ## Results -/

/-- There is one result for every line that is not blank. -/
theorem length_results (h : Transcript ctx depth s lines replies s') :
    (replies.filterMap Reply.value?).length = lines.countP (!isBlankLine ·) := by
  induction h with
  | nil => rfl
  | blank hRead _ ih => simpa [isBlankLine, hRead] using ih
  | value hRead _ _ _ ih => simpa [isBlankLine, hRead] using ih

/-- The texts are those of the values. -/
theorem written_of_mem (h : Transcript ctx depth s lines replies s') :
    ∀ result ∈ replies.filterMap Reply.value?, result.1.written = .ok result.2 := by
  induction h with
  | nil => exact List.forall_mem_nil _
  | blank _ _ ih => exact ih
  | value _ _ hText _ ih =>
      exact List.forall_mem_cons.2 ⟨Value.written_of_writtenWithin hText, ih⟩

/-! ## The batch -/

/-- The lines hold expressions which, put one after the other, evaluate to
the values of the replies. -/
theorem evalAll (h : Transcript ctx depth s lines replies s') :
    ∃ forms, List.Forall₂ (fun line vs => Reader.readAll line = .ok vs) lines forms ∧
      ∀ m : Machine, m.store = s → ∃ m',
        Eval.evalAll (Eval.evaluate ctx depth) ctx.globals forms.flatten m =
          .ok ((replies.filterMap Reply.value?).map Prod.fst) m' ∧
        m'.store = s' ∧ m'.output = m.output ++ String.join (replies.map Reply.printed) := by
  induction h with
  | nil => exact ⟨[], .nil, fun m hm => ⟨m, rfl, hm, by simp⟩⟩
  | blank hRead _ ih =>
      obtain ⟨forms, hForms, hBatch⟩ := ih
      refine ⟨[] :: forms, .cons (Reader.readOptional_eq_ok_iff_readAll.1 hRead) hForms, ?_⟩
      intro m hm
      obtain ⟨m', hEval, hStore, hOutput⟩ := hBatch m hm
      exact ⟨m', hEval, hStore, by simpa using hOutput⟩
  | @value _ _ _ _ _ _ expr v m₁ hRead hEval _ _ ih =>
      obtain ⟨forms, hForms, hBatch⟩ := ih
      refine ⟨[expr] :: forms, .cons (Reader.readOptional_eq_ok_iff_readAll.1 hRead) hForms, ?_⟩
      rintro m rfl
      obtain ⟨m', hRest, hStore, hOutput⟩ := hBatch (m₁.behind m.past) rfl
      refine ⟨m', ?_, hStore, ?_⟩
      · have hFirst : Eval.evaluate ctx depth (.eval expr ctx.globals) m =
            .ok v (m₁.behind m.past) := eval_of_fresh hEval
        show Eval.evalAll _ _ (expr :: forms.flatten) m = _
        rw [Eval.evalAll, Run.bind_eq_of_ok hFirst, Run.bind_eq_of_ok hRest]
        rfl
      · rw [hOutput]
        simp [Machine.behind, Machine.past, String.append_assoc]

/-! ## The loop -/

/-- **One line.**  It gives its reply, and the transcript goes on from what
it leaves. -/
theorem performLine {line : String} (h : Transcript ctx depth s (line :: lines) replies s')
    (m : Machine) (hm : m.store = s) :
    ∃ reply rest m', replies = reply :: rest ∧
      Repl.performLine line ctx depth m = .ok () m' ∧ m'.output = m.output ++ reply.text ∧
      Transcript ctx depth m'.store lines rest s' := by
  subst hm
  cases h with
  | blank hRead hRest =>
      refine ⟨_, _, m, rfl, ?_, String.append_empty.symm, hRest⟩
      rw [Repl.performLine, hRead]
      rfl
  | @value _ _ _ text _ _ expr v m₁ hRead hEval hText hRest =>
      refine ⟨_, _, { m₁.behind m.past with
        output := (m₁.behind m.past).output ++ (text ++ "\n") }, rfl, ?_, ?_, hRest⟩
      · rw [performLine_of_expr hRead, Run.bind_eq_of_ok (eval_of_fresh hEval)]
        exact printLine_of_writtenWithin hText _
      · exact String.append_assoc ..

/-- **The loop** gives the replies, each after its prompt. -/
theorem run (h : Transcript ctx depth s lines replies s') (echo : String)
    (hNone : ∀ line ∈ lines, ¬ Quits line) (m : Machine) (hm : m.store = s) :
    let o := Repl.run echo ⟨ctx, depth, m⟩ lines
    o.ending = .endOfInput ∧ o.store = s' ∧
      o.output = m.output ++ String.join (replies.map fun reply => echo ++ reply.text) ++
        (echo ++ "\n") := by
  induction lines generalizing s replies m with
  | nil =>
      cases h with
      | nil => exact ⟨rfl, hm, by simp [Repl.run, Interpreter.emit, Outcome.output]⟩
  | cons line lines ih =>
      obtain ⟨hNot, hNone⟩ := List.forall_mem_cons.1 hNone
      -- The line is answered by the machine that has written the prompt.
      obtain ⟨reply, rest, m', rfl, hLine, hReply, hRest⟩ :=
        h.performLine { m with output := m.output ++ echo } hm
      obtain ⟨hEnd, hStore, hOutput⟩ := ih hRest hNone m' rfl
      rw [run_cons_of_ok hNot hLine]
      refine ⟨hEnd, hStore, hOutput.trans ?_⟩
      simp [hReply, String.append_assoc]

end Transcript

/-- **The loop and the batch agree.**  Take any interpreter and any lines of
which none quits, with a transcript of what happens when they are evaluated
in turn.  Then evaluating the lines as one text, joined by newlines,
succeeds, and it agrees with the loop on the lines:

* the values are those of the transcript, one for every line that is not
  blank;
* both leave the same store;
* both write what the evaluations write; and the loop writes, after each
  prompt and what the evaluation of the line writes, a line with the text of
  the value. -/
theorem batch_agrees (i : Interpreter) (echo : String) {lines : List String}
    {replies : List Reply} {s : Store} (hNone : ∀ line ∈ lines, ¬ Quits line)
    (h : Transcript i.context i.depth i.machine.store lines replies s) :
    let results := replies.filterMap Reply.value?
    let o := run echo i lines
    (∃ m, Interpreter.evalTextAll i.context i.depth ("\n".intercalate lines) i.machine =
        .ok (results.map Prod.fst) m ∧ m.store = s ∧
        m.output = i.machine.output ++ String.join (replies.map Reply.printed)) ∧
      results.length = lines.countP (!isBlankLine ·) ∧
      (∀ result ∈ results, result.1.written = .ok result.2) ∧
      o.ending = .endOfInput ∧ o.store = s ∧
      o.output = i.machine.output ++ String.join (replies.map fun reply => echo ++ reply.text) ++
        (echo ++ "\n") := by
  intro results o
  obtain ⟨forms, hForms, hBatch⟩ := h.evalAll
  refine ⟨?_, h.length_results, h.written_of_mem, h.run echo hNone i.machine rfl⟩
  rw [Interpreter.evalTextAll_of_readAll (Reader.readAll_intercalate hForms)]
  exact hBatch i.machine rfl

/-- A definition before a comment, a comment alone, and an evaluation that
writes something before its value is printed. -/
theorem batch_agrees_comments :
    let i := Interpreter.ofTable ⟨fun _ => .error .missing⟩ [] 4 [("display", .display)]
    let lines := ["(define x \"a\") ; one", "; two", "(display x)"]
    ∃ values m, Interpreter.evalTextAll i.context i.depth ("\n".intercalate lines) i.machine =
        .ok values m ∧ values.length = 2 ∧ (run "> " i lines).store = m.store ∧
      m.output = "a" ∧ (run "> " i lines).output = "> \"a\"\n> > a()\n> \n" := by
  intro i lines
  have hNone : ∀ line ∈ lines, ¬ Quits line := by decide +kernel
  have hTexts : (transcript? i.context i.depth i.machine.store lines).map (fun found =>
      (found.1.map Reply.printed, found.1.map Reply.text)) =
        some (["", "", "a"], ["\"a\"\n", "", "a()\n"]) := by decide +kernel
  obtain ⟨⟨replies, s⟩, hFound, hEq⟩ := Option.map_eq_some_iff.1 hTexts
  obtain ⟨hPrinted, hShown⟩ := Prod.mk.inj hEq
  obtain ⟨⟨m, hBatch, hStore, hOutput⟩, hLength, -, -, hLoop, hLoopOutput⟩ :=
    batch_agrees i "> " hNone (transcript_iff.2 hFound)
  refine ⟨_, m, hBatch, ?_, hLoop.trans hStore.symm, hOutput.trans ?_, hLoopOutput.trans ?_⟩
  · rw [List.length_map, hLength]
    decide +kernel
  · rw [hPrinted]
    rfl
  · have hAsked : (replies.map fun reply => "> " ++ reply.text) =
        (replies.map Reply.text).map ("> " ++ ·) := List.map_map.symm
    rw [hAsked, hShown]
    rfl

end MiniScheme.Repl
