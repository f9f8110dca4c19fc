import MiniScheme.Proofs.Eval.Oblivion
import MiniScheme.Proofs.Interpreter.TextSession
import MiniScheme.Proofs.Reader.Sequence

/-!
# Evaluating whole texts

Several expressions are evaluated at once in three ways: as a text that is
handed over, as a file that a user loads, and as a file that a program
loads in the middle of an evaluation.  They are one way.

* A batch can be cut between any two lines of it that can be read by
  themselves.  This is the joining law of the reader followed by the one of
  evaluation (`evalAll_append`).
* Loading a file is evaluating its text, the value being the last one
  (`load_like_evalTextAll`).  That the file is noted as opened makes no
  difference, because evaluation does not look back.
* A call of `load` in whatever frame is loading the file, two levels of
  nesting further in (`evaluate_load_call`).

**Reading comes first.**  A text of which any part cannot be read, and a
file that cannot be found or decoded, is refused before any form is
evaluated.

## Main results

* `evalTextAll_join` — two texts joined by a newline.
* `oblivious_work` — no input looks back.
* `batches_compose` — all of this together.
-/

namespace MiniScheme

/-- Under the given name loading comes upon a file with the given source
text. -/
def Context.FileText (ctx : Context) (name text : String) : Prop :=
  ∃ path bytes, ctx.files.resolve ctx.roots name = .ok path ∧ path.isBroken = false ∧
    ctx.files.read path = .ok bytes ∧ sourceText? bytes = some text

namespace Run

variable {α β : Type}

theorem result_map (f : α → β) (x : Run α) (m : Machine) :
    (x >>= fun a => pure (f a)).result m = (x.result m).map f := by
  cases h : x m with
  | ok a m' => rw [result, bind_eq_of_ok h, result, h]; rfl
  | error e m' => rw [result, bind_eq_of_error h, result, h]; rfl

theorem final_map (f : α → β) (x : Run α) (m : Machine) :
    (x >>= fun a => pure (f a)).final m = x.final m := by
  cases h : x m with
  | ok a m' => rw [final_bind_of_ok h, final, final, h]; rfl
  | error e m' => rw [final_bind_of_error h, final, h]

end Run

namespace Eval

variable {sub : Worker} {frame : FrameId}

/-! ## Sequences of expressions -/

/-- Expressions are evaluated one after the other. -/
theorem evalAll_append (xs ys : List Value) :
    evalAll sub frame (xs ++ ys) = do
      let vs ← evalAll sub frame xs
      let ws ← evalAll sub frame ys
      return vs ++ ws := by
  induction xs with
  | nil => simp [evalAll]
  | cons expr rest ih => simp [evalAll, ih]

/-- Evaluating for the last value is evaluating for all values. -/
theorem evalLast_eq (last : Value) (exprs : List Value) :
    evalLast sub frame last exprs = do
      let vs ← evalAll sub frame exprs
      return vs.getLastD last := by
  induction exprs generalizing last with
  | nil => simp [evalLast, evalAll]
  | cons expr rest ih =>
      simp only [evalLast, evalAll, ih, bind_assoc, pure_bind, List.getLastD_cons]

/-! ## Files -/

variable {ctx : Context} {name text : String}

theorem source_of_fileText (h : ctx.FileText name text) :
    ∃ path, source ctx name = do
      Run.noteOpened path
      return text := by
  obtain ⟨path, bytes, hPath, hSound, hRead, hText⟩ := h
  refine ⟨path, ?_⟩
  rw [source, hPath]
  simp [Run.ofFaulty, hSound, hRead, hText]

/-- A file that has no source text is refused, and nothing but the attempt to
open it is left. -/
theorem source_of_not_fileText (h : ∀ text, ¬ ctx.FileText name text) (m : Machine) :
    ∃ failure m', source ctx name m = .error failure m' ∧ m'.store = m.store ∧
      m'.output = m.output := by
  cases hPath : ctx.files.resolve ctx.roots name with
  | error f =>
      rw [source, hPath]
      exact ⟨.fault f, m, rfl, rfl, rfl⟩
  | ok path =>
      suffices hRefused : ∃ failure, source ctx name =
          (do Run.noteOpened path; throw failure) by
        obtain ⟨failure, hFails⟩ := hRefused
        rw [hFails]
        exact ⟨failure, { m with opened := m.opened.push path }, rfl, rfl, rfl⟩
      rw [source, hPath]
      cases hBroken : path.isBroken with
      | true => exact ⟨.fault .badFileName, by simp [Run.ofFaulty, hBroken, Run.halt]⟩
      | false =>
          cases hRead : ctx.files.read path with
          | error problem =>
              refine ⟨.error (.cannotLoad name problem), ?_⟩
              simp [Run.ofFaulty, hBroken, hRead, Run.fail]
          | ok bytes =>
              cases hText : sourceText? bytes with
              | some text => exact absurd ⟨path, bytes, hPath, hBroken, hRead, hText⟩ (h text)
              | none =>
                  refine ⟨.fault .notUtf8, ?_⟩
                  simp [Run.ofFaulty, hBroken, hRead, hText, Run.halt]

/-! ## Calls -/

/-- **A call of `load`**, in whatever frame the name means the primitive, is
loading the file that the argument names. -/
theorem evaluate_load_call {p : String} {arg : Value} {f : FrameId} {depth : Nat}
    {m m' : Machine} (hLoad : m.store.get? f "load" = some (.primitive p .load))
    (hArg : evaluate ctx (depth + 1) (.eval arg f) m = .ok (.string name) m') :
    evaluate ctx (depth + 2) (.eval (.list [.symbol "load", arg]) f) m =
      load ctx (evaluate ctx depth) name m' := by
  have hHead : evaluate ctx (depth + 1) (.eval (.symbol "load") f) m =
      .ok (.primitive p .load) m := by
    show Run.getVar f "load" m = _
    rw [Run.getVar_eq, hLoad]
  have hArgs : evalAll (evaluate ctx (depth + 1)) f [arg] m = .ok [.string name] m' := by
    rw [evalAll, Run.bind_eq_of_ok hArg]
    rfl
  show (do
    let fn ← evaluate ctx (depth + 1) (.eval (.symbol "load") f)
    let args ← evalAll (evaluate ctx (depth + 1)) f [arg]
    evaluate ctx (depth + 1) (.apply fn args) : Run Value) m = _
  rw [Run.bind_eq_of_ok hHead, Run.bind_eq_of_ok hArgs]
  rfl

end Eval

namespace Interpreter

open Reader (readAll)

variable {ctx : Context}

/-! ## Batches -/

theorem evalTextAll_of_readAll {text : String} {forms : List Value} (h : readAll text = .ok forms)
    (depth : Nat) :
    evalTextAll ctx depth text = Eval.evalAll (Eval.evaluate ctx depth) ctx.globals forms := by
  rw [evalTextAll, h]
  simp [Run.ofFailing]

theorem evalTextAll_of_error {text : String} {failure : Failure} (h : readAll text = .error failure)
    (depth : Nat) (m : Machine) : evalTextAll ctx depth text m = .error failure m := by
  rw [evalTextAll, h]
  rfl

/-- Two texts that can be read by themselves are evaluated one after the
other when they are joined by a newline. -/
theorem evalTextAll_join {a b : String} {xs ys : List Value} (ha : readAll a = .ok xs)
    (hb : readAll b = .ok ys) (depth : Nat) :
    evalTextAll ctx depth (a ++ "\n" ++ b) = do
      let vs ← evalTextAll ctx depth a
      let ws ← evalTextAll ctx depth b
      return vs ++ ws := by
  rw [evalTextAll_of_readAll (Reader.readAll_join ha hb), evalTextAll_of_readAll ha,
    evalTextAll_of_readAll hb, Eval.evalAll_append]

/-- Loading a file is evaluating its text, the file being noted as opened. -/
theorem load_of_fileText {name text : String} (h : ctx.FileText name text) :
    ∃ path, ∀ depth, load ctx depth name = do
      Run.noteOpened path
      let vs ← evalTextAll ctx depth text
      return vs.getLastD .nil := by
  obtain ⟨path, hSource⟩ := Eval.source_of_fileText h
  refine ⟨path, fun depth => ?_⟩
  rw [load, Eval.load, hSource, evalTextAll]
  simp [Eval.evalLast_eq, -List.getLastD_eq_getLast?]

/-- An input does not look back. -/
theorem oblivious_work (input : Input) (ctx : Context) (depth : Nat) :
    Run.Oblivious ctx.files (fun vs => ∀ v ∈ vs, v.All fun _ => True)
      (input.work ctx depth) := by
  rw [← input.workWith_evaluate]
  exact (Logic.relates_evaluate (Eval.oblivion ctx) depth).workWith (w := OneWorld.here)
    (fun _ _ _ => trivial) input depth

theorem oblivious_eval (ctx : Context) (depth : Nat) (expr : Value) :
    Run.Oblivious ctx.files (fun v => v.All fun _ => True) (eval ctx depth expr) :=
  (Logic.relates_evaluate (Eval.oblivion ctx) depth).eval .here ctx.globals fun _ _ => trivial

/-- What loading a file does is what evaluating its text does. -/
theorem load_like_evalTextAll {name text : String} (h : ctx.FileText name text) (depth : Nat)
    (m : Machine) :
    (load ctx depth name).result m =
      ((evalTextAll ctx depth text).result m).map (·.getLastD .nil) ∧
    ((load ctx depth name).final m).store = ((evalTextAll ctx depth text).final m).store ∧
    ((load ctx depth name).final m).output = ((evalTextAll ctx depth text).final m).output := by
  obtain ⟨path, hLoad⟩ := load_of_fileText h
  have hBatch := oblivious_work (.all text) ctx depth
  -- The machine of the load has opened one file more, which the batch does not see.
  let m' : Machine := { m with opened := m.opened.push path }
  have hOpened : (Run.noteOpened path) m = .ok () m' := rfl
  have hSame : (load ctx depth name) m =
      (do let vs ← evalTextAll ctx depth text; return vs.getLastD .nil : Run Value) m' := by
    rw [hLoad depth, Run.bind_eq_of_ok hOpened]
  have hResult : (load ctx depth name).result m =
      ((evalTextAll ctx depth text).result m').map (·.getLastD .nil) := by
    rw [Run.result, hSame]
    exact Run.result_map _ _ m'
  have hFinal : (load ctx depth name).final m = (evalTextAll ctx depth text).final m' := by
    rw [Run.final, hSame]
    exact Run.final_map _ _ m'
  rw [hResult, hFinal, show evalTextAll ctx depth text = (Input.all text).work ctx depth from rfl,
    hBatch.result_eq m', hBatch.result_eq m, hBatch.final_eq m', hBatch.final_eq m]
  exact ⟨rfl, rfl, rfl⟩

/-- A file that cannot be read is refused at whatever depth. -/
theorem load_refused {name : String}
    (h : ∀ text forms, ctx.FileText name text → readAll text ≠ .ok forms) (m : Machine) :
    ∃ failure m', m'.store = m.store ∧ m'.output = m.output ∧
      ∀ depth, load ctx depth name m = .error failure m' := by
  by_cases hFile : ∃ text, ctx.FileText name text
  · obtain ⟨text, hText⟩ := hFile
    obtain ⟨path, hLoad⟩ := load_of_fileText hText
    cases hRead : readAll text with
    | ok forms => exact absurd hRead (h text forms hText)
    | error failure =>
        refine ⟨failure, { m with opened := m.opened.push path }, rfl, rfl, fun depth => ?_⟩
        rw [hLoad depth, Run.bind_eq_of_ok (show Run.noteOpened path m = .ok () _ from rfl)]
        exact Run.bind_eq_of_error (evalTextAll_of_error hRead depth _) _
  · obtain ⟨failure, m', hSource, hStore, hOutput⟩ :=
      Eval.source_of_not_fileText (not_exists.1 hFile) m
    refine ⟨failure, m', hStore, hOutput, fun depth => ?_⟩
    exact Run.bind_eq_of_error hSource _

/-- **Batches compose, loading is a batch, and reading comes first.**  In
every context, at every depth and from every machine:

* texts that can be read are evaluated one after the other when they are
  joined by a newline, with the values of both, or the failure of the first
  that fails;
* loading a file has the failure, the store and the output that evaluating
  its text has, and its value is the last one, or the empty list;
* a call of `load`, in any frame where the name means the primitive, is
  loading the file that the argument names;
* a text that cannot be read is not evaluated in part: everything is as it
  was;
* neither is a file, whether it cannot be found, decoded or read: store and
  output are as they were. -/
theorem batches_compose (ctx : Context) :
    (∀ a b xs ys, readAll a = .ok xs → readAll b = .ok ys → ∀ depth,
      evalTextAll ctx depth (a ++ "\n" ++ b) = do
        let vs ← evalTextAll ctx depth a
        let ws ← evalTextAll ctx depth b
        return vs ++ ws) ∧
    (∀ name text, ctx.FileText name text → ∀ depth m,
      (load ctx depth name).result m =
        ((evalTextAll ctx depth text).result m).map (·.getLastD .nil) ∧
      ((load ctx depth name).final m).store = ((evalTextAll ctx depth text).final m).store ∧
      ((load ctx depth name).final m).output = ((evalTextAll ctx depth text).final m).output) ∧
    (∀ f p arg name depth m m', m.store.get? f "load" = some (.primitive p .load) →
      Eval.evaluate ctx (depth + 1) (.eval arg f) m = .ok (.string name) m' →
      Eval.evaluate ctx (depth + 2) (.eval (.list [.symbol "load", arg]) f) m =
        load ctx depth name m') ∧
    (∀ text failure, readAll text = .error failure → ∀ depth m,
      evalTextAll ctx depth text m = .error failure m) ∧
    (∀ name, (∀ text forms, ctx.FileText name text → readAll text ≠ .ok forms) → ∀ m,
      ∃ failure m', m'.store = m.store ∧ m'.output = m.output ∧
        ∀ depth, load ctx depth name m = .error failure m') := by
  refine ⟨fun a b xs ys ha hb => evalTextAll_join ha hb, ?_, ?_, ?_, ?_⟩
  · intro name text hFile depth m
    exact load_like_evalTextAll hFile depth m
  · intro f p arg name depth m m' hLoad hArg
    exact Eval.evaluate_load_call hLoad hArg
  · intro text failure hRead depth m
    exact evalTextAll_of_error hRead depth m
  · intro name hNone m
    exact load_refused hNone m

/-- A text that ends in a comment, as a batch and as a file, which a call in
a frame below the global one loads; and a file that breaks off after an
expression. -/
theorem batches_compose_files :
    let files := FileSystem.ofFiles
      [("f", "(define x 1) ; one".toUTF8), ("g", "(display 1) (".toUTF8)]
    let i := (ofTable files [] 5 []).bindArgs ["a"]
    (evalTextAll i.context 5 ("(define x 1) ; one" ++ "\n" ++ "x") = do
      let vs ← evalTextAll i.context 5 "(define x 1) ; one"
      let ws ← evalTextAll i.context 5 "x"
      return vs ++ ws) ∧
    (load i.context 5 "f").result i.machine =
      ((evalTextAll i.context 5 "(define x 1) ; one").result i.machine).map (·.getLastD .nil) ∧
    Eval.evaluate i.context 7 (.eval (.list [.symbol "load", .string "f"]) 1) i.machine =
      load i.context 5 "f" i.machine ∧
    ∃ failure m', m'.store = i.machine.store ∧ m'.output = i.machine.output ∧
      ∀ depth, load i.context depth "g" i.machine = .error failure m' := by
  intro files i
  obtain ⟨hJoin, hLoad, hCall, -, hRefused⟩ := batches_compose i.context
  obtain ⟨xs, hOne, -⟩ := Reader.exists_readAll "(define x 1) ; one" (n := 1) (by decide +kernel)
  obtain ⟨ys, hTwo, -⟩ := Reader.exists_readAll "x" (n := 1) (by decide +kernel)
  have hFile : i.context.FileText "f" "(define x 1) ; one" :=
    ⟨_, _, rfl, by decide +kernel, rfl, by decide +kernel⟩
  have hBroken : ∀ text forms, i.context.FileText "g" text → readAll text ≠ .ok forms := by
    rintro text forms ⟨path, bytes, hPath, -, hBytes, hText⟩ hRead
    cases hPath
    cases hBytes
    obtain rfl : "(display 1) (" = text := Option.some.inj (hText ▸ by decide +kernel)
    have hError : (readAll "(display 1) (").toOption = none := by decide +kernel
    rw [hRead] at hError
    cases hError
  exact ⟨hJoin _ _ _ _ hOne hTwo 5, (hLoad _ _ hFile 5 _).1, hCall 1 _ _ _ 5 _ _ rfl rfl,
    hRefused _ hBroken _⟩

end Interpreter

end MiniScheme
