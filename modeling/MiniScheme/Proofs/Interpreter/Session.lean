import MiniScheme.Proofs.Eval.Locality
import MiniScheme.Proofs.Store.Aliasing

/-!
# Sessions

A session is what happens to an interpreter between its creation and now: a
sequence of operations, each of which keeps what it changed, whether it
succeeded or not.  `Interpreter.afterAll` performs a whole session.

**The store of a session is the replay of a history.**  An interpreter
starts with two changes, an empty frame and one that binds the primitives,
and each operation adds the changes that its evaluations make.  So what
holds of all histories holds of all sessions.

## Main results

* `evolves_after`, `evolves_afterAll` — an operation, and a session, is a
  history of changes.
* `variables_unaliased` — in every session different names have different
  cells, and what is written under a name is seen under that name only.
-/

namespace MiniScheme.Interpreter

open Run (Evolves)

/-- What a user does with an interpreter. -/
inductive Operation where
  /-- Evaluates a value as an expression. -/
  | eval (expr : Value)
  /-- Evaluates the one expression of a text. -/
  | evalText (text : String)
  /-- Evaluates all expressions of a text. -/
  | evalTextAll (text : String)
  | load (name : String)
  | call (fn : Value) (args : List Value)
  | bindArgs (args : List String)

/-- The interpreter after an operation, successful or not. -/
def after (i : Interpreter) : Operation → Interpreter
  | .eval expr => (i.run fun ctx depth => eval ctx depth expr).2
  | .evalText text => (i.run fun ctx depth => evalText ctx depth text).2
  | .evalTextAll text => (i.run fun ctx depth => evalTextAll ctx depth text).2
  | .load name => (i.run fun ctx depth => load ctx depth name).2
  | .call fn args => (i.run fun ctx depth => call ctx depth fn args).2
  | .bindArgs args => i.bindArgs args

/-- The interpreter after a sequence of operations. -/
def afterAll (i : Interpreter) (session : List Operation) : Interpreter := session.foldl after i

/-! ## Sessions are histories -/

theorem evolves_run {α : Type} {touched : Set FrameId} (i : Interpreter)
    {work : Context → Nat → Run α} (h : Evolves touched (work i.context i.depth)) :
    i.machine.store.Evolves touched (i.run work).2.machine.store := by
  rw [machine_run]
  exact h i.machine

section Work

variable (ctx : Context) (depth : Nat)

theorem evolves_eval (expr : Value) : Evolves {ctx.globals} (eval ctx depth expr) := by
  have hGlobals := (Eval.evaluate_local ctx depth).eval expr ctx.globals
  rw [Set.pair_eq_singleton] at hGlobals
  exact hGlobals

theorem evolves_evalText (text : String) : Evolves {ctx.globals} (evalText ctx depth text) :=
  (Evolves.ofFailing _).bind (evolves_eval ctx depth)

theorem evolves_evalTextAll (text : String) :
    Evolves {ctx.globals} (evalTextAll ctx depth text) := by
  refine (Evolves.ofFailing _).bind fun forms => ?_
  have hAll := Eval.evolves_evalAll (Eval.evaluate_local ctx depth) ctx.globals forms
  rw [Set.pair_eq_singleton] at hAll
  exact hAll

theorem evolves_load (name : String) : Evolves {ctx.globals} (load ctx depth name) := by
  have hFile := Eval.evolves_load (Eval.evaluate_local ctx depth) ctx name
  rw [Set.pair_eq_singleton] at hFile
  exact hFile

end Work

/-- **An operation** is a history of changes that adds names, in existing
frames, to the global one only. -/
theorem evolves_after (i : Interpreter) (op : Operation) :
    i.machine.store.Evolves {i.context.globals} (i.after op).machine.store := by
  cases op with
  | eval expr => exact i.evolves_run (evolves_eval _ _ expr)
  | evalText text => exact i.evolves_run (evolves_evalText _ _ text)
  | evalTextAll text => exact i.evolves_run (evolves_evalTextAll _ _ text)
  | load name => exact i.evolves_run (evolves_load _ _ name)
  | call fn args => exact i.evolves_run ((Eval.evaluate_local _ _).apply fn args)
  | bindArgs args => exact i.machine.store.evolves_derive _ _ _

theorem context_run {α : Type} (i : Interpreter) (work : Context → Nat → Run α) :
    (i.run work).2.context = i.context := by
  rw [run]
  cases work i.context i.depth i.machine <;> rfl

/-- An operation that replaces the global frame replaces it by a new one. -/
theorem globals_after (i : Interpreter) (op : Operation) :
    (i.after op).context.globals = i.context.globals ∨
      i.machine.store.frames.size ≤ (i.after op).context.globals := by
  cases op with
  | bindArgs args => exact .inr (Nat.le_refl _)
  | eval expr => exact .inl (congrArg Context.globals (i.context_run _))
  | evalText text => exact .inl (congrArg Context.globals (i.context_run _))
  | evalTextAll text => exact .inl (congrArg Context.globals (i.context_run _))
  | load name => exact .inl (congrArg Context.globals (i.context_run _))
  | call fn args => exact .inl (congrArg Context.globals (i.context_run _))

/-- **A session** is a history of changes, and of the frames that existed
when it began it adds names to the global one only. -/
theorem evolves_afterAll (i : Interpreter) (session : List Operation) :
    i.machine.store.Evolves {i.context.globals} (i.afterAll session).machine.store := by
  induction session generalizing i with
  | nil => exact .refl _
  | cons op session ih =>
      -- The rest of the session may touch its own global frame, which is the old one or new.
      refine (i.evolves_after op).trans (ih (i.after op)) fun g hg hOld => ?_
      rcases i.globals_after op with hSame | hNew
      · exact hg.trans hSame
      · exact absurd hOld (hg ▸ Nat.not_lt.2 hNew)

/-- The store of a new interpreter is the replay of two changes. -/
theorem store_ofTable (files : FileSystem) (roots : List Path) (depth : Nat)
    (table : Primitive.Table) :
    (ofTable files roots depth table).machine.store =
      Store.empty.replay [.new, .bind 0
        (table.complete.map fun entry => (entry.1, Value.primitive entry.1 entry.2))] := rfl

/-- Every session of a new interpreter is the replay of a history from the
empty store. -/
theorem exists_history (files : FileSystem) (roots : List Path) (depth : Nat)
    (table : Primitive.Table) (session : List Operation) :
    ∃ history, ((ofTable files roots depth table).afterAll session).machine.store =
      Store.empty.replay history := by
  obtain ⟨later, hLater, -⟩ := (ofTable files roots depth table).evolves_afterAll session
  rw [store_ofTable, ← Store.replay_append] at hLater
  exact ⟨_, hLater⟩

/-! ## Variables do not interfere -/

/-- **Different names have different cells.**  In every session of every
interpreter:

* if two frames bind two names to one cell, the names are equal;
* the cells that are bound exist;
* no cell was made twice, and a cell that exists gets no other name in the
  rest of the session;
* a bound name can be assigned and defined, with the same effect: under
  that name the frames that share its cell show the new value, and all else
  is as before. -/
theorem variables_unaliased (files : FileSystem) (roots : List Path) (depth : Nat)
    (table : Primitive.Table) (session : List Operation) :
    let i := (ofTable files roots depth table).afterAll session
    let s := i.machine.store
    (∀ f g n m cell, s.cell? f n = some cell → s.cell? g m = some cell → n = m) ∧
    (∀ f n cell, s.cell? f n = some cell → cell < s.cells.size) ∧
    (∃ history, s = Store.empty.replay history ∧ (Store.empty.made history).Nodup) ∧
    (∀ rest g n cell, (i.afterAll rest).machine.store.cell? g n = some cell →
      cell < s.cells.size → ∃ g₀, s.cell? g₀ n = some cell) ∧
    (∀ f n v, s.isBound f n = true → ∃ s', s.set? f n v = some s' ∧ s.define f n v = s' ∧
      ∀ g m, s'.get? g m =
        if m = n ∧ s.cell? g n = s.cell? f n then some v else s.get? g m) := by
  intro i s
  obtain ⟨history, hHistory⟩ := exists_history files roots depth table session
  have hApart : s.Unaliased := by
    show i.machine.store.Unaliased
    rw [hHistory]
    exact Store.unaliased_empty.replay history
  refine ⟨fun _ _ _ _ _ => hApart.name_eq, fun _ _ _ => hApart.lt_size,
    ⟨history, hHistory, Store.nodup_made _ history⟩, ?_, ?_⟩
  · intro rest g n cell hCell hOld
    obtain ⟨later, hLater, -⟩ := i.evolves_afterAll rest
    rw [hLater] at hCell
    exact Store.cell?_replay hOld hCell
  · intro f n v hBound
    obtain ⟨cell, hCell⟩ := Option.isSome_iff_exists.1 hBound
    refine ⟨s.write cell v, Store.set?_of_cell? hCell v, Store.define_of_cell? hCell v, ?_⟩
    intro g m
    rw [hCell]
    exact hApart.get?_write hCell v g m

/-- After the arguments of a program are bound, the primitive `load` is
replaced through the new global frame: the old one shows it too, and `apply`
is not affected. -/
theorem variables_unaliased_replaced_load :
    let i := (ofTable ⟨fun _ => .error .missing⟩ [] 5 []).afterAll [.bindArgs ["a"]]
    let s := i.machine.store
    s.isBound 2 "load" = true ∧ ∃ s', s.set? 2 "load" .nil = some s' ∧
      s'.get? 1 "load" = some .nil ∧ s'.get? 1 "apply" = s.get? 1 "apply" := by
  intro i s
  have hBound : s.isBound 2 "load" = true := by decide +kernel
  obtain ⟨s', hSet, -, hGet⟩ :=
    (variables_unaliased ⟨fun _ => .error .missing⟩ [] 5 [] [.bindArgs ["a"]]).2.2.2.2
      2 "load" .nil hBound
  refine ⟨hBound, s', hSet, ?_, ?_⟩
  · rw [hGet, if_pos ⟨rfl, by decide +kernel⟩]
  · rw [hGet, if_neg (by decide +kernel)]

end MiniScheme.Interpreter
