import MiniScheme.Proofs.Interpreter.Session
import MiniScheme.Proofs.Store.Listing

/-!
# What users see of the order of names

The order in which a frame lists its names, for all that can happen to a
frame: the operations on variables, one by one and in any sequence, the
evaluation of programs, which may end anywhere between two definitions, and
whole sessions.

A program cannot reorder a list or take a name from it.  What was shown of
a frame once stands, in this order, at the beginning of all that is shown of
it later; only the values change.

## Main results

* `frames_list_in_order` — the lists of all frames after any sequence of
  operations, and what each kind of operation and evaluation does to them.
-/

namespace MiniScheme.Interpreter

open Store (Change)

/-- Whatever an interpreter works on, the lists of the existing frames only
grow at their ends, and names that were listed once stay listed once. -/
theorem names_after_work (i : Interpreter) (task : Task) :
    let before := i.machine.store
    let after := (i.run fun ctx depth => Eval.evaluate ctx depth task).2.machine.store
    (∀ g < before.frames.size, before.names g <+: after.names g) ∧
      (before.ListsOnce → after.ListsOnce) := by
  intro before after
  have hLocal := Eval.evaluate_local i.context i.depth
  have hEvolves : ∃ touched, before.Evolves touched after := by
    cases task with
    | eval expr f => exact ⟨_, i.evolves_run (hLocal.eval expr f)⟩
    | apply fn args => exact ⟨_, i.evolves_run (hLocal.apply fn args)⟩
  obtain ⟨touched, hEvolves⟩ := hEvolves
  exact ⟨fun g hg => hEvolves.prefix_names hg, fun hOnce => hOnce.evolves hEvolves⟩

/-- **Frames list their names in the order in which they came.**  After any
sequence of operations on variables, failed ones included:

* each frame lists exactly the names that it binds, none of them twice, and
  is shown as these names in their order, each in front of a colon and the
  value that is found under it, with commas between them and braces around;
* an assignment leaves all lists as they are, and so does a definition of a
  bound name;
* a definition of another name appends it to the list of its frame and to no
  other;
* a new frame lists nothing;
* a derived frame lists the names of the frame it is derived from, in the
  order they have there, and then the other names of the batch, in the order
  of their first occurrence; names of the batch have the value that they
  first occur with, wherever they are listed.

Through any evaluation, and through any session of any interpreter, the list
of an existing frame only grows at its end, and no name gets listed twice. -/
theorem frames_list_in_order (output : String) (opened : Array Path) (history : List Change) :
    let m := Machine.performAll { store := .empty, output, opened } history
    let s := m.store
    (∀ f, (s.names f).Nodup ∧ (∀ name, name ∈ s.names f ↔ s.isBound f name = true) ∧
      ∃ values, (s.names f).mapM (s.get? f) = some values ∧
        s.frameText f = do
          let shown ← ((s.names f).zip values).mapM fun entry => do
            return entry.1 ++ ": " ++ (← entry.2.inspected)
          return "\x7b" ++ ", ".intercalate shown ++ "\x7d") ∧
    (∀ f name v g, (m.perform (.assign f name v)).store.names g = s.names g) ∧
    (∀ f name v, s.isBound f name = true →
      ∀ g, (m.perform (.define f name v)).store.names g = s.names g) ∧
    (∀ f < s.frames.size, ∀ name v, s.isBound f name = false →
      ∀ g, (m.perform (.define f name v)).store.names g =
        if g = f then s.names f ++ [name] else s.names g) ∧
    (∀ g, (m.perform .new).store.names g = if g = s.frames.size then [] else s.names g) ∧
    (∀ base batch,
      let m' := m.perform (.bind base batch)
      Run.create (·.derive base batch) m = .ok s.frames.size m' ∧
      (∀ g, m'.store.names g =
        if g = s.frames.size then
          s.names base ++ ((batch.map (·.1)).filter (· ∉ s.names base)).eraseDups
        else s.names g) ∧
      ∀ name, m'.store.get? s.frames.size name = (batch.lookup name).or (s.get? base name)) ∧
    (∀ (i : Interpreter) (task : Task),
      let before := i.machine.store
      let after := (i.run fun ctx depth => Eval.evaluate ctx depth task).2.machine.store
      (∀ g < before.frames.size, before.names g <+: after.names g) ∧
        (before.ListsOnce → after.ListsOnce)) ∧
    (∀ (i : Interpreter) (session : List Operation),
      ∀ g < i.machine.store.frames.size,
        i.machine.store.names g <+: (i.afterAll session).machine.store.names g) ∧
    ∀ files roots depth table session,
      ((ofTable files roots depth table).afterAll session).machine.store.ListsOnce := by
  intro m s
  have hReplay : s = Store.empty.replay history := Machine.store_performAll _ history
  have hOnce : s.ListsOnce := by
    rw [hReplay]
    exact Store.listsOnce_empty.replay history
  have hApart : s.Unaliased := by
    rw [hReplay]
    exact Store.unaliased_empty.replay history
  refine ⟨fun f => ⟨hOnce f, fun _ => Store.mem_names_iff, hOnce.exists_frameText_eq hApart f⟩,
    ?_, ?_, ?_, s.names_newFrame, ?_, fun i task => i.names_after_work task, ?_, ?_⟩
  · intro f name v g
    rw [Machine.store_perform, Store.names_after_assign]
  · intro f name v hBound g
    rw [Machine.store_perform, Store.after, Store.names_define, if_neg]
    rintro ⟨-, -, hUnbound⟩
    rw [hBound] at hUnbound
    cases hUnbound
  · intro f hf name v hUnbound g
    rw [Machine.store_perform, Store.after, Store.names_define]
    exact if_congr ⟨And.left, fun hSame => ⟨hSame, hf, hUnbound⟩⟩ rfl rfl
  · intro base batch m'
    exact ⟨rfl, s.names_derive base batch, hApart.get?_derive base batch⟩
  · intro i session g hg
    exact (i.evolves_afterAll session).prefix_names hg
  · intro files roots depth table session
    obtain ⟨later, hLater⟩ := exists_history files roots depth table session
    rw [hLater]
    exact Store.listsOnce_empty.replay later

/-- A frame binds `x` twice and `y`.  A frame derived from it, with `z` twice
and another `y`, lists `y` in its old place with the new value, and `z` at the
end, and is shown so.  And an interpreter without the standard primitives evaluates a
definition, in the frame below its globals and as a text. -/
theorem frames_list_in_order_shadowed :
    let m := Machine.performAll { store := .empty, output := "", opened := #[] }
      [.new, .bind 0 [("x", .int 1), ("y", .int 2), ("x", .int 3)]]
    let derived := (m.perform (.bind 1 [("z", .int 4), ("y", .int 5), ("z", .int 6)])).store
    let i := ofTable ⟨fun _ => .error .missing⟩ [] 5 []
    let task := Task.eval (.list [.symbol "define", .symbol "x", .int 7]) 0
    let after := (i.run fun ctx depth => Eval.evaluate ctx depth task).2.machine.store
    (m.store.names 1 = ["x", "y"] ∧ derived.names 2 = ["x", "y", "z"] ∧
      derived.get? 2 "y" = some (.int 5) ∧
      derived.frameText 2 = .ok "\x7bx: 1, y: 5, z: 4\x7d") ∧
    (m.store.isBound 1 "y" = true ∧ (m.perform (.define 1 "y" .nil)).store.names 1 = ["x", "y"]) ∧
    (m.store.isBound 1 "z" = false ∧
      (m.perform (.define 1 "z" .nil)).store.names 1 = ["x", "y", "z"]) ∧
    1 < i.machine.store.frames.size ∧ i.machine.store.names 1 = ["load", "apply"] ∧
    ["load", "apply"] <+: after.names 1 ∧ i.machine.store.ListsOnce ∧ after.ListsOnce ∧
    ["load", "apply"] <+: (i.afterAll [.evalText "(define x 7)"]).machine.store.names 1 := by
  intro m derived i task after
  have hNames : m.store.names 1 = ["x", "y"] := by decide +kernel
  have hBound : m.store.isBound 1 "y" = true := by decide +kernel
  have hUnbound : m.store.isBound 1 "z" = false := by decide +kernel
  have hFrames : 1 < i.machine.store.frames.size := by decide +kernel
  have hGlobals : i.machine.store.names 1 = ["load", "apply"] := by decide +kernel
  obtain ⟨-, -, hRedefined, hDefined, -, hDerived, hWork, hSession, hFresh⟩ :=
    frames_list_in_order "" #[] [.new, .bind 0 [("x", .int 1), ("y", .int 2), ("x", .int 3)]]
  obtain ⟨-, hList, hGet⟩ := hDerived 1 [("z", .int 4), ("y", .int 5), ("z", .int 6)]
  have hOnce : i.machine.store.ListsOnce := hFresh ⟨fun _ => .error .missing⟩ [] 5 [] []
  obtain ⟨hPrefix, hKept⟩ := hWork i task
  have hShown : derived.frameText 2 = .ok "\x7bx: 1, y: 5, z: 4\x7d" := by
    obtain ⟨values, hFound, hText⟩ := ((frames_list_in_order "" #[]
      [.new, .bind 0 [("x", .int 1), ("y", .int 2), ("x", .int 3)],
        .bind 1 [("z", .int 4), ("y", .int 5), ("z", .int 6)]]).1 2).2.2
    obtain rfl : [.int 1, .int 5, .int 4] = values := Option.some.inj hFound
    exact hText.trans (by decide +kernel)
  refine ⟨⟨hNames, ?_, hGet "y", hShown⟩, ⟨hBound, ?_⟩, ⟨hUnbound, ?_⟩, hFrames, hGlobals, ?_,
    hOnce, hKept hOnce, ?_⟩
  · exact (hList 2).trans (by decide +kernel)
  · exact (hRedefined 1 "y" .nil hBound 1).trans hNames
  · exact (hDefined 1 (by decide +kernel) "z" .nil hUnbound 1).trans (by decide +kernel)
  · exact hGlobals ▸ hPrefix 1 hFrames
  · exact hGlobals ▸ hSession i [.evalText "(define x 7)"] 1 hFrames

end MiniScheme.Interpreter
