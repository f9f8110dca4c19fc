import MiniScheme.Proofs.Interpreter.TextSession

/-!
# Variables that code does not mention

A program can spell the name of a variable without mentioning it: as a
string that it turns into a symbol, as a symbol that it reads.  This module
shows that spelling a name gives no access to the variable.  **Only code
looks variables up, and data does not become code.**

Suppose that a cell is reached under one name only, and that this name
occurs in no code: not in the expression to be evaluated, not in the body
of a procedure that the other cells hold, not in a file that can be loaded.
Then the cell is neither read nor written, which is to say: with another
value in the cell the evaluation goes the same way, and either value is
still there at its end.

What procedures call their parameters does not matter.  A call binds the
names of parameters to cells of its own.

## Main results

* `Scope.without` — the scope that leaves out a name and hides its cell.
* `unmentioned_variable_unseen` — evaluation from two stores that differ in
  the cell.
-/

namespace MiniScheme

/-- The stores are equal except for the value of one cell. -/
structure Store.EqualExcept (cell : CellId) (s s' : Store) : Prop where
  frames : s'.frames = s.frames
  closures : s'.closures = s.closures
  size : s'.cells.size = s.cells.size
  cells : ∀ other, other ≠ cell → s'.cells[other]? = s.cells[other]?

namespace Scope

/-- The scope without one name, whose cell is hidden. -/
def without (name : String) (cell : CellId) (v v' : Value) : Scope where
  names other := other ≠ name
  hidden := {cell}
  left _ := v
  right _ := v'

variable {name : String} {cell : CellId} {u u' : Value}

/-- What can be written and does not mention the name is code. -/
theorem all_code_without {v : Value} (hSyntax : v.All Value.IsSyntax)
    (hName : ¬ Value.Occurs (.symbol name) v) : v.All (without name cell u u').code := by
  intro w hw
  cases w with
  | symbol other =>
      intro hSame
      rw [hSame] at hw
      exact hName hw
  | _ => exact hSyntax _ hw

theorem all_data_without {v : Value} (hData : v.All whole.data)
    (hBodies : ∀ fn, Value.Occurs (.closure fn) v → ∀ expr ∈ fn.body,
      ¬ Value.Occurs (.symbol name) expr) : v.All (without name cell u u').data := by
  intro w hw
  cases w with
  | closure fn =>
      obtain ⟨hNonempty, hBody⟩ := hData _ hw
      refine ⟨hNonempty, fun expr hExpr => all_code_without ?_ (hBodies fn hw expr hExpr)⟩
      exact (hBody expr hExpr).mono fun _ => isSyntax_of_code
  | _ => exact hData _ hw

theorem covers_without {ctx : Context}
    (hFiles : ∀ text forms, ctx.Loads text → Reader.readAll text = .ok forms →
      ∀ form ∈ forms, ¬ Value.Occurs (.symbol name) form) :
    (without name cell u u').Covers ctx :=
  fun text forms hLoads hRead form hForm => all_code_without
    (Reader.all_isSyntax_of_readAll hRead form hForm) (hFiles text forms hLoads hRead form hForm)

end Scope

namespace Store

variable {name : String} {cell : CellId} {s s' : Store}

/-- Sound stores that are equal except for one cell are twins, if only a name
that procedures elsewhere do not mention leads to it. -/
theorem EqualExcept.twins (h : s.EqualExcept cell s') (hSound : s.Twins .whole s)
    (hOnly : ∀ g other, s.cell? g other = some cell → other = name)
    (hBodies : ∀ other v fn, other ≠ cell → s.cells[other]? = some v →
      Value.Occurs (.closure fn) v → ∀ expr ∈ fn.body, ¬ Value.Occurs (.symbol name) expr)
    {u u' : Value} (hLeft : s.cells[cell]? = some u) (hRight : s'.cells[cell]? = some u') :
    s.Twins (.without name cell u u') s' where
  frames := h.frames
  closures := h.closures
  size := h.size
  left := by
    rintro _ rfl
    exact hLeft
  right := by
    rintro _ rfl
    exact hRight
  shown := h.cells
  data other hOther v hv := Scope.all_data_without
    (hSound.data other (Set.notMem_empty other) v hv) fun fn => hBodies other v fn hOther hv
  unnamed := by
    rintro f other _ hCell rfl hName
    exact hName (hOnly f other hCell)

theorem Twins.equalExcept {u u' : Value} (h : s.Twins (.without name cell u u') s') :
    s.EqualExcept cell s' := ⟨h.frames, h.closures, h.size, h.shown⟩

end Store

namespace Interpreter

/-- The interpreter has been fed with text only, since it was made. -/
def IsFedText (i : Interpreter) : Prop :=
  ∃ files roots depth table session, i = (ofTable files roots depth table).feedAll session

theorem IsFedText.twins {i : Interpreter} (hi : i.IsFedText) :
    i.machine.store.Twins .whole i.machine.store := by
  obtain ⟨files, roots, depth, table, session, rfl⟩ := hi
  exact ((sound_ofTable files roots depth table).feedAll session).store

/-- **A variable that code does not mention is neither read nor written.**
Take an interpreter that was fed with text, a cell that frames reach under
the name `n` only, and a store that is equal except for the value of this
cell.  Let `n` occur neither in the expression, nor in the body of a
procedure that another cell holds, nor in a file that can be loaded.  Then
evaluating the expression, in any frame and to any depth, gives the same
result or failure from either store, with the same output; the stores it
leaves are again equal except for the cell, and each still holds there what
it held before. -/
theorem unmentioned_variable_unseen {i : Interpreter} (hi : i.IsFedText) {n : String}
    {cell : CellId} (hCell : cell < i.machine.store.cells.size)
    (hOnly : ∀ g name, i.machine.store.cell? g name = some cell → name = n) {s' : Store}
    (hExcept : i.machine.store.EqualExcept cell s') {expr : Value}
    (hSyntax : expr.All Value.IsSyntax) (hExpr : ¬ Value.Occurs (.symbol n) expr)
    (hBodies : ∀ other v fn, other ≠ cell → i.machine.store.cells[other]? = some v →
      Value.Occurs (.closure fn) v → ∀ body ∈ fn.body, ¬ Value.Occurs (.symbol n) body)
    (hFiles : ∀ text forms, i.context.Loads text → Reader.readAll text = .ok forms →
      ∀ form ∈ forms, ¬ Value.Occurs (.symbol n) form)
    (f : FrameId) (d : Nat) :
    let x := Eval.evaluate i.context d (.eval expr f)
    let m := i.machine
    let m' := { i.machine with store := s' }
    x.result m' = x.result m ∧
    (x.final m').output = (x.final m).output ∧
    (x.final m).store.EqualExcept cell (x.final m').store ∧
    (x.final m).store.cells[cell]? = m.store.cells[cell]? ∧
    (x.final m').store.cells[cell]? = m'.store.cells[cell]? := by
  intro x m m'
  obtain ⟨u, hLeft⟩ : ∃ u, m.store.cells[cell]? = some u := ⟨_, Array.getElem?_eq_getElem hCell⟩
  obtain ⟨u', hRight⟩ : ∃ u', m'.store.cells[cell]? = some u' :=
    ⟨_, Array.getElem?_eq_getElem (Nat.lt_of_lt_of_eq hCell hExcept.size.symm)⟩
  have hTwins : m.Twins (.without n cell u u') m' :=
    ⟨hExcept.twins hi.twins hOnly hBodies hLeft hRight, rfl, rfl⟩
  have hPaired : Run.Paired (.without n cell u u') i.context.files _ x x :=
    Scope.paired_evaluate (Scope.covers_without hFiles) d (Scope.all_code_without hSyntax hExpr) f
  obtain ⟨hResult, hAfter⟩ := hPaired.result_eq hTwins
  refine ⟨hResult, hAfter.output, hAfter.store.equalExcept, ?_, ?_⟩
  · rw [hLeft]
    exact hAfter.store.left cell (Set.mem_singleton cell)
  · rw [hRight]
    exact hAfter.store.right cell (Set.mem_singleton cell)

/-- The arguments of a program are in a cell of their own, which the program
does not get at by making a symbol of the text `args`. -/
theorem unmentioned_variable_unseen_args :
    let i := (ofTable ⟨fun _ => .error .missing⟩ [] 5
      [("string->symbol", .stringToSymbol)]).feedAll [.args ["a"]]
    let expr := Value.list [.symbol "string->symbol", .string "args"]
    let x := Eval.evaluate i.context 5 (.eval expr 2)
    let m' := { i.machine with store := i.machine.store.write 3 (.int 7) }
    i.machine.store.get? 2 "args" = some (.list [.string "a"]) ∧
      x.result m' = .ok (.symbol "args") ∧ (x.final m').store.cells[3]? = some (.int 7) := by
  intro i expr x m'
  have hFed : i.IsFedText := ⟨_, _, _, _, _, rfl⟩
  have hHistory : i.machine.store = Store.empty.replay [.new,
      .bind 0 [("string->symbol", .primitive "string->symbol" .stringToSymbol),
        ("load", .primitive "load" .load), ("apply", .primitive "apply" .apply)],
      .bind 1 [("args", .list [.string "a"])]] := rfl
  have hApart : i.machine.store.Unaliased := by
    rw [hHistory]
    exact Store.unaliased_empty.replay _
  have hOnly : ∀ g name, i.machine.store.cell? g name = some 3 → name = "args" :=
    fun g name hName => hApart.name_eq hName (show i.machine.store.cell? 2 "args" = some 3 from rfl)
  have hExcept : i.machine.store.EqualExcept 3 m'.store := by
    refine ⟨rfl, rfl, Store.size_cells_write _ _ _, fun other hOther => ?_⟩
    exact Array.getElem?_setIfInBounds_ne hOther.symm
  have hParts : ∀ p : Value → Prop, p expr → p (.symbol "string->symbol") → p (.string "args") →
      expr.All p := by
    intro p hList hSymbol hText
    refine Value.all_list_iff.2 ⟨hList, List.forall_mem_cons.2 ⟨?_, ?_⟩⟩
    · exact (Value.all_iff_of_isLeaf rfl).2 hSymbol
    · exact List.forall_mem_singleton.2 ((Value.all_iff_of_isLeaf rfl).2 hText)
  have hExpr : ¬ Value.Occurs (.symbol "args") expr := fun hOccurs =>
    hParts (· ≠ .symbol "args") nofun (by simp) nofun _ hOccurs rfl
  have hBodies : ∀ other v fn, other ≠ 3 → i.machine.store.cells[other]? = some v →
      Value.Occurs (.closure fn) v → ∀ body ∈ fn.body, ¬ Value.Occurs (.symbol "args") body := by
    intro other v fn hOther hHeld hOccurs
    -- The other cells hold the three primitives, in which nothing else occurs.
    obtain ⟨name, op, rfl⟩ : ∃ name op, v = .primitive name op := by
      match other with
      | 0 | 1 | 2 => exact ⟨_, _, (Option.some.inj hHeld).symm⟩
      | 3 => exact absurd rfl hOther
      | other + 4 => cases hHeld
    cases hOccurs
  have hFiles : ∀ text forms, i.context.Loads text → Reader.readAll text = .ok forms →
      ∀ form ∈ forms, ¬ Value.Occurs (.symbol "args") form := by
    rintro text forms ⟨name, path, bytes, -, -, hRead, -⟩
    cases hRead
  obtain ⟨hSame, -, -, -, hKept⟩ := unmentioned_variable_unseen hFed (by decide) hOnly hExcept
    (hParts _ trivial trivial trivial) hExpr hBodies hFiles 2 5
  refine ⟨rfl, hSame.trans rfl, hKept.trans ?_⟩
  rfl

end Interpreter

end MiniScheme
