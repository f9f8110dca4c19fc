import MiniScheme.Proofs.Eval.BigStep

/-!
# Definition and assignment

`(define x e)` and `(set! x e)` begin alike: they evaluate `e`, which can be
any program.  It may define or assign `x` itself, load files, call
procedures that do, or fail midway.  Only then does one of them bind `x`
and does the other ask whether `x` is bound.  So what they do is decided by
the store that `e` left, and not by the one that it found.

Of the store that `e` found one thing can be said: **evaluation unbinds
nothing**.  A name that is bound before `e` is bound after it, and on bound
names the two forms are one.  On other names the difference is in the last
step alone.  That step is described by `Store.Adds` and `Store.Overwrites`,
which leave no part of the store open.

## Main results

* `Store.define_adds`, `Store.Unaliased.define_overwrites` — all that a
  definition does to a store.
* `evaluate_definition_eq_assignment` — the forms agree on bound names.
* `definition_and_assignment` — both forms, on all names.
-/

namespace MiniScheme

/-- The form `(define x e)`. -/
def Value.definition (x : String) (e : Value) : Value := .list [.symbol "define", .symbol x, e]

/-- The form `(set! x e)`. -/
def Value.assignment (x : String) (e : Value) : Value := .list [.symbol "set!", .symbol x, e]

namespace Store

variable {s s' : Store} {f : FrameId} {x : String} {v : Value}

/-! ## The last step -/

/-- From `s` to `s'` the frame `f` gets the name `x`, after those that it has
and with a new cell that holds `v`, and nothing else happens. -/
structure Adds (f : FrameId) (x : String) (v : Value) (s s' : Store) : Prop where
  names : (s'.frame f).names = (s.frame f).names ++ [x]
  cell? : ∀ g y, s'.cell? g y = if g = f ∧ y = x then some s.cells.size else s.cell? g y
  frame : ∀ g, g ≠ f → s'.frame g = s.frame g
  frames_size : s'.frames.size = s.frames.size
  cells : s'.cells = s.cells.push v
  closures : s'.closures = s.closures

/-- From `s` to `s'` the cell that `x` has in the frame `f` gets the value `v`,
and nothing else happens. -/
structure Overwrites (f : FrameId) (x : String) (v : Value) (s s' : Store) : Prop where
  frames : s'.frames = s.frames
  cells_size : s'.cells.size = s.cells.size
  held : ∀ cell, s'.cells[cell]? = if s.cell? f x = some cell then some v else s.cells[cell]?
  closures : s'.closures = s.closures

/-- A definition of a new name adds it. -/
theorem define_adds (hf : f < s.frames.size) (hUnbound : s.isBound f x = false) (v : Value) :
    Adds f x v s (s.define f x v) := by
  have hCell : s.cell? f x = none := Option.not_isSome_iff_eq_none.1 (Bool.eq_false_iff.1 hUnbound)
  rw [define_of_unbound hCell]
  refine ⟨?_, fun g y => ?_, fun g hg => ?_, Array.size_modify, rfl, rfl⟩
  · rw [frame_add, if_pos ⟨rfl, hf⟩, Frame.names_put]
    exact if_neg (Bool.eq_false_iff.1 hUnbound)
  · rw [cell?_add]
    simp [hf]
  · rw [frame_add, if_neg fun hHere => hg hHere.1]

/-- A definition of a bound name overwrites its cell. -/
theorem Unaliased.define_overwrites (h : s.Unaliased) (hBound : s.isBound f x = true) (v : Value) :
    Overwrites f x v s (s.define f x v) := by
  obtain ⟨cell, hCell⟩ := Option.isSome_iff_exists.1 hBound
  rw [define_of_cell? hCell]
  refine ⟨rfl, size_cells_write s cell v, fun other => ?_, rfl⟩
  show (s.cells.setIfInBounds cell v)[other]? = _
  rw [Array.getElem?_setIfInBounds, if_pos (h.lt_size hCell), hCell]
  simp only [Option.some_inj]

theorem Adds.get?_self (h : Adds f x v s s') : s'.get? f x = some v := by
  rw [get?, h.cell?, if_pos ⟨rfl, rfl⟩, h.cells]
  exact Array.getElem?_push_size

theorem Overwrites.get?_self (h : Overwrites f x v s s') (hBound : s.isBound f x = true) :
    s'.get? f x = some v := by
  obtain ⟨cell, hCell⟩ := Option.isSome_iff_exists.1 hBound
  have hStill : s'.cell? f x = some cell := by
    rw [Store.cell?, Store.frame, h.frames]
    exact hCell
  rw [get?, hStill, Option.bind_some, h.held, if_pos hCell]

end Store

namespace Eval

variable {ctx : Context} {d : Nat} {e : Value} {f : FrameId} {m m' : Machine} {x : String}
  {v : Value} {failure : Failure}

/-! ## The two forms, from what their expression does -/

theorem evaluate_definition_of_ok (h : evaluate ctx d (.eval e f) m = .ok v m') (x : String) :
    evaluate ctx (d + 1) (.eval (.definition x e) f) m =
      .ok v { m' with store := m'.store.define f x v } :=
  Run.bind_eq_of_ok h (Run.defineVar f x)

theorem evaluate_definition_of_error (h : evaluate ctx d (.eval e f) m = .error failure m')
    (x : String) : evaluate ctx (d + 1) (.eval (.definition x e) f) m = .error failure m' :=
  Run.bind_eq_of_error h (Run.defineVar f x)

theorem evaluate_assignment_of_ok (h : evaluate ctx d (.eval e f) m = .ok v m') (x : String) :
    evaluate ctx (d + 1) (.eval (.assignment x e) f) m =
      if m'.store.isBound f x then .ok v { m' with store := m'.store.define f x v }
      else .error (.error (.unbound .setting x)) m' :=
  (Run.bind_eq_of_ok h (Run.setVar f x)).trans (Run.setVar_eq f x v m')

theorem evaluate_assignment_of_error (h : evaluate ctx d (.eval e f) m = .error failure m')
    (x : String) : evaluate ctx (d + 1) (.eval (.assignment x e) f) m = .error failure m' :=
  Run.bind_eq_of_error h (Run.setVar f x)

/-- Evaluation unbinds nothing. -/
theorem isBound_of_evaluate_eq_ok (h : evaluate ctx d (.eval e f) m = .ok v m') {g : FrameId}
    (hBound : m.store.isBound g x = true) : m'.store.isBound g x = true := by
  obtain ⟨cell, hCell⟩ := Option.isSome_iff_exists.1 hBound
  have hGrows := grows_evaluate ctx d e f m
  rw [Run.final, h] at hGrows
  exact Option.isSome_iff_exists.2 ⟨cell, hGrows.kept hCell⟩

/-- **On bound names definition and assignment are one.** -/
theorem evaluate_definition_eq_assignment (hBound : m.store.isBound f x = true) (ctx : Context)
    (depth : Nat) (e : Value) :
    evaluate ctx depth (.eval (.definition x e) f) m =
      evaluate ctx depth (.eval (.assignment x e) f) m := by
  cases depth with
  | zero => rfl
  | succ d =>
      cases hValue : evaluate ctx d (.eval e f) m with
      | error failure m' =>
          rw [evaluate_definition_of_error hValue, evaluate_assignment_of_error hValue]
      | ok v m' =>
          rw [evaluate_definition_of_ok hValue, evaluate_assignment_of_ok hValue,
            if_pos (isBound_of_evaluate_eq_ok hValue hBound)]

/-- An assignment gives a value just if its expression does and leaves the
name bound. -/
theorem evaluate_assignment_eq_ok_iff :
    (∃ v m', evaluate ctx (d + 1) (.eval (.assignment x e) f) m = .ok v m') ↔
      ∃ v m', evaluate ctx d (.eval e f) m = .ok v m' ∧ m'.store.isBound f x = true := by
  constructor
  · rintro ⟨v, m', hAssigned⟩
    cases hValue : evaluate ctx d (.eval e f) m with
    | error failure m₁ =>
        rw [evaluate_assignment_of_error hValue] at hAssigned
        cases hAssigned
    | ok v₁ m₁ =>
        refine ⟨v₁, m₁, rfl, ?_⟩
        by_contra hUnbound
        rw [evaluate_assignment_of_ok hValue, if_neg hUnbound] at hAssigned
        cases hAssigned
  · rintro ⟨v, m', hValue, hBound⟩
    exact ⟨v, _, by rw [evaluate_assignment_of_ok hValue, if_pos hBound]⟩

/-- **Definition and assignment.**  In a frame of any store that changes can
lead to, let `e` be any expression.

* If `x` is bound, `(define x e)` and `(set! x e)` have the same value or
  failure and leave the same machine.

Whether it is bound or not, the outcome of `e` decides:

* `(set! x e)` gives a value just if `e` does and leaves `x` bound;
* if `e` fails, both forms fail with it, and leave the machine as `e` did;
* if `e` gives `v` and leaves `x` unbound, the assignment fails and leaves
  the machine as `e` did, and all that the definition does to it is to add
  `x` to the frame, with the value `v`;
* if `e` gives `v` and leaves `x` bound, all that both do is to overwrite
  its cell with `v`. -/
theorem definition_and_assignment (ctx : Context) (history : List Store.Change) (output : String)
    (opened : Array Path) (f : FrameId) (hf : f < (Store.empty.replay history).frames.size)
    (x : String) (e : Value) :
    let m : Machine := { store := Store.empty.replay history, output, opened }
    let value (d : Nat) := evaluate ctx d (.eval e f) m
    let define (d : Nat) := evaluate ctx d (.eval (.definition x e) f) m
    let assign (d : Nat) := evaluate ctx d (.eval (.assignment x e) f) m
    (m.store.isBound f x = true → ∀ d, define d = assign d) ∧
    (∀ d, (∃ v m', assign (d + 1) = .ok v m') ↔
      ∃ v m', value d = .ok v m' ∧ m'.store.isBound f x = true) ∧
    (∀ d failure m', value d = .error failure m' →
      define (d + 1) = .error failure m' ∧ assign (d + 1) = .error failure m') ∧
    (∀ d v m', value d = .ok v m' → m'.store.isBound f x = false →
      assign (d + 1) = .error (.error (.unbound .setting x)) m' ∧
      ∃ s, define (d + 1) = .ok v { m' with store := s } ∧ s.get? f x = some v ∧
        Store.Adds f x v m'.store s) ∧
    (∀ d v m', value d = .ok v m' → m'.store.isBound f x = true →
      ∃ s, define (d + 1) = .ok v { m' with store := s } ∧
        assign (d + 1) = .ok v { m' with store := s } ∧ s.get? f x = some v ∧
        Store.Overwrites f x v m'.store s) ∧
    (Error.unbound .setting x).message = .ok ("Setting an unbound variable: " ++ x) := by
  intro m value define assign
  have hLater : ∀ {d v m'}, value d = .ok v m' → m.store.Evolves {f, ctx.globals} m'.store := by
    intro d v m' hValue
    have hEvolves := (evaluate_local ctx d).eval e f m
    rw [Run.final, show evaluate ctx d (.eval e f) m = _ from hValue] at hEvolves
    exact hEvolves
  refine ⟨fun hBound d => evaluate_definition_eq_assignment hBound ctx d e,
    fun d => evaluate_assignment_eq_ok_iff, fun d failure m' hFails => ?_,
    fun d v m' hValue hUnbound => ?_, fun d v m' hValue hBound => ?_, ?_⟩
  · exact ⟨evaluate_definition_of_error hFails x, evaluate_assignment_of_error hFails x⟩
  · have hFrame : f < m'.store.frames.size := Nat.lt_of_lt_of_le hf (hLater hValue).grows.frames_le
    have hAdds := Store.define_adds hFrame hUnbound v
    refine ⟨?_, _, evaluate_definition_of_ok hValue x, hAdds.get?_self, hAdds⟩
    exact (evaluate_assignment_of_ok hValue x).trans (if_neg (Bool.eq_false_iff.1 hUnbound))
  · have hApart : m'.store.Unaliased :=
      (Store.unaliased_empty.replay history).of_evolves (hLater hValue)
    have hOverwrites := hApart.define_overwrites hBound v
    refine ⟨_, evaluate_definition_of_ok hValue x, ?_, hOverwrites.get?_self hBound, hOverwrites⟩
    exact (evaluate_assignment_of_ok hValue x).trans (if_pos hBound)
  · rfl

/-- The expression `(define x 5)` in a frame that binds nothing: it leaves
`x` bound, so that it can be assigned, and not `y`. -/
theorem definition_and_assignment_nested :
    let ctx : Context := { globals := 0, files := ⟨fun _ => .error .missing⟩, roots := [] }
    let m : Machine := { store := Store.empty.replay [.new], output := "", opened := #[] }
    let m' : Machine := { m with store := m.store.define 0 "x" (.int 5) }
    let e := Value.definition "x" (.int 5)
    0 < m.store.frames.size ∧ m.store.isBound 0 "x" = false ∧
      evaluate ctx 2 (.eval e 0) m = .ok (.int 5) m' ∧
      (∃ s, evaluate ctx 3 (.eval (.assignment "x" e) 0) m = .ok (.int 5) { m' with store := s } ∧
        Store.Overwrites 0 "x" (.int 5) m'.store s) ∧
      evaluate ctx 3 (.eval (.assignment "y" e) 0) m =
        .error (.error (.unbound .setting "y")) m' := by
  intro ctx m m' e
  have hf : 0 < m.store.frames.size := by decide
  have hValue : evaluate ctx 2 (.eval e 0) m = .ok (.int 5) m' := rfl
  obtain ⟨-, -, -, -, hBound, -⟩ := definition_and_assignment ctx [.new] "" #[] 0 hf "x" e
  obtain ⟨-, -, -, hUnbound, -⟩ := definition_and_assignment ctx [.new] "" #[] 0 hf "y" e
  obtain ⟨s, -, hAssigned, -, hOverwrites⟩ := hBound 2 (.int 5) m' hValue (by decide)
  exact ⟨hf, by decide, hValue, ⟨s, hAssigned, hOverwrites⟩,
    (hUnbound 2 (.int 5) m' hValue (by decide)).1⟩

end Eval

end MiniScheme
