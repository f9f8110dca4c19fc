import MiniScheme.Proofs.Eval.Depth

/-!
# Application, direct and by `apply`

A procedure is applied in three ways: by an expression that has it at its
head, by a call of the primitive `apply`, which takes the last arguments
from a list, and by a user of the library.  They are one way, and differ in
how deeply the work is nested: an expression is one level further out than
the work it asks for, and a call of `apply` one level more.

The arguments are quoted here, so that evaluating them gives any values
whatever and does nothing else.

## Main results

* `evaluate_application` — an expression that is no special form evaluates
  its head, then its arguments, and applies.
* `evaluate_apply_call` — a call of `apply` applies its first argument.
* `application_agrees` — the three ways agree.
-/

namespace MiniScheme

/-- A name that no keyword has is read as none. -/
theorem Keyword.ofName?_eq_none {name : String} (h : ∀ keyword : Keyword, name ≠ keyword.name) :
    ofName? name = none := by
  unfold ofName?
  split
  · exact absurd rfl (h .quote)
  · exact absurd rfl (h .cond)
  · exact absurd rfl (h .assign)
  · exact absurd rfl (h .define)
  · exact absurd rfl (h .lambda)
  · rfl

theorem Form.ofParts?_symbol_eq_none {name : String}
    (h : ∀ keyword : Keyword, name ≠ keyword.name) (tail : List Value) :
    ofParts? (.symbol name) tail = none := by
  rw [ofParts?, Keyword.ofName?_eq_none h]
  rfl

namespace Eval

variable {ctx : Context} {d : Nat} {frame : FrameId} {m m₁ m₂ : Machine}

/-! ## The rule of application -/

theorem evaluate_symbol {name : String} {v : Value} (h : m.store.get? frame name = some v) :
    evaluate ctx (d + 1) (.eval (.symbol name) frame) m = .ok v m := by
  show Run.getVar frame name m = _
  rw [Run.getVar_eq, h]

theorem evaluate_quote (v : Value) :
    evaluate ctx (d + 1) (.eval v.quote frame) m = .ok v m := rfl

theorem evalAll_cons_of_ok {sub : Worker} {expr v : Value} {rest vs : List Value}
    (hFirst : sub (.eval expr frame) m = .ok v m₁)
    (hRest : evalAll sub frame rest m₁ = .ok vs m₂) :
    evalAll sub frame (expr :: rest) m = .ok (v :: vs) m₂ := by
  rw [evalAll, Run.bind_eq_of_ok hFirst, Run.bind_eq_of_ok hRest]
  rfl

/-- Quoted values are evaluated to themselves, and nothing else happens. -/
theorem evalAll_quote (vs : List Value) :
    evalAll (evaluate ctx (d + 1)) frame (vs.map Value.quote) m = .ok vs m := by
  induction vs with
  | nil => rfl
  | cons v vs ih => exact evalAll_cons_of_ok (evaluate_quote v) ih

/-- **An expression that is no special form** evaluates its head, then its
arguments, and applies the one to the others. -/
theorem evaluate_application {head fn : Value} {tail args : List Value}
    (hForm : Form.ofParts? head tail = none)
    (hHead : evaluate ctx d (.eval head frame) m = .ok fn m₁)
    (hArgs : evalAll (evaluate ctx d) frame tail m₁ = .ok args m₂) :
    evaluate ctx (d + 1) (.eval (.list (head :: tail)) frame) m =
      evaluate ctx d (.apply fn args) m₂ := by
  show performEval (evaluate ctx d) frame (.list (head :: tail)) m = _
  rw [performEval, hForm]
  show (do
    let fn ← evaluate ctx d (.eval head frame)
    let args ← evalAll (evaluate ctx d) frame tail
    evaluate ctx d (.apply fn args) : Run Value) m = _
  rw [Run.bind_eq_of_ok hHead, Run.bind_eq_of_ok hArgs]

/-- **A call of `apply`** applies its first argument to those between and
the items of the last. -/
theorem evaluate_apply_call (p : String) (fn : Value) (front items : List Value) :
    evaluate ctx (d + 1) (.apply (.primitive p .apply) (fn :: (front ++ [.list items]))) =
      evaluate ctx d (.apply fn (front ++ items)) := by
  obtain ⟨first, more, hFront⟩ := List.exists_cons_of_ne_nil
    (List.append_ne_nil_of_right_ne_nil front (List.cons_ne_nil (Value.list items) []))
  have hLast : (first :: more).getLast (List.cons_ne_nil first more) = .list items := by
    simp [← hFront]
  have hInit : (first :: more).dropLast = front := by
    rw [← hFront, List.dropLast_concat]
  show performPrimitive ctx (evaluate ctx d) .apply (fn :: (front ++ [.list items])) = _
  rw [hFront]
  show (do
    let items ← Run.ofExcept ((first :: more).getLast (List.cons_ne_nil first more)).toItems
    evaluate ctx d (.apply fn ((first :: more).dropLast ++ items)) : Run Value) = _
  rw [hLast, hInit]
  exact pure_bind _ _

/-- Without two levels of nesting no expression with a symbol at its head
gets to be applied. -/
theorem gaveUp_application {name : String} (h : ∀ keyword : Keyword, name ≠ keyword.name)
    (tail : List Value) (hd : d < 2) :
    Run.gaveUp (evaluate ctx d (.eval (.list (.symbol name :: tail)) frame) m) = true := by
  match d with
  | 0 => rfl
  | 1 =>
      show Run.gaveUp (performEval (evaluate ctx 0) frame (.list (.symbol name :: tail)) m) = true
      rw [performEval, Form.ofParts?_symbol_eq_none h]
      rfl

end Eval

namespace Interpreter

open Eval

/-- **The three ways of applying a procedure agree.**  In every context, from
every machine and in every frame where `apply` means the primitive and `f`,
which is no keyword, has any value: applying `f` to quoted arguments,
applying it by `apply` with the last arguments in a list, wherever the
arguments are split, and applying the value itself

* are the same work at depths that differ by one and two;
* so they have one outcome, that is one result or failure, store and
  output, at all depths at which they do not give up. -/
theorem application_agrees (ctx : Context) (m : Machine) (frame : FrameId) {f p : String}
    {fn : Value} (hApply : m.store.get? frame "apply" = some (.primitive p .apply))
    (hFn : m.store.get? frame f = some fn) (hName : ∀ keyword : Keyword, f ≠ keyword.name)
    (front back : List Value) :
    let direct := fun d => evaluate ctx d
      (.eval (.list (.symbol f :: (front ++ back).map Value.quote)) frame)
    let spread := fun d => evaluate ctx d
      (.eval (.list (.symbol "apply" :: .symbol f ::
        (front.map Value.quote ++ [(Value.list back).quote]))) frame)
    let called := fun d => call ctx d fn (front ++ back)
    (∀ d, direct (d + 2) m = called (d + 1) m ∧ spread (d + 2) m = called d m) ∧
    (∀ d₁ d₂ d₃, Run.gaveUp (direct d₁ m) = false → Run.gaveUp (spread d₂ m) = false →
      Run.gaveUp (called d₃ m) = false →
      direct d₁ m = called d₃ m ∧ spread d₂ m = called d₃ m) := by
  intro direct spread called
  have hPrimitive : ∀ keyword : Keyword, "apply" ≠ keyword.name := by
    intro keyword
    cases keyword <;> decide
  have hDirect : ∀ d, direct (d + 2) m = called (d + 1) m := by
    intro d
    exact evaluate_application (Form.ofParts?_symbol_eq_none hName _) (evaluate_symbol hFn)
      (evalAll_quote (front ++ back))
  have hSpread : ∀ d, spread (d + 2) m = called d m := by
    intro d
    have hArgs : evalAll (evaluate ctx (d + 1)) frame
        (.symbol f :: (front ++ [Value.list back]).map Value.quote) m =
          .ok (fn :: (front ++ [.list back])) m :=
      evalAll_cons_of_ok (evaluate_symbol hFn) (evalAll_quote _)
    rw [List.map_append] at hArgs
    refine (evaluate_application (Form.ofParts?_symbol_eq_none hPrimitive _)
      (evaluate_symbol hApply) hArgs).trans ?_
    rw [evaluate_apply_call]
    rfl
  refine ⟨fun d => ⟨hDirect d, hSpread d⟩, fun d₁ d₂ d₃ h₁ h₂ h₃ => ?_⟩
  -- An expression that does not give up has two levels for the work it asks for.
  have hSettles := settles_evaluate ctx (.apply fn (front ++ back))
  have hDeep : ∀ {name tail d},
      (∀ keyword : Keyword, name ≠ keyword.name) →
      Run.gaveUp (evaluate ctx d (.eval (.list (.symbol name :: tail)) frame) m) = false →
      ∃ e, d = e + 2 := by
    intro name tail d hNot hEnds
    refine Nat.exists_eq_add_of_le' (Nat.le_of_not_lt fun hShallow => ?_)
    rw [gaveUp_application hNot tail hShallow] at hEnds
    cases hEnds
  obtain ⟨e₁, rfl⟩ := hDeep hName h₁
  obtain ⟨e₂, rfl⟩ := hDeep hPrimitive h₂
  rw [hDirect] at h₁ ⊢
  rw [hSpread] at h₂ ⊢
  exact ⟨hSettles.eq_of_not_gaveUp h₁ h₃, hSettles.eq_of_not_gaveUp h₂ h₃⟩

/-- `apply` applied to itself, with a subtraction and the list of its operands:
directly, by `apply` with the second argument in a list, and as a value. -/
theorem application_agrees_apply :
    let i := ofTable ⟨fun _ => .error .missing⟩ [] 5 Primitive.standard
    let minus := Value.primitive "-" (.arithmetic .subtract)
    let operands := Value.list [.int 10, .int 3]
    i.machine.store.get? 1 "apply" = some (.primitive "apply" .apply) ∧
      call i.context 3 (.primitive "apply" .apply) [minus, operands] i.machine =
        .ok (.int 7) i.machine ∧
      evaluate i.context 4
        (.eval (.list [.symbol "apply", minus.quote, operands.quote]) 1) i.machine =
        .ok (.int 7) i.machine ∧
      evaluate i.context 5
        (.eval (.list [.symbol "apply", .symbol "apply", minus.quote,
          (Value.list [operands]).quote]) 1) i.machine = .ok (.int 7) i.machine := by
  intro i minus operands
  have hApply : i.machine.store.get? 1 "apply" = some (.primitive "apply" .apply) := rfl
  have hName : ∀ keyword : Keyword, "apply" ≠ keyword.name := by
    intro keyword
    cases keyword <;> decide
  have hValue : call i.context 3 (.primitive "apply" .apply) [minus, operands] i.machine =
      .ok (.int 7) i.machine := rfl
  have hAgree := (application_agrees i.context i.machine 1 hApply hApply hName [minus]
    [operands]).1
  exact ⟨hApply, hValue, (hAgree 2).1.trans hValue, (hAgree 3).2.trans hValue⟩

end Interpreter

end MiniScheme
