import MiniScheme.Primitive.Pure

/-!
# What occurs in a value

`Occurs w v` says that `w` is `v` or is found by taking the lists of `v`
apart, and `All p v` that `p` holds of everything found in this way.  A
closure is found whole: its body is code, and no program can take it out.

**No primitive gets at anything but what occurs in its arguments.**  It
returns part of them, puts them into a list, or returns an atom, so
whatever holds of atoms and lists and of all that occurs in the arguments
holds of all that occurs in the answer.  `Answers` states this together with
the errors that a primitive may answer with instead.

## Main results

* `all_list_iff`, `all_dotted_iff`, `all_iff_of_isLeaf` — `All` constructor
  by constructor.
* `Primitive.answers_pure?` — what a primitive that only computes can
  answer.
-/

namespace MiniScheme

namespace Value

/-- `w` is the value, or occurs in one of the lists it is made of. -/
inductive Occurs (w : Value) : Value → Prop
  | here : Occurs w w
  | item {items : List Value} {v : Value} (hMem : v ∈ items) (hInside : Occurs w v) :
      Occurs w (.list items)
  | head {head : List Value} {tail v : Value} (hMem : v ∈ head) (hInside : Occurs w v) :
      Occurs w (.dotted head tail)
  | tail {head : List Value} {tail : Value} (hInside : Occurs w tail) :
      Occurs w (.dotted head tail)

/-- `p` holds of everything that occurs in the value. -/
def All (p : Value → Prop) (v : Value) : Prop := ∀ w, Occurs w v → p w

/-- Has the value no parts? -/
def isLeaf : Value → Bool
  | .list _ | .dotted _ _ => false
  | _ => true

/-- Looked at from outside, the value is one that can be written: it is no
procedure, and before a dot stands something. -/
def IsSyntax : Value → Prop
  | .dotted head _ => head ≠ []
  | .primitive _ _ | .closure _ | .foreign => False
  | _ => True

section All

variable {p q : Value → Prop} {v : Value}

theorem All.self (h : All p v) : p v := h v .here

theorem All.mono (h : All p v) (hImp : ∀ w, p w → q w) : All q v := fun w hw => hImp w (h w hw)

theorem all_iff_of_isLeaf (hLeaf : v.isLeaf = true) : All p v ↔ p v := by
  refine ⟨All.self, fun h w hw => ?_⟩
  cases hw with
  | here => exact h
  | item => cases hLeaf
  | head => cases hLeaf
  | tail => cases hLeaf

theorem all_list_iff {items : List Value} :
    All p (.list items) ↔ p (.list items) ∧ ∀ v ∈ items, All p v := by
  constructor
  · intro h
    exact ⟨h.self, fun v hv w hw => h w (.item hv hw)⟩
  · rintro ⟨hSelf, hItems⟩ w hw
    cases hw with
    | here => exact hSelf
    | item hMem hInside => exact hItems _ hMem _ hInside

theorem all_dotted_iff {head : List Value} {tail : Value} :
    All p (.dotted head tail) ↔ p (.dotted head tail) ∧ (∀ v ∈ head, All p v) ∧ All p tail := by
  constructor
  · intro h
    exact ⟨h.self, fun v hv w hw => h w (.head hv hw), fun w hw => h w (.tail hw)⟩
  · rintro ⟨hSelf, hHead, hTail⟩ w hw
    cases hw with
    | here => exact hSelf
    | head hMem hInside => exact hHead _ hMem _ hInside
    | tail hInside => exact hTail _ hInside

end All

/-! ## Pairs -/

section Pairs

variable {p : Value → Prop} (hSyntax : ∀ v : Value, v.IsSyntax → p v)

include hSyntax

theorem all_cons {first second : Value} (hFirst : All p first) (hSecond : All p second) :
    All p (cons first second) := by
  unfold cons
  split
  · next items =>
      refine all_list_iff.2 ⟨hSyntax _ trivial, ?_⟩
      exact List.forall_mem_cons.2 ⟨hFirst, (all_list_iff.1 hSecond).2⟩
  · next head tail =>
      obtain ⟨-, hHead, hTail⟩ := all_dotted_iff.1 hSecond
      refine all_dotted_iff.2 ⟨hSyntax _ (List.cons_ne_nil _ _), ?_, hTail⟩
      exact List.forall_mem_cons.2 ⟨hFirst, hHead⟩
  · refine all_dotted_iff.2 ⟨hSyntax _ (List.cons_ne_nil _ _), ?_, hSecond⟩
    exact List.forall_mem_singleton.2 hFirst

theorem all_of_uncons? {v first second : Value} (hv : All p v)
    (h : v.uncons? = some (first, second)) : All p first ∧ All p second := by
  unfold uncons? at h
  split at h
  · cases h
    obtain ⟨hFirst, hRest⟩ := List.forall_mem_cons.1 (all_list_iff.1 hv).2
    exact ⟨hFirst, all_list_iff.2 ⟨hSyntax _ trivial, hRest⟩⟩
  · cases h
    obtain ⟨-, hHead, hTail⟩ := all_dotted_iff.1 hv
    exact ⟨hHead _ List.mem_cons_self, hTail⟩
  · cases h
    obtain ⟨-, hHead, hTail⟩ := all_dotted_iff.1 hv
    obtain ⟨hFirst, hRest⟩ := List.forall_mem_cons.1 hHead
    exact ⟨hFirst, all_dotted_iff.2 ⟨hSyntax _ (List.cons_ne_nil _ _), hRest, hTail⟩⟩
  · cases h

end Pairs

end Value

/-! ## What primitives answer -/

/-- The error is about the arguments of a call: their number, what they are,
or a divisor among them. -/
def Error.IsAboutArguments : Error → Prop
  | .arity _ _ | .type _ _ | .divisionByZero => True
  | _ => False

/-- The answer is as `good` says, or an error about the arguments. -/
def Answers {α : Type} (good : α → Prop) : Except Error α → Prop
  | .ok a => good a
  | .error e => e.IsAboutArguments

namespace Answers

variable {α β : Type} {good : α → Prop} {better : β → Prop}

theorem bind {x : Except Error α} {f : α → Except Error β} (hx : Answers good x)
    (hf : ∀ a, good a → Answers better (f a)) : Answers better (x >>= f) := by
  cases x with
  | ok a => exact hf a hx
  | error e => exact hx

theorem map {x : Except Error α} {f : α → β} (hx : Answers good x)
    (hf : ∀ a, good a → better (f a)) : Answers better (x.map f) := by
  cases x with
  | ok a => exact hf a hx
  | error e => exact hx

theorem toInt (v : Value) : Answers (fun _ => True) v.toInt := by
  unfold Value.toInt
  split <;> trivial

theorem toText (v : Value) : Answers (fun _ => True) v.toText := by
  unfold Value.toText
  split <;> trivial

theorem toBool (v : Value) : Answers (fun _ => True) v.toBool := by
  unfold Value.toBool
  split <;> trivial

theorem toName (v : Value) : Answers (fun _ => True) v.toName := by
  unfold Value.toName
  split <;> trivial

theorem toItems {p : Value → Prop} {v : Value} (hv : v.All p) :
    Answers (fun items => ∀ w ∈ items, Value.All p w) v.toItems := by
  unfold Value.toItems
  split
  · exact (Value.all_list_iff.1 hv).2
  · trivial

theorem toPair {p : Value → Prop} (hSyntax : ∀ v : Value, v.IsSyntax → p v) {v : Value}
    (hv : v.All p) : Answers (fun parts => parts.1.All p ∧ parts.2.All p) v.toPair := by
  unfold Value.toPair
  split
  · next h => exact Value.all_of_uncons? hSyntax hv h
  · trivial

theorem mapM {f : Value → Except Error β} (hf : ∀ v, Answers (fun _ => True) (f v))
    (vs : List Value) : Answers (fun _ => True) (vs.mapM f) := by
  induction vs with
  | nil => trivial
  | cons v vs ih =>
      rw [List.mapM_cons]
      exact (hf v).bind fun _ _ => ih.bind fun _ _ => trivial

theorem foldlM {f : α → Value → Except Error α} (hf : ∀ a v, Answers (fun _ => True) (f a v))
    (vs : List Value) (a : α) : Answers (fun _ => True) (vs.foldlM f a) := by
  induction vs generalizing a with
  | nil => trivial
  | cons v vs ih =>
      rw [List.foldlM_cons]
      exact (hf a v).bind fun b _ => ih b

end Answers

namespace Primitive

variable {α : Type} {good : α → Prop}

theorem answers_unary {f : Value → Except Error α} {args : List Value}
    (hf : ∀ v ∈ args, Answers good (f v)) : Answers good (unary f args) := by
  unfold unary
  split
  · exact hf _ List.mem_cons_self
  · trivial

theorem answers_binary {f : Value → Value → Except Error α} {args : List Value}
    (hf : ∀ v ∈ args, ∀ w ∈ args, Answers good (f v w)) : Answers good (binary f args) := by
  unfold binary
  split
  · exact hf _ List.mem_cons_self _ (List.mem_cons_of_mem _ List.mem_cons_self)
  · trivial

theorem answers_fold (op : Arithmetic) (args : List Value) :
    Answers (fun _ => True) (op.fold args) := by
  unfold Arithmetic.fold
  split
  · refine (Answers.toInt _).bind fun a _ => Answers.foldlM (fun b v => ?_) _ a
    refine (Answers.toInt v).bind fun c _ => ?_
    unfold Arithmetic.combine
    split <;> trivial
  · trivial

/-- **What a primitive that only computes can answer**: what holds of atoms
and lists and of all that occurs in the arguments holds of all that occurs
in the answer. -/
theorem answers_pure? {p : Value → Prop} (hSyntax : ∀ v : Value, v.IsSyntax → p v)
    {op : Primitive} {f : List Value → Except Error Value} (hOp : op.pure? = some f)
    {args : List Value} (hArgs : ∀ v ∈ args, v.All p) : Answers (Value.All p) (f args) := by
  have hAtom : ∀ v : Value, v.isLeaf = true → v.IsSyntax → v.All p := fun v hLeaf hv =>
    (Value.all_iff_of_isLeaf hLeaf).2 (hSyntax v hv)
  have hRelation : ∀ {α : Type} {convert : Value → Except Error α} (test : α → α → Bool),
      (∀ v, Answers (fun _ => True) (convert v)) →
        Answers (Value.All p) (relation convert test args) := by
    intro α convert test hConvert
    refine answers_binary fun v _ w _ => ?_
    exact (hConvert v).bind fun a _ => (hConvert w).bind fun b _ => hAtom _ rfl trivial
  cases op with
  | arithmetic op =>
      cases hOp
      exact (answers_fold op args).map fun n _ => hAtom _ rfl trivial
  | compareNumbers op =>
      cases hOp
      exact hRelation _ Answers.toInt
  | connect op =>
      cases hOp
      exact hRelation _ Answers.toBool
  | compareStrings op =>
      cases hOp
      exact hRelation _ Answers.toText
  | car =>
      cases hOp
      exact answers_unary fun v hv => (Answers.toPair hSyntax (hArgs v hv)).map fun _ h => h.1
  | cdr =>
      cases hOp
      exact answers_unary fun v hv => (Answers.toPair hSyntax (hArgs v hv)).map fun _ h => h.2
  | cons =>
      cases hOp
      exact answers_binary fun v hv w hw => Value.all_cons hSyntax (hArgs v hv) (hArgs w hw)
  | list =>
      cases hOp
      exact Value.all_list_iff.2 ⟨hSyntax _ trivial, hArgs⟩
  | length =>
      cases hOp
      exact answers_unary fun v hv =>
        (Answers.toItems (hArgs v hv)).map fun _ _ => hAtom _ rfl trivial
  | eqv =>
      cases hOp
      exact answers_binary fun _ _ _ _ => hAtom _ rfl trivial
  | equal =>
      cases hOp
      exact answers_binary fun _ _ _ _ => hAtom _ rfl trivial
  | test kind =>
      cases hOp
      exact answers_unary fun _ _ => hAtom _ rfl trivial
  | stringLength =>
      cases hOp
      exact answers_unary fun v _ => (Answers.toText v).map fun _ _ => hAtom _ rfl trivial
  | stringAppend =>
      cases hOp
      exact (Answers.mapM Answers.toText args).map fun _ _ => hAtom _ rfl trivial
  | symbolToString =>
      cases hOp
      exact answers_unary fun v _ => (Answers.toName v).map fun _ _ => hAtom _ rfl trivial
  | stringToSymbol =>
      cases hOp
      exact answers_unary fun v _ => (Answers.toText v).map fun _ _ => hAtom _ rfl trivial
  | display | write | newline | read | load | apply => cases hOp

end Primitive

end MiniScheme
