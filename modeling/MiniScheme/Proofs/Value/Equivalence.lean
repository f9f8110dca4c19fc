import MiniScheme.Proofs.Value.Occurs

/-!
# Equivalence decides identity

The language has two equivalence predicates that are written apart: `equal`
descends into lists on its own account, `eqv` does so as well.  This module
shows that **they are one relation**, and says which one without either of
them.

`Identical a b` compares two values constructor by constructor, a procedure
by what it is known by.  It knows nothing of the order in which cases are
tried.  Equivalence is identity, with one exception: a foreign value is
equivalent to nothing, and so is whatever it occurs in.

What holds at the top holds at every depth.  `Meets a b x y` says that `x`
and `y` stand at one place of `a` and `b`; equivalent values meet in
equivalent parts only, so a truth value never passes for a number, nor a
proper list for a dotted one, however deep they lie.

## Main results

* `equal_eq_eqv` — the two predicates agree.
* `eqv_iff_identical` — equivalence is identity without foreign values.
* `Identical.eq` — identity is equality, where what a procedure is known by
  belongs to one procedure.
* `eqv_dotted` — a dotted list is compared like the list of its elements and
  its tail.
-/

namespace MiniScheme.Value

/-! ## Induction over the parts of a value -/

/-- What holds of values without parts, and of a list if it holds of its
parts, holds of all values. -/
@[elab_as_elim]
theorem partsInduction {motive : Value → Prop} (leaf : ∀ v, v.isLeaf = true → motive v)
    (list : ∀ items, (∀ v ∈ items, motive v) → motive (.list items))
    (dotted : ∀ head tail, (∀ v ∈ head, motive v) → motive tail → motive (.dotted head tail)) :
    ∀ v, motive v
  | .list items => list items fun v hv =>
      have := List.sizeOf_lt_of_mem hv
      partsInduction leaf list dotted v
  | .dotted head tail => dotted head tail
      (fun v hv =>
        have := List.sizeOf_lt_of_mem hv
        partsInduction leaf list dotted v)
      (partsInduction leaf list dotted tail)
  | .symbol name => leaf _ rfl
  | .int n => leaf _ rfl
  | .string text => leaf _ rfl
  | .bool b => leaf _ rfl
  | .char c => leaf _ rfl
  | .primitive name op => leaf _ rfl
  | .closure fn => leaf _ rfl
  | .foreign => leaf _ rfl
termination_by v => sizeOf v

/-! ## Identity -/

/-- The same value, constructor by constructor.  A primitive is known by its
name and a closure by its number. -/
inductive Identical : Value → Value → Prop
  | symbol (name : String) : Identical (.symbol name) (.symbol name)
  | int (n : Int) : Identical (.int n) (.int n)
  | string (text : String) : Identical (.string text) (.string text)
  | bool (b : Bool) : Identical (.bool b) (.bool b)
  | char (c : Char) : Identical (.char c) (.char c)
  | list {xs ys : List Value} (hLength : xs.length = ys.length)
      (hItems : ∀ (i : Nat) (x y : Value), xs[i]? = some x → ys[i]? = some y → Identical x y) :
      Identical (.list xs) (.list ys)
  | dotted {xs ys : List Value} {x y : Value} (hLength : xs.length = ys.length)
      (hHead : ∀ (i : Nat) (x y : Value), xs[i]? = some x → ys[i]? = some y → Identical x y)
      (hTail : Identical x y) : Identical (.dotted xs x) (.dotted ys y)
  | primitive (name : String) (op op' : Primitive) :
      Identical (.primitive name op) (.primitive name op')
  | closure {f g : Closure Value} (hId : f.id = g.id) : Identical (.closure f) (.closure g)
  | foreign : Identical .foreign .foreign

namespace Identical

variable {a b c : Value}

theorem refl (a : Value) : Identical a a := by
  induction a using partsInduction with
  | leaf v hLeaf =>
      cases v with
      | list | dotted => cases hLeaf
      | symbol => exact .symbol _
      | int => exact .int _
      | string => exact .string _
      | bool => exact .bool _
      | char => exact .char _
      | primitive => exact .primitive _ _ _
      | closure => exact .closure rfl
      | foreign => exact .foreign
  | list items ih =>
      refine .list rfl fun i x y hx hy => ?_
      rw [hx] at hy
      cases hy
      exact ih x (List.mem_of_getElem? hx)
  | dotted head tail ihHead ihTail =>
      refine .dotted rfl (fun i x y hx hy => ?_) ihTail
      rw [hx] at hy
      cases hy
      exact ihHead x (List.mem_of_getElem? hx)

theorem symm (h : Identical a b) : Identical b a := by
  induction h with
  | symbol | int | string | bool | char | foreign => exact .refl _
  | list hLength _ ih => exact .list hLength.symm fun i x y hx hy => ih i y x hy hx
  | dotted hLength _ _ ihHead ihTail =>
      exact .dotted hLength.symm (fun i x y hx hy => ihHead i y x hy hx) ihTail
  | primitive name op op' => exact .primitive name op' op
  | closure hId => exact .closure hId.symm

/-- Where two lists have the same length, what stands at a place of one has
something opposite in the other. -/
theorem exists_opposite {xs ys : List Value} (hLength : xs.length = ys.length) {i : Nat}
    {x : Value} (hx : xs[i]? = some x) : ∃ y, ys[i]? = some y := by
  obtain ⟨hBound, -⟩ := List.getElem?_eq_some_iff.1 hx
  exact ⟨_, List.getElem?_eq_getElem (hLength ▸ hBound)⟩

theorem trans (h : Identical a b) (h' : Identical b c) : Identical a c := by
  induction h generalizing c with
  | symbol | int | string | bool | char | foreign => exact h'
  | list hLength _ ih =>
      cases h' with
      | list hLength' hItems' =>
          refine .list (hLength.trans hLength') fun i x z hx hz => ?_
          obtain ⟨y, hy⟩ := exists_opposite hLength hx
          exact ih i x y hx hy (hItems' i y z hy hz)
  | dotted hLength _ _ ihHead ihTail =>
      cases h' with
      | dotted hLength' hHead' hTail' =>
          refine .dotted (hLength.trans hLength') (fun i x z hx hz => ?_) (ihTail hTail')
          obtain ⟨y, hy⟩ := exists_opposite hLength hx
          exact ihHead i x y hx hy (hHead' i y z hy hz)
  | primitive name op op' =>
      cases h' with
      | primitive _ _ op'' => exact .primitive name op op''
  | closure hId =>
      cases h' with
      | closure hId' => exact .closure (hId.trans hId')

/-- Lists that are equal place by place are equal. -/
theorem eq_of_places {xs ys : List Value} (hLength : xs.length = ys.length)
    (hPlaces : ∀ (i : Nat) (x y : Value), xs[i]? = some x → ys[i]? = some y → x = y) :
    xs = ys := by
  refine List.ext_getElem hLength fun i hx hy => ?_
  exact hPlaces i _ _ (List.getElem?_eq_getElem hx) (List.getElem?_eq_getElem hy)

/-- **Identity is equality** where what a procedure is known by belongs to one
procedure. -/
theorem eq (h : Identical a b)
    (hUnique : ∀ p q, Occurs p a → Occurs q b → p.isKind .procedure = true → Identical p q →
      p = q) : a = b := by
  induction h with
  | symbol | int | string | bool | char | foreign => rfl
  | list hLength _ ih =>
      have hSame := eq_of_places hLength fun i x y hx hy =>
        ih i x y hx hy fun p q hp hq => hUnique p q
          (.item (List.mem_of_getElem? hx) hp) (.item (List.mem_of_getElem? hy) hq)
      rw [hSame]
  | dotted hLength _ _ ihHead ihTail =>
      have hSame := eq_of_places hLength fun i x y hx hy =>
        ihHead i x y hx hy fun p q hp hq => hUnique p q
          (.head (List.mem_of_getElem? hx) hp) (.head (List.mem_of_getElem? hy) hq)
      rw [hSame, ihTail fun p q hp hq => hUnique p q (.tail hp) (.tail hq)]
  | primitive name op op' => exact hUnique _ _ .here .here rfl (.primitive name op op')
  | closure hId => exact hUnique _ _ .here .here rfl (.closure hId)

end Identical

/-! ## Foreign values -/

/-- No foreign value occurs in the value. -/
def ForeignFree (v : Value) : Prop := v.All (· ≠ .foreign)

theorem foreignFree_list_iff {items : List Value} :
    (list items).ForeignFree ↔ ∀ v ∈ items, v.ForeignFree := by
  rw [ForeignFree, all_list_iff]
  exact ⟨fun h => h.2, fun h => ⟨nofun, h⟩⟩

theorem foreignFree_dotted_iff {head : List Value} {tail : Value} :
    (dotted head tail).ForeignFree ↔ (∀ v ∈ head, v.ForeignFree) ∧ tail.ForeignFree := by
  rw [ForeignFree, all_dotted_iff]
  exact ⟨fun h => h.2, fun h => ⟨nofun, h⟩⟩

/-- A foreign value in one of two identical values is in both. -/
theorem Identical.foreignFree {a b : Value} (h : Identical a b) (hFree : a.ForeignFree) :
    b.ForeignFree := by
  induction h with
  | symbol | int | string | bool | char | foreign => exact hFree
  | list hLength _ ih =>
      rw [foreignFree_list_iff] at hFree ⊢
      intro y hMem
      obtain ⟨i, hy⟩ := List.mem_iff_getElem?.1 hMem
      obtain ⟨x, hx⟩ := exists_opposite hLength.symm hy
      exact ih i x y hx hy (hFree x (List.mem_of_getElem? hx))
  | dotted hLength _ _ ihHead ihTail =>
      rw [foreignFree_dotted_iff] at hFree ⊢
      refine ⟨fun y hMem => ?_, ihTail hFree.2⟩
      obtain ⟨i, hy⟩ := List.mem_iff_getElem?.1 hMem
      obtain ⟨x, hx⟩ := exists_opposite hLength.symm hy
      exact ihHead i x y hx hy (hFree.1 x (List.mem_of_getElem? hx))
  | primitive | closure => exact (all_iff_of_isLeaf rfl).2 nofun

/-! ## Equivalence -/

theorem eqvAll_iff {xs ys : List Value} :
    eqvAll xs ys = true ↔ xs.length = ys.length ∧
      ∀ (i : Nat) (x y : Value), xs[i]? = some x → ys[i]? = some y → x.eqv y = true := by
  induction xs generalizing ys with
  | nil => cases ys <;> simp [eqvAll]
  | cons x xs ih =>
      cases ys with
      | nil => simp [eqvAll]
      | cons y ys =>
          rw [eqvAll, Bool.and_eq_true, ih, List.length_cons, List.length_cons,
            Nat.add_right_cancel_iff]
          constructor
          · rintro ⟨hFirst, hLength, hRest⟩
            refine ⟨hLength, fun i u v hu hv => ?_⟩
            cases i with
            | zero =>
                cases hu
                cases hv
                exact hFirst
            | succ i => exact hRest i u v hu hv
          · rintro ⟨hLength, hAll⟩
            exact ⟨hAll 0 x y rfl rfl, hLength, fun i u v hu hv => hAll (i + 1) u v hu hv⟩

/-- All the ways in which two values are equivalent. -/
theorem eqv_cases {a b : Value} (h : a.eqv b = true) :
    (a.isLeaf = true ∧ a ≠ .foreign ∧ Identical a b) ∨
    (∃ xs ys, a = .list xs ∧ b = .list ys ∧ eqvAll xs ys = true) ∨
    (∃ xs x ys y, a = .dotted xs x ∧ b = .dotted ys y ∧ eqvAll xs ys = true ∧
      x.eqv y = true) := by
  unfold eqv at h
  split at h
  · obtain rfl := eq_of_beq h
    exact .inl ⟨rfl, nofun, .symbol _⟩
  · obtain rfl := eq_of_beq h
    exact .inl ⟨rfl, nofun, .int _⟩
  · obtain rfl := eq_of_beq h
    exact .inl ⟨rfl, nofun, .string _⟩
  · obtain rfl := eq_of_beq h
    exact .inl ⟨rfl, nofun, .bool _⟩
  · obtain rfl := eq_of_beq h
    exact .inl ⟨rfl, nofun, .char _⟩
  · exact .inr (.inl ⟨_, _, rfl, rfl, h⟩)
  · obtain ⟨hHead, hTail⟩ := Bool.and_eq_true_iff.1 h
    exact .inr (.inr ⟨_, _, _, _, rfl, rfl, hHead, hTail⟩)
  · obtain rfl := eq_of_beq h
    exact .inl ⟨rfl, nofun, .primitive _ _ _⟩
  · exact .inl ⟨rfl, nofun, .closure (eq_of_beq h)⟩
  · cases h

theorem identical_of_eqv {a b : Value} (h : a.eqv b = true) :
    Identical a b ∧ a.ForeignFree := by
  induction a using partsInduction generalizing b with
  | leaf v hLeaf =>
      rcases eqv_cases h with ⟨-, hForeign, hSame⟩ | ⟨_, _, rfl, -, -⟩ |
        ⟨_, _, _, _, rfl, -, -, -⟩
      · exact ⟨hSame, (all_iff_of_isLeaf hLeaf).2 hForeign⟩
      · cases hLeaf
      · cases hLeaf
  | list items ih =>
      rcases eqv_cases h with ⟨hLeaf, -, -⟩ | ⟨xs, ys, hItems, rfl, hAll⟩ |
        ⟨_, _, _, _, hItems, -, -, -⟩
      · cases hLeaf
      · cases hItems
        obtain ⟨hLength, hPlaces⟩ := eqvAll_iff.1 hAll
        refine ⟨.list hLength fun i x y hx hy => ?_, foreignFree_list_iff.2 fun x hMem => ?_⟩
        · exact (ih x (List.mem_of_getElem? hx) (hPlaces i x y hx hy)).1
        · obtain ⟨i, hx⟩ := List.mem_iff_getElem?.1 hMem
          obtain ⟨y, hy⟩ := Identical.exists_opposite hLength hx
          exact (ih x hMem (hPlaces i x y hx hy)).2
      · cases hItems
  | dotted head tail ihHead ihTail =>
      rcases eqv_cases h with ⟨hLeaf, -, -⟩ | ⟨_, _, hItems, -, -⟩ |
        ⟨xs, x, ys, y, hItems, rfl, hAll, hTail⟩
      · cases hLeaf
      · cases hItems
      · cases hItems
        obtain ⟨hLength, hPlaces⟩ := eqvAll_iff.1 hAll
        obtain ⟨hSame, hFree⟩ := ihTail hTail
        refine ⟨.dotted hLength (fun i x y hx hy => ?_) hSame,
          foreignFree_dotted_iff.2 ⟨fun x hMem => ?_, hFree⟩⟩
        · exact (ihHead x (List.mem_of_getElem? hx) (hPlaces i x y hx hy)).1
        · obtain ⟨i, hx⟩ := List.mem_iff_getElem?.1 hMem
          obtain ⟨y, hy⟩ := Identical.exists_opposite hLength hx
          exact (ihHead x hMem (hPlaces i x y hx hy)).2

theorem Identical.eqv {a b : Value} (h : Identical a b) (hFree : a.ForeignFree) :
    a.eqv b = true := by
  induction h with
  | symbol | int | string | bool | char | primitive =>
      rw [Value.eqv, beq_self_eq_true]
  | list hLength _ ih =>
      rw [foreignFree_list_iff] at hFree
      exact eqvAll_iff.2 ⟨hLength, fun i x y hx hy => ih i x y hx hy
        (hFree x (List.mem_of_getElem? hx))⟩
  | dotted hLength _ _ ihHead ihTail =>
      rw [foreignFree_dotted_iff] at hFree
      rw [Value.eqv, Bool.and_eq_true]
      exact ⟨eqvAll_iff.2 ⟨hLength, fun i x y hx hy => ihHead i x y hx hy
        (hFree.1 x (List.mem_of_getElem? hx))⟩, ihTail hFree.2⟩
  | closure hId => rw [Value.eqv, hId, beq_self_eq_true]
  | foreign => exact absurd rfl hFree.self

/-- **Equivalence is identity without foreign values.** -/
theorem eqv_iff_identical {a b : Value} :
    a.eqv b = true ↔ Identical a b ∧ a.ForeignFree ∧ b.ForeignFree := by
  constructor
  · intro h
    obtain ⟨hSame, hFree⟩ := identical_of_eqv h
    exact ⟨hSame, hFree, hSame.foreignFree hFree⟩
  · rintro ⟨hSame, hFree, -⟩
    exact hSame.eqv hFree

theorem eqv_self_iff {a : Value} : a.eqv a = true ↔ a.ForeignFree := by
  rw [eqv_iff_identical]
  exact ⟨fun h => h.2.1, fun h => ⟨.refl a, h, h⟩⟩

theorem eqv_comm (a b : Value) : a.eqv b = b.eqv a := by
  rw [Bool.eq_iff_iff, eqv_iff_identical, eqv_iff_identical]
  exact ⟨fun h => ⟨h.1.symm, h.2.2, h.2.1⟩, fun h => ⟨h.1.symm, h.2.2, h.2.1⟩⟩

theorem eqv_trans {a b c : Value} (h : a.eqv b = true) (h' : b.eqv c = true) :
    a.eqv c = true := by
  rw [eqv_iff_identical] at h h' ⊢
  exact ⟨h.1.trans h'.1, h.2.1, h'.2.2⟩

/-! ## The two predicates -/

theorem equalAll_eq_eqvAll {xs ys : List Value}
    (h : ∀ x ∈ xs, ∀ y, x.equal y = x.eqv y) : equalAll xs ys = eqvAll xs ys := by
  induction xs generalizing ys with
  | nil => cases ys <;> rfl
  | cons x xs ih =>
      obtain ⟨hFirst, hRest⟩ := List.forall_mem_cons.1 h
      cases ys with
      | nil => rfl
      | cons y ys => rw [equalAll, eqvAll, hFirst y, ih hRest]

/-- **The two predicates agree.** -/
theorem equal_eq_eqv (a b : Value) : a.equal b = a.eqv b := by
  induction a using partsInduction generalizing b with
  | leaf v hLeaf =>
      unfold equal
      split
      · cases hLeaf
      · cases hLeaf
      · rfl
  | list items ih =>
      cases b with
      | list ys => exact equalAll_eq_eqvAll ih
      | _ => rfl
  | dotted head tail ihHead ihTail =>
      cases b with
      | dotted ys y => rw [equal, eqv, equalAll_eq_eqvAll ihHead, ihTail y]
      | _ => rfl

theorem eqvAll_concat (xs ys : List Value) (x y : Value) :
    eqvAll (xs ++ [x]) (ys ++ [y]) = (eqvAll xs ys && x.eqv y) := by
  induction xs generalizing ys with
  | nil => cases ys <;> simp [eqvAll]
  | cons u xs ih =>
      cases ys with
      | nil => cases xs <;> simp [eqvAll]
      | cons v ys => simp [eqvAll, ih, Bool.and_assoc]

/-- **A dotted list is compared like the list of its elements and its tail**:
no element of one takes the place of the tail of the other. -/
theorem eqv_dotted (xs ys : List Value) (x y : Value) :
    (dotted xs x).eqv (.dotted ys y) = (list (xs ++ [x])).eqv (.list (ys ++ [y])) := by
  rw [eqv, eqv, eqvAll_concat]

/-! ## Places -/

/-- `x` and `y` stand at one place of `a` and `b`. -/
inductive Meets : Value → Value → Value → Value → Prop
  | here (a b : Value) : Meets a b a b
  | item {xs ys : List Value} {i : Nat} {u v x y : Value} (hu : xs[i]? = some u)
      (hv : ys[i]? = some v) (hInside : Meets u v x y) : Meets (.list xs) (.list ys) x y
  | head {xs ys : List Value} {s t : Value} {i : Nat} {u v x y : Value} (hu : xs[i]? = some u)
      (hv : ys[i]? = some v) (hInside : Meets u v x y) : Meets (.dotted xs s) (.dotted ys t) x y
  | tail {xs ys : List Value} {s t x y : Value} (hInside : Meets s t x y) :
      Meets (.dotted xs s) (.dotted ys t) x y

/-- Values of kinds that are kept apart: a truth value and a number, a proper
list and a dotted one. -/
inductive Clash : Value → Value → Prop
  | boolInt (b : Bool) (n : Int) : Clash (.bool b) (.int n)
  | intBool (n : Int) (b : Bool) : Clash (.int n) (.bool b)
  | listDotted (items head : List Value) (tail : Value) : Clash (.list items) (.dotted head tail)
  | dottedList (head : List Value) (tail : Value) (items : List Value) :
      Clash (.dotted head tail) (.list items)

/-- Identical values meet in identical parts. -/
theorem Meets.identical {a b x y : Value} (h : Meets a b x y) (hSame : Identical a b) :
    Identical x y := by
  induction h with
  | here => exact hSame
  | item hu hv _ ih =>
      cases hSame with
      | list _ hItems => exact ih (hItems _ _ _ hu hv)
  | head hu hv _ ih =>
      cases hSame with
      | dotted _ hHead _ => exact ih (hHead _ _ _ hu hv)
  | tail _ ih =>
      cases hSame with
      | dotted _ _ hTail => exact ih hTail

theorem Clash.not_identical {x y : Value} (h : Clash x y) : ¬ Identical x y := by
  intro hSame
  cases h <;> cases hSame

/-- **Equivalence decides identity.**  For all values:

* the two predicates agree;
* they hold of values that are identical constructor by constructor and in
  which no foreign value occurs, and of no others;
* where what a procedure is known by belongs to one procedure, this is
  equality;
* a dotted list may be compared like the list of its elements and its tail;
* so the relation is symmetric and transitive, and reflexive exactly where
  no foreign value occurs;
* values that clash at any place, however deep, are not equivalent. -/
theorem equivalence_decides_identity (a b c : Value) :
    a.equal b = a.eqv b ∧
    (a.eqv b = true ↔ Identical a b ∧ a.ForeignFree ∧ b.ForeignFree) ∧
    ((∀ p q, Occurs p a → Occurs q b → p.isKind .procedure = true → Identical p q → p = q) →
      (a.eqv b = true ↔ a = b ∧ a.ForeignFree)) ∧
    (∀ xs x ys y, (dotted xs x).eqv (.dotted ys y) = (list (xs ++ [x])).eqv (.list (ys ++ [y]))) ∧
    a.eqv b = b.eqv a ∧
    (a.eqv b = true → b.eqv c = true → a.eqv c = true) ∧
    (a.eqv a = true ↔ a.ForeignFree) ∧
    (∀ x y, Meets a b x y → Clash x y → a.eqv b = false) := by
  refine ⟨equal_eq_eqv a b, eqv_iff_identical, fun hUnique => ⟨fun h => ?_, ?_⟩,
    fun xs x ys y => eqv_dotted xs ys x y, eqv_comm a b, eqv_trans, eqv_self_iff,
    fun x y hMeets hClash => ?_⟩
  · obtain ⟨hSame, hFree⟩ := identical_of_eqv h
    exact ⟨hSame.eq hUnique, hFree⟩
  · rintro ⟨rfl, hFree⟩
    exact eqv_self_iff.2 hFree
  · rw [Bool.eq_false_iff]
    intro h
    exact hClash.not_identical (hMeets.identical (identical_of_eqv h).1)

/-- A list that ends in a dotted list, whose tail is a procedure, is
equivalent to itself.  With a number for the truth value before the dot it
is not. -/
theorem equivalence_decides_identity_nested :
    let f : Closure Value := { id := 3, params := ["x"], rest := none, body := [.int 1], frame := 0 }
    let a := list [.int 1, .dotted [.bool true] (.closure f)]
    let b := list [.int 1, .dotted [.int 1] (.closure f)]
    (∀ p q, Occurs p a → Occurs q a → p.isKind .procedure = true → Identical p q → p = q) ∧
      a.ForeignFree ∧ a.eqv a = true ∧ Meets a b (.bool true) (.int 1) ∧ a.eqv b = false := by
  intro f a b
  have hParts : ∀ good : Value → Prop, good a → good (.int 1) →
      good (.dotted [.bool true] (.closure f)) → good (.bool true) → good (.closure f) →
      a.All good := by
    intro good hList hInt hDotted hBool hClosure
    refine all_list_iff.2 ⟨hList, List.forall_mem_cons.2 ⟨(all_iff_of_isLeaf rfl).2 hInt,
      List.forall_mem_singleton.2 (all_dotted_iff.2 ⟨hDotted, ?_, ?_⟩)⟩⟩
    · exact List.forall_mem_singleton.2 ((all_iff_of_isLeaf rfl).2 hBool)
    · exact (all_iff_of_isLeaf rfl).2 hClosure
  have hOnly : a.All fun p => p.isKind .procedure = true → p = .closure f :=
    hParts _ nofun nofun nofun nofun fun _ => rfl
  have hUnique : ∀ p q, Occurs p a → Occurs q a → p.isKind .procedure = true →
      Identical p q → p = q := by
    intro p q hp hq hKind hSame
    obtain rfl := hOnly p hp hKind
    cases hSame with
    | closure => exact (hOnly _ hq rfl).symm
  have hFree : a.ForeignFree := hParts _ nofun nofun nofun nofun nofun
  have hMeets : Meets a b (.bool true) (.int 1) :=
    .item (i := 1) rfl rfl (.head (i := 0) rfl rfl (.here _ _))
  obtain ⟨-, -, hEqual, -, -, -, -, -⟩ := equivalence_decides_identity a a a
  obtain ⟨-, -, -, -, -, -, -, hApart⟩ := equivalence_decides_identity a b a
  exact ⟨hUnique, hFree, (hEqual hUnique).2 ⟨rfl, hFree⟩, hMeets, hApart _ _ hMeets (.boolInt _ _)⟩

end MiniScheme.Value
