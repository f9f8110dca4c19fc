import MiniScheme.Proofs.Value.Equivalence

/-!
# Lists as cons trees

The language speaks of pairs; the representation has proper lists and dotted
lists, and keeps whatever it is given.  `Value.tree` forgets the difference:
a value is seen as nested pairs that end in `nil` or in a leaf.  **Seen in
this way the list primitives are the constructor of pairs and its two
selectors**, whichever representation they meet.

What the view forgets can still be observed.  Taking a pair apart and
putting it together again changes its representation exactly when the pair
is spliced (`IsSpliced`): one element before the dot, and a list behind it.
Lists come to stand behind a dot because they were written there.  No list
primitive puts one there: values without such dots (`Normal`) make values
without them.

## Main results

* `tree_cons`, `tree_of_uncons?`, `exists_uncons?_iff` — the view of a pair.
* `cons_eq_iff_of_uncons?` — which pairs are put together again as they were.
* `list_primitives_refine_pairs` — all of this for the primitives.
-/

namespace MiniScheme

/-! ## The view -/

/-- Nested pairs: what is left of a value when the notation of its lists is
forgotten. -/
inductive ConsTree where
  | nil
  | pair (first second : ConsTree)
  | leaf (v : Value)

namespace Value

mutual

/-- The value as nested pairs. -/
def tree : Value → ConsTree
  | .list items => treeBefore items .nil
  | .dotted head tail => treeBefore head tail.tree
  | v => .leaf v

/-- Pairs for the elements, the last of which ends in the given tree. -/
def treeBefore : List Value → ConsTree → ConsTree
  | [], ending => ending
  | v :: vs, ending => .pair v.tree (treeBefore vs ending)

end

/-- If the value is dotted, something stands before the dot. -/
def HasHead : Value → Prop
  | .dotted head _ => head ≠ []
  | _ => True

/-- One element before the dot, and a list of either kind behind it. -/
def IsSpliced (v : Value) : Prop := ∃ first tail, v = .dotted [first] tail ∧ tail.isLeaf = false

/-- No dotted list that occurs in the value has a list of either kind behind
its dot. -/
def Normal (v : Value) : Prop :=
  v.All fun w => ∀ head tail, w = .dotted head tail → tail.isLeaf = true

section View

variable {v first second : Value} {items head : List Value} {tail : Value}

theorem tree_list_nil : (list []).tree = .nil := by
  rw [tree, treeBefore]

theorem tree_list_cons : (list (first :: items)).tree = .pair first.tree (list items).tree := by
  rw [tree, treeBefore, tree]

theorem tree_dotted_nil : (dotted [] tail).tree = tail.tree := by
  rw [tree, treeBefore]

theorem tree_dotted_cons :
    (dotted (first :: head) tail).tree = .pair first.tree (dotted head tail).tree := by
  rw [tree, treeBefore, tree]

theorem tree_of_isLeaf (h : v.isLeaf = true) : v.tree = .leaf v := by
  unfold tree
  split
  · cases h
  · cases h
  · rfl

/-- Putting an element in front makes a pair. -/
theorem tree_cons (first second : Value) :
    (cons first second).tree = .pair first.tree second.tree := by
  unfold cons
  split
  · exact tree_list_cons
  · exact tree_dotted_cons
  · rw [tree_dotted_cons, tree_dotted_nil]

/-- What is taken apart was a pair of its parts. -/
theorem tree_of_uncons? (h : v.uncons? = some (first, second)) :
    v.tree = .pair first.tree second.tree := by
  unfold uncons? at h
  split at h
  · cases h
    exact tree_list_cons
  · cases h
    rw [tree_dotted_cons, tree_dotted_nil]
  · cases h
    exact tree_dotted_cons
  · cases h

/-- All the shapes of a value in which something stands before the dot. -/
theorem HasHead.cases (h : v.HasHead) :
    (v = .nil ∧ v.uncons? = none) ∨ (v.isLeaf = true ∧ v.uncons? = none) ∨
      (v.isKind .pair = true ∧ ∃ parts, v.uncons? = some parts) := by
  cases v with
  | list items =>
      cases items with
      | nil => exact .inl ⟨rfl, rfl⟩
      | cons first rest => exact .inr (.inr ⟨rfl, _, rfl⟩)
  | dotted head tail =>
      match head with
      | [] => exact absurd rfl h
      | [first] => exact .inr (.inr ⟨rfl, _, rfl⟩)
      | first :: next :: rest => exact .inr (.inr ⟨rfl, _, rfl⟩)
  | _ => exact .inr (.inl ⟨rfl, rfl⟩)

/-- A value can be taken apart exactly when its tree is a pair. -/
theorem exists_uncons?_iff (h : v.HasHead) :
    (∃ parts, v.uncons? = some parts) ↔ ∃ s t, v.tree = .pair s t := by
  constructor
  · rintro ⟨parts, hParts⟩
    exact ⟨_, _, tree_of_uncons? hParts⟩
  · rintro ⟨s, t, hTree⟩
    rcases h.cases with ⟨rfl, -⟩ | ⟨hLeaf, -⟩ | ⟨-, hParts⟩
    · rw [tree_list_nil] at hTree
      cases hTree
    · rw [tree_of_isLeaf hLeaf] at hTree
      cases hTree
    · exact hParts

theorem isKind_pair_iff (h : v.HasHead) :
    v.isKind .pair = true ↔ ∃ s t, v.tree = .pair s t := by
  rw [← exists_uncons?_iff h]
  rcases h.cases with ⟨rfl, hNone⟩ | ⟨hLeaf, hNone⟩ | ⟨hKind, hParts⟩
  · simp [hNone, isKind]
  · rw [hNone]
    cases v with
    | list | dotted => cases hLeaf
    | _ => simp [isKind]
  · exact ⟨fun _ => hParts, fun _ => hKind⟩

theorem isKind_null_iff (h : v.HasHead) : v.isKind .null = true ↔ v.tree = .nil := by
  rcases h.cases with ⟨rfl, -⟩ | ⟨hLeaf, -⟩ | ⟨-, ⟨first, second⟩, hParts⟩
  · simp [tree_list_nil, isKind]
  · rw [tree_of_isLeaf hLeaf]
    cases v with
    | list | dotted => cases hLeaf
    | _ => simp [isKind]
  · rw [tree_of_uncons? hParts]
    cases v with
    | list items => cases items <;> simp [isKind, uncons?] at hParts ⊢
    | _ => simp [isKind]

end View

/-! ## Taking apart and putting together -/

section Parts

variable {v first second : Value}

/-- What was put together is taken apart again. -/
theorem uncons?_cons (first : Value) (h : second.HasHead) :
    (cons first second).uncons? = some (first, second) := by
  cases second with
  | dotted head tail =>
      cases head with
      | nil => exact absurd rfl h
      | cons next rest => rfl
  | _ => rfl

theorem not_isSpliced_list (items : List Value) : ¬ (list items).IsSpliced := by
  rintro ⟨_, _, hSame, -⟩
  cases hSame

theorem isSpliced_dotted_iff {tail : Value} :
    (dotted [first] tail).IsSpliced ↔ tail.isLeaf = false := by
  constructor
  · rintro ⟨_, _, hSame, hLeaf⟩
    cases hSame
    exact hLeaf
  · intro hLeaf
    exact ⟨first, tail, rfl, hLeaf⟩

/-- Behind the dot of a spliced pair the element in front joins a list, and
the pair is not identical to what it was. -/
theorem not_identical_cons_of_isSpliced (h : v.IsSpliced) (hHeads : v.All HasHead)
    (hParts : v.uncons? = some (first, second)) : ¬ Identical (cons first second) v := by
  obtain ⟨x, tail, rfl, hLeaf⟩ := h
  cases hParts
  intro hSame
  cases second with
  | list items => cases hSame
  | dotted head tail =>
      cases hSame with
      | dotted hLength _ _ =>
          have hNil : head = [] := List.length_eq_zero_iff.1 (Nat.succ.inj hLength)
          exact (all_dotted_iff.1 hHeads).2.2.self hNil
  | _ => cases hLeaf

theorem cons_of_not_isSpliced (h : ¬ v.IsSpliced) (hParts : v.uncons? = some (first, second)) :
    cons first second = v := by
  unfold uncons? at hParts
  split at hParts
  · cases hParts
    rfl
  · cases hParts
    rw [isSpliced_dotted_iff, Bool.not_eq_false] at h
    cases second with
    | list | dotted => cases h
    | _ => rfl
  · cases hParts
    rfl
  · cases hParts

/-- **Which pairs are put together again as they were**: all but the spliced
ones. -/
theorem cons_eq_iff_of_uncons? (hHeads : v.All HasHead)
    (hParts : v.uncons? = some (first, second)) : cons first second = v ↔ ¬ v.IsSpliced := by
  constructor
  · intro hSame hSpliced
    exact not_identical_cons_of_isSpliced hSpliced hHeads hParts (hSame ▸ .refl v)
  · exact fun h => cons_of_not_isSpliced h hParts

/-- For equivalence there is the further condition that nothing foreign
occurs in the pair. -/
theorem equal_cons_iff_of_uncons? (hHeads : v.All HasHead)
    (hParts : v.uncons? = some (first, second)) :
    (cons first second).equal v = true ↔ ¬ v.IsSpliced ∧ v.ForeignFree := by
  rw [equal_eq_eqv]
  constructor
  · intro h
    obtain ⟨hSame, -, hFree⟩ := eqv_iff_identical.1 h
    exact ⟨fun hSpliced => not_identical_cons_of_isSpliced hSpliced hHeads hParts hSame, hFree⟩
  · rintro ⟨hSpliced, hFree⟩
    rw [cons_of_not_isSpliced hSpliced hParts]
    exact eqv_self_iff.2 hFree

end Parts

/-! ## Values without lists behind dots -/

section Normal

variable {v first second : Value}

theorem normal_list_iff {items : List Value} :
    (list items).Normal ↔ ∀ v ∈ items, v.Normal := by
  rw [Normal, all_list_iff]
  exact ⟨fun h => h.2, fun h => ⟨nofun, h⟩⟩

theorem normal_dotted_iff {head : List Value} {tail : Value} :
    (dotted head tail).Normal ↔ tail.isLeaf = true ∧ (∀ v ∈ head, v.Normal) ∧ tail.Normal := by
  rw [Normal, all_dotted_iff]
  constructor
  · rintro ⟨hTail, hParts⟩
    exact ⟨hTail head tail rfl, hParts⟩
  · rintro ⟨hTail, hParts⟩
    refine ⟨fun head' tail' hSame => ?_, hParts⟩
    cases hSame
    exact hTail

theorem Normal.cons (hFirst : first.Normal) (hSecond : second.Normal) :
    (Value.cons first second).Normal := by
  cases second with
  | list items =>
      exact normal_list_iff.2 (List.forall_mem_cons.2 ⟨hFirst, normal_list_iff.1 hSecond⟩)
  | dotted head tail =>
      obtain ⟨hLeaf, hHead, hTail⟩ := normal_dotted_iff.1 hSecond
      exact normal_dotted_iff.2 ⟨hLeaf, List.forall_mem_cons.2 ⟨hFirst, hHead⟩, hTail⟩
  | _ => exact normal_dotted_iff.2 ⟨rfl, List.forall_mem_singleton.2 hFirst, hSecond⟩

theorem Normal.of_uncons? (h : v.Normal) (hParts : v.uncons? = some (first, second)) :
    first.Normal ∧ second.Normal := by
  unfold uncons? at hParts
  split at hParts
  · cases hParts
    obtain ⟨hFirst, hRest⟩ := List.forall_mem_cons.1 (normal_list_iff.1 h)
    exact ⟨hFirst, normal_list_iff.2 hRest⟩
  · cases hParts
    obtain ⟨-, hHead, hTail⟩ := normal_dotted_iff.1 h
    exact ⟨hHead _ List.mem_cons_self, hTail⟩
  · cases hParts
    obtain ⟨hLeaf, hHead, hTail⟩ := normal_dotted_iff.1 h
    obtain ⟨hFirst, hRest⟩ := List.forall_mem_cons.1 hHead
    exact ⟨hFirst, normal_dotted_iff.2 ⟨hLeaf, hRest, hTail⟩⟩
  · cases hParts

end Normal

end Value

/-! ## The primitives -/

namespace Primitive

open Value

/-- What a primitive that only computes answers to its arguments. -/
def answer? (op : Primitive) (args : List Value) : Option (Except Error Value) :=
  op.pure?.map fun f => f args

theorem answer?_parts {v first second : Value} (h : v.uncons? = some (first, second)) :
    car.answer? [v] = some (.ok first) ∧ cdr.answer? [v] = some (.ok second) := by
  simp [answer?, pure?, unary, toPair, h, Except.map]

theorem answer?_no_parts {v : Value} (h : v.uncons? = none) :
    car.answer? [v] = some (.error (.type .pair v)) ∧
      cdr.answer? [v] = some (.error (.type .pair v)) := by
  simp [answer?, pure?, unary, toPair, h, Except.map]

theorem answers_toPair_normal {v : Value} (hv : v.Normal) :
    Answers (fun parts => parts.1.Normal ∧ parts.2.Normal) v.toPair := by
  unfold toPair
  split
  · next hParts => exact hv.of_uncons? hParts
  · trivial

/-- The list primitives make normal values of normal values. -/
theorem normal_of_answer? {op : Primitive} (hOp : op ∈ [car, cdr, cons, list]) {args : List Value}
    (hArgs : ∀ w ∈ args, w.Normal) {v : Value} (h : op.answer? args = some (.ok v)) :
    v.Normal := by
  obtain ⟨f, hf, hAnswer⟩ := Option.map_eq_some_iff.1 h
  suffices hGood : Answers Normal (f args) by
    rw [hAnswer] at hGood
    exact hGood
  simp only [List.mem_cons, List.not_mem_nil, or_false] at hOp
  rcases hOp with rfl | rfl | rfl | rfl <;> cases hf
  · exact answers_unary fun w hw => (answers_toPair_normal (hArgs w hw)).map fun _ h => h.1
  · exact answers_unary fun w hw => (answers_toPair_normal (hArgs w hw)).map fun _ h => h.2
  · exact answers_binary fun u hu w hw => (hArgs u hu).cons (hArgs w hw)
  · exact normal_list_iff.2 hArgs

/-- **The list primitives implement pairs over two representations.**  For
all values before whose dots something stands:

* `cons` makes the pair of two values, and `car` and `cdr` give them back;
* `pair?` and `null?` tell whether a tree is a pair and whether it is empty;
* of a pair `car` and `cdr` return its parts, and they refuse everything
  else with a type error;
* a pair that is taken apart and put together again is what it was exactly
  if it was not spliced, and it is `equal?` to what it was exactly if
  moreover nothing foreign occurs in it;
* no list primitive puts a list behind a dot: what it makes of values
  without such dots is without them. -/
theorem list_primitives_refine_pairs (a d p : Value) (hd : d.All HasHead) (hp : p.All HasHead) :
    (∃ c, cons.answer? [a, d] = some (.ok c) ∧ c.tree = .pair a.tree d.tree ∧
      car.answer? [c] = some (.ok a) ∧ cdr.answer? [c] = some (.ok d)) ∧
    (∃ isPair isNull, (test .pair).answer? [p] = some (.ok (.bool isPair)) ∧
      (test .null).answer? [p] = some (.ok (.bool isNull)) ∧
      (isPair = true ↔ ∃ s t, p.tree = .pair s t) ∧ (isNull = true ↔ p.tree = .nil)) ∧
    (∀ s t, p.tree = .pair s t → ∃ x y c, car.answer? [p] = some (.ok x) ∧
      cdr.answer? [p] = some (.ok y) ∧ x.tree = s ∧ y.tree = t ∧
      cons.answer? [x, y] = some (.ok c) ∧ (c = p ↔ ¬ p.IsSpliced) ∧
      (equal.answer? [c, p] = some (.ok (.bool true)) ↔ ¬ p.IsSpliced ∧ p.ForeignFree)) ∧
    ((∀ s t, p.tree ≠ .pair s t) → car.answer? [p] = some (.error (.type .pair p)) ∧
      cdr.answer? [p] = some (.error (.type .pair p))) ∧
    (∀ op ∈ [car, cdr, cons, list], ∀ args v, (∀ w ∈ args, w.Normal) →
      op.answer? args = some (.ok v) → v.Normal) := by
  refine ⟨⟨Value.cons a d, rfl, tree_cons a d, answer?_parts (uncons?_cons a hd.self)⟩,
    ⟨p.isKind .pair, p.isKind .null, rfl, rfl, isKind_pair_iff hp.self, isKind_null_iff hp.self⟩,
    fun s t hTree => ?_, fun hNone => ?_, fun op hOp args v hArgs => normal_of_answer? hOp hArgs⟩
  · obtain ⟨⟨x, y⟩, hParts⟩ := (exists_uncons?_iff hp.self).2 ⟨s, t, hTree⟩
    obtain ⟨hCar, hCdr⟩ := answer?_parts hParts
    rw [tree_of_uncons? hParts] at hTree
    cases hTree
    refine ⟨x, y, Value.cons x y, hCar, hCdr, rfl, rfl, rfl, cons_eq_iff_of_uncons? hp hParts, ?_⟩
    rw [← equal_cons_iff_of_uncons? hp hParts]
    simp [answer?, pure?, binary]
  · refine answer?_no_parts (Option.eq_none_iff_forall_not_mem.2 fun parts hParts => ?_)
    obtain ⟨s, t, hTree⟩ := (exists_uncons?_iff hp.self).1 ⟨parts, hParts⟩
    exact hNone s t hTree

/-- The spliced pair of one and a list of two becomes a proper list when it is
taken apart and put together again. -/
theorem list_primitives_refine_pairs_spliced :
    let p := dotted [.int 1] (.list [.int 2])
    p.All HasHead ∧ p.IsSpliced ∧ ∃ x y c, car.answer? [p] = some (.ok x) ∧
      cdr.answer? [p] = some (.ok y) ∧ cons.answer? [x, y] = some (.ok c) ∧ c ≠ p ∧
      equal.answer? [c, p] ≠ some (.ok (.bool true)) := by
  intro p
  have hInt : ∀ n, (Value.int n).All HasHead := fun n => (all_iff_of_isLeaf rfl).2 trivial
  have hHeads : p.All HasHead := by
    refine all_dotted_iff.2 ⟨List.cons_ne_nil _ _, List.forall_mem_singleton.2 (hInt 1), ?_⟩
    exact all_list_iff.2 ⟨trivial, List.forall_mem_singleton.2 (hInt 2)⟩
  have hSpliced : p.IsSpliced := ⟨_, _, rfl, rfl⟩
  obtain ⟨-, -, hParts, -, -⟩ := list_primitives_refine_pairs (.int 0) p p hHeads hHeads
  obtain ⟨x, y, c, hCar, hCdr, -, -, hCons, hSame, hEqual⟩ := hParts _ _ tree_dotted_cons
  exact ⟨hHeads, hSpliced, x, y, c, hCar, hCdr, hCons, fun h => hSame.1 h hSpliced,
    fun h => (hEqual.1 h).1 hSpliced⟩

/-- What is put together again as it was need not be `equal?` to what it was:
the list of one foreign value is not spliced. -/
theorem rebuilt_foreign_list_not_equal :
    let p := Value.list [.foreign]
    p.All HasHead ∧ ¬ p.IsSpliced ∧ ∃ x y c, car.answer? [p] = some (.ok x) ∧
      cdr.answer? [p] = some (.ok y) ∧ cons.answer? [x, y] = some (.ok c) ∧ c = p ∧
      equal.answer? [c, p] = some (.ok (.bool false)) ∧
      ¬ (c = p ∧ equal.answer? [c, p] = some (.ok (.bool true)) ↔ ¬ p.IsSpliced) := by
  intro p
  have hHeads : p.All HasHead :=
    all_list_iff.2 ⟨trivial, List.forall_mem_singleton.2 ((all_iff_of_isLeaf rfl).2 trivial)⟩
  have hSpliced : ¬ p.IsSpliced := not_isSpliced_list _
  have hEqual : equal.answer? [p, p] = some (.ok (.bool false)) := rfl
  refine ⟨hHeads, hSpliced, .foreign, .nil, p, rfl, rfl, rfl, rfl, hEqual, fun h => ?_⟩
  have hTrue := (h.2 hSpliced).2
  rw [hEqual] at hTrue
  cases hTrue

end Primitive

end MiniScheme
