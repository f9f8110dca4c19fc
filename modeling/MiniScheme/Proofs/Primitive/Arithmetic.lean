import Mathlib.Data.List.Basic
import Mathlib.Data.Nat.Find
import MiniScheme.Interpreter

/-!
# What an arithmetic operation answers

An operation takes its arguments in from the left and stops at the first one
that it cannot use: a value that is no integer, or a zero that it would have
to divide by.  The checks are interleaved with the computation, so which of
several bad arguments is reported depends on all that stand before it.

`StopsAt` says of a place in the argument list that the operation has to
stop there, without saying how it gets there.  **The first such place
decides**: the arguments before it are integers and are only computed with,
the one at the place is reported, and those behind it are never looked at.

## Main results

* `foldlM_absorb`, `foldlM_absorb_of_rejects` — the arguments that are taken
  in, and the first that is not.
* `fold_of_forall_not_stopsAt`, `fold_of_firstStop` — the same for a whole
  argument list, by places.
* `Interpreter.arithmetic_answers` — what a call of an operation comes to,
  for every argument list.
-/

namespace MiniScheme

namespace Arithmetic

variable {op : Arithmetic} {args vs front back : List Value} {v : Value} {i : Nat}

/-- The name that the standard table has for the operation. -/
def name : Arithmetic → String
  | .add => "+"
  | .subtract => "-"
  | .multiply => "*"
  | .floorDivide => "/"
  | .modulo => "mod"
  | .quotient => "quotient"
  | .remainder => "remainder"

theorem lookup_standard (op : Arithmetic) :
    Primitive.standard.lookup op.name = some (.arithmetic op) := by
  cases op <;> rfl

/-! ## Where an operation stops -/

/-- The value cannot be taken in behind other arguments. -/
def Rejects (op : Arithmetic) (v : Value) : Prop :=
  (∀ n, v ≠ .int n) ∨ op.divides = true ∧ v = .int 0

/-- The operation cannot use the argument at the place.  It divides by all
arguments but the first. -/
def StopsAt (op : Arithmetic) (args : List Value) (i : Nat) : Prop :=
  ∃ v, args[i]? = some v ∧ ((∀ n, v ≠ .int n) ∨ op.divides = true ∧ 1 ≤ i ∧ v = .int 0)

/-- The first place where the operation has to stop. -/
def FirstStop (op : Arithmetic) (args : List Value) (i : Nat) : Prop :=
  op.StopsAt args i ∧ ∀ j < i, ¬ op.StopsAt args j

/-- The error about an argument that an operation cannot use. -/
def complaint : Value → Error
  | .int _ => .divisionByZero
  | v => .type .number v

theorem complaint_of_forall_ne (h : ∀ n, v ≠ .int n) : complaint v = .type .number v := by
  cases v with
  | int n => exact absurd rfl (h n)
  | _ => rfl

theorem toInt_of_forall_ne (h : ∀ n, v ≠ .int n) : v.toInt = .error (complaint v) := by
  cases v with
  | int n => exact absurd rfl (h n)
  | _ => rfl

theorem stopsAt_zero_iff {first : Value} :
    op.StopsAt (first :: vs) 0 ↔ ∀ n, first ≠ .int n := by
  simp [StopsAt]

theorem exists_int_of_not_stopsAt {first : Value} (h : ¬ op.StopsAt (first :: vs) 0) :
    ∃ a, first = .int a := by
  rw [stopsAt_zero_iff, not_forall] at h
  obtain ⟨a, ha⟩ := h
  exact ⟨a, not_not.1 ha⟩

theorem stopsAt_succ_iff {first : Value} :
    op.StopsAt (first :: vs) (i + 1) ↔ ∃ v, vs[i]? = some v ∧ op.Rejects v := by
  simp [StopsAt, Rejects]

theorem getElem?_eq_of_take_eq {args' : List Value}
    (hSame : args'.take (i + 1) = args.take (i + 1)) {j : Nat} (hj : j ≤ i) :
    args'[j]? = args[j]? := by
  have hLt : j < i + 1 := by omega
  rw [← List.getElem?_take_of_lt hLt, hSame, List.getElem?_take_of_lt hLt]

/-- Only what stands at the place and before it decides where the operation
first stops. -/
theorem FirstStop.of_take_eq {args' : List Value} (h : op.FirstStop args i)
    (hSame : args'.take (i + 1) = args.take (i + 1)) : op.FirstStop args' i := by
  refine ⟨?_, fun j hj => ?_⟩
  · rw [StopsAt, getElem?_eq_of_take_eq hSame (Nat.le_refl i)]
    exact h.1
  · rw [StopsAt, getElem?_eq_of_take_eq hSame (Nat.le_of_lt hj)]
    exact h.2 j hj

/-! ## Taking arguments in -/

/-- Takes one more argument in. -/
def absorb (op : Arithmetic) (a : Int) (v : Value) : Except Error Int := do
  op.combine a (← v.toInt)

theorem fold_cons_cons (op : Arithmetic) (first second : Value) (rest : List Value) :
    op.fold (first :: second :: rest) =
      first.toInt >>= fun a => (second :: rest).foldlM op.absorb a := rfl

theorem absorb_of_rejects (h : op.Rejects v) (a : Int) :
    op.absorb a v = .error (complaint v) := by
  rcases h with hKind | ⟨hDivides, rfl⟩
  · show v.toInt >>= op.combine a = _
    rw [toInt_of_forall_ne hKind]
    rfl
  · show op.combine a 0 = _
    rw [combine, if_pos ⟨hDivides, rfl⟩, complaint]

theorem exists_of_not_rejects (h : ¬ op.Rejects v) :
    ∃ b, v = .int b ∧ ∀ a, op.absorb a v = .ok (op.result a b) := by
  simp only [Rejects, not_or, not_forall, not_not, not_and] at h
  obtain ⟨⟨b, rfl⟩, hZero⟩ := h
  refine ⟨b, rfl, fun a => ?_⟩
  show op.combine a b = _
  rw [combine, if_neg]
  rintro ⟨hDivides, rfl⟩
  exact hZero hDivides rfl

/-- **Arguments that can be used** are integers, and taking them in folds the
operation over them. -/
theorem foldlM_absorb (h : ∀ w ∈ vs, ¬ op.Rejects w) :
    ∃ bs : List Int, vs = bs.map Value.int ∧
      ∀ a, vs.foldlM op.absorb a = .ok (bs.foldl op.result a) := by
  induction vs with
  | nil => exact ⟨[], rfl, fun _ => rfl⟩
  | cons v vs ih =>
      obtain ⟨b, rfl, hStep⟩ := exists_of_not_rejects (h v (by simp))
      obtain ⟨bs, rfl, hRest⟩ := ih fun w hw => h w (by simp [hw])
      refine ⟨b :: bs, rfl, fun a => ?_⟩
      rw [List.foldlM_cons, hStep]
      exact hRest (op.result a b)

/-- **The first argument that cannot be used** is reported, whatever was
computed before it and whatever stands behind it. -/
theorem foldlM_absorb_of_rejects (hFront : ∀ w ∈ front, ¬ op.Rejects w) (hv : op.Rejects v)
    (a : Int) : (front ++ v :: back).foldlM op.absorb a = .error (complaint v) := by
  obtain ⟨bs, rfl, hComputed⟩ := foldlM_absorb hFront
  rw [List.foldlM_append, hComputed]
  show (v :: back).foldlM op.absorb (bs.foldl op.result a) = _
  rw [List.foldlM_cons, absorb_of_rejects hv]
  rfl

/-! ## Whole argument lists -/

theorem fold_of_length_lt (h : args.length < 2) : op.fold args = .error (.arity 2 args) := by
  match args with
  | [] | [_] => rfl
  | _ :: _ :: _ => exact absurd h (by simp)

theorem exists_of_two_le_length (h : 2 ≤ args.length) :
    ∃ first second rest, args = first :: second :: rest := by
  match args with
  | [] | [_] => simp at h
  | first :: second :: rest => exact ⟨first, second, rest, rfl⟩

/-- An operation that nowhere has to stop folds over its arguments. -/
theorem fold_of_forall_not_stopsAt (hLength : 2 ≤ args.length) (h : ∀ i, ¬ op.StopsAt args i) :
    ∃ a bs, args = (a :: bs).map Value.int ∧ op.fold args = .ok (bs.foldl op.result a) := by
  obtain ⟨first, second, rest, rfl⟩ := exists_of_two_le_length hLength
  obtain ⟨a, rfl⟩ := exists_int_of_not_stopsAt (h 0)
  have hRest : ∀ w ∈ second :: rest, ¬ op.Rejects w := by
    intro w hw hRejects
    obtain ⟨j, hj⟩ := List.mem_iff_getElem?.1 hw
    exact h (j + 1) (stopsAt_succ_iff.2 ⟨w, hj, hRejects⟩)
  obtain ⟨bs, hInts, hFold⟩ := foldlM_absorb hRest
  refine ⟨a, bs, by rw [hInts, List.map_cons], ?_⟩
  rw [fold_cons_cons]
  exact hFold a

/-- An operation that has to stop reports the argument at the first such
place. -/
theorem fold_of_firstStop (hLength : 2 ≤ args.length) (h : op.FirstStop args i)
    (hv : args[i]? = some v) : op.fold args = .error (complaint v) := by
  obtain ⟨hStop, hBefore⟩ := h
  obtain ⟨first, second, rest, rfl⟩ := exists_of_two_le_length hLength
  rw [fold_cons_cons]
  cases i with
  | zero =>
      obtain rfl : first = v := by simpa using hv
      rw [toInt_of_forall_ne (stopsAt_zero_iff.1 hStop)]
      rfl
  | succ i =>
      obtain ⟨a, rfl⟩ := exists_int_of_not_stopsAt (hBefore 0 (Nat.succ_pos i))
      rw [List.getElem?_cons_succ] at hv
      obtain ⟨w, hw, hRejects⟩ := stopsAt_succ_iff.1 hStop
      obtain rfl : v = w := Option.some_inj.1 (hv.symm.trans hw)
      have hFront : ∀ w ∈ (second :: rest).take i, ¬ op.Rejects w := by
        intro w hw hBad
        obtain ⟨j, hj⟩ := List.mem_iff_getElem?.1 hw
        rw [List.getElem?_take, Option.ite_none_right_eq_some] at hj
        exact hBefore (j + 1) (by omega) (stopsAt_succ_iff.2 ⟨w, hj.2, hBad⟩)
      -- The arguments behind the first one are cut at the place.
      have hCut : (second :: rest).take i ++ v :: (second :: rest).drop (i + 1) =
          second :: rest := by
        obtain ⟨hLt, rfl⟩ := List.getElem?_eq_some_iff.1 hv
        rw [List.getElem_cons_drop, List.take_append_drop]
      show (second :: rest).foldlM op.absorb a = _
      rw [← hCut]
      exact foldlM_absorb_of_rejects hFront hRejects a

/-- Integers, without a zero among those to divide by, are folded over. -/
theorem fold_map_int (a : Int) {bs : List Int} (hNonempty : bs ≠ [])
    (hZero : op.divides = true → 0 ∉ bs) :
    op.fold ((a :: bs).map Value.int) = .ok (bs.foldl op.result a) := by
  have hNone : ∀ i, ¬ op.StopsAt ((a :: bs).map Value.int) i := by
    rintro i ⟨v, hv, hKind | ⟨hDivides, hi, rfl⟩⟩
    · obtain ⟨n, -, rfl⟩ := List.mem_map.1 (List.mem_of_getElem? hv)
      exact hKind n rfl
    · obtain ⟨j, rfl⟩ := Nat.exists_eq_add_of_le' hi
      rw [List.map_cons, List.getElem?_cons_succ] at hv
      obtain ⟨n, hn, hSame⟩ := List.mem_map.1 (List.mem_of_getElem? hv)
      exact hZero hDivides (Value.int.inj hSame ▸ hn)
  have hLength : 2 ≤ ((a :: bs).map Value.int).length := by
    have hPos := List.length_pos_iff.2 hNonempty
    simp
    omega
  obtain ⟨a', bs', hInts, hFold⟩ := fold_of_forall_not_stopsAt hLength hNone
  have hSame := List.map_injective_iff.2 (fun _ _ => Value.int.inj) hInts
  cases hSame
  exact hFold

example : quotient.fold [.int 7, .int 0, .bool true] = .error .divisionByZero ∧
    quotient.fold [.int 7, .bool true, .int 0] = .error (.type .number (.bool true)) :=
  ⟨rfl, rfl⟩

end Arithmetic

namespace Interpreter

open Arithmetic

/-- A call of an operation computes its answer and changes nothing. -/
theorem call_arithmetic (ctx : Context) (d : Nat) (p : String) (op : Arithmetic)
    (args : List Value) (m : Machine) :
    call ctx (d + 1) (.primitive p (.arithmetic op)) args m =
      match op.fold args with
      | .ok n => .ok (.int n) m
      | .error e => .error (.error e) m := by
  show Run.ofExcept ((op.fold args).map Value.int) m = _
  cases op.fold args <;> rfl

/-- **What a call of an arithmetic operation comes to**, for each of the
seven and for every argument list.  The machine is left as it was, and

* with fewer than two arguments their number is reported;
* if the operation nowhere has to stop, the arguments are integers and the
  answer is the operation folded over them from the left;
* otherwise the argument at the first place where it has to stop is
  reported, as no number or as a zero to divide by, and no argument list
  that begins in the same way up to this place has another outcome. -/
theorem arithmetic_answers (ctx : Context) (d : Nat) (m : Machine) (op : Arithmetic)
    (args : List Value) :
    let outcome := fun args => call ctx (d + 1) (.primitive op.name (.arithmetic op)) args m
    Primitive.standard.lookup op.name = some (.arithmetic op) ∧
    Error.message .divisionByZero = .ok "Division by zero" ∧
    (args.length < 2 ∧ outcome args = .error (.error (.arity 2 args)) m ∨
      2 ≤ args.length ∧ (∀ i, ¬ op.StopsAt args i) ∧
        (∃ a bs, args = (a :: bs).map Value.int ∧
          outcome args = .ok (.int (bs.foldl op.result a)) m) ∨
      2 ≤ args.length ∧ ∃ i v, op.FirstStop args i ∧ args[i]? = some v ∧
        ((∀ n, v ≠ .int n) ∧ outcome args = .error (.error (.type .number v)) m ∨
          v = .int 0 ∧ outcome args = .error (.error .divisionByZero) m) ∧
        ∀ args', 2 ≤ args'.length → args'.take (i + 1) = args.take (i + 1) →
          outcome args' = outcome args) := by
  intro outcome
  refine ⟨lookup_standard op, rfl, ?_⟩
  have hOutcome : ∀ args, outcome args = _ := fun args => call_arithmetic ctx d op.name op args m
  by_cases hLength : args.length < 2
  · refine .inl ⟨hLength, ?_⟩
    rw [hOutcome, fold_of_length_lt hLength]
  right
  rw [Nat.not_lt] at hLength
  by_cases hStops : ∃ i, op.StopsAt args i
  · right
    classical
    let i := Nat.find hStops
    have hFirst : op.FirstStop args i := ⟨Nat.find_spec hStops, fun j => Nat.find_min hStops⟩
    obtain ⟨v, hv, hBad⟩ := hFirst.1
    have hError : ∀ args', 2 ≤ args'.length → args'.take (i + 1) = args.take (i + 1) →
        outcome args' = .error (.error (complaint v)) m := by
      intro args' hLength' hSame
      have hPlace := (getElem?_eq_of_take_eq hSame (Nat.le_refl i)).trans hv
      rw [hOutcome, fold_of_firstStop hLength' (hFirst.of_take_eq hSame) hPlace]
    refine ⟨hLength, i, v, hFirst, hv, ?_, fun args' hLength' hSame => ?_⟩
    · rw [hError args hLength rfl]
      rcases hBad with hKind | ⟨-, -, rfl⟩
      · exact .inl ⟨hKind, by rw [complaint_of_forall_ne hKind]⟩
      · exact .inr ⟨rfl, rfl⟩
    · rw [hError args' hLength' hSame, hError args hLength rfl]
  · left
    have hNone : ∀ i, ¬ op.StopsAt args i := fun i hi => hStops ⟨i, hi⟩
    obtain ⟨a, bs, hInts, hFold⟩ := fold_of_forall_not_stopsAt hLength hNone
    exact ⟨hLength, hNone, a, bs, hInts, by rw [hOutcome, hFold]⟩

end Interpreter

end MiniScheme
