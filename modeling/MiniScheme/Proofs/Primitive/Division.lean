import Mathlib.Data.Rat.Floor
import MiniScheme.Proofs.Primitive.Arithmetic

/-!
# Laws of division

Two pairs of operations divide.  `floorDivide` and `modulo` round down;
`quotient` and `remainder` round toward zero, with a quotient that is put
together from the magnitudes and the signs of the two integers.

The exact quotient is a rational number, and both ways of rounding are
functions of it.  **Rounding in between changes nothing**: dividing a
rounded quotient once more and rounding again gives what rounding the whole
quotient gives, toward zero always and down if the later divisor is
positive.  So a chain of divisions is one division by the product of all
divisors.  Of a chain of remainders the last divisor sets the bound.

## Main results

* `truncated_eq_towardZero`, `fdiv_eq_floor` — the two quotients as roundings
  of the exact one.
* `foldl_rounded` — a chain of divisions is rounded once.
* `quotient_ne_floorDivide_iff` — when the two quotients differ.
* `Interpreter.division_laws` — the laws, for the outcomes of calls.
-/

namespace MiniScheme

namespace Arithmetic

/-! ## The quotient of magnitudes and signs -/

theorem truncated_of_iff {a b : ℤ} (h : a < 0 ↔ b < 0) :
    truncated a b = (a.natAbs / b.natAbs : ℕ) := if_pos h

theorem truncated_of_not_iff {a b : ℤ} (h : ¬ (a < 0 ↔ b < 0)) :
    truncated a b = -((a.natAbs / b.natAbs : ℕ) : ℤ) := if_neg h

theorem truncated_natCast (x y : ℕ) : truncated x y = (x / y : ℕ) :=
  truncated_of_iff (by omega)

theorem truncated_neg_left (a b : ℤ) : truncated (-a) b = -truncated a b := by
  by_cases hZero : a = 0
  · simp [truncated, hZero]
  by_cases h : a < 0 ↔ b < 0
  · rw [truncated_of_not_iff (by omega), truncated_of_iff h, Int.natAbs_neg]
  · rw [truncated_of_iff (by omega), truncated_of_not_iff h, Int.natAbs_neg, neg_neg]

theorem truncated_neg_right (a b : ℤ) : truncated a (-b) = -truncated a b := by
  by_cases hZero : b = 0
  · simp [truncated, hZero]
  by_cases h : a < 0 ↔ b < 0
  · rw [truncated_of_not_iff (by omega), truncated_of_iff h, Int.natAbs_neg]
  · rw [truncated_of_iff (by omega), truncated_of_not_iff h, Int.natAbs_neg, neg_neg]

/-- A function that turns its sign with the sign of either argument is known
by its values at natural numbers. -/
theorem truncated_eq_of_odd (g : ℤ → ℤ → ℤ) (hNat : ∀ x y : ℕ, g x y = (x / y : ℕ))
    (hLeft : ∀ a b, g (-a) b = -g a b) (hRight : ∀ a b, g a (-b) = -g a b) (a b : ℤ) :
    truncated a b = g a b := by
  obtain ⟨x, rfl | rfl⟩ := a.eq_nat_or_neg
  · obtain ⟨y, rfl | rfl⟩ := b.eq_nat_or_neg
    · rw [truncated_natCast, hNat]
    · rw [truncated_neg_right, hRight, truncated_natCast, hNat]
  · obtain ⟨y, rfl | rfl⟩ := b.eq_nat_or_neg
    · rw [truncated_neg_left, hLeft, truncated_natCast, hNat]
    · rw [truncated_neg_left, hLeft, truncated_neg_right, hRight, truncated_natCast, hNat]

theorem truncated_eq_tdiv (a b : ℤ) : truncated a b = a.tdiv b :=
  truncated_eq_of_odd Int.tdiv (fun _ _ => rfl) Int.neg_tdiv Int.tdiv_neg a b

/-! ## Rounding -/

/-- A rational number rounded toward zero. -/
def towardZero (q : ℚ) : ℤ := if q < 0 then ⌈q⌉ else ⌊q⌋

theorem towardZero_of_nonneg {q : ℚ} (hq : 0 ≤ q) : towardZero q = ⌊q⌋ := if_neg hq.not_gt

theorem towardZero_neg (q : ℚ) : towardZero (-q) = -towardZero q := by
  rcases lt_trichotomy q 0 with hq | rfl | hq
  · rw [towardZero_of_nonneg (by linarith), towardZero, if_pos hq, Int.floor_neg]
  · simp [towardZero]
  · rw [towardZero_of_nonneg hq.le, towardZero, if_pos (by linarith), Int.ceil_neg]

theorem towardZero_intCast (n : ℤ) : towardZero n = n := by
  simp [towardZero]

/-- **The quotient of magnitudes and signs** is the exact one rounded toward
zero. -/
theorem truncated_eq_towardZero (a b : ℤ) : truncated a b = towardZero (a / b) := by
  refine truncated_eq_of_odd (fun a b => towardZero (a / b)) (fun x y => ?_) (fun a b => ?_)
    (fun a b => ?_) a b
  · have hPos : (0 : ℚ) ≤ (x : ℤ) / (y : ℤ) := by positivity
    rw [towardZero_of_nonneg hPos]
    exact Rat.floor_natCast_div_natCast x y
  · rw [Int.cast_neg, neg_div, towardZero_neg]
  · rw [Int.cast_neg, div_neg, towardZero_neg]

/-- Division rounding down gives the floor, whatever the sign of the divisor. -/
theorem fdiv_eq_floor (a b : ℤ) : a.fdiv b = ⌊(a : ℚ) / b⌋ := by
  obtain ⟨y, rfl | rfl⟩ := b.eq_nat_or_neg
  · rw [Int.fdiv_eq_ediv_of_nonneg a (Int.natCast_nonneg y)]
    exact (Rat.floor_intCast_div_natCast a y).symm
  · rw [← Int.neg_fdiv_neg, neg_neg, Int.fdiv_eq_ediv_of_nonneg _ (Int.natCast_nonneg y),
      ← Rat.floor_intCast_div_natCast]
    push_cast
    rw [neg_div, div_neg]

/-! ## Rounding once is enough -/

theorem floor_floor_div {c : ℤ} (hc : 0 ≤ c) (q : ℚ) : ⌊(⌊q⌋ : ℚ) / c⌋ = ⌊q / c⌋ := by
  rw [Int.floor_div_cast_of_nonneg hc, Int.floor_div_cast_of_nonneg hc, Int.floor_intCast]

theorem towardZero_towardZero_div (c : ℤ) (q : ℚ) :
    towardZero ((towardZero q : ℚ) / c) = towardZero (q / c) := by
  -- The signs of both can be taken out, so that rounding is rounding down.
  have hPos : ∀ (n : ℕ) {p : ℚ}, 0 ≤ p →
      towardZero ((towardZero p : ℚ) / (n : ℤ)) = towardZero (p / (n : ℤ)) := by
    intro n p hp
    have hFloor : (0 : ℚ) ≤ ⌊p⌋ := by exact_mod_cast Int.floor_nonneg.2 hp
    rw [towardZero_of_nonneg hp, towardZero_of_nonneg (by positivity),
      towardZero_of_nonneg (by positivity), floor_floor_div (Int.natCast_nonneg n)]
  have hNat : ∀ (n : ℕ) (p : ℚ),
      towardZero ((towardZero p : ℚ) / (n : ℤ)) = towardZero (p / (n : ℤ)) := by
    intro n p
    rcases le_total 0 p with hp | hp
    · exact hPos n hp
    · have hNeg := hPos n (neg_nonneg.2 hp)
      rw [towardZero_neg, Int.cast_neg, neg_div, neg_div, towardZero_neg, towardZero_neg] at hNeg
      exact neg_inj.1 hNeg
  obtain ⟨n, rfl | rfl⟩ := c.eq_nat_or_neg
  · exact hNat n q
  · rw [Int.cast_neg, div_neg, div_neg, towardZero_neg, towardZero_neg, hNat n q]

/-- **A chain of divisions is rounded once**, if rounding in between changes
nothing. -/
theorem foldl_rounded (op : Arithmetic) (round : ℚ → ℤ)
    (hStep : ∀ a b : ℤ, op.result a b = round (a / b)) {bs : List ℤ}
    (hAgain : ∀ b ∈ bs, ∀ q : ℚ, round ((round q : ℚ) / b) = round (q / b)) (q : ℚ) :
    bs.foldl op.result (round q) = round (q / bs.prod) := by
  induction bs generalizing q with
  | nil => simp
  | cons b bs ih =>
      have hRest := ih (fun c hc => hAgain c (by simp [hc])) (q / b)
      rw [List.foldl_cons, hStep, hAgain b (by simp), hRest, List.prod_cons, Int.cast_mul,
        div_div]

theorem foldl_quotient (a : ℤ) (bs : List ℤ) :
    bs.foldl quotient.result a = towardZero (a / bs.prod) := by
  have hChain := foldl_rounded quotient towardZero truncated_eq_towardZero
    (fun b (_ : b ∈ bs) => towardZero_towardZero_div b) a
  rw [towardZero_intCast] at hChain
  exact hChain

/-- The first divisor may have any sign, since nothing is rounded before it. -/
theorem foldl_floorDivide (a b : ℤ) {bs : List ℤ} (h : ∀ c ∈ bs, 0 < c) :
    (b :: bs).foldl floorDivide.result a = ⌊(a : ℚ) / (b :: bs).prod⌋ := by
  have hChain := foldl_rounded floorDivide Int.floor fdiv_eq_floor
    (fun c hc => floor_floor_div (h c hc).le) (a / b)
  rw [List.foldl_cons, List.prod_cons, Int.cast_mul, ← div_div, ← hChain]
  show bs.foldl floorDivide.result (a.fdiv b) = _
  rw [fdiv_eq_floor]

/-! ## What is left -/

theorem remainder_eq_tmod (a b : ℤ) : remainder.result a b = a.tmod b := by
  show a - b * truncated a b = _
  rw [truncated_eq_tdiv, Int.tmod_def]

theorem remainder_sign (a b : ℤ) :
    remainder.result a b = 0 ∨ (remainder.result a b).sign = a.sign := by
  rw [remainder_eq_tmod]
  by_cases hDvd : b ∣ a
  · exact .inl (Int.tmod_eq_zero_of_dvd hDvd)
  · exact .inr (by rw [Int.sign_tmod, if_neg hDvd])

theorem abs_remainder_lt (a : ℤ) {b : ℤ} (hb : b ≠ 0) : |remainder.result a b| < |b| := by
  rw [remainder_eq_tmod, Int.abs_eq_natAbs, Int.abs_eq_natAbs, Int.natAbs_tmod]
  exact_mod_cast Nat.mod_lt _ (Int.natAbs_pos.2 hb)

/-- A chain of remainders keeps the sign of the dividend. -/
theorem foldl_remainder_sign (a : ℤ) (bs : List ℤ) :
    bs.foldl remainder.result a = 0 ∨ (bs.foldl remainder.result a).sign = a.sign := by
  induction bs generalizing a with
  | nil => exact .inr rfl
  | cons b bs ih =>
      rw [List.foldl_cons]
      rcases ih (remainder.result a b) with hZero | hSign
      · exact .inl hZero
      · rcases remainder_sign a b with hStep | hStep
        · rw [hStep, Int.sign_zero, Int.sign_eq_zero_iff_zero] at hSign
          rw [hStep]
          exact .inl hSign
        · exact .inr (hSign.trans hStep)

theorem modulo_sign (a : ℤ) {b : ℤ} (hb : b ≠ 0) :
    (modulo.result a b = 0 ∨ (modulo.result a b).sign = b.sign) ∧ |modulo.result a b| < |b| := by
  show (a.fmod b = 0 ∨ (a.fmod b).sign = b.sign) ∧ |a.fmod b| < |b|
  rcases lt_or_gt_of_ne hb with hNeg | hPos
  · have hLow := Int.fmod_nonneg_of_pos (-a) (Int.neg_pos.2 hNeg)
    have hHigh := Int.fmod_lt_of_pos (-a) (Int.neg_pos.2 hNeg)
    rw [Int.neg_fmod_neg] at hLow hHigh
    rw [abs_of_neg hNeg, abs_of_nonpos (by omega), Int.sign_eq_neg_one_of_neg hNeg,
      Int.sign_eq_neg_one_iff_neg]
    omega
  · have hLow := Int.fmod_nonneg_of_pos a hPos
    have hHigh := Int.fmod_lt_of_pos a hPos
    rw [abs_of_pos hPos, abs_of_nonneg hLow, Int.sign_eq_one_of_pos hPos,
      Int.sign_eq_one_iff_pos]
    omega

/-- The last divisor of a chain is applied to what the others have left. -/
theorem foldl_eq_getLast (f : ℤ → ℤ → ℤ) (a : ℤ) {bs : List ℤ} (h : bs ≠ []) :
    bs.foldl f a = f (bs.dropLast.foldl f a) (bs.getLast h) := by
  conv_lhs => rw [← List.dropLast_concat_getLast h]
  rw [List.foldl_concat]

/-- **The two quotients differ** exactly if something is left and the signs
are opposite, and then by one. -/
theorem quotient_ne_floorDivide_iff (a : ℤ) {b : ℤ} (hb : b ≠ 0) :
    (quotient.result a b ≠ floorDivide.result a b ↔
      remainder.result a b ≠ 0 ∧ (a < 0 ∧ 0 < b ∨ 0 < a ∧ b < 0)) ∧
    (quotient.result a b ≠ floorDivide.result a b →
      quotient.result a b = floorDivide.result a b + 1) := by
  have hLeft : remainder.result a b ≠ 0 ↔ ¬ b ∣ a := by
    rw [remainder_eq_tmod, Int.dvd_iff_tmod_eq_zero]
  rw [hLeft]
  show (truncated a b ≠ a.fdiv b ↔ _) ∧ (truncated a b ≠ a.fdiv b → truncated a b = a.fdiv b + 1)
  rw [truncated_eq_tdiv, Int.tdiv_eq_fdiv]
  by_cases hDvd : b ∣ a
  · simp [hDvd]
  · have hNonzero : a ≠ 0 := fun h => hDvd (h ▸ dvd_zero b)
    rcases lt_or_gt_of_ne hb with hNeg | hPos
    · rw [Int.sign_eq_neg_one_of_neg hNeg]
      split_ifs <;> omega
    · rw [Int.sign_eq_one_of_pos hPos]
      split_ifs <;> omega

end Arithmetic

namespace Interpreter

open Arithmetic

/-- **The laws of division.**  Calls of the four dividing operations with an
integer and one or more integers to divide by, none of them zero, all have
integers as their answers, and

* the quotient is the exact quotient by the product of all divisors, rounded
  toward zero;
* division rounding down gives its floor, if the divisors behind the first
  are positive;
* the remainder has the sign of the dividend, what `modulo` leaves that of
  the last divisor, unless they are zero, and both are smaller than the last
  divisor;
* with a single divisor, each quotient and what it leaves make up the
  dividend, and the two quotients differ exactly if there is a remainder and
  the signs are opposite; then the one rounded toward zero is greater by
  one. -/
theorem division_laws (ctx : Context) (d : Nat) (m : Machine) (a : ℤ) {bs : List ℤ}
    (hNonempty : bs ≠ []) (hNonzero : 0 ∉ bs) :
    let outcome := fun op : Arithmetic =>
      call ctx (d + 1) (.primitive op.name (.arithmetic op)) ((a :: bs).map Value.int) m
    ∃ q f r k : ℤ,
      outcome .quotient = .ok (.int q) m ∧ outcome .floorDivide = .ok (.int f) m ∧
      outcome .remainder = .ok (.int r) m ∧ outcome .modulo = .ok (.int k) m ∧
      q = towardZero (a / bs.prod) ∧
      ((∀ b ∈ bs.tail, 0 < b) → f = ⌊(a : ℚ) / bs.prod⌋) ∧
      ((r = 0 ∨ r.sign = a.sign) ∧ |r| < |bs.getLast hNonempty|) ∧
      ((k = 0 ∨ k.sign = (bs.getLast hNonempty).sign) ∧ |k| < |bs.getLast hNonempty|) ∧
      ∀ b, bs = [b] → a = b * q + r ∧ a = b * f + k ∧
        (q ≠ f ↔ r ≠ 0 ∧ (a < 0 ∧ 0 < b ∨ 0 < a ∧ b < 0)) ∧ (q ≠ f → q = f + 1) := by
  intro outcome
  have hOutcome : ∀ op, outcome op = .ok (.int (bs.foldl op.result a)) m := by
    intro op
    show call _ _ _ _ _ = _
    rw [call_arithmetic, fold_map_int a hNonempty fun _ => hNonzero]
  have hLast : bs.getLast hNonempty ≠ 0 := fun h => hNonzero (h ▸ List.getLast_mem hNonempty)
  refine ⟨_, _, _, _, hOutcome .quotient, hOutcome .floorDivide, hOutcome .remainder,
    hOutcome .modulo, foldl_quotient a bs, ?_, ⟨foldl_remainder_sign a bs, ?_⟩, ?_, ?_⟩
  · intro hPos
    obtain ⟨b, bs, rfl⟩ := List.exists_cons_of_ne_nil hNonempty
    exact foldl_floorDivide a b hPos
  · rw [foldl_eq_getLast _ _ hNonempty]
    exact abs_remainder_lt _ hLast
  · rw [foldl_eq_getLast _ _ hNonempty]
    exact modulo_sign _ hLast
  · rintro b rfl
    refine ⟨?_, (Int.mul_fdiv_add_fmod a b).symm, quotient_ne_floorDivide_iff a hLast⟩
    show a = b * truncated a b + (a - b * truncated a b)
    omega

/-- Seventeen divided by minus five and then by three. -/
theorem division_laws_chain :
    let i := ofTable ⟨fun _ => .error .missing⟩ [] 5 Primitive.standard
    let bs : List ℤ := [-5, 3]
    let outcome := fun op : Arithmetic => call i.context 1 (.primitive op.name (.arithmetic op))
      ((17 :: bs).map Value.int) i.machine
    bs ≠ [] ∧ 0 ∉ bs ∧ (∀ b ∈ bs.tail, 0 < b) ∧
      outcome .quotient = .ok (.int (-1)) i.machine ∧ towardZero ((17 : ℤ) / bs.prod) = -1 ∧
      outcome .floorDivide = .ok (.int (-2)) i.machine ∧ ⌊((17 : ℤ) : ℚ) / bs.prod⌋ = -2 := by
  intro i bs outcome
  have hNonempty : bs ≠ [] := List.cons_ne_nil _ _
  have hNonzero : 0 ∉ bs := by decide
  have hPositive : ∀ b ∈ bs.tail, 0 < b := by decide
  have hQuotient : outcome .quotient = .ok (.int (-1)) i.machine := rfl
  have hFloor : outcome .floorDivide = .ok (.int (-2)) i.machine := rfl
  obtain ⟨q, f, -, -, hq, hf, -, -, hTruncated, hRounded, -⟩ :=
    division_laws i.context 0 i.machine 17 hNonempty hNonzero
  cases hq.symm.trans hQuotient
  cases hf.symm.trans hFloor
  exact ⟨hNonempty, hNonzero, hPositive, hQuotient, hTruncated.symm, hFloor,
    (hRounded hPositive).symm⟩

end Interpreter

end MiniScheme
