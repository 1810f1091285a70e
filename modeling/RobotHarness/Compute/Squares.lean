import Mathlib.Algebra.BigOperators.Group.Finset.Basic
import Mathlib.Algebra.BigOperators.Intervals
import Mathlib.Algebra.Order.BigOperators.Group.Finset
import Mathlib.Tactic.Linarith
import Mathlib.Tactic.Ring
import RobotHarness.Compute.Protocol

/-!
# The sum of the periodic squares

What one computation computes: the loop of the worker in `src/compute/compute_worker.cpp` and
the closed form `expected_sum` of `src/compute/compute_execution.cpp`.
-/

namespace RobotHarness.Compute

open Finset

/-- `expected_sum`. -/
def expectedSum (iterations : UInt64) : UInt64 :=
  let remainder := iterations % 1000
  (iterations / 1000) * 332833500 +
    (if remainder = 0 then 0 else (remainder - 1) * remainder * (2 * remainder - 1) / 6)

/-- The inner loop of the worker: the squares from `completed` up to `finish` are added. -/
def addSquares (finish completed sum : UInt64) : UInt64 × UInt64 :=
  if completed < finish then
    let value := completed % 1000
    addSquares finish (completed + 1) (sum + value * value)
  else (completed, sum)
termination_by finish.toNat - completed.toNat
decreasing_by
  have hlt : completed < finish := by assumption
  rw [Word.toNat_succ (Word.ne_max_of_lt hlt)]
  rw [UInt64.lt_iff_toNat_lt] at hlt
  omega

/-- The sum over all `i` below a bound of the square of `i` modulo 1000. -/
def periodicSquareSum (n : ℕ) : ℕ := ∑ i ∈ range n, (i % 1000) ^ 2

/-- The sum one further. -/
theorem periodicSquareSum_succ (n : ℕ) :
    periodicSquareSum (n + 1) = periodicSquareSum n + (n % 1000) ^ 2 :=
  sum_range_succ _ n

/-- The sum is at most quadratic in the period. -/
theorem periodicSquareSum_le (n : ℕ) : periodicSquareSum n ≤ n * 998001 := by
  have hterm : ∀ i ∈ range n, (i % 1000) ^ 2 ≤ 998001 := by
    intro i _
    have hlt : i % 1000 ≤ 999 := by omega
    calc (i % 1000) ^ 2 ≤ 999 ^ 2 := Nat.pow_le_pow_left hlt 2
      _ = 998001 := by norm_num
  simpa [periodicSquareSum] using sum_le_card_nsmul (range n) _ 998001 hterm

/-! ### The closed form -/

/-- Six times the sum of the squares below a bound. -/
theorem six_sum_squares (r : ℕ) :
    6 * ∑ i ∈ range (r + 1), i ^ 2 = r * (r + 1) * (2 * r + 1) := by
  induction r with
  | zero => rfl
  | succ r ih =>
    rw [sum_range_succ, mul_add, ih]
    ring

/-- Within a period the sum is that of the first squares. -/
private theorem sum_within (k : ℕ) {r : ℕ} (h : r ≤ 1000) :
    ∑ i ∈ range r, ((1000 * k + i) % 1000) ^ 2 = ∑ i ∈ range r, i ^ 2 := by
  refine sum_congr rfl fun i hi ↦ ?_
  have hlt : i < 1000 := lt_of_lt_of_le (mem_range.mp hi) h
  rw [Nat.mul_add_mod, Nat.mod_eq_of_lt hlt]

private theorem periodicSquareSum_add (k : ℕ) {r : ℕ} (h : r ≤ 1000) :
    periodicSquareSum (1000 * k + r) = periodicSquareSum (1000 * k) + ∑ i ∈ range r, i ^ 2 := by
  rw [periodicSquareSum, sum_range_add, sum_within k h]
  rfl

/-- Each whole period adds the same. -/
private theorem periodicSquareSum_periods (k : ℕ) :
    periodicSquareSum (1000 * k) = k * 332833500 := by
  have hperiod : ∑ i ∈ range 1000, i ^ 2 = 332833500 := by
    have h := six_sum_squares 999
    simp only [Nat.reduceAdd, Nat.reduceMul] at h
    omega
  induction k with
  | zero => rfl
  | succ k ih =>
    rw [mul_add, mul_one, periodicSquareSum_add k le_rfl, ih, hperiod]
    ring

/-- The sum in closed form. -/
theorem periodicSquareSum_eq (n : ℕ) :
    periodicSquareSum n = n / 1000 * 332833500 +
      (n % 1000 - 1) * (n % 1000) * (2 * (n % 1000) - 1) / 6 := by
  have hsplit : 1000 * (n / 1000) + n % 1000 = n := Nat.div_add_mod n 1000
  have hr : n % 1000 ≤ 1000 := (Nat.mod_lt n (by omega)).le
  have hrest : ∑ i ∈ range (n % 1000), i ^ 2 =
      (n % 1000 - 1) * (n % 1000) * (2 * (n % 1000) - 1) / 6 := by
    cases hcase : n % 1000 with
    | zero => rfl
    | succ r =>
      have h := six_sum_squares r
      rw [Nat.add_sub_cancel, show 2 * (r + 1) - 1 = 2 * r + 1 by omega, ← h,
        Nat.mul_div_cancel_left _ (by omega)]
  calc periodicSquareSum n = periodicSquareSum (1000 * (n / 1000) + n % 1000) := by rw [hsplit]
    _ = periodicSquareSum (1000 * (n / 1000)) + ∑ i ∈ range (n % 1000), i ^ 2 :=
      periodicSquareSum_add _ hr
    _ = _ := by rw [periodicSquareSum_periods, hrest]

/-- The bound of the iterations as a number. -/
theorem le_maximum {n : UInt64} (h : n ≤ maximumIterations) : n.toNat ≤ 100000000 := by
  simpa [maximumIterations, UInt64.le_iff_toNat_le] using h

/-- The remainder's share of the closed form does not wrap. -/
private theorem toNat_remainder {r : UInt64} (h : r.toNat < 1000) :
    (if r = 0 then 0 else (r - 1) * r * (2 * r - 1) / 6 : UInt64).toNat =
      (r.toNat - 1) * r.toNat * (2 * r.toNat - 1) / 6 := by
  by_cases hzero : r = 0
  · subst hzero
    rfl
  · have hpos : 0 < r.toNat := by
      rw [Nat.pos_iff_ne_zero]
      exact fun heq ↦ hzero (UInt64.toNat_inj.mp heq)
    have hone : (1 : UInt64) ≤ r := by
      rw [UInt64.le_iff_toNat_le]
      exact hpos
    have hdouble : (2 * r).toNat = 2 * r.toNat := by
      rw [UInt64.toNat_mul]
      simp
      omega
    have htwo : (1 : UInt64) ≤ 2 * r := by
      rw [UInt64.le_iff_toNat_le, hdouble]
      simp
      omega
    have hpred : (r - 1).toNat = r.toNat - 1 := Word.toNat_sub hone
    have hodd : (2 * r - 1).toNat = 2 * r.toNat - 1 := by
      rw [Word.toNat_sub htwo, hdouble]
      rfl
    have hsmall : (r.toNat - 1) * r.toNat ≤ 1000 * 1000 :=
      Nat.mul_le_mul (by omega) (by omega)
    have hlarge : (r.toNat - 1) * r.toNat * (2 * r.toNat - 1) ≤ 1000 * 1000 * 2000 :=
      Nat.mul_le_mul hsmall (by omega)
    have hproduct : ((r - 1) * r).toNat = (r.toNat - 1) * r.toNat := by
      rw [UInt64.toNat_mul, hpred, Nat.mod_eq_of_lt (by omega)]
    rw [if_neg hzero, UInt64.toNat_div, UInt64.toNat_mul, hproduct, hodd,
      Nat.mod_eq_of_lt (by omega)]
    rfl

/-- `expected_sum` does not wrap on the iterations that are accepted. -/
theorem toNat_expectedSum {n : UInt64} (h : n ≤ maximumIterations) :
    (expectedSum n).toNat = periodicSquareSum n.toNat := by
  have hn := le_maximum h
  have hmod : (n % 1000).toNat = n.toNat % 1000 := rfl
  have hrest := toNat_remainder (r := n % 1000) (by rw [hmod]; omega)
  have hwhole : (n / 1000 * 332833500).toNat = n.toNat / 1000 * 332833500 := by
    rw [UInt64.toNat_mul, UInt64.toNat_div]
    simp
    omega
  have hbound := periodicSquareSum_le n.toNat
  rw [periodicSquareSum_eq] at hbound ⊢
  rw [hmod] at hrest
  rw [expectedSum, UInt64.toNat_add, hwhole, hrest, Nat.mod_eq_of_lt (by omega)]

/-! ### The loop -/

/-- The inner loop stops at its end. -/
theorem addSquares_fst {finish completed sum : UInt64} (h : completed ≤ finish) :
    (addSquares finish completed sum).1 = finish := by
  fun_induction addSquares finish completed sum with
  | case1 completed sum hlt value ih => exact ih (Word.succ_le hlt)
  | case2 completed sum hge => exact le_antisymm h (not_lt.mp hge)

/-- The inner loop keeps the sum, which does not wrap up to the maximum. -/
theorem addSquares_snd {finish completed sum : UInt64} (hfinish : finish ≤ maximumIterations)
    (h : completed ≤ finish) (hsum : sum.toNat = periodicSquareSum completed.toNat) :
    (addSquares finish completed sum).2.toNat = periodicSquareSum finish.toNat := by
  fun_induction addSquares finish completed sum with
  | case1 completed sum hlt value ih =>
    refine ih (Word.succ_le hlt) ?_
    have hmax := le_maximum (hlt.le.trans hfinish)
    have hbound := periodicSquareSum_le (completed.toNat + 1)
    rw [periodicSquareSum_succ] at hbound
    have hvalue : value.toNat = completed.toNat % 1000 := rfl
    have hsquare : (value * value).toNat = (completed.toNat % 1000) ^ 2 := by
      have hle : completed.toNat % 1000 * (completed.toNat % 1000) ≤ 1000 * 1000 :=
        Nat.mul_le_mul (by omega) (by omega)
      rw [UInt64.toNat_mul, hvalue, Nat.mod_eq_of_lt (by omega), pow_two]
    rw [Word.toNat_succ (Word.ne_max_of_lt hlt), periodicSquareSum_succ, UInt64.toNat_add, hsum,
      hsquare, Nat.mod_eq_of_lt (by omega)]
  | case2 completed sum hge =>
    obtain rfl := le_antisymm h (not_lt.mp hge)
    exact hsum

end RobotHarness.Compute
