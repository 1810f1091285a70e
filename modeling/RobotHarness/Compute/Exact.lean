import RobotHarness.Compute.Agreement

/-!
# The three sums of one computation

The sum that the worker accumulates batch by batch, and the two closed forms that it is checked
against, in `src/compute/compute_execution.cpp` and `src/compute/recovery_client.cpp`. Beside
each stands the same computation on numbers, which has no result where an operation on words
would wrap or a division would have a remainder.
-/

namespace RobotHarness.Recovery

/-- `expected_sum` of the recovery client. -/
def expectedSum (count : UInt64) : UInt64 :=
  let r := count % 1000
  count / 1000 * 332833500 + (if r = 0 then 0 else (r - 1) * r * (2 * r - 1) / 6)

end RobotHarness.Recovery

namespace RobotHarness.Compute

/-! ### On numbers -/

/-- `expected_sum` on numbers, none where an operation wraps or the division is not exact. -/
def exactExpectedSum (iterations : ℕ) : Option ℕ :=
  let remainder := iterations % 1000
  let whole := iterations / 1000 * 332833500
  if remainder = 0 then if Word.Fits whole then some whole else none
  else
    let product := (remainder - 1) * remainder * (2 * remainder - 1)
    if Word.Fits whole ∧ 1 ≤ remainder ∧ Word.Fits ((remainder - 1) * remainder) ∧
        Word.Fits (2 * remainder) ∧ 1 ≤ 2 * remainder ∧ Word.Fits product ∧ 6 ∣ product ∧
        Word.Fits (whole + product / 6) then
      some (whole + product / 6)
    else none

/-- The inner loop of the worker on numbers, none where an operation wraps. -/
def exactAddSquares (finish completed sum : ℕ) : Option (ℕ × ℕ) :=
  if completed < finish then
    let value := completed % 1000
    if Word.Fits (value * value) ∧ Word.Fits (sum + value * value) ∧ Word.Fits (completed + 1) then
      exactAddSquares finish (completed + 1) (sum + value * value)
    else none
  else some (completed, sum)
termination_by finish - completed

/-- The batches of the worker on numbers, none where an operation wraps or a batch would make no
iteration. -/
def exactAccumulate (limit completed sum : ℕ) : Option (ℕ × ℕ) :=
  if completed < limit then
    if Word.Fits (completed + 4096) then
      match exactAddSquares (min (completed + 4096) limit) completed sum with
      | none => none
      | some after =>
        if completed < after.1 then exactAccumulate limit after.1 after.2 else none
    else none
  else some (completed, sum)
termination_by limit - completed

/-! ### On words -/

namespace Worker

/-- The loop of `run` without its reads and writes: the batches up to a limit. -/
def accumulate (limit : UInt64) (bounded : limit ≤ maximumIterations) (completed sum : UInt64) :
    UInt64 × UInt64 :=
  if completed < limit then
    let after := addSquares (min (completed + batchIterations) limit) completed sum
    accumulate limit bounded after.1 after.2
  else (completed, sum)
termination_by limit.toNat - completed.toNat
decreasing_by
  have hlt : completed < limit := by assumption
  have hend := lt_min (lt_add_batch (hlt.trans_le bounded)) hlt
  have hafter : after.1 = min (completed + batchIterations) limit := addSquares_fst hend.le
  rw [hafter]
  rw [UInt64.lt_iff_toNat_lt] at hend hlt
  omega

end Worker

/-! ### Nothing wraps -/

/-- The product in the closed form is divided without remainder. -/
theorem six_dvd_product {remainder : ℕ} (h : 1 ≤ remainder) :
    6 ∣ (remainder - 1) * remainder * (2 * remainder - 1) := by
  obtain ⟨r, rfl⟩ := Nat.exists_eq_add_of_le' h
  rw [Nat.add_sub_cancel, show 2 * (r + 1) - 1 = 2 * r + 1 by omega]
  exact ⟨_, (six_sum_squares r).symm⟩

/-- The closed form is exact up to the maximum. -/
theorem exactExpectedSum_eq {n : ℕ} (h : n ≤ 100000000) :
    exactExpectedSum n = some (periodicSquareSum n) := by
  have hbound := periodicSquareSum_le n
  rw [periodicSquareSum_eq] at hbound ⊢
  unfold exactExpectedSum
  dsimp only
  have hremainder : n % 1000 < 1000 := Nat.mod_lt n (by omega)
  generalize n % 1000 = remainder at *
  have hwhole : Word.Fits (n / 1000 * 332833500) := by unfold Word.Fits; omega
  split
  next hzero =>
    simp [hzero]
  next hzero =>
    have hsmall : (remainder - 1) * remainder ≤ 1000 * 1000 :=
      Nat.mul_le_mul (by omega) (by omega)
    have hlarge : (remainder - 1) * remainder * (2 * remainder - 1) ≤ 1000 * 1000 * 2000 :=
      Nat.mul_le_mul hsmall (by omega)
    have hproduct := @six_dvd_product remainder (by omega)
    refine if_pos ⟨hwhole, by omega, ?_, ?_, by omega, ?_, hproduct, ?_⟩
    all_goals unfold Word.Fits; omega

/-- The inner loop keeps the sum, without a wrap up to the maximum. -/
theorem exactAddSquares_eq {finish completed sum : ℕ} (hfinish : finish ≤ 100000000)
    (h : completed ≤ finish) (hsum : sum = periodicSquareSum completed) :
    exactAddSquares finish completed sum = some (finish, periodicSquareSum finish) := by
  fun_induction exactAddSquares finish completed sum with
  | case1 completed sum hlt value hfits ih =>
    refine ih hlt ?_
    rw [hsum, periodicSquareSum_succ, pow_two]
  | case2 completed sum hlt value hwraps =>
    have hbound := periodicSquareSum_le (completed + 1)
    rw [periodicSquareSum_succ, pow_two, ← hsum] at hbound
    have hsquare : value * value = completed % 1000 * (completed % 1000) := rfl
    refine absurd ⟨?_, ?_, ?_⟩ hwraps
    all_goals unfold Word.Fits; omega
  | case3 completed sum hge =>
    obtain rfl : completed = finish := by omega
    rw [hsum]

/-- So do the batches. -/
theorem exactAccumulate_eq {limit completed sum : ℕ} (hlimit : limit ≤ 100000000)
    (h : completed ≤ limit) (hsum : sum = periodicSquareSum completed) :
    exactAccumulate limit completed sum = some (limit, periodicSquareSum limit) := by
  have hbatch : ∀ {completed sum : ℕ}, completed < limit → sum = periodicSquareSum completed →
      exactAddSquares (min (completed + 4096) limit) completed sum =
        some (min (completed + 4096) limit, periodicSquareSum (min (completed + 4096) limit)) :=
    fun hlt hsum ↦ exactAddSquares_eq (by omega) (by omega) hsum
  fun_induction exactAccumulate limit completed sum with
  | case1 completed sum hlt hfits hnone =>
    rw [hbatch hlt hsum] at hnone
    cases hnone
  | case2 completed sum hlt hfits after hafter hadvance ih =>
    rw [hbatch hlt hsum] at hafter
    cases hafter
    exact ih (Nat.min_le_right _ _) rfl
  | case3 completed sum hlt hfits after hafter hstuck =>
    rw [hbatch hlt hsum] at hafter
    cases hafter
    dsimp only at hstuck
    omega
  | case4 completed sum hlt hwraps => exact absurd (by unfold Word.Fits; omega) hwraps
  | case5 completed sum hge =>
    obtain rfl : completed = limit := by omega
    rw [hsum]

namespace Worker

/-- The batches of the worker end at the limit, with the sum of the closed form. -/
theorem accumulate_eq {limit : UInt64} (bounded : limit ≤ maximumIterations)
    {completed sum : UInt64} (h : completed ≤ limit)
    (hsum : sum.toNat = periodicSquareSum completed.toNat) :
    accumulate limit bounded completed sum = (limit, expectedSum limit) := by
  fun_induction accumulate limit bounded completed sum with
  | case1 completed sum hlt after ih =>
    have hend := lt_min (lt_add_batch (hlt.trans_le bounded)) hlt
    have hle : min (completed + batchIterations) limit ≤ limit := min_le_right _ _
    have hcompleted : after.1 = min (completed + batchIterations) limit :=
      addSquares_fst hend.le
    refine ih (hcompleted ▸ hle) ?_
    rw [hcompleted]
    exact addSquares_snd (hle.trans bounded) hend.le hsum
  | case2 completed sum hge =>
    obtain rfl := le_antisymm h (not_lt.mp hge)
    rw [Prod.mk.injEq, ← UInt64.toNat_inj (a := sum), hsum, toNat_expectedSum bounded]
    exact ⟨rfl, rfl⟩

variable {limit : IterationLimit} {answers : WorkerAnswers}

/-- A completed frame of the loop holds what the batches accumulate. -/
private theorem loop_completed {batch : ℕ} {completed sum dropped : UInt64} {f : Frame}
    (hf : .wrote f ∈ (loop limit answers batch completed sum dropped).1)
    (hkind : f.kind = .completed) :
    (f.iterations, f.value) = accumulate limit.value limit.valid.2 completed sum := by
  fun_induction loop limit answers batch completed sum dropped
  case case1 | case3 | case4 | case7 => cases hf
  case case2 =>
    unfold stop at hf
    dsimp only at hf
    split at hf
    · simp at hf
    split at hf
    all_goals
      simp only [List.mem_cons, List.not_mem_nil, or_false, reduceCtorEq, false_or,
        WorkerEvent.wrote.injEq] at hf
      grind
  case case5 batch completed sum dropped hlt _ after progress _ events code hrest ih =>
    rw [hrest] at ih
    rw [accumulate, if_pos hlt]
    rcases List.mem_cons.mp hf with hf | hf
    · rw [WorkerEvent.wrote.inj hf] at hkind
      cases hkind
    · exact ih hf
  case case6 batch completed sum dropped hlt _ after _ ih =>
    rw [accumulate, if_pos hlt]
    exact ih hf
  case case8 batch completed sum dropped hge =>
    rw [accumulate, if_neg hge]
    unfold complete at hf
    split at hf
    · cases List.mem_singleton.mp hf
      rfl
    · cases hf

/-- So does a completed frame of a worker. -/
theorem run_completed {f : Frame} (hf : .wrote f ∈ (run limit answers).1)
    (hkind : f.kind = .completed) :
    (f.iterations, f.value) = accumulate limit.value limit.valid.2 0 0 := by
  unfold run at hf
  split at hf
  · cases hf
  · rcases List.mem_cons.mp hf with hf | hf
    · cases hf
      cases hkind
    · exact loop_completed hf hkind

end Worker

/-- The sums agree: for every number of iterations up to the maximum, the batches of the worker
and both closed forms yield the sum over all `i` below it of the square of `i` modulo 1000, and
so does every completed frame. On numbers each computation has a result: no operation on words
wraps, and the division is exact. -/
theorem sums_agree {n : UInt64} (h : n ≤ maximumIterations) :
    let sum := ∑ i ∈ Finset.range n.toNat, (i % 1000) ^ 2
    (Worker.accumulate n h 0 0).2.toNat = sum ∧ (expectedSum n).toNat = sum ∧
      (Recovery.expectedSum n).toNat = sum ∧
      exactAccumulate n.toNat 0 0 = some (n.toNat, sum) ∧ exactExpectedSum n.toNat = some sum ∧
      ∀ (limit : IterationLimit) (answers : WorkerAnswers) (f : Frame), limit.value = n →
        .wrote f ∈ (Worker.run limit answers).1 → f.kind = .completed →
          f.iterations = n ∧ f.value.toNat = sum := by
  have hsum : (expectedSum n).toNat = periodicSquareSum n.toNat := toNat_expectedSum h
  have haccumulate : Worker.accumulate n h 0 0 = (n, expectedSum n) :=
    Worker.accumulate_eq h UInt64.zero_le rfl
  refine ⟨?_, hsum, hsum, exactAccumulate_eq (le_maximum h) (Nat.zero_le _) rfl,
    exactExpectedSum_eq (le_maximum h), ?_⟩
  · rw [haccumulate]
    exact hsum
  · rintro limit answers f rfl hf hkind
    have hframe := Worker.run_completed hf hkind
    rw [haccumulate, Prod.mk.injEq] at hframe
    rw [hframe.1, hframe.2]
    exact ⟨rfl, hsum⟩

/-- A computation that ends within a period. -/
theorem sums_agree_periods :
    (expectedSum 2500).toNat = ∑ i ∈ Finset.range 2500, (i % 1000) ^ 2 :=
  (sums_agree (by decide : (2500 : UInt64) ≤ maximumIterations)).2.1

end RobotHarness.Compute
