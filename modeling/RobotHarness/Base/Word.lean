import Mathlib.Algebra.Group.Nat.Defs
import RobotHarness.Base.Watermark

/-!
# 64-bit words without wrap

When the sum, the successor or the difference of words is that of the numbers, and which
numbers are words.
-/

namespace Word

/-- The number is a word. -/
def Fits (n : ℕ) : Prop := n < 2 ^ 64
  deriving Decidable

variable {a b : UInt64}

/-- The successor of a word that is not the last one. -/
theorem toNat_succ (h : a ≠ 0xFFFFFFFFFFFFFFFF) : (a + 1).toNat = a.toNat + 1 := by
  have hlt := a.toNat_lt
  have hne : a.toNat ≠ 0xFFFFFFFFFFFFFFFF := fun heq ↦ h (UInt64.toNat_inj.mp heq)
  rw [UInt64.toNat_add]
  simp
  omega

/-- A word below another is not the last one. -/
theorem ne_max_of_lt (h : a < b) : a ≠ 0xFFFFFFFFFFFFFFFF := by
  rintro rfl
  have hlt := b.toNat_lt
  rw [UInt64.lt_iff_toNat_lt] at h
  simp at h
  omega

/-- The successor of a word below another is not above it. -/
theorem succ_le (h : a < b) : a + 1 ≤ b := by
  rw [UInt64.le_iff_toNat_le, toNat_succ (ne_max_of_lt h)]
  exact UInt64.lt_iff_toNat_lt.mp h

/-- A word that is not the last one is below its successor. -/
theorem lt_succ (h : a ≠ 0xFFFFFFFFFFFFFFFF) : a < a + 1 := by
  rw [UInt64.lt_iff_toNat_lt, toNat_succ h]
  omega

/-- The sum of words whose first does not exceed the complement of the second. -/
theorem toNat_add_of_le (h : a ≤ 0xFFFFFFFFFFFFFFFF - b) : (a + b).toNat = a.toNat + b.toNat := by
  have hlt := b.toNat_lt
  have hb : b ≤ 0xFFFFFFFFFFFFFFFF := by
    rw [UInt64.le_iff_toNat_le]
    simp
    omega
  rw [UInt64.le_iff_toNat_le, UInt64.toNat_sub_of_le _ _ hb] at h
  rw [UInt64.toNat_add]
  simp at h
  omega

/-- The difference of words in order. -/
theorem toNat_sub (h : b ≤ a) : (a - b).toNat = a.toNat - b.toNat :=
  UInt64.toNat_sub_of_le a b h

end Word
