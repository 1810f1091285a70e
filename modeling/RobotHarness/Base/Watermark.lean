import Mathlib.Order.Lattice
import Mathlib.Order.Defs.LinearOrder

/-!
# Watermarks over optional marks

The latest of a start and a list of marks that may be absent. A bound on the
watermark is a bound on the start and on every mark that is present.
The last section gives 64-bit words Mathlib's linear order.
-/

universe u

section Watermark

variable {α : Type u} [LinearOrder α]

/-- Raise a watermark to a mark, when there is one. -/
def raise (time : α) : Option α → α
  | none => time
  | some mark => max time mark

/-- The latest of a start and the marks present in a list. -/
def watermark (start : α) (marks : List (Option α)) : α := marks.foldl raise start

private theorem raise_le_iff {time bound : α} {mark : Option α} :
    raise time mark ≤ bound ↔ time ≤ bound ∧ ∀ m ∈ mark, m ≤ bound := by
  cases mark with
  | none => simp [raise]
  | some m => simp [raise]

/-- A watermark is bounded exactly when its start and its present marks are. -/
theorem watermark_le_iff {start bound : α} {marks : List (Option α)} :
    watermark start marks ≤ bound ↔
      start ≤ bound ∧ ∀ mark ∈ marks, ∀ m ∈ mark, m ≤ bound := by
  induction marks generalizing start with
  | nil => simp [watermark]
  | cons mark marks ih =>
    have hfold : watermark start (mark :: marks) = watermark (raise start mark) marks := rfl
    rw [hfold, ih, raise_le_iff, List.forall_mem_cons, and_assoc]

end Watermark

/-- 64-bit words in Mathlib's linear order, with the order of the core library. -/
instance linearOrderUInt64 : LinearOrder UInt64 where
  le_refl := UInt64.le_refl
  le_trans _ _ _ := UInt64.le_trans
  le_antisymm _ _ := UInt64.le_antisymm
  le_total := UInt64.le_total
  lt_iff_le_not_ge a b := by
    rw [UInt64.lt_iff_toNat_lt, UInt64.le_iff_toNat_le, UInt64.le_iff_toNat_le]
    omega
  toDecidableLE := inferInstance
