import ContractReview.Opinion.Consensus
import Mathlib

/-!
Opinions over exact numbers, where sums and shares lose nothing and any two numbers compare.
-/

namespace ContractReview

/-- The nearest whole number, the even one of two that are equally near. -/
def roundEven (x : ℚ) : ℤ :=
  if x - ⌊x⌋ < 1 / 2 ∨ (x - ⌊x⌋ = 1 / 2 ∧ ⌊x⌋ % 2 = 0) then ⌊x⌋ else ⌊x⌋ + 1

instance : Measure ℚ where
  zero := 0
  add := (· + ·)
  share total count := total / count
  below a b := decide (a < b)
  trusted := 4 / 5
  quota threshold count := ⌈(roundEven (count * threshold * 10 ^ 9) : ℚ) / 10 ^ 9⌉

namespace Consensus

/-- The arithmetic mean of some values. It lies between any two bounds of theirs, so also between
the least and the greatest of them. -/
structure IsMean (values : List ℚ) (m : ℚ) : Prop where
  exact : m = values.sum / values.length
  lower : ∀ low, (∀ v ∈ values, low ≤ v) → low ≤ m
  upper : ∀ high, (∀ v ∈ values, v ≤ high) → m ≤ high

theorem sum_eq (values : List ℚ) : sum values = values.sum := by
  unfold sum
  rw [List.sum_eq_foldl]
  rfl

theorem isMean_mean {values : List ℚ} (h : values ≠ []) : IsMean values (mean values) := by
  have hcount : (0 : ℚ) < values.length := by
    exact_mod_cast List.length_pos_iff.mpr h
  have hmean : mean values = values.sum / values.length := by
    unfold mean
    rw [sum_eq]
    rfl
  refine ⟨hmean, ?_, ?_⟩
  · intro low hlow
    have hsum := List.card_nsmul_le_sum values low hlow
    rw [hmean, le_div_iff₀ hcount, mul_comm]
    simpa using hsum
  · intro high hhigh
    have hsum := List.sum_le_card_nsmul values high hhigh
    rw [hmean, div_le_iff₀ hcount, mul_comm]
    simpa using hsum

end Consensus

end ContractReview
