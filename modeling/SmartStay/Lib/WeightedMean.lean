import Mathlib.Algebra.Order.BigOperators.Group.List
import Mathlib.Algebra.Order.Field.Basic
import Mathlib.Algebra.BigOperators.Ring.List
import Mathlib.Data.List.MinMax
import Mathlib.Tactic.Ring

/-!
# Weighted means

1. `weightedMean`, `weightedMean_mono`: means of larger values are larger.
2. `le_weightedMean`, `exists_le_weightedMean`: a mean lies between its values.
-/

namespace WeightedMean

variable {α K : Type*} [Field K] [LinearOrder K] [IsStrictOrderedRing K]
variable {l : List α} {value value' weight : α → K}

/-- The sum of the weighted values over that of the weights. -/
def weightedMean (l : List α) (value weight : α → K) : K :=
  (l.map fun a => value a * weight a).sum / (l.map weight).sum

theorem sum_weight_nonneg (hweight : ∀ a ∈ l, 0 ≤ weight a) : 0 ≤ (l.map weight).sum :=
  List.sum_nonneg (List.forall_mem_map.mpr hweight)

/-! ## 1. Larger values -/

theorem weightedMean_mono (hweight : ∀ a ∈ l, 0 ≤ weight a) (h : ∀ a ∈ l, value a ≤ value' a) :
    weightedMean l value weight ≤ weightedMean l value' weight :=
  div_le_div_of_nonneg_right
    (List.sum_le_sum fun a ha => mul_le_mul_of_nonneg_right (h a ha) (hweight a ha))
    (sum_weight_nonneg hweight)

omit [LinearOrder K] [IsStrictOrderedRing K] in
theorem weightedMean_const (m : K) (htotal : (l.map weight).sum ≠ 0) :
    weightedMean l (fun _ => m) weight = m := by
  rw [weightedMean, List.sum_map_mul_left, mul_div_cancel_right₀ _ htotal]

/-! ## 2. Between the values -/

theorem le_weightedMean {m : K} (hweight : ∀ a ∈ l, 0 ≤ weight a) (htotal : 0 < (l.map weight).sum)
    (h : ∀ a ∈ l, m ≤ value a) : m ≤ weightedMean l value weight :=
  (weightedMean_const m htotal.ne').symm.le.trans (weightedMean_mono hweight h)

theorem weightedMean_le {m : K} (hweight : ∀ a ∈ l, 0 ≤ weight a) (htotal : 0 < (l.map weight).sum)
    (h : ∀ a ∈ l, value a ≤ m) : weightedMean l value weight ≤ m :=
  (weightedMean_mono hweight h).trans (weightedMean_const m htotal.ne').le

theorem exists_le_weightedMean (hweight : ∀ a ∈ l, 0 ≤ weight a) (htotal : 0 < (l.map weight).sum) :
    ∃ a ∈ l, value a ≤ weightedMean l value weight := by
  cases hmin : l.argmin value with
  | none =>
    rw [List.argmin_eq_none.mp hmin] at htotal
    exact absurd htotal (lt_irrefl _)
  | some a =>
    refine ⟨a, List.argmin_mem hmin, le_weightedMean hweight htotal fun b hb => ?_⟩
    exact List.le_of_mem_argmin hb hmin

theorem exists_weightedMean_le (hweight : ∀ a ∈ l, 0 ≤ weight a) (htotal : 0 < (l.map weight).sum) :
    ∃ a ∈ l, weightedMean l value weight ≤ value a := by
  cases hmax : l.argmax value with
  | none =>
    rw [List.argmax_eq_none.mp hmax] at htotal
    exact absurd htotal (lt_irrefl _)
  | some a =>
    refine ⟨a, List.argmax_mem hmax, weightedMean_le hweight htotal fun b hb => ?_⟩
    exact List.le_of_mem_argmax hb hmax

end WeightedMean
