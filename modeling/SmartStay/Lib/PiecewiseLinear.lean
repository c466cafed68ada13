import Mathlib.Algebra.Order.Field.Basic
import Mathlib.Algebra.Order.Floor.Semiring
import Mathlib.Tactic.Linarith
import Mathlib.Tactic.FieldSimp
import Mathlib.Tactic.Ring

/-!
# Piecewise linear functions

1. `between`: the line through two points.
2. `climb`: the lines through a list of points, which is monotone when the heights are, wherever the
   points lie.
3. `interpolate`: the values of a monotone sequence at positions between its indices.
-/

namespace PiecewiseLinear

variable {K : Type*} [Field K] [LinearOrder K] [IsStrictOrderedRing K]

/-! ## 1. One line -/

/-- The height at `x` of the line from `(x₀, y₀)` to `(x₁, y₁)`. -/
def between (x₀ x₁ y₀ y₁ x : K) : K := y₀ + (x - x₀) / (x₁ - x₀) * (y₁ - y₀)

variable {x₀ x₁ y₀ y₁ x x' : K}

theorem between_mono (hx : x₀ < x₁) (hy : y₀ ≤ y₁) (h : x ≤ x') :
    between x₀ x₁ y₀ y₁ x ≤ between x₀ x₁ y₀ y₁ x' := by
  have hrun : 0 < x₁ - x₀ := sub_pos.mpr hx
  have hrise : 0 ≤ y₁ - y₀ := sub_nonneg.mpr hy
  unfold between
  gcongr

omit [LinearOrder K] [IsStrictOrderedRing K] in
@[simp] theorem between_left : between x₀ x₁ y₀ y₁ x₀ = y₀ := by
  rw [between, sub_self, zero_div, zero_mul, add_zero]

theorem between_right (hx : x₀ < x₁) : between x₀ x₁ y₀ y₁ x₁ = y₁ := by
  rw [between, div_self (sub_pos.mpr hx).ne', one_mul, add_sub_cancel]

theorem le_between (hx : x₀ < x₁) (hy : y₀ ≤ y₁) (h : x₀ ≤ x) : y₀ ≤ between x₀ x₁ y₀ y₁ x := by
  have hmono := between_mono hx hy h
  rwa [between_left] at hmono

theorem between_le (hx : x₀ < x₁) (hy : y₀ ≤ y₁) (h : x ≤ x₁) : between x₀ x₁ y₀ y₁ x ≤ y₁ := by
  have hmono := between_mono hx hy h
  rwa [between_right hx] at hmono

/-! ## 2. Lines through a list of points -/

/-- The height above `x₀` on the lines from `(x₀, y₀)` through the points, and the last height after
them. A point that does not lie to the right of the one before it is skipped. -/
def climb (x : K) : K → K → List (K × K) → K
  | _, y₀, [] => y₀
  | x₀, y₀, (x₁, y₁) :: points =>
    if x ≤ x₁ then between x₀ x₁ y₀ y₁ x else climb x x₁ y₁ points

/-- The heights ascend. -/
def Ascending : K → List (K × K) → Prop
  | _, [] => True
  | y₀, (_, y₁) :: points => y₀ ≤ y₁ ∧ Ascending y₁ points

/-- The height of the last point. -/
def lastHeight : K → List (K × K) → K
  | y₀, [] => y₀
  | _, (_, y₁) :: points => lastHeight y₁ points

variable {points : List (K × K)}

omit [Field K] [IsStrictOrderedRing K] in
theorem ascending_le_lastHeight (h : Ascending y₀ points) : y₀ ≤ lastHeight y₀ points := by
  induction points generalizing y₀ with
  | nil => exact le_rfl
  | cons point points ih => exact h.1.trans (ih h.2)

theorem climb_bounds (h : Ascending y₀ points) (hx : x₀ < x) :
    y₀ ≤ climb x x₀ y₀ points ∧ climb x x₀ y₀ points ≤ lastHeight y₀ points := by
  induction points generalizing x₀ y₀ with
  | nil => exact ⟨le_rfl, le_rfl⟩
  | cons point points ih =>
    obtain ⟨x₁, y₁⟩ := point
    obtain ⟨hy, hrest⟩ := h
    rw [climb, lastHeight]
    split
    · next hle =>
      have hrun : x₀ < x₁ := hx.trans_le hle
      exact ⟨le_between hrun hy hx.le,
        (between_le hrun hy hle).trans (ascending_le_lastHeight hrest)⟩
    · next hnot =>
      obtain ⟨hlow, hhigh⟩ := ih hrest (not_le.mp hnot)
      exact ⟨hy.trans hlow, hhigh⟩

theorem climb_mono (h : Ascending y₀ points) (hx : x₀ < x) (hle : x ≤ x') :
    climb x x₀ y₀ points ≤ climb x' x₀ y₀ points := by
  induction points generalizing x₀ y₀ with
  | nil => exact le_rfl
  | cons point points ih =>
    obtain ⟨x₁, y₁⟩ := point
    obtain ⟨hy, hrest⟩ := h
    rw [climb, climb]
    by_cases hleft : x ≤ x₁
    · have hrun : x₀ < x₁ := hx.trans_le hleft
      rw [if_pos hleft]
      split
      · exact between_mono hrun hy hle
      · next hright =>
        exact (between_le hrun hy hleft).trans (climb_bounds hrest (not_le.mp hright)).1
    · rw [if_neg hleft, if_neg fun hright => hleft (hle.trans hright)]
      exact ih hrest (not_le.mp hleft)

/-! ## 3. Positions in a sequence -/

section
variable [FloorSemiring K] {f : ℕ → K} {p q : K}

/-- The value of a sequence at a position between two indices. -/
def interpolate (f : ℕ → K) (p : K) : K := f ⌊p⌋₊ + (f ⌈p⌉₊ - f ⌊p⌋₊) * (p - ⌊p⌋₊)

theorem interpolate_bounds (hf : Monotone f) (hp : 0 ≤ p) :
    f ⌊p⌋₊ ≤ interpolate f p ∧ interpolate f p ≤ f ⌈p⌉₊ := by
  have hstep : 0 ≤ f ⌈p⌉₊ - f ⌊p⌋₊ := sub_nonneg.mpr (hf (Nat.floor_le_ceil p))
  have hfract : 0 ≤ p - ⌊p⌋₊ := sub_nonneg.mpr (Nat.floor_le hp)
  have hfract' : p - ⌊p⌋₊ ≤ 1 := by
    have hlt := Nat.lt_floor_add_one p
    linarith
  unfold interpolate
  constructor
  · exact le_add_of_nonneg_right (mul_nonneg hstep hfract)
  · have hmul := mul_le_of_le_one_right hstep hfract'
    linarith

theorem interpolate_mono (hf : Monotone f) (hp : 0 ≤ p) (hle : p ≤ q) :
    interpolate f p ≤ interpolate f q := by
  have hq := hp.trans hle
  rcases (Nat.floor_le_floor hle).lt_or_eq with hlt | heq
  · -- an index lies between the two positions
    have hceil : ⌈p⌉₊ ≤ ⌊q⌋₊ := (Nat.ceil_le_floor_add_one p).trans hlt
    calc interpolate f p ≤ f ⌈p⌉₊ := (interpolate_bounds hf hp).2
      _ ≤ f ⌊q⌋₊ := hf hceil
      _ ≤ interpolate f q := (interpolate_bounds hf hq).1
  · have hstep : 0 ≤ f ⌈q⌉₊ - f ⌊q⌋₊ := sub_nonneg.mpr (hf (Nat.floor_le_ceil q))
    have hsteps : f ⌈p⌉₊ - f ⌊q⌋₊ ≤ f ⌈q⌉₊ - f ⌊q⌋₊ := sub_le_sub_right (hf (Nat.ceil_mono hle)) _
    have hfract : 0 ≤ p - ⌊q⌋₊ := heq ▸ sub_nonneg.mpr (Nat.floor_le hp)
    unfold interpolate
    rw [heq]
    calc f ⌊q⌋₊ + (f ⌈p⌉₊ - f ⌊q⌋₊) * (p - ⌊q⌋₊)
        ≤ f ⌊q⌋₊ + (f ⌈q⌉₊ - f ⌊q⌋₊) * (p - ⌊q⌋₊) := by gcongr
      _ ≤ f ⌊q⌋₊ + (f ⌈q⌉₊ - f ⌊q⌋₊) * (q - ⌊q⌋₊) := by gcongr

end

end PiecewiseLinear
