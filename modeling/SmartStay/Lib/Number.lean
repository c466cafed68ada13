import Mathlib.Algebra.Order.Floor.Ring
import Mathlib.Data.Rat.Floor

/-!
# JavaScript numbers as rationals

The roundings that the engines use, on exact rational values.
-/

namespace JsNumber

/-- `Math.round(x)`: the nearest integer, halves upwards. -/
def round (x : ℚ) : ℤ := ⌊x + 1 / 2⌋

/-- `Math.min(Math.max(value, minimum), maximum)`. -/
def clamp (value minimum maximum : ℚ) : ℚ := min (max value minimum) maximum

/-- `x.toFixed(6)`. From `10 ** 21` on JavaScript spells the number otherwise; these digits
    distinguish the same numbers. -/
def toFixed6 (x : ℚ) : String :=
  let n := (round (|x| * 1000000)).toNat
  let decimals := toString (n % 1000000)
  (if x < 0 then "-" else "") ++ toString (n / 1000000) ++ "." ++
    String.ofList (List.replicate (6 - decimals.length) '0') ++ decimals

/-- `x.toFixed(2)`, with the same remark. -/
def toFixed2 (x : ℚ) : String :=
  let n := (round (|x| * 100)).toNat
  let decimals := toString (n % 100)
  (if x < 0 then "-" else "") ++ toString (n / 100) ++ "." ++
    String.ofList (List.replicate (2 - decimals.length) '0') ++ decimals

/-- `x.toFixed(digits)`, with the same remark. -/
def toFixed (digits : Nat) (x : ℚ) : String :=
  let n := (round (|x| * 10 ^ digits)).toNat
  let decimals := toString (n % 10 ^ digits)
  (if x < 0 then "-" else "") ++ toString (n / 10 ^ digits) ++ "." ++
    String.ofList (List.replicate (digits - decimals.length) '0') ++ decimals

/-- `Number(x.toFixed(digits))` of an exact decimal: the nearest one, halves away from zero. -/
def fixed (digits : Nat) (x : ℚ) : ℚ :=
  (if x < 0 then -1 else 1) * round (|x| * 10 ^ digits) / 10 ^ digits

/-- A number of few enough decimals is not changed. -/
theorem fixed_of_decimal (digits : Nat) (n : ℤ) :
    fixed digits (n / 10 ^ digits) = n / 10 ^ digits := by
  have hpos : (0 : ℚ) < 10 ^ digits := by positivity
  have habs : |(n / 10 ^ digits : ℚ)| * 10 ^ digits = (|n| : ℤ) := by
    rw [abs_div, abs_of_pos hpos, div_mul_cancel₀ _ hpos.ne', Int.cast_abs]
  have hround : round ((|n| : ℤ) : ℚ) = |n| := by
    rw [round, Int.floor_eq_iff]
    constructor <;> norm_num
  have hsign : ((n / 10 ^ digits : ℚ) < 0) ↔ n < 0 := by
    rw [div_neg_iff]
    simp [hpos, hpos.not_gt]
  unfold fixed
  rw [habs, hround]
  simp only [hsign]
  split
  · next hneg => rw [abs_of_neg hneg]; push_cast; ring
  · next hnonneg => rw [abs_of_nonneg (not_lt.mp hnonneg), one_mul]

theorem clamp_mono {value value' minimum maximum : ℚ} (h : value ≤ value') :
    clamp value minimum maximum ≤ clamp value' minimum maximum :=
  min_le_min_right _ (max_le_max_right _ h)

theorem clamp_mem {value minimum maximum : ℚ} (h : minimum ≤ maximum) :
    minimum ≤ clamp value minimum maximum ∧ clamp value minimum maximum ≤ maximum :=
  ⟨le_min (le_max_right _ _) h, min_le_right _ _⟩

end JsNumber
