import Mathlib.Algebra.BigOperators.Group.List.Basic
import Mathlib.Algebra.Order.Group.Int
import Mathlib.Tactic.Ring

/-!
# Intervals in a row

1. `Tiles`: half-open intervals of integers that follow each other from one end to another.
2. `Tiles.countP_covers`: they cover each number once.
-/

namespace Intervals

/-! ## 1. Rows -/

/-- Each interval is not empty and starts where the one before it ends. -/
def Tiles : ℤ → List (ℤ × ℤ) → ℤ → Prop
  | start, [], finish => start = finish
  | start, (first, last) :: rest, finish => start = first ∧ first < last ∧ Tiles last rest finish

def covers (n : ℤ) (interval : ℤ × ℤ) : Bool := interval.1 ≤ n && n < interval.2

variable {start finish : ℤ} {intervals : List (ℤ × ℤ)}

theorem Tiles.le (h : Tiles start intervals finish) : start ≤ finish := by
  induction intervals generalizing start with
  | nil => exact h.le
  | cons interval rest ih =>
    obtain ⟨rfl, hlt, hrest⟩ := h
    exact hlt.le.trans (ih hrest)

/-! ## 2. Sums and covers -/

/-- A number between the ends is in one interval, any other in none. -/
theorem Tiles.countP_covers (h : Tiles start intervals finish) (n : ℤ) :
    intervals.countP (covers n) = if start ≤ n ∧ n < finish then 1 else 0 := by
  induction intervals generalizing start with
  | nil =>
    obtain rfl : start = finish := h
    rw [if_neg (by omega)]
    rfl
  | cons interval rest ih =>
    obtain ⟨first, last⟩ := interval
    obtain ⟨rfl, hlt, hrest⟩ := h
    have hle := hrest.le
    rw [List.countP_cons, ih hrest]
    by_cases hcovers : start ≤ n ∧ n < last
    · have hinside : start ≤ n ∧ n < finish := by omega
      simp [covers, hcovers, hinside]
    · have hfirst : covers n (start, last) = false := by simpa [covers] using hcovers
      have hiff : (last ≤ n ∧ n < finish) ↔ (start ≤ n ∧ n < finish) := by omega
      simp [hfirst, hiff]

end Intervals
