import Mathlib.Algebra.Order.Field.Basic
import Mathlib.Tactic.Linarith
import Mathlib.Tactic.Ring

/-!
# Bisection

1. `Bracket`: the ends of an interval where a test changes from true to false.
2. `Bracket.left`, `Bracket.right`: a bracket is halved at its middle.
-/

namespace Bisection

variable {K : Type*} [Field K] [LinearOrder K] [IsStrictOrderedRing K] {good : K → Prop}
variable {start low high width : K}

/-! ## 1. Brackets -/

/-- An interval of this width: the test holds at its low end, unless that is still the start, and not
at its high end. -/
structure Bracket (good : K → Prop) (start width low high : K) : Prop where
  width_eq : high - low = width
  pos : 0 < width
  from_start : start ≤ low
  good_low : low = start ∨ good low
  not_good_high : ¬ good high

/-! ## 2. Halves -/

theorem Bracket.right (h : Bracket good start width low high) (hmiddle : good ((low + high) / 2)) :
    Bracket good start (width / 2) ((low + high) / 2) high where
  width_eq := by rw [← h.width_eq]; ring
  pos := half_pos h.pos
  from_start := by
    have hlow := h.from_start
    have hpos := h.pos
    have hwidth := h.width_eq
    linarith
  good_low := .inr hmiddle
  not_good_high := h.not_good_high

theorem Bracket.left (h : Bracket good start width low high) (hmiddle : ¬ good ((low + high) / 2)) :
    Bracket good start (width / 2) low ((low + high) / 2) where
  width_eq := by rw [← h.width_eq]; ring
  pos := half_pos h.pos
  from_start := h.from_start
  good_low := h.good_low
  not_good_high := hmiddle

end Bisection
