import Mathlib.Algebra.Order.Field.Rat

/-!
# JavaScript numbers with NaN and the infinities

`typeof value === "number"` holds of more than the finite numbers: their comparisons and their
arithmetic. Finite values are exact rationals.
-/

inductive JsFloat
  | finite (x : ℚ)
  | posInfinity
  | negInfinity
  | nan
deriving DecidableEq

namespace JsFloat

/-- `Number.isFinite(value)`. -/
def isFinite : JsFloat → Bool
  | .finite _ => true
  | _ => false

/-- `Number.isInteger(value)`. -/
def isInteger : JsFloat → Bool
  | .finite x => x.den = 1
  | _ => false

/-- `first < second`: no comparison holds of `NaN`. -/
def lt : JsFloat → JsFloat → Bool
  | .finite x, .finite y => x < y
  | .negInfinity, .finite _ => true
  | .negInfinity, .posInfinity => true
  | .finite _, .posInfinity => true
  | _, _ => false

/-- `first === second`. -/
def equals : JsFloat → JsFloat → Bool
  | .nan, _ => false
  | first, second => first = second

/-- `first <= second`. -/
def le (first second : JsFloat) : Bool := lt first second || equals first second

/-- `first + second`. -/
def add : JsFloat → JsFloat → JsFloat
  | .nan, _ => .nan
  | _, .nan => .nan
  | .finite x, .finite y => .finite (x + y)
  | .posInfinity, .negInfinity => .nan
  | .negInfinity, .posInfinity => .nan
  | .finite _, second => second
  | first, _ => first

/-- `-value`. -/
def neg : JsFloat → JsFloat
  | .finite x => .finite (-x)
  | .posInfinity => .negInfinity
  | .negInfinity => .posInfinity
  | .nan => .nan

/-- `first - second`. -/
def sub (first second : JsFloat) : JsFloat := add first (neg second)

/-- `Math.abs(value)`. -/
def abs : JsFloat → JsFloat
  | .finite x => .finite |x|
  | .negInfinity => .posInfinity
  | value => value

/-- The infinity with the sign of a number, `NaN` for zero. -/
def infinity (x : ℚ) : JsFloat :=
  if x = 0 then .nan else if 0 < x then .posInfinity else .negInfinity

/-- `value * factor`. -/
def times : JsFloat → ℚ → JsFloat
  | .finite x, factor => .finite (x * factor)
  | .posInfinity, factor => infinity factor
  | .negInfinity, factor => infinity (-factor)
  | .nan, _ => .nan

/-- `value / divisor`. A zero divisor counts as the positive zero. -/
def div : JsFloat → ℚ → JsFloat
  | .finite x, divisor => if divisor = 0 then infinity x else .finite (x / divisor)
  | .posInfinity, divisor => if divisor < 0 then .negInfinity else .posInfinity
  | .negInfinity, divisor => if divisor < 0 then .posInfinity else .negInfinity
  | .nan, _ => .nan

/-- `Math.min(Math.max(value, minimum), maximum)`. -/
def clamp (value : JsFloat) (minimum maximum : ℚ) : JsFloat :=
  match value with
  | .finite x => .finite (min (max x minimum) maximum)
  | .posInfinity => .finite maximum
  | .negInfinity => .finite (min minimum maximum)
  | .nan => .nan

/-- A function of finite numbers that keeps the infinities and `NaN`. -/
def map (f : ℚ → ℚ) : JsFloat → JsFloat
  | .finite x => .finite (f x)
  | value => value

@[simp] theorem div_finite {x divisor : ℚ} (h : divisor ≠ 0) :
    div (.finite x) divisor = .finite (x / divisor) := if_neg h

end JsFloat
