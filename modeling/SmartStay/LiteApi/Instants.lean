import SmartStay.Integrity.Calendar
import SmartStay.Lib.FixedWidth
import SmartStay.Lib.JsonValue

/-!
# Instants as texts

`new Date(timestamp).toISOString()`: the texts of the years from 0 to 9999 sort like their instants.

1. `toISOString`.
2. `instantFields_lt`: the year, month and so on of a later instant come later in this order.
3. `toISOString_lt`.
-/

namespace SmartStay.LiteApi

open Integrity FixedWidth

/-! ## 1. The text of an instant -/

/-- The day of a timestamp in milliseconds, where the first day of the year 0 is the day 1. -/
def dayOfInstant (timestamp : ℤ) : ℤ := timestamp / 86400000 + 719529

def timeOfDay (timestamp : ℤ) : Nat := (timestamp % 86400000).toNat

/-- The cycles of 400 years that take a day behind the first day of the year 0. -/
def cyclesBefore (day : ℤ) : ℤ := if 0 < day then 0 else -day / 146097 + 1

/-- The day in its cycle. -/
def cycleDay (timestamp : ℤ) : Nat :=
  (dayOfInstant timestamp + 146097 * cyclesBefore (dayOfInstant timestamp)).toNat

def yearOfInstant (timestamp : ℤ) : ℤ :=
  yearOf (cycleDay timestamp) - 400 * cyclesBefore (dayOfInstant timestamp)

/-- A year that is written with four digits. -/
def HasFourDigitYear (timestamp : ℤ) : Prop :=
  0 ≤ yearOfInstant timestamp ∧ yearOfInstant timestamp ≤ 9999

instance (timestamp : ℤ) : Decidable (HasFourDigitYear timestamp) :=
  inferInstanceAs (Decidable (_ ∧ _))

def digitUnit (digit : Nat) : CodeUnit := Fin.ofNat 65536 (48 + digit)

/-- The month, the day and the time, each number with its width and what stands after it. -/
def monthShape : List (Nat × CodeUnit) :=
  [(2, 45), (2, 84), (2, 58), (2, 58), (2, 46), (3, 90)]

/-- The hour, the minute, the second and the millisecond of a time of day. -/
def timeFields (time : Nat) : List Nat :=
  [time / 3600000, time / 60000 % 60, time / 1000 % 60, time % 1000]

def monthFields (timestamp : ℤ) : List Nat :=
  monthOf (cycleDay timestamp) :: dayOf (cycleDay timestamp) :: timeFields (timeOfDay timestamp)

/-- `new Date(timestamp).toISOString()`: other years have a sign and six digits. -/
def toISOString (timestamp : ℤ) : JsString :=
  let year := yearOfInstant timestamp
  (if 0 ≤ year ∧ year ≤ 9999 then numeral digitUnit 4 year.toNat
    else (if year < 0 then 45 else 43) :: numeral digitUnit 6 year.natAbs) ++
    45 :: record digitUnit monthShape (monthFields timestamp)

example : toISOString 1767225600123 = .ofString "2026-01-01T00:00:00.123Z" := by decide +kernel

example : toISOString (-62198755200000) = .ofString "-000001-01-01T00:00:00.000Z" := by
  decide +kernel

/-! ## 2. The order of the fields -/

theorem yearOf_mono {n n' : Nat} (hn : 0 < n) (h : n ≤ n') : yearOf n ≤ yearOf n' :=
  yearOf_ge ((yearOf_begins hn).trans_le h)

theorem monthOf_mono {n n' : Nat} (hn : 0 < n) (h : n ≤ n') (hyear : yearOf n = yearOf n') :
    monthOf n ≤ monthOf n' := by
  have hbegins := (monthOf_begins hn).2
  refine Nat.le_findGreatest (monthOf_le n) ?_
  rw [← hyear]
  exact hbegins.trans_le h

/-- The date of a later day comes later. -/
theorem dateFields_lt {n n' : Nat} (hn : 0 < n) (h : n < n') :
    [yearOf n, monthOf n, dayOf n] < [yearOf n', monthOf n', dayOf n'] := by
  rcases (yearOf_mono hn h.le).lt_or_eq with hyear | hyear
  · exact List.cons_lt_cons_iff.mpr (.inl hyear)
  refine List.cons_lt_cons_iff.mpr (.inr ⟨hyear, ?_⟩)
  rcases (monthOf_mono hn h.le hyear).lt_or_eq with hmonth | hmonth
  · exact List.cons_lt_cons_iff.mpr (.inl hmonth)
  refine List.cons_lt_cons_iff.mpr (.inr ⟨hmonth, List.cons_lt_cons_iff.mpr (.inl ?_)⟩)
  have hbegins := (monthOf_begins hn).2
  rw [dayOf, dayOf, ← hyear, ← hmonth]
  omega

/-- The time of a later millisecond of a day comes later. -/
theorem timeFields_lt {m m' : Nat} (h : m < m') : timeFields m < timeFields m' := by
  simp only [timeFields, List.cons_lt_cons_iff, List.not_lt_nil, and_false, or_false]
  omega

/-- Of the years from 0 on the day in the cycle is the day itself. -/
theorem day_of_year_nonneg {timestamp : ℤ} (h : 0 ≤ yearOfInstant timestamp) :
    0 < cycleDay timestamp ∧ (cycleDay timestamp : ℤ) = dayOfInstant timestamp ∧
      yearOfInstant timestamp = yearOf (cycleDay timestamp) := by
  by_cases hday : 0 < dayOfInstant timestamp
  · have hcycles : cyclesBefore (dayOfInstant timestamp) = 0 := if_pos hday
    have hcycle : (cycleDay timestamp : ℤ) = dayOfInstant timestamp := by
      rw [cycleDay, hcycles]
      omega
    refine ⟨by omega, hcycle, ?_⟩
    rw [yearOfInstant, hcycles, mul_zero, sub_zero]
  · -- an earlier day is one of the first 400 years of its cycle, which end before the year 0
    have hcycles : cyclesBefore (dayOfInstant timestamp) =
        -dayOfInstant timestamp / 146097 + 1 := if_neg hday
    have hpos : 0 < cycleDay timestamp := by
      rw [cycleDay, hcycles]
      omega
    have hlast : cycleDay timestamp ≤ daysBeforeYear 400 := by
      rw [cycleDay, hcycles, show daysBeforeYear 400 = 146097 from rfl]
      omega
    have hyear : yearOf (cycleDay timestamp) < 400 := yearOf_lt hlast hpos
    rw [yearOfInstant, hcycles] at h
    omega

/-- The year and what follows it. -/
def instantFields (timestamp : ℤ) : List Nat :=
  yearOf (cycleDay timestamp) :: monthFields timestamp

theorem instantFields_eq (timestamp : ℤ) : instantFields timestamp =
    [yearOf (cycleDay timestamp), monthOf (cycleDay timestamp), dayOf (cycleDay timestamp)] ++
      timeFields (timeOfDay timestamp) := rfl

theorem instantFields_lt {first second : ℤ} (hfirst : 0 ≤ yearOfInstant first)
    (hsecond : 0 ≤ yearOfInstant second) (h : first < second) :
    instantFields first < instantFields second := by
  obtain ⟨hpos, hday, -⟩ := day_of_year_nonneg hfirst
  obtain ⟨-, hday', -⟩ := day_of_year_nonneg hsecond
  unfold dayOfInstant at hday hday'
  have hle : cycleDay first ≤ cycleDay second := by omega
  rw [instantFields_eq, instantFields_eq]
  rcases hle.lt_or_eq with hlt | heq
  · refine lt_append_of_length_eq ?_ (dateFields_lt hpos hlt)
    rw [List.length_cons, List.length_cons]
    rfl
  · -- on one day the time of day decides
    have htime : timeOfDay first < timeOfDay second := by
      unfold timeOfDay
      omega
    rw [heq]
    exact List.append_left_lt (timeFields_lt htime)

/-! ## 3. The order of the texts -/

theorem digitUnit_ascending : Ascending digitUnit := by
  intro d e hde he
  show Fin.ofNat 65536 (48 + d) < Fin.ofNat 65536 (48 + e)
  rw [Fin.lt_def, Fin.val_ofNat, Fin.val_ofNat, Nat.mod_eq_of_lt (by omega),
    Nat.mod_eq_of_lt (by omega)]
  omega

theorem toISOString_eq {timestamp : ℤ} (h : HasFourDigitYear timestamp) :
    toISOString timestamp =
      record digitUnit ((4, 45) :: monthShape) (instantFields timestamp) := by
  have hyear := (day_of_year_nonneg h.1).2.2
  have hwritten : 0 ≤ yearOfInstant timestamp ∧ yearOfInstant timestamp ≤ 9999 := h
  dsimp only [toISOString]
  rw [if_pos hwritten, hyear]
  rfl

theorem instantFields_fits {timestamp : ℤ} (h : HasFourDigitYear timestamp) :
    Fits ((4, 45) :: monthShape) (instantFields timestamp) := by
  obtain ⟨hpos, -, hyear⟩ := day_of_year_nonneg h.1
  have hlast := h.2
  have hmonth := monthOf_le (cycleDay timestamp)
  have hday := (dayOf_mem hpos).2
  have hdays : daysInMonth (yearOf (cycleDay timestamp)) (monthOf (cycleDay timestamp)) ≤ 31 := by
    unfold daysInMonth
    split <;> split <;> norm_num
  have htime : timeOfDay timestamp < 86400000 := by
    unfold timeOfDay
    omega
  simp only [instantFields, monthFields, timeFields, monthShape, Fits, and_true]
  omega

/-- A later instant has a text that comes later. -/
theorem toISOString_lt {first second : ℤ} (hfirst : HasFourDigitYear first)
    (hsecond : HasFourDigitYear second) (h : first < second) :
    toISOString first < toISOString second := by
  rw [toISOString_eq hfirst, toISOString_eq hsecond]
  exact record_lt digitUnit_ascending (instantFields_fits hfirst) (instantFields_fits hsecond)
    (instantFields_lt hfirst.1 hsecond.1 h)

end SmartStay.LiteApi
