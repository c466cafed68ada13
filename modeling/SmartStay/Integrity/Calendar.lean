import Mathlib.Data.Nat.Find
import SmartStay.Integrity.Snapshots

/-!
# Dates of days

`new Date(timestamp).toISOString().slice(0, 10)` gives back the date of a day. The year and the
month are the last ones that begin before the day.

1. `daysBeforeYear`, `daysBeforeMonth`, `dayNumber_eq`.
2. `yearOf`, `monthOf`, `dayOf`: the date of a day, and its bounds.
3. `formatIsoDate`, `parseIsoDate_formatIsoDate`.
-/

namespace SmartStay.Integrity

open Contract

/-! ## 1. Days before a date -/

def daysBeforeYear (year : Nat) : Nat :=
  365 * year + (year + 3) / 4 - (year + 99) / 100 + (year + 399) / 400

def daysBeforeMonth (year month : Nat) : Nat :=
  ((List.range (month - 1)).map fun m => daysInMonth year (m + 1)).sum

theorem dayNumber_eq (year month day : Nat) : dayNumber year month day =
    (daysBeforeYear year + daysBeforeMonth year month + day : Nat) := by
  rw [Nat.cast_add, Nat.cast_add]
  rfl

def daysInYear (year : Nat) : Nat := if isLeapYear year then 366 else 365

/-- Every fourth, hundredth and four hundredth year ends one more period. -/
theorem periods_succ (year period : Nat) (h : 0 < period) :
    (year + 1 + (period - 1)) / period =
      (year + (period - 1)) / period + if year % period = 0 then 1 else 0 := by
  have hshift : year + 1 + (period - 1) = year + (period - 1) + 1 := by omega
  have hdvd : period ∣ year + (period - 1) + 1 ↔ year % period = 0 := by
    rw [show year + (period - 1) + 1 = year + period by omega, Nat.dvd_add_left (dvd_refl period),
      Nat.dvd_iff_mod_eq_zero]
  rw [hshift, Nat.succ_div]
  simp only [hdvd]

theorem daysBeforeYear_succ (year : Nat) :
    daysBeforeYear (year + 1) = daysBeforeYear year + daysInYear year := by
  have h4 : (year + 1 + 3) / 4 = _ := periods_succ year 4 (by norm_num)
  have h100 : (year + 1 + 99) / 100 = _ := periods_succ year 100 (by norm_num)
  have h400 : (year + 1 + 399) / 400 = _ := periods_succ year 400 (by norm_num)
  have hle : (year + 99) / 100 ≤ 365 * year := by omega
  simp only [daysBeforeYear, daysInYear, isLeapYear, h4, h100, h400, Bool.or_eq_true,
    Bool.and_eq_true, decide_eq_true_eq]
  norm_num
  split_ifs <;> omega

theorem daysBeforeYear_ge (year : Nat) : 365 * year ≤ daysBeforeYear year := by
  unfold daysBeforeYear
  omega

theorem daysBeforeYear_mono : Monotone daysBeforeYear :=
  monotone_nat_of_le_succ fun year => by
    rw [daysBeforeYear_succ]
    exact Nat.le_add_right _ _

theorem daysBeforeMonth_succ {year month : Nat} (h : 1 ≤ month) :
    daysBeforeMonth year (month + 1) = daysBeforeMonth year month + daysInMonth year month := by
  obtain ⟨m, rfl⟩ := Nat.exists_eq_add_of_le' h
  show ((List.range (m + 1)).map _).sum = ((List.range m).map _).sum + _
  rw [List.range_succ, List.map_append, List.sum_append]
  rfl

/-- The twelve months make a year. -/
theorem daysBeforeMonth_thirteen (year : Nat) : daysBeforeMonth year 13 = daysInYear year := by
  unfold daysBeforeMonth daysInYear daysInMonth
  cases isLeapYear year <;> rfl

/-! ## 2. The date of a day -/

def yearOf (n : Nat) : Nat := Nat.findGreatest (fun year => daysBeforeYear year < n) (n / 365)

def monthOf (n : Nat) : Nat :=
  Nat.findGreatest
    (fun month => daysBeforeYear (yearOf n) + daysBeforeMonth (yearOf n) month < n) 12

def dayOf (n : Nat) : Nat :=
  n - (daysBeforeYear (yearOf n) + daysBeforeMonth (yearOf n) (monthOf n))

theorem yearOf_begins {n : Nat} (h : 0 < n) : daysBeforeYear (yearOf n) < n :=
  Nat.findGreatest_spec (P := fun year => daysBeforeYear year < n) (Nat.zero_le _) h

theorem yearOf_ends (n : Nat) : n ≤ daysBeforeYear (yearOf n + 1) := by
  by_cases hbound : yearOf n + 1 ≤ n / 365
  · exact not_lt.mp (Nat.findGreatest_is_greatest (P := fun year => daysBeforeYear year < n)
      (Nat.lt_succ_self (yearOf n)) hbound)
  · have hge := daysBeforeYear_ge (yearOf n + 1)
    omega

theorem monthOf_begins {n : Nat} (h : 0 < n) :
    1 ≤ monthOf n ∧ daysBeforeYear (yearOf n) + daysBeforeMonth (yearOf n) (monthOf n) < n := by
  have hone : daysBeforeYear (yearOf n) + daysBeforeMonth (yearOf n) 1 < n := yearOf_begins h
  exact ⟨Nat.le_findGreatest (by norm_num) hone, Nat.findGreatest_spec (P := fun month =>
    daysBeforeYear (yearOf n) + daysBeforeMonth (yearOf n) month < n) (by norm_num) hone⟩

theorem monthOf_le (n : Nat) : monthOf n ≤ 12 := Nat.findGreatest_le 12

theorem monthOf_ends (n : Nat) :
    n ≤ daysBeforeYear (yearOf n) + daysBeforeMonth (yearOf n) (monthOf n + 1) := by
  rcases (monthOf_le n).lt_or_eq with hlt | heq
  · exact not_lt.mp (Nat.findGreatest_is_greatest (P := fun month =>
      daysBeforeYear (yearOf n) + daysBeforeMonth (yearOf n) month < n)
      (Nat.lt_succ_self (monthOf n)) hlt)
  · rw [heq, daysBeforeMonth_thirteen, ← daysBeforeYear_succ]
    exact yearOf_ends n

theorem dayOf_mem {n : Nat} (h : 0 < n) :
    1 ≤ dayOf n ∧ dayOf n ≤ daysInMonth (yearOf n) (monthOf n) := by
  obtain ⟨hmonth, hbegins⟩ := monthOf_begins h
  have hends := monthOf_ends n
  rw [daysBeforeMonth_succ hmonth] at hends
  unfold dayOf
  omega

theorem dayNumber_dateOf {n : Nat} (h : 0 < n) :
    dayNumber (yearOf n) (monthOf n) (dayOf n) = n := by
  have hbegins := (monthOf_begins h).2
  rw [dayNumber_eq, dayOf, Nat.add_sub_cancel' hbegins.le]

theorem yearOf_ge {n year : Nat} (h : daysBeforeYear year < n) : year ≤ yearOf n := by
  have hends := yearOf_ends n
  by_contra hlt
  have hmono : daysBeforeYear (yearOf n + 1) ≤ daysBeforeYear year :=
    daysBeforeYear_mono (Nat.succ_le_of_lt (not_le.mp hlt))
  omega

theorem yearOf_lt {n year : Nat} (h : n ≤ daysBeforeYear year) (hn : 0 < n) : yearOf n < year := by
  have hbegins := yearOf_begins hn
  by_contra hle
  have hmono := daysBeforeYear_mono (not_lt.mp hle)
  omega

/-! ## 3. Texts -/

/-- `String(value).padStart(width, "0")` of a number with no more digits. -/
def padDigits : Nat → Nat → List Char
  | 0, _ => []
  | width + 1, value => padDigits width (value / 10) ++ [hexDigit (value % 10)]

/-- The first ten characters of an ISO timestamp: years from 10000 on have a sign and six digits. -/
def formatIsoDate (n : Nat) : String :=
  let year := if yearOf n ≤ 9999 then padDigits 4 (yearOf n) else '+' :: padDigits 6 (yearOf n)
  String.ofList ((year ++ '-' :: padDigits 2 (monthOf n) ++ '-' :: padDigits 2 (dayOf n)).take 10)

theorem hexDigit_isDigit : ∀ d < 10, (hexDigit d).isDigit = true ∧ (hexDigit d).toNat - 48 = d := by
  decide

theorem digitsValue_concat (digits : List Char) (c : Char) :
    digitsValue (digits ++ [c]) = digitsValue digits * 10 + (c.toNat - 48) := by
  rw [digitsValue, List.foldl_concat]
  rfl

theorem digitsValue_padDigits {width value : Nat} (h : value < 10 ^ width) :
    digitsValue (padDigits width value) = value := by
  induction width generalizing value with
  | zero =>
    rw [pow_zero, Nat.lt_one_iff] at h
    rw [h]
    rfl
  | succ width ih =>
    rw [padDigits, digitsValue_concat, ih (Nat.div_lt_of_lt_mul (by rwa [pow_succ'] at h)),
      (hexDigit_isDigit _ (Nat.mod_lt _ (by norm_num))).2, Nat.div_add_mod']

theorem padDigits_isDigit {width value : Nat} {c : Char} (h : c ∈ padDigits width value) :
    c.isDigit = true := by
  induction width generalizing value with
  | zero => cases h
  | succ width ih =>
    rcases List.mem_append.mp h with h | h
    · exact ih h
    · rw [List.mem_singleton.mp h]
      exact (hexDigit_isDigit _ (Nat.mod_lt _ (by norm_num))).1

/-- From the year 100 to 9999 the text of a day is read as this day. -/
theorem parseIsoDate_formatIsoDate {n : Nat} (hlow : daysBeforeYear 100 < n)
    (hhigh : n ≤ daysBeforeYear 10000) : parseIsoDate (formatIsoDate n) = some (n : ℤ) := by
  have hn : 0 < n := Nat.zero_lt_of_lt hlow
  have hyear := yearOf_ge hlow
  have hlast : yearOf n < 10000 := yearOf_lt hhigh hn
  have hmonth := (monthOf_begins hn).1
  have hmonthLe := monthOf_le n
  obtain ⟨hday, hdayLe⟩ := dayOf_mem hn
  have hdays : daysInMonth (yearOf n) (monthOf n) ≤ 31 := by
    unfold daysInMonth
    split <;> split <;> norm_num
  have htext : (formatIsoDate n).toList =
      padDigits 4 (yearOf n) ++ '-' :: padDigits 2 (monthOf n) ++ '-' :: padDigits 2 (dayOf n) := by
    rw [formatIsoDate, String.toList_ofList, if_pos (Nat.le_of_lt_succ hlast)]
    exact List.take_of_length_le (by simp [padDigits])
  have hyearValue := digitsValue_padDigits (show yearOf n < 10 ^ 4 from hlast)
  have hmonthValue := digitsValue_padDigits (show monthOf n < 10 ^ 2 by omega)
  have hdayValue := digitsValue_padDigits (show dayOf n < 10 ^ 2 by omega)
  have hdigit : ∀ c ∈ padDigits 4 (yearOf n) ++ padDigits 2 (monthOf n) ++ padDigits 2 (dayOf n),
      c.isDigit = true := by
    intro c hc
    simp only [List.mem_append] at hc
    rcases hc with (hc | hc) | hc <;> exact padDigits_isDigit hc
  unfold parseIsoDate
  rw [htext]
  simp only [padDigits, List.nil_append, List.cons_append]
    at hyearValue hmonthValue hdayValue hdigit ⊢
  rw [hyearValue, hmonthValue, hdayValue, List.all_eq_true.mpr hdigit, dayNumber_dateOf hn]
  simp [hyear, hmonth, hmonthLe, hday, hdayLe]

end SmartStay.Integrity
