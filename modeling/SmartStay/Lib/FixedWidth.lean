import Mathlib.Data.List.Lex
import Mathlib.Order.Defs.LinearOrder
import Mathlib.Algebra.Order.Group.Nat

/-!
# Records of fixed width

Numbers written with a fixed number of digits, each followed by a separator, sort as texts the way
the lists of the numbers do.

1. `numeral`, `numeral_lt`: the digits of a number.
2. `record`, `record_lt`: numbers with separators.
-/

namespace FixedWidth

variable {α : Type} [LinearOrder α] {unit : Nat → α}

/-! ## 1. Numerals -/

/-- The last `width` decimal digits of a number. -/
def numeral (unit : Nat → α) : Nat → Nat → List α
  | 0, _ => []
  | width + 1, value => numeral unit width (value / 10) ++ [unit (value % 10)]

omit [LinearOrder α] in
theorem length_numeral (unit : Nat → α) (width value : Nat) :
    (numeral unit width value).length = width := by
  induction width generalizing value with
  | zero => rfl
  | succ width ih => rw [numeral, List.length_append, ih, List.length_singleton]

theorem lt_append_of_length_eq {first second rest rest' : List α}
    (hlen : first.length = second.length) (h : first < second) :
    first ++ rest < second ++ rest' := by
  induction first generalizing second with
  | nil =>
    rw [List.length_nil, eq_comm, List.length_eq_zero_iff] at hlen
    rw [hlen] at h
    exact absurd h (List.not_lt_nil _)
  | cons x first ih =>
    cases second with
    | nil => cases hlen
    | cons y second =>
      rw [List.cons_append, List.cons_append, List.cons_lt_cons_iff]
      rcases List.cons_lt_cons_iff.mp h with hlt | ⟨heq, hlt⟩
      · exact .inl hlt
      · exact .inr ⟨heq, ih (Nat.succ.inj hlen) hlt⟩

/-- Digits in ascending order. -/
def Ascending (unit : Nat → α) : Prop := ∀ d e, d < e → e < 10 → unit d < unit e

theorem numeral_lt (hunit : Ascending unit) {width value value' : Nat} (h : value < value')
    (hbound : value' < 10 ^ width) : numeral unit width value < numeral unit width value' := by
  induction width generalizing value value' with
  | zero => rw [pow_zero] at hbound; omega
  | succ width ih =>
    rcases (Nat.div_le_div_right (c := 10) h.le).lt_or_eq with hlt | heq
    · refine lt_append_of_length_eq ?_ (ih hlt (Nat.div_lt_of_lt_mul ?_))
      · rw [length_numeral, length_numeral]
      · rwa [pow_succ'] at hbound
    · rw [numeral, numeral, heq]
      -- the numbers differ in their last digit only
      have hlast : value % 10 < value' % 10 := by omega
      have hdigit := hunit _ _ hlast (Nat.mod_lt _ (Nat.succ_pos 9))
      exact List.append_left_lt (List.cons_lt_cons_iff.mpr (.inl hdigit))

/-! ## 2. Records -/

/-- The numbers with as many digits as the shape gives them, each before its separator. -/
def record (unit : Nat → α) : List (Nat × α) → List Nat → List α
  | (width, separator) :: shape, value :: values =>
    numeral unit width value ++ separator :: record unit shape values
  | _, _ => []

omit [LinearOrder α] in
theorem record_concat (unit : Nat → α) (shape : List (Nat × α)) (column : Nat × α)
    (values : List Nat) (value : Nat) (hlen : values.length = shape.length) :
    record unit (shape ++ [column]) (values ++ [value]) =
      record unit shape values ++ (numeral unit column.1 value ++ [column.2]) := by
  induction shape generalizing values with
  | nil =>
    rw [List.eq_nil_of_length_eq_zero hlen]
    rfl
  | cons first shape ih =>
    cases values with
    | nil => cases hlen
    | cons x values =>
      show numeral unit first.1 x ++ first.2 :: record unit (shape ++ [column]) (values ++ [value]) = _
      rw [ih values (Nat.succ.inj hlen), ← List.cons_append, ← List.append_assoc]
      rfl

/-- Every number fits its width. -/
def Fits : List (Nat × α) → List Nat → Prop
  | (width, _) :: shape, value :: values => value < 10 ^ width ∧ Fits shape values
  | [], [] => True
  | _, _ => False

theorem record_lt (hunit : Ascending unit) {shape : List (Nat × α)} {values values' : List Nat}
    (hfits : Fits shape values) (hfits' : Fits shape values') (h : values < values') :
    record unit shape values < record unit shape values' := by
  induction shape generalizing values values' with
  | nil =>
    cases values' with
    | nil => exact absurd h (List.not_lt_nil _)
    | cons => exact hfits'.elim
  | cons column shape ih =>
    cases values' with
    | nil => exact absurd h (List.not_lt_nil _)
    | cons value' values' =>
      cases values with
      | nil => exact hfits.elim
      | cons value values =>
        rw [record, record]
        rcases List.cons_lt_cons_iff.mp h with hlt | ⟨rfl, hlt⟩
        · refine lt_append_of_length_eq ?_ (numeral_lt hunit hlt hfits'.1)
          rw [length_numeral, length_numeral]
        · refine List.append_left_lt (List.cons_lt_cons_iff.mpr (.inr ⟨rfl, ?_⟩))
          exact ih hfits.2 hfits'.2 hlt

end FixedWidth
