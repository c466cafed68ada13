import Mathlib.Algebra.BigOperators.Group.List.Basic
import Mathlib.Algebra.GroupWithZero.Nat
import Mathlib.Data.List.Nodup

/-!
# Counts over groups

A count that adds up over the values of a list adds up over the groups of values with one key.

1. `Additive`.
2. `sum_groups`.
-/

namespace Tally

variable {α β : Type} {count : List α → Nat} {weight : α → Nat}

/-- Each value of a list adds its own weight to the count. -/
structure Additive (count : List α → Nat) (weight : α → Nat) : Prop where
  nil : count [] = 0
  cons : ∀ x xs, count (x :: xs) = weight x + count xs

theorem additive_length : Additive (List.length (α := α)) fun _ => 1 where
  nil := rfl
  cons _ xs := Nat.add_comm xs.length 1

theorem additive_filterMap (f : α → Option β) :
    Additive (fun xs => (xs.filterMap f).length) fun x => if (f x).isSome then 1 else 0 where
  nil := rfl
  cons x xs := by
    cases hx : f x with
    | none => simp [hx]
    | some b => simp [hx, Nat.add_comm]

theorem additive_filter (p : α → Bool) :
    Additive (fun xs => (xs.filter p).length) fun x => if p x then 1 else 0 where
  nil := rfl
  cons x xs := by
    cases hx : p x with
    | false => simp [hx]
    | true => simp [hx, Nat.add_comm]

variable [DecidableEq β] {key : α → β} {keys : List β}

/-- Every value is in the group of its key, and in no other. -/
theorem sum_groups (h : Additive count weight) (hkeys : keys.Nodup) {xs : List α}
    (hmem : ∀ x ∈ xs, key x ∈ keys) :
    (keys.map fun k => count (xs.filter fun x => key x = k)).sum = count xs := by
  induction xs with
  | nil => simp [h.nil]
  | cons x xs ih =>
    obtain ⟨hx, hxs⟩ := List.forall_mem_cons.mp hmem
    have hone : (keys.map fun k => if key x = k then weight x else 0).sum = weight x := by
      rw [List.sum_map_eq_nsmul_single (key x) _ fun k hk _ => if_neg (Ne.symm hk),
        List.count_eq_one_of_mem hkeys hx, if_pos rfl, one_nsmul]
    have hsplit : ∀ k, count ((x :: xs).filter fun x => key x = k) =
        (if key x = k then weight x else 0) + count (xs.filter fun x => key x = k) := by
      intro k
      rw [List.filter_cons]
      split
      next hk => rw [if_pos (of_decide_eq_true hk), h.cons]
      next hk => rw [if_neg (by simpa using hk), Nat.zero_add]
    rw [List.map_congr_left fun k _ => hsplit k, List.sum_map_add, hone, ih hxs, h.cons]

end Tally
