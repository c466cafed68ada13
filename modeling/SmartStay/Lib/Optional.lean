import Mathlib.Algebra.Order.BigOperators.Group.List
import Mathlib.Data.List.Forall2

/-!
# Values that may be missing

Comparing values of which both are there or neither is.

1. `AtMost`: its maps, defaults and decision.
2. `forall₂_filterMap`: the values that are there, along a list.
-/

namespace Optional

variable {α β γ : Type}

/-! ## 1. Comparison -/

/-- Both values are there or neither is, and the first one is at most the second. -/
abbrev AtMost [LE α] : Option α → Option α → Prop := Option.Rel (· ≤ ·)

theorem AtMost.isSome_eq [LE α] {a b : Option α} (h : AtMost a b) : a.isSome = b.isSome := by
  cases h <;> rfl

theorem AtMost.map [LE α] [LE β] {a b : Option α} {f g : α → β} (h : AtMost a b)
    (hfg : ∀ x y, x ≤ y → f x ≤ g y) : AtMost (a.map f) (b.map g) := by
  cases h with
  | none => exact .none
  | some hle => exact .some (hfg _ _ hle)

theorem AtMost.getD_le [Preorder α] {a b : Option α} (h : AtMost a b) (default : α) :
    a.getD default ≤ b.getD default := by
  cases h with
  | none => exact le_rfl
  | some hle => exact hle

theorem AtMost.exists_le [LE α] {x : α} {b : Option α} (h : AtMost (some x) b) :
    ∃ y, b = some y ∧ x ≤ y := by
  cases h with
  | some hle => exact ⟨_, rfl, hle⟩

instance decidableAtMost [LE α] [DecidableLE α] : DecidableRel (AtMost : Option α → Option α → Prop)
  | none, none => isTrue .none
  | none, some _ => isFalse Option.not_rel_none_some
  | some _, none => isFalse Option.not_rel_some_none
  | some _, some _ => decidable_of_iff _ Option.rel_some_some.symm

/-! ## 2. Along a list -/

theorem forall₂_filterMap [LE α] {l : List γ} {f g : γ → Option α}
    (h : ∀ x ∈ l, AtMost (f x) (g x)) :
    List.Forall₂ (· ≤ ·) (l.filterMap f) (l.filterMap g) := by
  have hsame : List.Forall₂ (fun x y => x ∈ l ∧ x = y) l l :=
    List.forall₂_same.mpr fun x hx => ⟨hx, rfl⟩
  refine List.rel_filterMap (fun x y hxy => ?_) hsame
  rw [← hxy.2]
  exact h x hxy.1

end Optional
