import SmartStay.Lib.Sort
import Mathlib.Data.List.MinMax

/-!
# The first values of a sorted list with their ties

1. `takeTop`: the first `limit` values and those that compare equal to the last of them.
2. `takeTop_eq_filter`: the values that fewer than `limit` others strictly precede.
3. `takeTop_filter`: removing values that enough kept ones precede changes nothing.
4. `lt_countP_le`, `getElem_le_iff`: in a descending list, position `k` counts `k + 1` values that
   are as large, and `k` that may be larger.
-/

namespace JsSort

variable {α : Type} {cmp : α → α → Ordering} {l : List α} {limit : Nat} {a b : α}

/-! ## 1. The top -/

/-- The values at the positions below `limit` and those that compare equal to the last of these. -/
def takeTop (cmp : α → α → Ordering) (limit : Nat) (ordered : List α) : List α :=
  match ordered[min limit ordered.length - 1]? with
  | none => []
  | some boundary =>
    ordered.take limit ++ (ordered.drop limit).filter fun a => cmp a boundary = .eq

theorem head?_takeTop (hlimit : 0 < limit) : (takeTop cmp limit l).head? = l.head? := by
  unfold takeTop
  cases l with
  | nil => simp
  | cons a l =>
    obtain ⟨n, rfl⟩ := Nat.exists_eq_succ_of_ne_zero (Nat.ne_of_gt hlimit)
    have hpos : min (n + 1) (a :: l).length - 1 < (a :: l).length := by
      rw [List.length_cons]
      omega
    rw [List.getElem?_eq_getElem hpos]
    rfl

/-- How many values strictly precede `a`. -/
def better (cmp : α → α → Ordering) (l : List α) (a : α) : Nat :=
  l.countP fun b => cmp b a = .lt

/-! ## 2. The top by counting -/

theorem better_mono (hle : cmp a b ≠ .gt) [Std.TransCmp cmp] : better cmp l a ≤ better cmp l b := by
  refine List.countP_mono_left fun c _ hc => ?_
  simp only [decide_eq_true_eq] at hc ⊢
  exact Std.TransCmp.lt_of_lt_of_isLE hc (ne_gt_iff_isLE.mp hle)

/-- What precedes a value of a sorted list stands before it. -/
theorem better_lt_of_sorted [Std.TransCmp cmp] {p q : List α}
    (hsorted : (p ++ a :: q).Pairwise fun a b => cmp a b ≠ .gt) :
    better cmp (p ++ a :: q) a ≤ p.length := by
  have hafter : (a :: q).countP (fun b => cmp b a = .lt) = 0 := by
    refine List.countP_eq_zero.mpr fun b hb hlt => ?_
    simp only [decide_eq_true_eq] at hlt
    have hself : cmp a a = .eq := Std.ReflCmp.compare_self
    rcases List.mem_cons.mp hb with rfl | hb
    · simp [hself] at hlt
    · have hle := (List.pairwise_cons.mp (List.pairwise_append.mp hsorted).2.1).1 b hb
      have hswap : cmp a b = (cmp b a).swap := Std.OrientedCmp.eq_swap
      simp [hswap, hlt] at hle
  unfold better
  rw [List.countP_append, hafter, Nat.add_zero]
  exact List.countP_le_length

theorem takeTop_eq_filter [Std.TransCmp cmp] (hlimit : 0 < limit)
    (hsorted : l.Pairwise fun a b => cmp a b ≠ .gt) :
    takeTop cmp limit l = l.filter fun a => better cmp l a < limit := by
  rcases Nat.lt_or_ge limit l.length with hlt | hge
  · -- the boundary is the value before position `limit`
    obtain ⟨front, boundary, back, rfl, hfront⟩ :
        ∃ front boundary back, l = front ++ boundary :: back ∧ front.length + 1 = limit := by
      refine ⟨l.take (limit - 1), l[limit - 1], l.drop limit, ?_, ?_⟩
      · have hdrop := List.drop_eq_getElem_cons (l := l) (i := limit - 1) (by omega)
        rw [show limit - 1 + 1 = limit by omega] at hdrop
        rw [← hdrop, List.take_append_drop]
      · rw [List.length_take]
        omega
    have hmin : min limit (front ++ boundary :: back).length - 1 = front.length := by
      rw [Nat.min_eq_left (Nat.le_of_lt hlt)]
      omega
    have htake : (front ++ boundary :: back).take limit = front ++ [boundary] := by
      rw [← hfront, List.append_cons, List.take_left' (by simp)]
    have hdrop : (front ++ boundary :: back).drop limit = back := by
      rw [← hfront, List.append_cons, List.drop_left' (by simp)]
    unfold takeTop
    rw [hmin, List.getElem?_append_right (Nat.le_refl _), Nat.sub_self, List.getElem?_cons_zero,
      htake, hdrop]
    have hboundary : better cmp (front ++ boundary :: back) boundary < limit :=
      Nat.lt_of_le_of_lt (better_lt_of_sorted hsorted) (by omega)
    obtain ⟨-, hback, hcross⟩ := List.pairwise_append.mp hsorted
    have hkept : ∀ a ∈ front ++ [boundary],
        better cmp (front ++ boundary :: back) a < limit := by
      intro a ha
      refine Nat.lt_of_le_of_lt ?_ hboundary
      rcases List.mem_append.mp ha with ha | ha
      · exact better_mono (hcross a ha boundary List.mem_cons_self)
      · rw [List.mem_singleton.mp ha]
    have htied : ∀ a ∈ back, (better cmp (front ++ boundary :: back) a < limit) ↔
        cmp a boundary = .eq := by
      intro a ha
      have hle := (List.pairwise_cons.mp hback).1 a ha
      have hswap : cmp a boundary = (cmp boundary a).swap := Std.OrientedCmp.eq_swap
      constructor
      · intro hfew
        cases hcmp : cmp boundary a with
        | eq => simp [hswap, hcmp]
        | gt => exact absurd hcmp hle
        | lt =>
          -- the front and the boundary would precede `a`
          have hall : ∀ b ∈ front ++ [boundary], cmp b a = .lt := by
            intro b hb
            rcases List.mem_append.mp hb with hb | hb
            · exact Std.TransCmp.lt_of_isLE_of_lt
                (ne_gt_iff_isLE.mp (hcross b hb boundary List.mem_cons_self)) hcmp
            · rw [List.mem_singleton.mp hb, hcmp]
          have hcount : (front ++ [boundary]).countP (fun b => cmp b a = .lt) =
              (front ++ [boundary]).length :=
            List.countP_eq_length.mpr fun b hb => by simpa using hall b hb
          unfold better at hfew
          rw [List.append_cons, List.countP_append, hcount, List.length_append,
            List.length_singleton] at hfew
          omega
      · intro heq
        refine Nat.lt_of_le_of_lt (better_mono ?_) hboundary
        simp [heq]
    have hfilter : (front ++ [boundary] ++ back).filter
        (fun a => better cmp (front ++ boundary :: back) a < limit) =
        front ++ [boundary] ++ back.filter fun a => cmp a boundary = .eq := by
      rw [List.filter_append, List.filter_eq_self.mpr fun a ha => by simpa using hkept a ha]
      refine congrArg (front ++ [boundary] ++ ·) (List.filter_congr fun a ha => ?_)
      simpa using htied a ha
    rw [List.append_assoc, List.singleton_append] at hfilter
    rw [hfilter]
  · have hall : ∀ a ∈ l, better cmp l a < limit := by
      intro a ha
      obtain ⟨p, q, rfl⟩ := List.append_of_mem ha
      have hle := better_lt_of_sorted hsorted
      rw [List.length_append, List.length_cons] at hge
      omega
    rw [List.filter_eq_self.mpr fun a ha => by simpa using hall a ha]
    unfold takeTop
    rw [Nat.min_eq_right hge]
    cases hboundary : l[l.length - 1]? with
    | none =>
      have hlength := List.getElem?_eq_none_iff.mp hboundary
      have hnil : l = [] := List.eq_nil_of_length_eq_zero (by omega)
      rw [hnil]
    | some boundary =>
      simp only
      rw [List.take_of_length_le hge, List.drop_of_length_le hge, List.filter_nil,
        List.append_nil]

/-! ## 3. Removing values -/

theorem takeTop_filter [Std.TransCmp cmp] {kept : α → Bool} (hlimit : 0 < limit)
    (hsorted : l.Pairwise fun a b => cmp a b ≠ .gt)
    (hremoved : ∀ a ∈ l, kept a = false → limit ≤ better cmp (l.filter kept) a) :
    takeTop cmp limit (l.filter kept) = takeTop cmp limit l := by
  rw [takeTop_eq_filter hlimit hsorted, takeTop_eq_filter hlimit (hsorted.filter _),
    List.filter_filter]
  refine List.filter_congr fun a ha => ?_
  have hle : better cmp (l.filter kept) a ≤ better cmp l a :=
    (List.filter_sublist (l := l) (p := kept)).countP_le
  rw [Bool.eq_iff_iff, Bool.and_eq_true, decide_eq_true_eq, decide_eq_true_eq]
  constructor
  · rintro ⟨hfew, hkept⟩
    -- nothing removed precedes `a`: too many kept values would
    have hsame : better cmp l a = better cmp (l.filter kept) a := by
      unfold better
      rw [List.countP_filter]
      refine List.countP_congr fun b hb => ?_
      simp only [decide_eq_true_eq, Bool.and_eq_true]
      refine ⟨fun hlt => ⟨hlt, ?_⟩, And.left⟩
      by_contra hnot
      have hmany := hremoved b hb (by simpa using hnot)
      have hmono : better cmp (l.filter kept) b ≤ better cmp (l.filter kept) a :=
        better_mono (by simp [hlt])
      omega
    rwa [hsame]
  · intro hfew
    refine ⟨Nat.lt_of_le_of_lt hle hfew, ?_⟩
    by_contra hnot
    have hmany := hremoved a ha (by simpa using hnot)
    omega

/-! ## 4. Positions as counts -/

theorem lt_countP_le {β : Type} [LinearOrder β] {values : List β}
    (hsorted : values.Pairwise fun x y => y ≤ x) {k : Nat} (hk : k < values.length) :
    k < values.countP fun x => values[k] ≤ x := by
  have hfront : (values.take (k + 1)).countP (fun x => values[k] ≤ x) = k + 1 := by
    have hlength : (values.take (k + 1)).length = k + 1 := by
      rw [List.length_take]
      omega
    rw [List.countP_eq_length.mpr, hlength]
    intro x hx
    obtain ⟨i, hi, rfl⟩ := List.mem_take_iff_getElem.mp hx
    rcases Nat.lt_or_ge i k with hik | hik
    · simpa using List.pairwise_iff_getElem.mp hsorted i k (by omega) hk hik
    · obtain rfl : i = k := by omega
      simp
  have hsub := (List.take_sublist (k + 1) values).countP_le (p := fun x => decide (values[k] ≤ x))
  omega

/-- A value reaches position `k` of a descending list if at most `k` values are larger. -/
theorem getElem_le_iff {β : Type} [LinearOrder β] {values : List β} {x : β}
    (hsorted : values.Pairwise fun x y => y ≤ x) {k : Nat} (hk : k < values.length) :
    values[k] ≤ x ↔ values.countP (fun y => x < y) ≤ k := by
  constructor
  · intro hle
    have hsplit : values.countP (fun y => x < y) =
        (values.take k).countP (fun y => x < y) + (values.drop k).countP (fun y => x < y) := by
      rw [← List.countP_append, List.take_append_drop]
    have hdrop : (values.drop k).countP (fun y => x < y) = 0 := by
      rw [List.countP_eq_zero]
      intro y hy
      obtain ⟨i, hi, rfl⟩ := List.mem_drop_iff_getElem.mp hy
      have hbelow : values[k + i] ≤ values[k] := by
        rcases Nat.eq_zero_or_pos i with rfl | hpos
        · exact le_rfl
        · exact List.pairwise_iff_getElem.mp hsorted k (k + i) hk (by omega) (by omega)
      simpa using hbelow.trans hle
    have htake := List.countP_le_length (p := fun y => decide (x < y)) (l := values.take k)
    have hlength := List.length_take_le k values
    omega
  · intro hcount
    by_contra hlt
    have hmore := lt_countP_le hsorted hk
    have hmono : values.countP (fun y => values[k] ≤ y) ≤ values.countP (fun y => x < y) := by
      refine List.countP_mono_left fun y _ hy => ?_
      exact decide_eq_true ((not_le.mp hlt).trans_le (of_decide_eq_true hy))
    omega

end JsSort
