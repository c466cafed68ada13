import Mathlib.Data.List.Nodup

/-!
# Maps from a key of their values

A map that stores every value under a key of the value itself, as the list of its values
in the order in which their keys came: a known key keeps its place.

1. `set`, and the keys after it.
2. `find?_set`: what is found under a key.
3. `setAll`: a loop of `set`.
4. `perm_cons_delete`, `filter_set`: a value and the others.
-/

namespace Keyed

variable {α κ : Type} [DecidableEq κ] (key : α → κ)

/-! ## 1. Setting a value -/

/-- `map.set(key(x), x)` on the values of the map. -/
def set (l : List α) (x : α) : List α :=
  if l.any (key · == key x) then l.map fun y => if key y == key x then x else y else l ++ [x]

variable {key} {l : List α} {x y : α} {k : κ}

theorem any_key : l.any (key · == key x) = true ↔ key x ∈ l.map key := by
  simp [List.any_eq_true]

theorem keys_set (key : α → κ) (l : List α) (x : α) :
    (set key l x).map key = if key x ∈ l.map key then l.map key else l.map key ++ [key x] := by
  unfold set
  by_cases hmem : key x ∈ l.map key
  · rw [if_pos (any_key.mpr hmem), if_pos hmem, List.map_map]
    refine List.map_congr_left fun y _ => ?_
    by_cases hy : key y = key x <;> simp [hy]
  · rw [if_neg (any_key.not.mpr hmem), if_neg hmem, List.map_append]
    rfl

theorem mem_keys_set : k ∈ (set key l x).map key ↔ k = key x ∨ k ∈ l.map key := by
  rw [keys_set]
  split
  · next hmem =>
    refine ⟨.inr, fun h => ?_⟩
    rcases h with rfl | h
    · exact hmem
    · exact h
  · rw [List.mem_append, List.mem_singleton, or_comm]

/-- No key comes twice. -/
theorem nodup_set (h : (l.map key).Nodup) : ((set key l x).map key).Nodup := by
  rw [keys_set]
  split
  · exact h
  · next hmem => exact h.append (List.nodup_singleton _) (by simpa using hmem)

/-- A value after `set` is the one that was set, or an earlier one under another key. -/
theorem mem_set (h : y ∈ set key l x) : y = x ∨ y ∈ l ∧ key y ≠ key x := by
  unfold set at h
  split at h
  · obtain ⟨y', hy', heq⟩ := List.mem_map.mp h
    split at heq
    · exact .inl heq.symm
    · next hne =>
      subst heq
      exact .inr ⟨hy', by simpa using hne⟩
  · next hnone =>
    rcases List.mem_append.mp h with hy | hy
    · exact .inr ⟨hy, fun heq => hnone (List.any_eq_true.mpr ⟨y, hy, by simpa using heq⟩)⟩
    · exact .inl (List.mem_singleton.mp hy)

/-! ## 2. Finding a value -/

theorem find?_replace (key : α → κ) (l : List α) (x : α) (k : κ) :
    (l.map fun y => if key y == key x then x else y).find? (key · == k) =
      (l.find? (key · == k)).map fun y => if key x = k then x else y := by
  induction l with
  | nil => rfl
  | cons y l ih =>
    by_cases hy : key y = key x
    · by_cases hk : key x = k
      · simp [hy, hk]
      · simpa [hy, hk] using ih
    · by_cases hk : key y = k
      · have hx : key x ≠ k := fun hx => hy (hk.trans hx.symm)
        rw [List.map_cons, if_neg (by simpa using hy), List.find?_cons_of_pos (by simpa using hk),
          List.find?_cons_of_pos (by simpa using hk), Option.map_some, if_neg hx]
      · simpa [hy, hk] using ih

/-- `map.get(k)` after `set`. -/
theorem find?_set (key : α → κ) (l : List α) (x : α) (k : κ) :
    (set key l x).find? (key · == k) = if key x = k then some x else l.find? (key · == k) := by
  unfold set
  split
  · next hany =>
    rw [find?_replace]
    split
    · next hk =>
      obtain ⟨y, hy, hyx⟩ := List.any_eq_true.mp hany
      cases hfound : l.find? (key · == k) with
      | none => exact absurd (hk ▸ hyx) (List.find?_eq_none.mp hfound y hy)
      | some y' => rfl
    · simp
  · next hnone =>
    rw [List.find?_append]
    split
    · next hk =>
      have hnotFound : l.find? (key · == k) = none := by
        rw [← hk]
        exact List.find?_eq_none.mpr fun y hy hyx => hnone (List.any_eq_true.mpr ⟨y, hy, hyx⟩)
      simp [hnotFound, hk]
    · next hk => simp [hk]

theorem mem_set_self : x ∈ set key l x := by
  have hfound : (set key l x).find? (key · == key x) = some x := by rw [find?_set, if_pos rfl]
  exact List.mem_of_find?_eq_some hfound

/-! ## 3. A loop of `set` -/

/-- `map.set(key(x), x)` for one value after the other. -/
def setAll (key : α → κ) (l xs : List α) : List α := xs.foldl (set key) l

theorem nodup_setAll {xs : List α} (h : (l.map key).Nodup) : ((setAll key l xs).map key).Nodup := by
  induction xs generalizing l with
  | nil => exact h
  | cons x xs ih => exact ih (nodup_set h)

/-- A value after the loop is one of those that were set, or an earlier one. -/
theorem mem_setAll {xs : List α} (h : y ∈ setAll key l xs) : y ∈ l ∨ y ∈ xs := by
  induction xs generalizing l with
  | nil => exact .inl h
  | cons x xs ih =>
    rcases ih (l := set key l x) h with h | h
    · rcases mem_set h with rfl | ⟨h, -⟩
      · exact .inr List.mem_cons_self
      · exact .inl h
    · exact .inr (List.mem_cons_of_mem _ h)

/-- Values with different keys are set in their order. -/
theorem setAll_of_nodup {xs : List α} (hnodup : ((l ++ xs).map key).Nodup) :
    setAll key l xs = l ++ xs := by
  induction xs generalizing l with
  | nil => rw [List.append_nil]; rfl
  | cons x xs ih =>
    have hx : key x ∉ l.map key := by
      rw [List.map_append, List.map_cons, List.nodup_append] at hnodup
      exact fun hmem => hnodup.2.2 _ hmem _ List.mem_cons_self rfl
    have hset : set key l x = l ++ [x] := by
      rw [set, if_neg (any_key.not.mpr hx)]
    have hrest : (((l ++ [x]) ++ xs).map key).Nodup := by
      rwa [List.append_assoc]
    change setAll key (set key l x) xs = _
    rw [hset, ih hrest, List.append_assoc]
    rfl

/-! ## 4. Deleting a value -/

/-- When no key comes twice, the values are the one under a key and the others. -/
theorem perm_cons_delete (hnodup : (l.map key).Nodup) (hx : x ∈ l) :
    l.Perm (x :: l.filter fun y => key y ≠ key x) := by
  induction l with
  | nil => cases hx
  | cons y l ih =>
    rw [List.map_cons, List.nodup_cons] at hnodup
    rcases List.mem_cons.mp hx with rfl | hx
    · have hothers : (l.filter fun y => key y ≠ key x) = l := by
        refine List.filter_eq_self.mpr fun y hy => ?_
        have hne : key y ≠ key x := fun heq => hnodup.1 (heq ▸ List.mem_map_of_mem hy)
        simpa using hne
      rw [List.filter_cons_of_neg (by simp), hothers]
    · have hne : key y ≠ key x := fun heq => hnodup.1 (heq ▸ List.mem_map_of_mem hx)
      rw [List.filter_cons_of_pos (by simpa using hne)]
      exact ((ih hnodup.2 hx).cons y).trans (List.Perm.swap x y _)

/-- The values under other keys stay. -/
theorem filter_set : ((set key l x).filter fun y => key y ≠ key x) =
    l.filter fun y => key y ≠ key x := by
  have hreplaced : ((l.map fun y => if key y == key x then x else y).filter fun y =>
      key y ≠ key x) = l.filter fun y => key y ≠ key x := by
    induction l with
    | nil => rfl
    | cons y l ih =>
      by_cases hy : key y = key x
      · rw [List.map_cons, if_pos (by simpa using hy), List.filter_cons_of_neg (by simp), ih,
          List.filter_cons_of_neg (by simpa using hy)]
      · rw [List.map_cons, if_neg (by simpa using hy), List.filter_cons_of_pos (by simpa using hy),
          ih, List.filter_cons_of_pos (by simpa using hy)]
  unfold set
  split
  · exact hreplaced
  · rw [List.filter_append, List.filter_cons_of_neg (by simp), List.filter_nil, List.append_nil]

end Keyed
