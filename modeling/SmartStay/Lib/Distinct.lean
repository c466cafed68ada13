import Mathlib.Data.List.Nodup
import Mathlib.Data.List.Perm.Basic

/-!
# Keys that tell the elements of a list apart

A list whose elements have distinct keys has distinct names exactly when no two keys share a
name; a list built from it keeps distinct keys.

1. `nodup_iff_of_keys`: distinct names.
2. `map_filterMap_sublist`, `nodup_map_filterMap`: what a `filterMap` keeps.
3. `nodup_eraseDups`, `eraseDups_perm`: the different elements in the order of their first
   occurrences.
4. `find?_key_iff`: searching a list for a key.
-/

namespace Distinct

variable {α β κ ν : Type} {l : List α} {key : α → κ}

/-! ## 1. Names -/

/-- Two elements that share a name share a key. -/
def NamesKeys (name : α → ν) (key : α → κ) (l : List α) : Prop :=
  ∀ a ∈ l, ∀ b ∈ l, name a = name b → key a = key b

theorem namesKeys_of_length_zero {name : α → ν} (h : l.length = 0) : NamesKeys name key l := by
  obtain rfl := List.length_eq_zero_iff.mp h
  exact nofun

theorem nodup_iff_of_keys (name : α → ν) (h : (l.map key).Nodup) :
    (l.map name).Nodup ↔ NamesKeys name key l := by
  rw [List.nodup_map_iff_inj_on (List.Nodup.of_map key h)]
  constructor
  · intro hname a ha b hb hab
    rw [hname a ha b hb hab]
  · intro hkeys a ha b hb hab
    exact List.inj_on_of_nodup_map h ha hb (hkeys a ha b hb hab)

/-! ## 2. Selected elements -/

theorem map_filterMap_sublist {f : α → Option β} {key' : β → κ}
    (h : ∀ a ∈ l, ∀ b, f a = some b → key' b = key a) :
    ((l.filterMap f).map key').Sublist (l.map key) := by
  induction l with
  | nil => exact List.Sublist.slnil
  | cons a l ih =>
    have hrest := ih fun b hb => h b (List.mem_cons_of_mem _ hb)
    cases hfa : f a with
    | none =>
      rw [List.filterMap_cons_none hfa]
      exact hrest.cons _
    | some b =>
      rw [List.filterMap_cons_some hfa, List.map_cons, List.map_cons,
        h a List.mem_cons_self b hfa]
      exact hrest.cons_cons _

theorem nodup_map_filterMap (key : α → κ) {f : α → Option β} {key' : β → κ}
    (h : ∀ a ∈ l, ∀ b, f a = some b → key' b = key a) (hkeys : (l.map key).Nodup) :
    ((l.filterMap f).map key').Nodup :=
  (map_filterMap_sublist h).nodup hkeys

/-! ## 3. First occurrences -/

theorem nodup_eraseDups [BEq α] [LawfulBEq α] (l : List α) : l.eraseDups.Nodup := by
  match l with
  | [] => exact List.nodup_nil
  | a :: l =>
    rw [List.eraseDups_cons]
    refine List.nodup_cons.mpr ⟨fun hmem => ?_, nodup_eraseDups _⟩
    have hkept := (List.mem_filter.mp (List.mem_eraseDups.mp hmem)).2
    simp at hkept
termination_by l.length
decreasing_by exact Nat.lt_succ_of_le (List.length_filter_le _ _)

/-- Lists with the same elements have the same first occurrences, up to their order. -/
theorem eraseDups_perm [BEq α] [LawfulBEq α] {l l' : List α} (h : ∀ a, a ∈ l ↔ a ∈ l') :
    l.eraseDups.Perm l'.eraseDups := by
  refine (List.perm_ext_iff_of_nodup (nodup_eraseDups _) (nodup_eraseDups _)).mpr fun a => ?_
  rw [List.mem_eraseDups, List.mem_eraseDups, h]

/-! ## 4. Searching for a key -/

theorem find?_key_iff [DecidableEq κ] (h : (l.map key).Nodup) {k : κ} {a : α} :
    l.find? (fun b => key b = k) = some a ↔ a ∈ l ∧ key a = k := by
  constructor
  · intro hfind
    exact ⟨List.mem_of_find?_eq_some hfind, by simpa using List.find?_some hfind⟩
  · rintro ⟨ha, hk⟩
    cases hfind : l.find? fun b => key b = k with
    | none =>
      have hnone := List.find?_eq_none.mp hfind a ha
      simp [hk] at hnone
    | some b =>
      have hb : key b = k := by simpa using List.find?_some hfind
      rw [List.inj_on_of_nodup_map h (List.mem_of_find?_eq_some hfind) ha (hb.trans hk.symm)]

/-- A list with distinct keys has each key once. -/
theorem filter_key [DecidableEq κ] (h : (l.map key).Nodup) {a : α} (ha : a ∈ l) :
    l.filter (fun b => key b = key a) = [a] := by
  induction l with
  | nil => cases ha
  | cons b rest ih =>
    rw [List.map_cons, List.nodup_cons] at h
    cases ha with
    | head =>
      have hrest : rest.filter (fun b => key b = key a) = [] :=
        List.filter_eq_nil_iff.mpr fun b hb heq =>
          h.1 (List.mem_map.mpr ⟨b, hb, of_decide_eq_true heq⟩)
      rw [List.filter_cons_of_pos (by simp), hrest]
    | tail _ ha =>
      have hne : key b ≠ key a := fun heq => h.1 (heq ▸ List.mem_map_of_mem ha)
      rw [List.filter_cons_of_neg (by simpa using hne), ih h.2 ha]

/-- The search does not depend on the order of the list. -/
theorem find?_key_perm [DecidableEq κ] {l' : List α} (hperm : l'.Perm l) (h : (l.map key).Nodup)
    (k : κ) : l'.find? (fun b => key b = k) = l.find? fun b => key b = k := by
  refine Option.ext fun a => ?_
  rw [find?_key_iff ((hperm.map key).nodup_iff.mpr h), find?_key_iff h, hperm.mem_iff]

end Distinct
