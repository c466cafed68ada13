import Mathlib.Data.List.ProdSigma
import SmartStay.Lib.Grouping

/-!
# An index by optional keys

A map from keys to the values that have them, built in one pass; values without a key are left
out.

1. `build`, `get`, `get_build`.
2. `filterMap_get`: a search that only values with the key can answer may use the index.
3. `flatMap_product`, `filterMap_product`, `nodup_product`: nested searches.
-/

namespace HashIndex

variable {α β κ : Type} [DecidableEq κ] {key : α → Option κ} {xs : List α} {k : κ}

/-! ## 1. The index -/

/-- The values of each key, in their order. -/
def build (key : α → Option κ) (xs : List α) : List (κ × List α) :=
  Grouping.groupInto Prod.fst (fun entry => [entry.2]) (fun values entry => values ++ [entry.2])
    (xs.filterMap fun x => (key x).map (·, x))

/-- `index.get(key) ?? []`. -/
def get (index : List (κ × List α)) (k : κ) : List α :=
  ((index.find? (·.1 == k)).map Prod.snd).getD []

omit [DecidableEq κ] in
theorem foldl_push (values : List α) (entries : List (κ × α)) :
    entries.foldl (fun values entry => values ++ [entry.2]) values =
      values ++ entries.map Prod.snd := by
  induction entries generalizing values with
  | nil => simp
  | cons entry rest ih => rw [List.foldl_cons, ih, List.map_cons, List.append_assoc]; rfl

omit [DecidableEq κ] in
theorem combined_push (entries : List (κ × α)) :
    (Grouping.combined (fun entry => [entry.2]) (fun values entry => values ++ [entry.2])
      entries).getD [] = entries.map Prod.snd := by
  cases entries with
  | nil => rfl
  | cons entry rest => exact foldl_push [entry.2] rest

/-- Under a key the index has the values with this key. -/
theorem get_build (key : α → Option κ) (xs : List α) (k : κ) :
    get (build key xs) k = xs.filter fun x => key x = some k := by
  rw [get, build, Grouping.find?_groupInto, combined_push, Grouping.valuesOf]
  induction xs with
  | nil => rfl
  | cons x xs ih =>
    cases hx : key x with
    | none => simpa [hx] using ih
    | some k' =>
      by_cases hk : k' = k
      · simpa [hx, hk] using ih
      · simpa [hx, hk] using ih

/-! ## 2. Searches -/

/-- A search that only values with the key can answer has all its answers under the key. -/
theorem filterMap_get {f : α → Option β} (h : ∀ x ∈ xs, (f x).isSome = true → key x = some k) :
    (get (build key xs) k).filterMap f = xs.filterMap f := by
  rw [get_build]
  induction xs with
  | nil => rfl
  | cons x xs ih =>
    obtain ⟨hx, hxs⟩ := List.forall_mem_cons.mp h
    by_cases hk : key x = some k
    · rw [List.filter_cons_of_pos (by simpa using hk), List.filterMap_cons, List.filterMap_cons,
        ih hxs]
    · have hnone : f x = none := by
        rw [Option.eq_none_iff_forall_ne_some]
        intro b hb
        exact hk (hx (by rw [hb]; rfl))
      rw [List.filter_cons_of_neg (by simpa using hk), List.filterMap_cons_none hnone, ih hxs]

/-! ## 3. Nested searches -/

variable {γ : Type}

theorem flatMap_product (xs : List α) (ys : List β) (f : α × β → List γ) :
    (xs ×ˢ ys).flatMap f = xs.flatMap fun x => ys.flatMap fun y => f (x, y) := by
  simp only [SProd.sprod, List.product, List.flatMap_assoc, List.flatMap_map]

theorem filterMap_product (xs : List α) (ys : List β) (f : α × β → Option γ) :
    (xs ×ˢ ys).filterMap f = xs.flatMap fun x => ys.filterMap fun y => f (x, y) := by
  simp only [SProd.sprod, List.product, List.filterMap_flatMap, List.filterMap_map]
  rfl

omit [DecidableEq κ] in
/-- Keys that tell the values apart tell the pairs apart. -/
theorem nodup_product {κ' : Type} {xs : List α} {ys : List β} {f : α → κ} {g : β → κ'}
    (hf : (xs.map f).Nodup) (hg : (ys.map g).Nodup) : ((xs ×ˢ ys).map (Prod.map f g)).Nodup := by
  have hmap : (xs ×ˢ ys).map (Prod.map f g) = (xs.map f) ×ˢ (ys.map g) := by
    simp only [SProd.sprod, List.product, List.map_flatMap, List.flatMap_map, List.map_map,
      Function.comp_def, Prod.map]
  rw [hmap]
  exact List.Nodup.product hf hg

end HashIndex
