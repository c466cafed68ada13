import SmartStay.Lib.Keyed
import Mathlib.Algebra.BigOperators.Group.List.Basic
import Mathlib.Data.List.Induction
import Mathlib.Order.MinMax

/-!
# Values grouped under keys

A loop that puts the values of a list into a map: the first value under a key is stored, and later
ones are combined with what is stored.

1. `groupInto`, `find?_groupInto`: what is stored is a fold over the values of the key.
2. `mem_groupInto`, `nodup_groupInto`, `find?_keys_groupInto`: the entries and their order.
3. `FirstBest`, `keepBetter`: when a better value replaces what is stored, the first of the best
   values stays.
4. `keepLess`, `le_combined_iff`: when a smaller score replaces the stored one, the least stays.
5. `forall_groupInto`, `sum_groupInto`: what holds of every entry, and a sum that grouping keeps.
-/

namespace Grouping

variable {α β κ : Type} [DecidableEq κ] (key : α → κ) (start : α → β) (combine : β → α → β)

/-! ## 1. The loop -/

/-- One value goes into the map. -/
def put (entries : List (κ × β)) (x : α) : List (κ × β) :=
  match entries.find? (·.1 == key x) with
  | none => Keyed.set Prod.fst entries (key x, start x)
  | some entry => Keyed.set Prod.fst entries (key x, combine entry.2 x)

/-- The entries of the map, in the order in which their keys came. -/
def groupInto (xs : List α) : List (κ × β) := xs.foldl (put key start combine) []

/-- The values under a key. -/
def valuesOf (k : κ) (xs : List α) : List α := xs.filter fun x => key x = k

/-- What is stored for the values under one key. -/
def combined : List α → Option β
  | [] => none
  | x :: xs => some (xs.foldl combine (start x))

theorem combined_concat (xs : List α) (x : α) : combined start combine (xs ++ [x]) =
    some (match combined start combine xs with
      | none => start x
      | some b => combine b x) := by
  cases xs with
  | nil => rfl
  | cons y ys => rw [List.cons_append, combined, combined, List.foldl_concat]

variable {key start combine}

theorem valuesOf_concat (k : κ) (xs : List α) (x : α) :
    valuesOf key k (xs ++ [x]) = if key x = k then valuesOf key k xs ++ [x] else valuesOf key k xs := by
  rw [valuesOf, List.filter_append]
  split
  next h => rw [List.filter_cons_of_pos (by simpa using h)]; rfl
  next h => rw [List.filter_cons_of_neg (by simpa using h), List.filter_nil, List.append_nil]; rfl

theorem mem_valuesOf {k : κ} {xs : List α} {x : α} : x ∈ valuesOf key k xs ↔ x ∈ xs ∧ key x = k := by
  simp [valuesOf]

/-- With different keys there is one value under a key at most. -/
theorem valuesOf_nodup {k : κ} {xs : List α} (hnodup : (xs.map key).Nodup) :
    (valuesOf key k xs).length ≤ 1 := by
  have hkeys : ((valuesOf key k xs).map key).Nodup := hnodup.sublist (List.filter_sublist.map key)
  have hk : ∀ x ∈ valuesOf key k xs, key x = k := fun x hx => (mem_valuesOf.mp hx).2
  match valuesOf key k xs, hkeys, hk with
  | [], _, _ | [_], _, _ => simp
  | x :: y :: rest, hkeys, hk => simp [hk x (by simp), hk y (by simp)] at hkeys

theorem valuesOf_append (k : κ) (xs ys : List α) :
    valuesOf key k (xs ++ ys) = valuesOf key k xs ++ valuesOf key k ys := List.filter_append _ _

/-- Under each key the map has what its values were combined to. -/
theorem find?_groupInto (xs : List α) (k : κ) :
    ((groupInto key start combine xs).find? (·.1 == k)).map Prod.snd =
      combined start combine (valuesOf key k xs) := by
  induction xs using List.reverseRecOn with
  | nil => rfl
  | append_singleton xs x ih =>
    rw [groupInto, List.foldl_concat, valuesOf_concat]
    change ((put key start combine (groupInto key start combine xs) x).find? _).map _ = _
    by_cases hx : key x = k
    · subst hx
      rw [if_pos rfl, combined_concat, ← ih, put]
      split
      next hfound => rw [Keyed.find?_set, if_pos rfl, hfound]; rfl
      next entry hfound => rw [Keyed.find?_set, if_pos rfl, hfound]; rfl
    · rw [if_neg hx, ← ih, put]
      split <;> rw [Keyed.find?_set, if_neg hx]

/-! ## 2. The entries -/

theorem nodup_groupInto (xs : List α) : ((groupInto key start combine xs).map Prod.fst).Nodup := by
  induction xs using List.reverseRecOn with
  | nil => exact List.nodup_nil
  | append_singleton xs x ih =>
    rw [groupInto, List.foldl_concat]
    change ((put key start combine (groupInto key start combine xs) x).map Prod.fst).Nodup
    unfold put
    split <;> exact Keyed.nodup_set ih

/-- With different keys an entry is the one that is found. -/
theorem find?_eq_some_iff {entries : List (κ × β)} (hnodup : (entries.map Prod.fst).Nodup) {k : κ}
    {b : β} : (entries.find? (·.1 == k)).map Prod.snd = some b ↔ (k, b) ∈ entries := by
  induction entries with
  | nil => simp
  | cons entry rest ih =>
    rw [List.map_cons, List.nodup_cons] at hnodup
    by_cases hk : entry.1 = k
    · subst hk
      have hrest : (entry.1, b) ∉ rest := fun hmem =>
        hnodup.1 (List.mem_map.mpr ⟨(entry.1, b), hmem, rfl⟩)
      rw [List.find?_cons_of_pos (by simp), Option.map_some, Option.some.injEq, List.mem_cons]
      constructor
      · rintro rfl
        exact .inl rfl
      · rintro (heq | hmem)
        · rw [← heq]
        · exact absurd hmem hrest
    · rw [List.find?_cons_of_neg (by simpa using hk), ih hnodup.2, List.mem_cons]
      refine ⟨.inr, fun h => h.resolve_left ?_⟩
      rintro rfl
      exact hk rfl

/-- The entries are what the values of the keys were combined to. -/
theorem mem_groupInto {xs : List α} {k : κ} {b : β} :
    (k, b) ∈ groupInto key start combine xs ↔
      combined start combine (valuesOf key k xs) = some b := by
  rw [← find?_eq_some_iff (nodup_groupInto xs), find?_groupInto]

variable (key start combine) in
/-- Every value is under its key. -/
theorem exists_mem_groupInto {xs : List α} {x : α} (hx : x ∈ xs) :
    ∃ b, (key x, b) ∈ groupInto key start combine xs := by
  cases hvalues : valuesOf key (key x) xs with
  | nil => exact absurd (mem_valuesOf.mpr ⟨hx, rfl⟩) (hvalues ▸ List.not_mem_nil)
  | cons y ys => exact ⟨_, mem_groupInto.mpr (by rw [hvalues]; rfl)⟩

theorem groupInto_concat (xs : List α) (x : α) : groupInto key start combine (xs ++ [x]) =
    put key start combine (groupInto key start combine xs) x := by
  rw [groupInto, List.foldl_concat]
  rfl

/-- A key comes where its first value does. -/
theorem keys_put (entries : List (κ × β)) (x : α) :
    (put key start combine entries x).map Prod.fst =
      if key x ∈ entries.map Prod.fst then entries.map Prod.fst
      else entries.map Prod.fst ++ [key x] := by
  unfold put
  split <;> exact Keyed.keys_set _ _ _

theorem mem_keys_groupInto {xs : List α} {k : κ} :
    k ∈ (groupInto key start combine xs).map Prod.fst ↔ k ∈ xs.map key := by
  induction xs using List.reverseRecOn with
  | nil => rfl
  | append_singleton xs x ih =>
    rw [groupInto_concat, keys_put, List.map_append, List.mem_append, ← ih, List.map_cons,
      List.map_nil, List.mem_singleton]
    split
    · next hx =>
      constructor
      · exact .inl
      · rintro (hk | rfl)
        · exact hk
        · exact hx
    · rw [List.mem_append, List.mem_singleton]

/-- The first key that passes a test is that of the first value whose key does. -/
theorem find?_keys_groupInto (xs : List α) (p : κ → Bool) :
    ((groupInto key start combine xs).map Prod.fst).find? p = (xs.map key).find? p := by
  induction xs using List.reverseRecOn with
  | nil => rfl
  | append_singleton xs x ih =>
    rw [groupInto_concat, keys_put, List.map_append, List.find?_append, ← ih]
    split
    · next hx =>
      cases hfound : ((groupInto key start combine xs).map Prod.fst).find? p with
      | some k => rfl
      | none =>
        have hfails : p (key x) = false := by simpa using List.find?_eq_none.mp hfound _ hx
        simp [hfails]
    · rw [List.find?_append]
      rfl

/-! ## 3. The first of the best -/

variable {σ : Type} [LinearOrder σ] {score : α → σ}

/-- A value of the list that is better than those before it and as good as those after it. -/
def FirstBest (score : α → σ) (x : α) (xs : List α) : Prop :=
  ∃ before after, xs = before ++ x :: after ∧ (∀ y ∈ before, score y < score x) ∧
    ∀ y ∈ after, score y ≤ score x

/-- `map.set(key, x)` when `x` is better. -/
def keepBetter (score : α → σ) (stored x : α) : α := if score stored < score x then x else stored

theorem FirstBest.mem {x : α} {xs : List α} (h : FirstBest score x xs) : x ∈ xs := by
  obtain ⟨before, after, rfl, -, -⟩ := h
  exact List.mem_append_right _ List.mem_cons_self

theorem FirstBest.le {x y : α} {xs : List α} (h : FirstBest score x xs) (hy : y ∈ xs) :
    score y ≤ score x := by
  obtain ⟨before, after, rfl, hbefore, hafter⟩ := h
  rcases List.mem_append.mp hy with hy | hy
  · exact (hbefore y hy).le
  · rcases List.mem_cons.mp hy with rfl | hy
    · exact le_rfl
    · exact hafter y hy

/-- More values follow: the best so far competes with them in place of the earlier ones. -/
theorem FirstBest.append {x z : α} {xs ys : List α} (h : FirstBest score x xs)
    (hz : FirstBest score z (x :: ys)) : FirstBest score z (xs ++ ys) := by
  obtain ⟨before, after, heq, hbefore, hafter⟩ := hz
  cases before with
  | nil =>
    -- the best so far stays
    obtain ⟨rfl, rfl⟩ := List.cons.inj heq
    obtain ⟨before, after', rfl, hless, hle⟩ := h
    refine ⟨before, after' ++ ys, by simp, hless, fun y hy => ?_⟩
    exact (List.mem_append.mp hy).elim (hle y) (hafter y)
  | cons w before =>
    obtain ⟨rfl, rfl⟩ := List.cons.inj heq
    refine ⟨xs ++ before, after, by simp, fun y hy => ?_, hafter⟩
    rcases List.mem_append.mp hy with hy | hy
    · exact (h.le hy).trans_lt (hbefore x List.mem_cons_self)
    · exact hbefore y (List.mem_cons_of_mem _ hy)

theorem firstBest_foldl (x : α) (xs : List α) :
    FirstBest score (xs.foldl (keepBetter score) x) (x :: xs) := by
  induction xs generalizing x with
  | nil => exact ⟨[], [], rfl, nofun, nofun⟩
  | cons y ys ih =>
    rw [List.foldl_cons]
    have hpair : FirstBest score (keepBetter score x y) [x, y] := by
      unfold keepBetter
      split
      next hless => exact ⟨[x], [], rfl, by simpa using hless, nofun⟩
      next hle => exact ⟨[], [y], rfl, nofun, by simpa using hle⟩
    exact hpair.append (ih _)

/-- The entries of a map that keeps better values. -/
theorem firstBest_of_mem {xs : List α} {k : κ} {x : α}
    (h : (k, x) ∈ groupInto key id (keepBetter score) xs) :
    FirstBest score x (valuesOf key k xs) := by
  have hcombined := mem_groupInto.mp h
  cases hvalues : valuesOf key k xs with
  | nil => simp [hvalues, combined] at hcombined
  | cons y ys =>
    rw [hvalues, combined, Option.some.injEq] at hcombined
    rw [← hcombined]
    exact firstBest_foldl y ys

/-! ## 4. The least score -/

/-- `map.set(key, score)` when the score is less. -/
def keepLess (score : α → σ) (stored : σ) (x : α) : σ :=
  if score x < stored then score x else stored

theorem keepLess_eq (stored : σ) (x : α) : keepLess score stored x = min stored (score x) := by
  unfold keepLess
  split
  next h => exact (min_eq_right h.le).symm
  next h => exact (min_eq_left (not_lt.mp h)).symm

theorem le_foldl_keepLess {s stored : σ} {xs : List α} :
    s ≤ xs.foldl (keepLess score) stored ↔ s ≤ stored ∧ ∀ x ∈ xs, s ≤ score x := by
  induction xs generalizing stored with
  | nil => simp
  | cons x xs ih => rw [List.foldl_cons, ih, keepLess_eq, le_min_iff, List.forall_mem_cons, and_assoc]

/-- What is at most the stored score is at most every score of the key. -/
theorem le_combined_iff {s stored : σ} {xs : List α}
    (h : combined score (keepLess score) xs = some stored) : s ≤ stored ↔ ∀ x ∈ xs, s ≤ score x := by
  cases xs with
  | nil => cases h
  | cons x xs =>
    rw [combined, Option.some.injEq] at h
    rw [← h, le_foldl_keepLess, List.forall_mem_cons]

/-- The least score does not depend on the order of the values. -/
theorem combined_keepLess_perm {xs ys : List α} (h : xs.Perm ys) :
    combined score (keepLess score) xs = combined score (keepLess score) ys := by
  cases hxs : combined score (keepLess score) xs with
  | none =>
    cases xs with
    | nil => rw [List.nil_perm.mp h]; rfl
    | cons => cases hxs
  | some s =>
    cases hys : combined score (keepLess score) ys with
    | none =>
      cases ys with
      | nil => rw [List.perm_nil.mp h] at hxs; cases hxs
      | cons => cases hys
    | some s' =>
      have hle : ∀ r, r ≤ s ↔ r ≤ s' := fun r => by
        rw [le_combined_iff hxs, le_combined_iff hys]
        exact ⟨fun hall y hy => hall y (h.mem_iff.mpr hy), fun hall x hx => hall x (h.mem_iff.mp hx)⟩
      rw [le_antisymm ((hle s).mp le_rfl) ((hle s').mpr le_rfl)]

/-! ## 5. Invariants and sums -/

variable {M : Type} [AddCommMonoid M] {inv : κ → β → Prop} {weigh : β → M} {weight : α → M}

/-- What every stored value has: the first values of the keys have it, and it stays when a value of
    the key is combined with it. -/
theorem forall_groupInto {xs : List α} (hstart : ∀ x ∈ xs, inv (key x) (start x))
    (hcombine : ∀ x ∈ xs, ∀ b, inv (key x) b → inv (key x) (combine b x)) :
    ∀ entry ∈ groupInto key start combine xs, inv entry.1 entry.2 := by
  induction xs using List.reverseRecOn with
  | nil => nofun
  | append_singleton xs x ih =>
    have hold := ih (fun y hy => hstart y (List.mem_append_left _ hy))
      (fun y hy => hcombine y (List.mem_append_left _ hy))
    have hx : x ∈ xs ++ [x] := List.mem_append_right _ (List.mem_singleton_self x)
    rw [groupInto_concat]
    intro entry hentry
    unfold put at hentry
    split at hentry
    next hnone =>
      rcases Keyed.mem_set hentry with rfl | ⟨hmem, -⟩
      · exact hstart x hx
      · exact hold entry hmem
    next stored hfound =>
      rcases Keyed.mem_set hentry with rfl | ⟨hmem, -⟩
      · have hkey : stored.1 = key x := by simpa using List.find?_some hfound
        exact hcombine x hx _ (hkey ▸ hold stored (List.mem_of_find?_eq_some hfound))
      · exact hold entry hmem

theorem sum_set {entries : List (κ × β)} (hnodup : (entries.map Prod.fst).Nodup)
    {stored : κ × β} (hstored : stored ∈ entries) (b : β) (m : M)
    (hb : weigh b = weigh stored.2 + m) :
    ((Keyed.set Prod.fst entries (stored.1, b)).map fun entry => weigh entry.2).sum =
      (entries.map fun entry => weigh entry.2).sum + m := by
  have hin : (stored.1, b) ∈ Keyed.set Prod.fst entries (stored.1, b) := Keyed.mem_set_self
  have hold := (Keyed.perm_cons_delete hnodup hstored).map fun entry => weigh entry.2
  have hnew := (Keyed.perm_cons_delete (Keyed.nodup_set hnodup) hin).map fun entry => weigh entry.2
  rw [hnew.sum_eq, hold.sum_eq, Keyed.filter_set, List.map_cons, List.map_cons, List.sum_cons,
    List.sum_cons, hb]
  exact add_right_comm _ _ _

/-- Nothing is lost and nothing counted twice when the weight of a stored value is that of the values
    that were combined to it. -/
theorem sum_groupInto {xs : List α}
    (hstart : ∀ x ∈ xs, inv (key x) (start x) ∧ weigh (start x) = weight x)
    (hcombine : ∀ x ∈ xs, ∀ b, inv (key x) b →
      inv (key x) (combine b x) ∧ weigh (combine b x) = weigh b + weight x) :
    ((groupInto key start combine xs).map fun entry => weigh entry.2).sum =
      (xs.map weight).sum := by
  induction xs using List.reverseRecOn with
  | nil => rfl
  | append_singleton xs x ih =>
    have hstart' := fun y hy => hstart y (List.mem_append_left [x] hy)
    have hcombine' := fun y hy => hcombine y (List.mem_append_left [x] hy)
    have hx : x ∈ xs ++ [x] := List.mem_append_right _ (List.mem_singleton_self x)
    have hinv := forall_groupInto (fun y hy => (hstart' y hy).1)
      (fun y hy b hb => (hcombine' y hy b hb).1)
    rw [groupInto_concat, List.map_append, List.sum_append, ← ih hstart' hcombine',
      List.map_singleton, List.sum_singleton]
    unfold put
    split
    next hnone =>
      have hfresh : ¬ (groupInto key start combine xs).any (·.1 == key x) = true := by
        rw [List.any_eq_true]
        rintro ⟨entry, hentry, hkey⟩
        exact List.find?_eq_none.mp hnone entry hentry hkey
      rw [Keyed.set, if_neg hfresh, List.map_append, List.sum_append, List.map_singleton,
        List.sum_singleton, (hstart x hx).2]
    next stored hfound =>
      have hstored := List.mem_of_find?_eq_some hfound
      have hkey : stored.1 = key x := by simpa using List.find?_some hfound
      rw [← hkey]
      exact sum_set (nodup_groupInto xs) hstored _ _
        (hcombine x hx _ (hkey ▸ hinv stored hstored)).2

end Grouping
