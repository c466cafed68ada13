import Mathlib.Data.List.AList
import Mathlib.Algebra.BigOperators.Group.List.Basic
import Mathlib.Algebra.GroupWithZero.Nat

/-!
# Hashes of a key-value store

`Hash κ ν` is the value of one hash key of a Redis-like store: a finite map from
fields to values, with the commands `HGET`, `HSET`, `HDEL`, `HLEN`. It is
Mathlib's `AList`, whose entries carry the proof that no field occurs twice.

1. The commands, and how they compose (`hget_hset`, `hget_hdel`).
2. `hdelAll`: a loop of `HDEL` over a list of fields.
3. `hlen`: the number of fields under the commands.
4. `hsum`: the sum of a hash of numbers under the commands.
-/

/-- A hash with fields `κ` and values `ν`. -/
abbrev Hash (κ ν : Type) := AList fun _ : κ => ν

namespace Hash

variable {κ ν : Type}

/-- `HLEN`. -/
def hlen (h : Hash κ ν) : Nat := h.keys.length

@[simp] theorem hlen_empty : (∅ : Hash κ ν).hlen = 0 := rfl

/-- A hash whose fields all occur in another one is no longer than it. -/
theorem hlen_le_of_subset {μ : Type} {h : Hash κ ν} {h' : Hash κ μ}
    (hsub : ∀ k, k ∈ h → k ∈ h') : h.hlen ≤ h'.hlen :=
  (List.subperm_of_subset (AList.keys_nodup h) hsub).length_le

/-- A hash is at least as long as a list of different fields of it. -/
theorem length_le_hlen {h : Hash κ ν} {ks : List κ} (hnodup : ks.Nodup)
    (hmem : ∀ k ∈ ks, k ∈ h) : ks.length ≤ h.hlen :=
  (List.subperm_of_subset hnodup hmem).length_le

theorem hlen_eq_of_mem_iff {μ : Type} {h : Hash κ ν} {h' : Hash κ μ}
    (hiff : ∀ k, k ∈ h ↔ k ∈ h') : h.hlen = h'.hlen :=
  Nat.le_antisymm (hlen_le_of_subset fun k => (hiff k).mp)
    (hlen_le_of_subset fun k => (hiff k).mpr)

/-- The sum of all values of a hash of numbers. -/
def hsum (h : Hash κ Nat) : Nat := (h.entries.map Sigma.snd).sum

@[simp] theorem hsum_empty : (∅ : Hash κ Nat).hsum = 0 := rfl

variable [DecidableEq κ]

/-- Equality of hashes, decided on their entries. -/
instance [DecidableEq ν] : DecidableEq (Hash κ ν) := fun h h' =>
  decidable_of_iff (h.entries = h'.entries) AList.ext_iff.symm

/-! ## 1. Commands -/

/-- `HGET`. -/
def hget (h : Hash κ ν) (k : κ) : Option ν := h.lookup k

/-- `HSET`. -/
def hset (h : Hash κ ν) (k : κ) (v : ν) : Hash κ ν := h.insert k v

/-- `HDEL`. -/
def hdel (h : Hash κ ν) (k : κ) : Hash κ ν := h.erase k

/-- A property of all entries, decided entry by entry. -/
instance {P : κ → ν → Prop} [∀ k v, Decidable (P k v)] (h : Hash κ ν) :
    Decidable (∀ k v, h.hget k = some v → P k v) :=
  decidable_of_iff (∀ x ∈ h.entries, P x.1 x.2)
    ⟨fun hall k v hv => hall ⟨k, v⟩ (AList.mem_lookup_iff.mp hv),
      fun hall x hx => hall x.1 x.2 (AList.mem_lookup_iff.mpr hx)⟩

/-- A property of the value of a field, if there is one. -/
instance {P : ν → Prop} [DecidablePred P] (o : Option ν) : Decidable (∀ v, o = some v → P v) :=
  match o with
  | none => .isTrue fun _ hv => nomatch hv
  | some v => decidable_of_iff (P v) ⟨fun hp _ hv => Option.some.inj hv ▸ hp, fun hall => hall v rfl⟩

@[simp] theorem hget_empty (k : κ) : (∅ : Hash κ ν).hget k = none := AList.lookup_empty k

theorem hget_hset (h : Hash κ ν) (k k' : κ) (v : ν) :
    (h.hset k v).hget k' = if k' = k then some v else h.hget k' := by
  unfold hget hset
  split
  · next e => rw [e, AList.lookup_insert]
  · next e => rw [AList.lookup_insert_ne e]

theorem hget_hdel (h : Hash κ ν) (k k' : κ) :
    (h.hdel k).hget k' = if k' = k then none else h.hget k' := by
  unfold hget hdel
  split
  · next e => rw [e, AList.lookup_erase]
  · next e => rw [AList.lookup_erase_ne e]

@[simp] theorem hget_hset_self (h : Hash κ ν) (k : κ) (v : ν) : (h.hset k v).hget k = some v := by
  simp [hget_hset]

@[simp] theorem hget_hdel_self (h : Hash κ ν) (k : κ) : (h.hdel k).hget k = none := by
  simp [hget_hdel]

theorem mem_iff_hget {h : Hash κ ν} {k : κ} : k ∈ h ↔ ∃ v, h.hget k = some v := by
  rw [← AList.lookup_isSome, Option.isSome_iff_exists]; rfl

theorem notMem_iff_hget {h : Hash κ ν} {k : κ} : k ∉ h ↔ h.hget k = none :=
  AList.lookup_eq_none.symm

theorem mem_of_hget {h : Hash κ ν} {k : κ} {v : ν} (e : h.hget k = some v) : k ∈ h :=
  mem_iff_hget.mpr ⟨v, e⟩

@[simp] theorem mem_hset {h : Hash κ ν} {k k' : κ} {v : ν} :
    k' ∈ h.hset k v ↔ k' = k ∨ k' ∈ h := AList.mem_insert h

@[simp] theorem mem_hdel {h : Hash κ ν} {k k' : κ} : k' ∈ h.hdel k ↔ k' ≠ k ∧ k' ∈ h :=
  AList.mem_erase

/-! ## 2. Deleting a list of fields -/

/-- `for _, k in ipairs(ks) do HDEL k end`. -/
def hdelAll (h : Hash κ ν) (ks : List κ) : Hash κ ν := ks.foldl hdel h

@[simp] theorem hdelAll_nil (h : Hash κ ν) : h.hdelAll [] = h := rfl

theorem hdelAll_cons (h : Hash κ ν) (k : κ) (ks : List κ) :
    h.hdelAll (k :: ks) = (h.hdel k).hdelAll ks := rfl

theorem hget_hdelAll (h : Hash κ ν) (ks : List κ) (k : κ) :
    (h.hdelAll ks).hget k = if k ∈ ks then none else h.hget k := by
  induction ks generalizing h with
  | nil => simp
  | cons k' ks ih =>
    rw [hdelAll_cons, ih, hget_hdel]
    by_cases hk : k = k' <;> by_cases hks : k ∈ ks <;> simp [hk, hks]

@[simp] theorem mem_hdelAll {h : Hash κ ν} {ks : List κ} {k : κ} :
    k ∈ h.hdelAll ks ↔ k ∉ ks ∧ k ∈ h := by
  simp only [mem_iff_hget, hget_hdelAll]
  by_cases hk : k ∈ ks <;> simp [hk]

/-! ## 3. The number of fields -/

theorem hlen_hset_of_mem {h : Hash κ ν} {k : κ} {v : ν} (hk : k ∈ h) :
    (h.hset k v).hlen = h.hlen := by
  have hpos : 0 < h.keys.length := List.length_pos_of_mem (AList.mem_keys.mp hk)
  simp only [hlen, hset, AList.keys_insert, List.length_cons,
    List.length_erase_of_mem (AList.mem_keys.mp hk)]
  omega

theorem hlen_hset_of_notMem {h : Hash κ ν} {k : κ} {v : ν} (hk : k ∉ h) :
    (h.hset k v).hlen = h.hlen + 1 := by
  simp only [hlen, hset, AList.keys_insert, List.length_cons,
    List.erase_of_not_mem (fun hm => hk (AList.mem_keys.mpr hm))]

theorem hlen_hset_le (h : Hash κ ν) (k : κ) (v : ν) : (h.hset k v).hlen ≤ h.hlen + 1 := by
  by_cases hk : k ∈ h
  · rw [hlen_hset_of_mem hk]
    exact Nat.le_succ _
  · rw [hlen_hset_of_notMem hk]

theorem hlen_hdel_le (h : Hash κ ν) (k : κ) : (h.hdel k).hlen ≤ h.hlen :=
  hlen_le_of_subset fun _ hk => (mem_hdel.mp hk).2

theorem hlen_hdel_lt {h : Hash κ ν} {k : κ} (hk : k ∈ h) : (h.hdel k).hlen < h.hlen := by
  have hpos : 0 < h.keys.length := List.length_pos_of_mem (AList.mem_keys.mp hk)
  simp only [hlen, hdel, AList.keys_erase, List.length_erase_of_mem (AList.mem_keys.mp hk)]
  omega

/-! ## 4. The sum of a hash of numbers -/

/-- Taking the first entry of a field out of a list takes its value off the sum. -/
theorem sum_kerase (k : κ) : ∀ l : List (Sigma fun _ : κ => Nat),
    ((l.kerase k).map Sigma.snd).sum + (l.dlookup k).getD 0 = (l.map Sigma.snd).sum
  | [] => rfl
  | ⟨k', v⟩ :: l => by
    by_cases hk : k = k'
    · subst hk
      simp [Nat.add_comm]
    · have ih := sum_kerase k l
      have he : List.kerase k (⟨k', v⟩ :: l) = (⟨k', v⟩ : Sigma fun _ : κ => Nat) :: l.kerase k :=
        List.kerase_cons_ne hk
      have hd : List.dlookup k ((⟨k', v⟩ : Sigma fun _ : κ => Nat) :: l) = l.dlookup k :=
        List.dlookup_cons_ne l _ hk
      rw [he, hd, List.map_cons, List.map_cons, List.sum_cons, List.sum_cons]
      omega

/-- `HDEL` takes the value of the field (`0` when there is none) off the sum. -/
theorem hsum_hdel (h : Hash κ Nat) (k : κ) :
    (h.hdel k).hsum + (h.hget k).getD 0 = h.hsum := sum_kerase k h.entries

theorem hsum_hset (h : Hash κ Nat) (k : κ) (v : Nat) :
    (h.hset k v).hsum = v + (h.hdel k).hsum := by
  rw [hsum, hset, AList.entries_insert, List.map_cons, List.sum_cons]
  rfl

theorem hsum_hdel_le (h : Hash κ Nat) (k : κ) : (h.hdel k).hsum ≤ h.hsum := by
  have := hsum_hdel h k
  omega

theorem hsum_hdelAll_le (h : Hash κ Nat) (ks : List κ) : (h.hdelAll ks).hsum ≤ h.hsum := by
  induction ks generalizing h with
  | nil => exact Nat.le_refl _
  | cons k ks ih =>
    rw [hdelAll_cons]
    exact Nat.le_trans (ih (h.hdel k)) (hsum_hdel_le h k)

/-- Deleting fields keeps the sum exactly when none of them has a positive value. -/
theorem hsum_hdelAll_eq_iff (h : Hash κ Nat) (ks : List κ) :
    (h.hdelAll ks).hsum = h.hsum ↔ ∀ k ∈ ks, (h.hget k).getD 0 = 0 := by
  induction ks generalizing h with
  | nil => simp
  | cons k ks ih =>
    have hk := hsum_hdel h k
    have hrest := hsum_hdelAll_le (h.hdel k) ks
    rw [hdelAll_cons, List.forall_mem_cons]
    constructor
    · intro heq
      have hzero : (h.hget k).getD 0 = 0 := by omega
      refine ⟨hzero, fun k' hk' => ?_⟩
      have hval := (ih (h.hdel k)).mp (by omega) k' hk'
      rw [hget_hdel] at hval
      split at hval
      · next e => rw [e, hzero]
      · exact hval
    · rintro ⟨hzero, hall⟩
      have hdrop : ((h.hdel k).hdelAll ks).hsum = (h.hdel k).hsum := (ih (h.hdel k)).mpr fun k' hk' => by
        rw [hget_hdel]
        split
        · rfl
        · exact hall k' hk'
      omega

end Hash
