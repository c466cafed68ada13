import Mathlib.Data.List.Sort
import SmartStay.Lib.Hash

/-!
# Sorted sets and volatile keys of a key-value store

A sorted set is a hash from members to scores, read in the order of the scores
(members of equal score in the order of the members). A volatile value is one
stored with a time to live.

1. `ZADD`, `ZREM`, `ZCARD`, `ZRANGE`.
2. `ZRANGEBYSCORE -inf now` and `ZREMRANGEBYSCORE -inf now`, the pair of commands
   that a reaping loop is built from.
3. `GET`, `SET`, `PTTL` and `INCR` on a volatile key.
-/

/-- A sorted set with members `κ` and scores in `Nat`. -/
abbrev SortedSet (κ : Type) := Hash κ Nat

namespace SortedSet

variable {κ : Type}

/-! ## 1. Commands -/

/-- `ZCARD`. -/
abbrev zcard (z : SortedSet κ) : Nat := Hash.hlen z

section Commands
variable [DecidableEq κ]

/-- `ZADD`. -/
abbrev zadd (z : SortedSet κ) (score : Nat) (k : κ) : SortedSet κ := Hash.hset z k score

/-- `ZREM`. -/
abbrev zrem (z : SortedSet κ) (k : κ) : SortedSet κ := Hash.hdel z k

/-- `ZSCORE`. -/
abbrev zscore (z : SortedSet κ) (k : κ) : Option Nat := Hash.hget z k

end Commands

/-- The order of a sorted set: by score, then by member. -/
def before [LE κ] (a b : Sigma fun _ : κ => Nat) : Prop := a.2 < b.2 ∨ (a.2 = b.2 ∧ a.1 ≤ b.1)

instance [LE κ] [DecidableLE κ] : DecidableRel (before (κ := κ)) := fun a b =>
  inferInstanceAs (Decidable (a.2 < b.2 ∨ (a.2 = b.2 ∧ a.1 ≤ b.1)))

variable [LE κ] [DecidableLE κ]

/-- The entries of a sorted set in its order. -/
def sorted (z : SortedSet κ) : List (Sigma fun _ : κ => Nat) := z.entries.insertionSort before

/-- `ZRANGE 0 -1`. -/
def zrange (z : SortedSet κ) : List κ := z.sorted.map Sigma.fst

/-- `ZRANGEBYSCORE -inf now`. -/
def zrangeByScore (z : SortedSet κ) (now : Nat) : List κ :=
  (z.sorted.filter fun e => e.2 ≤ now).map Sigma.fst

/-- `ZREMRANGEBYSCORE -inf now`. -/
def zremRangeByScore [DecidableEq κ] (z : SortedSet κ) (now : Nat) : SortedSet κ :=
  Hash.hdelAll z (z.zrangeByScore now)

@[simp] theorem mem_zrange {z : SortedSet κ} {k : κ} : k ∈ z.zrange ↔ k ∈ z :=
  ((List.perm_insertionSort before z.entries).map Sigma.fst).mem_iff

/-! ## 2. Reaping by score -/

variable [DecidableEq κ]

/-- When a hash has the members of a sorted set as its fields, the sum over the members is
the sum of the hash. -/
theorem sum_zrange {z : SortedSet κ} {h : Hash κ Nat} (hiff : ∀ k, k ∈ z ↔ k ∈ h) :
    (z.zrange.map fun k => (h.hget k).getD 0).sum = h.hsum := by
  have hrange : z.zrange.Perm z.keys := (List.perm_insertionSort before z.entries).map Sigma.fst
  have hkeys : z.keys.Perm h.keys := (List.perm_ext_iff_of_nodup z.keys_nodup h.keys_nodup).mpr
    fun k => AList.mem_keys.symm.trans ((hiff k).trans AList.mem_keys)
  have hvalues : h.keys.map (fun k => (h.hget k).getD 0) = h.entries.map Sigma.snd := by
    change (h.entries.map Sigma.fst).map _ = _
    rw [List.map_map]
    refine List.map_congr_left fun e he => ?_
    have hget : h.hget e.1 = some e.2 := AList.mem_lookup_iff.mpr he
    rw [Function.comp_apply, hget, Option.getD_some]
  rw [((hrange.trans hkeys).map _).sum_eq, hvalues, Hash.hsum]

theorem mem_zrangeByScore {z : SortedSet κ} {now : Nat} {k : κ} :
    k ∈ z.zrangeByScore now ↔ ∃ score, z.zscore k = some score ∧ score ≤ now := by
  simp only [zrangeByScore, sorted, List.mem_map, List.mem_filter, List.mem_insertionSort,
    decide_eq_true_eq]
  constructor
  · rintro ⟨⟨k', score⟩, ⟨hm, hle⟩, rfl⟩
    exact ⟨score, AList.mem_lookup_iff.mpr hm, hle⟩
  · rintro ⟨score, hs, hle⟩
    exact ⟨⟨k, score⟩, ⟨AList.mem_lookup_iff.mp hs, hle⟩, rfl⟩

theorem notMem_zrangeByScore {z : SortedSet κ} {now score : Nat} {k : κ}
    (hs : z.zscore k = some score) : k ∉ z.zrangeByScore now ↔ now < score := by
  simp [mem_zrangeByScore, hs]

/-- A member survives the removal exactly when its score is in the future. -/
theorem zscore_zremRangeByScore {z : SortedSet κ} {now score : Nat} {k : κ} :
    (z.zremRangeByScore now).zscore k = some score ↔ z.zscore k = some score ∧ now < score := by
  unfold zscore zremRangeByScore
  rw [Hash.hget_hdelAll]
  constructor
  · intro h
    split at h
    · cases h
    · next hk => exact ⟨h, (notMem_zrangeByScore h).mp hk⟩
  · rintro ⟨hs, hlt⟩
    rw [if_neg ((notMem_zrangeByScore hs).mpr hlt), hs]

theorem mem_zremRangeByScore {z : SortedSet κ} {now : Nat} {k : κ}
    (h : k ∈ z.zremRangeByScore now) : k ∈ z := (Hash.mem_hdelAll.mp h).2

theorem zcard_zremRangeByScore_le (z : SortedSet κ) (now : Nat) :
    (z.zremRangeByScore now).zcard ≤ z.zcard := Hash.hlen_le_of_subset fun _ => mem_zremRangeByScore

end SortedSet

/-! ## 3. Volatile keys -/

/-- A value stored with `PX`: its key is expired once the clock is past `expiresAt`. -/
structure Volatile (ν : Type) where
  value : ν
  expiresAt : Nat
deriving DecidableEq, Repr

/-- A keyspace of volatile string keys. -/
abbrev Keyspace (κ ν : Type) := Hash κ (Volatile ν)

namespace Keyspace

variable {κ ν : Type} [DecidableEq κ]

/-- `SET key value PX ttl` at the time `now`. -/
def setPx (s : Keyspace κ ν) (now ttl : Nat) (k : κ) (v : ν) : Keyspace κ ν :=
  Hash.hset s k ⟨v, now + ttl⟩

/-- `GET key` at the time `now`: an expired key reads as absent. -/
def get (s : Keyspace κ ν) (now : Nat) (k : κ) : Option ν :=
  (Hash.hget s k).bind fun v => if now ≤ v.expiresAt then some v.value else none

/-- `PTTL key` at the time `now`; `none` stands for its negative answers. -/
def pttl (s : Keyspace κ ν) (now : Nat) (k : κ) : Option Nat :=
  (Hash.hget s k).bind fun v => if now ≤ v.expiresAt then some (v.expiresAt - now) else none

/-- `INCR key` of a live key, which keeps its time to live. -/
def incr (s : Keyspace κ Nat) (k : κ) : Keyspace κ Nat :=
  match Hash.hget s k with
  | some v => Hash.hset s k { v with value := v.value + 1 }
  | none => s

/-- `DEL key`. -/
abbrev del (s : Keyspace κ ν) (k : κ) : Keyspace κ ν := Hash.hdel s k

/-- `PEXPIRE key ttl` at the time `now`; nothing happens to an absent key. -/
def pexpire (s : Keyspace κ ν) (now ttl : Nat) (k : κ) : Keyspace κ ν :=
  match s.get now k with
  | some v => s.setPx now ttl k v
  | none => s

theorem get_eq_some {s : Keyspace κ ν} {now : Nat} {k : κ} {v : ν} :
    s.get now k = some v ↔ ∃ e, Hash.hget s k = some ⟨v, e⟩ ∧ now ≤ e := by
  simp only [get, Option.bind_eq_some_iff, Option.ite_none_right_eq_some, Option.some.injEq]
  constructor
  · rintro ⟨w, hw, hle, rfl⟩
    exact ⟨w.expiresAt, hw, hle⟩
  · rintro ⟨e, hw, hle⟩
    exact ⟨⟨v, e⟩, hw, hle, rfl⟩

theorem get_del (s : Keyspace κ ν) (now : Nat) (k k' : κ) :
    (s.del k).get now k' = if k' = k then none else s.get now k' := by
  simp only [get, del, Hash.hget_hdel]
  split <;> rfl

theorem get_setPx (s : Keyspace κ ν) (now now' ttl : Nat) (k k' : κ) (v : ν) :
    (s.setPx now ttl k v).get now' k' =
      if k' = k then (if now' ≤ now + ttl then some v else none) else s.get now' k' := by
  simp only [get, setPx, Hash.hget_hset]
  split <;> rfl

end Keyspace
