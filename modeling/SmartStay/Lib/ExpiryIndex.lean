import SmartStay.Lib.SortedSet

/-!
# Records with an index of their expiry

Records are volatile keys; a sorted set holds their keys under the time at which the process
that wrote them expects them to expire. The keys expire by the clock of the server (`time`),
the index is reaped by the clock of whoever calls (`now`), and the two clocks need not agree.

1. `take`, `store`: the scripts.
2. `Indexed`, `length_liveKeys_le`: a live record is in the index, which bounds their number;
   `take_cases`: what taking a record does to both.
3. `store_cases`: what storing a record does to both; `store_replaces`: a live record gives way
   to another only when its time in the index is over.
-/

/-- The records and the index of their keys. -/
structure ExpiryIndex (κ ν : Type) where
  records : Keyspace κ ν := ∅
  index : SortedSet κ := ∅

namespace ExpiryIndex

variable {κ ν : Type} [DecidableEq κ]

/-! ## 1. Scripts -/

/-- Store a record under a key that holds none. -/
def put (s : ExpiryIndex κ ν) (time ttl now : Nat) (k : κ) (v : ν) : ExpiryIndex κ ν where
  records := s.records.setPx time ttl k v
  index := s.index.zadd (now + ttl) k

/-- Delete a key and its place in the index. -/
def remove (s : ExpiryIndex κ ν) (k : κ) : ExpiryIndex κ ν where
  records := s.records.del k
  index := s.index.zrem k

/-- Read a record and delete it. -/
def take (s : ExpiryIndex κ ν) (time : Nat) (k : κ) : ExpiryIndex κ ν × Option ν :=
  match s.records.get time k with
  | some v => (s.remove k, some v)
  | none => ({ s with index := s.index.zrem k }, none)

section
variable [LE κ] [DecidableLE κ]

/-- Delete the records whose time in the index is over. -/
def reap (s : ExpiryIndex κ ν) (now : Nat) : ExpiryIndex κ ν where
  records := Hash.hdelAll s.records (s.index.zrangeByScore now)
  index := s.index.zremRangeByScore now

/-- The reply of the storing script. -/
inductive StoreReply
  | capacity | collision | ok
deriving DecidableEq, Repr

/-- Reap, then store a record, unless there are too many or its key is taken. -/
def store (s : ExpiryIndex κ ν) (time ttl now limit : Nat) (k : κ) (v : ν) :
    ExpiryIndex κ ν × StoreReply :=
  if limit ≤ (s.reap now).index.zcard then (s.reap now, .capacity)
  else if ((s.reap now).records.get time k).isSome then (s.reap now, .collision)
  else ((s.reap now).put time ttl now k v, .ok)

end

variable {s : ExpiryIndex κ ν} {time ttl now limit : Nat} {k k' : κ} {v v' : ν}

/-! ## 2. Taking a record -/

/-- The key of every live record is in the index. -/
def Indexed (s : ExpiryIndex κ ν) (time : Nat) : Prop :=
  ∀ k v, s.records.get time k = some v → k ∈ s.index

/-- A key that is expired stays so. -/
theorem get_mono {time' : Nat} (hle : time ≤ time') (h : s.records.get time' k = some v) :
    s.records.get time k = some v := by
  obtain ⟨e, he, hlive⟩ := Keyspace.get_eq_some.mp h
  exact Keyspace.get_eq_some.mpr ⟨e, he, hle.trans hlive⟩

theorem Indexed.mono (h : s.Indexed time) {time' : Nat} (hle : time ≤ time') : s.Indexed time' :=
  fun k v hget => h k v (get_mono hle hget)

theorem take_cases (s : ExpiryIndex κ ν) (time : Nat) (k : κ) :
    (∃ v, s.records.get time k = some v ∧ s.take time k = (s.remove k, some v)) ∨
      s.records.get time k = none ∧ s.take time k = ({ s with index := s.index.zrem k }, none) := by
  unfold take
  cases hget : s.records.get time k with
  | some v => exact .inl ⟨v, rfl, rfl⟩
  | none => exact .inr ⟨rfl, rfl⟩

/-- Taking a record leaves the others as they are. -/
theorem get_take (s : ExpiryIndex κ ν) (time : Nat) (k k' : κ)
    (h : (s.take time k).1.records.get time k' = some v) : s.records.get time k' = some v := by
  rcases take_cases s time k with ⟨u, -, heq⟩ | ⟨-, heq⟩
  · rw [heq] at h
    have h' : (s.records.del k).get time k' = some v := h
    rw [Keyspace.get_del] at h'
    split at h'
    · cases h'
    · exact h'
  · rw [heq] at h
    exact h

/-- Every record after the taking script was there before it. -/
theorem hget_take {e : Volatile ν} (h : (s.take time k).1.records.hget k' = some e) :
    s.records.hget k' = some e := by
  rcases take_cases s time k with ⟨u, -, heq⟩ | ⟨-, heq⟩
  · rw [heq] at h
    simp only [remove, Keyspace.del, Hash.hget_hdel] at h
    split at h
    · cases h
    · exact h
  · rw [heq] at h
    exact h

theorem Indexed.put (h : s.Indexed time) (ttl now : Nat) (k : κ) (v : ν) :
    (s.put time ttl now k v).Indexed time := by
  intro k' v' hget
  refine Hash.mem_hset.mpr ?_
  by_cases hk : k' = k
  · exact .inl hk
  · refine .inr (h k' v' ?_)
    simpa [ExpiryIndex.put, Keyspace.get_setPx, hk] using hget

theorem Indexed.take (h : s.Indexed time) (k : κ) : (s.take time k).1.Indexed time := by
  rcases take_cases s time k with ⟨v, -, heq⟩ | ⟨hnone, heq⟩
  · rw [heq]
    intro k' v' hget
    have hget' : (s.records.del k).get time k' = some v' := hget
    rw [Keyspace.get_del] at hget'
    split at hget'
    · cases hget'
    · rename_i hne
      exact Hash.mem_hdel.mpr ⟨hne, h k' v' hget'⟩
  · rw [heq]
    intro k' v' hget
    have hget' : s.records.get time k' = some v' := hget
    refine Hash.mem_hdel.mpr ⟨?_, h k' v' hget'⟩
    rintro rfl
    rw [hnone] at hget'
    cases hget'

theorem zcard_take_le (s : ExpiryIndex κ ν) (time : Nat) (k : κ) :
    (s.take time k).1.index.zcard ≤ s.index.zcard := by
  rcases take_cases s time k with ⟨v, -, heq⟩ | ⟨-, heq⟩
  · rw [heq]
    exact Hash.hlen_hdel_le _ _
  · rw [heq]
    exact Hash.hlen_hdel_le _ _

/-- The keys of the live records. -/
def liveKeys (s : ExpiryIndex κ ν) (time : Nat) : List κ :=
  s.records.keys.filter fun k => (s.records.get time k).isSome

theorem length_liveKeys_le (h : s.Indexed time) :
    (s.liveKeys time).length ≤ s.index.zcard := by
  refine Hash.length_le_hlen (s.records.keys_nodup.filter _) fun k hk => ?_
  obtain ⟨v, hv⟩ := Option.isSome_iff_exists.mp (List.mem_filter.mp hk).2
  exact h k v hv

/-! ## 3. Storing a record -/

variable [LE κ] [DecidableLE κ]

theorem hget_reap {e : Volatile ν} (h : (s.reap now).records.hget k = some e) :
    s.records.hget k = some e := by
  unfold reap at h
  rw [Hash.hget_hdelAll] at h
  split at h
  · cases h
  · exact h

theorem get_reap : (s.reap now).records.get time k =
    if k ∈ s.index.zrangeByScore now then none else s.records.get time k := by
  unfold reap Keyspace.get
  rw [Hash.hget_hdelAll]
  split <;> rfl

/-- A script that stores nothing has still reaped. -/
theorem store_cases (s : ExpiryIndex κ ν) (time ttl now limit : Nat) (k : κ) (v : ν) :
    (s.store time ttl now limit k v).2 ≠ .ok ∧
        (s.store time ttl now limit k v).1 = s.reap now ∨
      (s.store time ttl now limit k v).2 = .ok ∧ (s.reap now).index.zcard < limit ∧
        (s.reap now).records.get time k = none ∧
        (s.store time ttl now limit k v).1 = (s.reap now).put time ttl now k v := by
  unfold store
  split
  · exact .inl ⟨nofun, rfl⟩
  · rename_i hcard
    split
    · exact .inl ⟨nofun, rfl⟩
    · rename_i hfree
      exact .inr ⟨rfl, Nat.lt_of_not_le hcard, by simpa using hfree, rfl⟩

theorem Indexed.reap (h : s.Indexed time) (now : Nat) : (s.reap now).Indexed time := by
  intro k v hget
  rw [get_reap] at hget
  split at hget
  · cases hget
  · rename_i hkeep
    exact Hash.mem_hdelAll.mpr ⟨hkeep, h k v hget⟩

/-- Every record after the storing script was there before it, or is the stored one. -/
theorem hget_store {e : Volatile ν}
    (h : (s.store time ttl now limit k v).1.records.hget k' = some e) :
    s.records.hget k' = some e ∨ k' = k ∧ (s.store time ttl now limit k v).2 = .ok ∧
      e.value = v := by
  rcases store_cases s time ttl now limit k v with ⟨-, heq⟩ | ⟨hok, -, -, heq⟩
  · rw [heq] at h
    exact .inl (hget_reap h)
  · rw [heq] at h
    simp only [put, Keyspace.setPx, Hash.hget_hset] at h
    split at h
    · rename_i hk
      cases h
      exact .inr ⟨hk, hok, rfl⟩
    · exact .inl (hget_reap h)

theorem Indexed.store (h : s.Indexed time) (ttl now limit : Nat) (k : κ) (v : ν) :
    (s.store time ttl now limit k v).1.Indexed time := by
  rcases store_cases s time ttl now limit k v with ⟨-, heq⟩ | ⟨-, -, -, heq⟩
  · rw [heq]
    exact h.reap now
  · rw [heq]
    exact (h.reap now).put ttl now k v

theorem zcard_reap_le (s : ExpiryIndex κ ν) (now : Nat) :
    (s.reap now).index.zcard ≤ s.index.zcard := SortedSet.zcard_zremRangeByScore_le _ _

theorem zcard_store_le (h : s.index.zcard ≤ limit) (time ttl now : Nat) (k : κ) (v : ν) :
    (s.store time ttl now limit k v).1.index.zcard ≤ limit := by
  rcases store_cases s time ttl now limit k v with ⟨-, heq⟩ | ⟨-, hroom, -, heq⟩
  · rw [heq]
    exact (zcard_reap_le s now).trans h
  · rw [heq]
    exact (Hash.hlen_hset_le _ _ _).trans hroom

theorem store_replaces (hbefore : s.records.get time k' = some v')
    {w : ν} (hafter : (s.store time ttl now limit k v).1.records.get time k' = some w)
    (hne : v' ≠ w) :
    k' = k ∧ w = v ∧ ∃ score, s.index.zscore k = some score ∧ score ≤ now := by
  have hreaped : ∀ u, (s.reap now).records.get time k' = some u → u = v' := by
    intro u hu
    rw [get_reap] at hu
    split at hu
    · cases hu
    · rw [hbefore] at hu
      exact (Option.some.inj hu).symm
  rcases store_cases s time ttl now limit k v with ⟨-, heq⟩ | ⟨-, -, hfree, heq⟩
  · rw [heq] at hafter
    exact absurd (hreaped w hafter).symm hne
  · rw [heq] at hafter
    simp only [put, Keyspace.get_setPx] at hafter
    split at hafter
    · rename_i hk
      subst hk
      have hw : v = w := by simpa using hafter
      refine ⟨rfl, hw.symm, SortedSet.mem_zrangeByScore.mp ?_⟩
      by_contra hkeep
      rw [get_reap, if_neg hkeep, hbefore] at hfree
      cases hfree
    · exact absurd (hreaped w hafter).symm hne

end ExpiryIndex
