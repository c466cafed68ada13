import SmartStay.Idempotency.Execution

/-!
# What the scripts do to the records

Records leave the store in three loops (reaping, eviction, the statistics script), and
every loop removes one record at a time. This module says once what a removal can touch,
and from it what each script does.

1. `Swept`: entries vanish at most, and no record of a running lease does.
2. `forgetRecord_swept`, `removeRecord_swept` and the three loops.
3. `Granted`, `Fulfilled`, `Released`: what a created claim, a completion and a release
   write, and the case lemma of each script.
4. `Indexed.written`, `Released.indexed`: the writes keep the index.
-/

namespace SmartStay.Idempotency

/-! ## 1. Sweeping -/

/-- The record is pending and its lease runs past `now`. -/
def Running (now : Nat) (v : Volatile Record) : Prop :=
  v.value.isFulfilled = false ∧ now < v.expiresAt

/-- Each record is in the expiry index, under the time it expires at. -/
def Indexed (st : StoreState) : Prop :=
  ∀ k v, Hash.hget st.records k = some v → st.expiry.zscore k = some v.expiresAt

/-- What the removal of records does. -/
structure Swept (now : Nat) (st st' : StoreState) : Prop where
  records : ∀ k v, Hash.hget st'.records k = some v → Hash.hget st.records k = some v
  responses : ∀ k w, Hash.hget st'.responses k = some w → Hash.hget st.responses k = some w
  running : ∀ k v, Hash.hget st.records k = some v → Running now v →
    Hash.hget st'.records k = some v
  indexed : Indexed st → Indexed st'

/-- No running lease is lost with the record of `k`. -/
def Expendable (now : Nat) (st : StoreState) (k : Key) : Prop :=
  ∀ v, Hash.hget st.records k = some v → ¬ Running now v

theorem Expendable.of_swept {now : Nat} {st st' : StoreState} {k : Key}
    (h : Expendable now st k) (hs : Swept now st st') : Expendable now st' k :=
  fun v hv => h v (hs.records k v hv)

namespace Swept

variable {now : Nat} {st st' st'' : StoreState}

theorem refl (now : Nat) (st : StoreState) : Swept now st st :=
  ⟨fun _ _ h => h, fun _ _ h => h, fun _ _ h _ => h, id⟩

theorem trans (h : Swept now st st') (h' : Swept now st' st'') : Swept now st st'' where
  records k v hv := h.records k v (h'.records k v hv)
  responses k w hw := h.responses k w (h'.responses k w hw)
  running k v hv hlive := h'.running k v (h.running k v hv hlive) hlive
  indexed hi := h'.indexed (h.indexed hi)

/-- The total of the bytes plays no part. -/
theorem withTotal (h : Swept now st st') (total : Nat) :
    Swept now st { st' with totalBytes := total } := ⟨h.records, h.responses, h.running, h.indexed⟩

/-- A removal that is expendable at each point, over a whole list. -/
theorem foldl {f : Nat × StoreState → Key → Nat × StoreState}
    (hf : ∀ r k, Expendable now r.2 k → Swept now r.2 (f r k).2) :
    ∀ (ks : List Key) (r : Nat × StoreState), (∀ k ∈ ks, Expendable now r.2 k) →
      Swept now r.2 (ks.foldl f r).2
  | [], r, _ => refl now r.2
  | k :: ks, r, h => by
    have hone : Swept now r.2 (f r k).2 := hf r k (h k List.mem_cons_self)
    have hrest : ∀ j ∈ ks, Expendable now (f r k).2 j := fun j hj =>
      (h j (List.mem_cons_of_mem k hj)).of_swept hone
    exact hone.trans (foldl hf ks (f r k) hrest)

end Swept

/-! ## 2. The loops -/

theorem forgetRecord_records (r : Nat × StoreState) (k j : Key) :
    Hash.hget (forgetRecord r k).2.records j = if j = k then none else Hash.hget r.2.records j :=
  Hash.hget_hdel _ _ _

theorem forgetRecord_responses {r : Nat × StoreState} {k j : Key} {w : Volatile Produced}
    (h : Hash.hget (forgetRecord r k).2.responses j = some w) :
    Hash.hget r.2.responses j = some w := by
  simp only [forgetRecord] at h
  split at h
  · rw [Keyspace.del, Hash.hget_hdel] at h
    split at h
    · cases h
    · exact h
  · exact h

theorem forgetRecord_swept {now : Nat} (r : Nat × StoreState) (k : Key)
    (h : Expendable now r.2 k) : Swept now r.2 (forgetRecord r k).2 where
  records j v hv := by
    rw [forgetRecord_records] at hv
    split at hv
    · cases hv
    · exact hv
  responses _ _ := forgetRecord_responses
  running j v hv hlive := by
    rw [forgetRecord_records, if_neg, hv]
    rintro rfl
    exact h v hv hlive
  indexed hi j v hv := by
    rw [forgetRecord_records] at hv
    split at hv
    · cases hv
    · exact hi j v hv

theorem removeRecord_swept {now : Nat} (r : Nat × StoreState) (k : Key)
    (h : Expendable now r.2 k) : Swept now r.2 (removeRecord r k).2 := by
  have hforget := forgetRecord_swept r k h
  refine ⟨hforget.records, hforget.responses, hforget.running, fun hi j v hv => ?_⟩
  -- The entry of `k` goes with its record, and every other entry stays.
  have hscore := hforget.indexed hi j v hv
  have hne : j ≠ k := by
    rintro rfl
    rw [removeRecord, forgetRecord_records, if_pos rfl] at hv
    cases hv
  simpa only [removeRecord, SortedSet.zscore, SortedSet.zrem, Hash.hget_hdel, if_neg hne] using hscore

/-- A member of the index whose score has passed holds no running lease. -/
theorem expendable_of_expired {st : StoreState} {now : Nat} {k : Key} (hi : Indexed st)
    (hk : k ∈ st.expiry.zrangeByScore now) : Expendable now st k := by
  obtain ⟨score, hscore, hle⟩ := SortedSet.mem_zrangeByScore.mp hk
  rintro v hv ⟨-, hlt⟩
  have heq : score = v.expiresAt := Option.some.inj (hscore.symm.trans (hi k v hv))
  omega

theorem reapRecords_swept {st : StoreState} (hi : Indexed st) (now : Nat) :
    Swept now st (reapRecords st now).2 :=
  Swept.foldl removeRecord_swept (st.expiry.zrangeByScore now) (st.totalBytes, st) fun _ =>
    expendable_of_expired hi

/-- The candidate of a round is expendable: a pending record is skipped. -/
theorem evictable_expendable {now : Nat} {kept : Key → Bool} {st : StoreState} {k : Key}
    (h : evictable now kept st = some k) : Expendable now st k := by
  rintro v hv ⟨hpending, hlt⟩
  have hlive : st.records.get now k = some v.value :=
    Keyspace.get_eq_some.mpr ⟨v.expiresAt, hv, Nat.le_of_lt hlt⟩
  rw [(evictable_mem h).2.2 _ hlive] at hpending
  cases hpending

/-- An eviction loop, whatever its condition and the keys it skips. -/
theorem eviction_swept (full : Nat × StoreState → Bool) (now : Nat) (kept : Key → Bool)
    (fuel : Nat) (r : Nat × StoreState) :
    (whileLoop full (evictRound now kept) fuel r).All fun r' => Swept now r.2 r'.2 := by
  refine whileLoop_all (P := fun r' : Nat × StoreState => Swept now r.2 r'.2)
    (fun r₁ r₂ h hround => ?_) (Swept.refl now r.2) fuel
  obtain ⟨k, hk, rfl⟩ := Option.map_eq_some_iff.mp hround
  exact h.trans (removeRecord_swept r₁ k (evictable_expendable hk))

theorem foldl_forgetRecord (ks : List Key) (r : Nat × StoreState) :
    (ks.foldl forgetRecord r).2.records = Hash.hdelAll r.2.records ks ∧
      (ks.foldl forgetRecord r).2.expiry = r.2.expiry := by
  induction ks generalizing r with
  | nil => exact ⟨rfl, rfl⟩
  | cons k ks ih => exact ih (forgetRecord r k)

theorem statsScript_swept {st : StoreState} (hi : Indexed st) (now : Nat) :
    Swept now st (statsScript st now).1 := by
  have hfold := Swept.foldl forgetRecord_swept (st.expiry.zrangeByScore now) (st.totalBytes, st)
    fun _ => expendable_of_expired hi
  obtain ⟨hrecords, hexpiry⟩ := foldl_forgetRecord (st.expiry.zrangeByScore now) (st.totalBytes, st)
  refine ⟨hfold.records, hfold.responses, hfold.running, fun _ k v hv => ?_⟩
  -- A record that is left was not among the expired ones, so its entry is left as well.
  have hscore : st.expiry.zscore k = some v.expiresAt := hi k v (hfold.records k v hv)
  have hkept : k ∉ st.expiry.zrangeByScore now := by
    intro hk
    simp only [statsScript, hrecords, Hash.hget_hdelAll, if_pos hk] at hv
    cases hv
  simp only [statsScript, hexpiry]
  exact SortedSet.zscore_zremRangeByScore.mpr
    ⟨hscore, (SortedSet.notMem_zrangeByScore hscore).mp hkept⟩

/-! ## 3. The scripts -/

/-- The store after a claim that was created over `st`. -/
structure Granted (limits : Limits) (now : Nat) (key : Key) (fingerprint : Fingerprint)
    (ownerToken : OwnerToken) (st st' : StoreState) : Prop where
  records : st'.records = st.records.setPx now limits.ttlMs key
    { fingerprint := fingerprint, state := .pending ownerToken now }
  responses : st'.responses = st.responses
  expiry : st'.expiry = st.expiry.zadd (now + limits.ttlMs) key

/-- A claim that is created finds no running lease under its key; any other claim only
sweeps. -/
theorem claimScript_cases (limits : Limits) {st : StoreState} (hi : Indexed st)
    (key responseKey : Key) (fingerprint : Fingerprint) (ownerToken : OwnerToken) (now : Nat) :
    let r := claimScript limits st key responseKey fingerprint ownerToken now
    (r.2 ≠ .created ∧ Swept now st r.1) ∨
    (r.2 = .created ∧ Expendable now st key ∧ ∃ swept, Swept now st swept ∧
      Granted limits now key fingerprint ownerToken swept r.1) := by
  have hreap := reapRecords_swept hi now
  unfold claimScript
  dsimp only
  split
  · split_ifs
    · exact .inl ⟨by simp, hreap⟩
    · exact .inl ⟨by simp, hreap⟩
    · exact .inl ⟨by simp, hreap⟩
  next hnone =>
  have hloop := eviction_swept (recordsFull limits.maxRecords) now (fun _ => false)
    ((reapRecords st now).2.expiry.zcard + 1) (reapRecords st now)
  rw [← claimEviction] at hloop
  split
  · exact .inl ⟨by simp, hreap⟩
  · next total swept hend =>
    rw [hend] at hloop
    exact .inl ⟨by simp, (hreap.trans hloop).withTotal total⟩
  · next total swept hend =>
    rw [hend] at hloop
    split_ifs
    · exact .inl ⟨by simp, hreap.trans hloop⟩
    · refine .inr ⟨rfl, fun v hv hrun => ?_, swept, hreap.trans hloop, rfl, rfl, rfl⟩
      -- A running lease would have survived the reaping and answered the `GET`.
      have hlive : (reapRecords st now).2.records.get now key = some v.value :=
        Keyspace.get_eq_some.mpr ⟨v.expiresAt, hreap.running key v hv hrun, Nat.le_of_lt hrun.2⟩
      rw [hnone] at hlive
      cases hlive

/-- The store after a completion over `st`. -/
structure Fulfilled (limits : Limits) (now : Nat) (key responseKey : Key)
    (fingerprint : Fingerprint) (response : Produced) (st st' : StoreState) : Prop where
  records : ∃ searchId responseBytes, st'.records = st.records.setPx now limits.ttlMs key
    { fingerprint := fingerprint, state := .fulfilled searchId responseBytes now }
  responses : st'.responses = st.responses.setPx now limits.ttlMs responseKey response
  expiry : st'.expiry = st.expiry.zadd (now + limits.ttlMs) key

/-- The live record of `key` is pending under the token. -/
def Owned (now : Nat) (st : StoreState) (key : Key) (ownerToken : OwnerToken) : Prop :=
  ∃ v, Hash.hget st.records key = some v ∧ v.value.ownedBy ownerToken = true ∧ now ≤ v.expiresAt

/-- A completion needs the record of its owner; any other one only sweeps. -/
theorem completeScript_cases (limits : Limits) (st : StoreState) (key responseKey : Key)
    (ownerToken : OwnerToken) (fingerprint : Fingerprint) (searchId : String)
    (responseBytes : Nat) (response : Produced) (now : Nat) :
    let r := completeScript limits st key responseKey ownerToken fingerprint searchId
      responseBytes response now
    (r.2 ≠ .ok ∧ Swept now st r.1) ∨
    (r.2 = .ok ∧ Owned now st key ownerToken ∧ ∃ swept, Swept now st swept ∧
      Fulfilled limits now key responseKey fingerprint response swept r.1) := by
  unfold completeScript
  dsimp only
  split
  · exact .inl ⟨by simp, .refl now st⟩
  next record hrecord =>
  obtain ⟨expiresAt, hv, hlive⟩ := Keyspace.get_eq_some.mp hrecord
  split_ifs with howner
  · exact .inl ⟨by simp, .refl now st⟩
  · exact .inl ⟨by simp, .refl now st⟩
  have howned : record.ownedBy ownerToken = true := by
    by_contra hnot
    exact howner (.inl hnot)
  have hloop := eviction_swept
    (bytesFull ((st.responseBytes.hget key).getD 0) responseBytes limits.maxStoredResponseBytes)
    now (· == key) (st.expiry.zcard + 1) (st.totalBytes, st)
  rw [← completeEviction] at hloop
  split
  · exact .inl ⟨by simp, .refl now st⟩
  · next total swept hend =>
    rw [hend] at hloop
    exact .inl ⟨by simp, Swept.withTotal hloop total⟩
  · next total swept hend =>
    rw [hend] at hloop
    exact .inr ⟨rfl, ⟨_, hv, howned, hlive⟩, swept, hloop, ⟨searchId, responseBytes, rfl⟩, rfl, rfl⟩

/-- The store after a release over `st`. -/
structure Released (key responseKey : Key) (st st' : StoreState) : Prop where
  records : st'.records = st.records.del key
  responses : st'.responses = st.responses.del responseKey
  expiry : st'.expiry = st.expiry.zrem key

theorem releaseScript_cases (st : StoreState) (key responseKey : Key) (ownerToken : OwnerToken)
    (now : Nat) :
    let st' := (releaseScript st key responseKey ownerToken now).1
    st' = st ∨ (Owned now st key ownerToken ∧ Released key responseKey st st') := by
  unfold releaseScript
  dsimp only
  split
  · exact .inl rfl
  next record hrecord =>
  obtain ⟨expiresAt, hv, hlive⟩ := Keyspace.get_eq_some.mp hrecord
  split_ifs with howned
  · exact .inr ⟨⟨_, hv, howned, hlive⟩, rfl, rfl, rfl⟩
  · exact .inl rfl

/-! ## 4. The index of the records -/

theorem Indexed.written {st st' : StoreState} {now ttl : Nat} {key : Key} {record : Record}
    (hi : Indexed st) (hrecords : st'.records = st.records.setPx now ttl key record)
    (hexpiry : st'.expiry = st.expiry.zadd (now + ttl) key) : Indexed st' := by
  intro k v hv
  rw [hrecords, Keyspace.setPx, Hash.hget_hset] at hv
  rw [hexpiry, SortedSet.zscore, SortedSet.zadd, Hash.hget_hset]
  split at hv
  · next hk => rw [if_pos hk, ← Option.some.inj hv]
  · next hk =>
    rw [if_neg hk]
    exact hi k v hv

theorem Released.indexed {key responseKey : Key} {st st' : StoreState}
    (h : Released key responseKey st st') (hi : Indexed st) : Indexed st' := by
  intro k v hv
  rw [h.records, Keyspace.del, Hash.hget_hdel] at hv
  rw [h.expiry, SortedSet.zscore, SortedSet.zrem, Hash.hget_hdel]
  split at hv
  · cases hv
  · next hk =>
    rw [if_neg hk]
    exact hi k v hv

end SmartStay.Idempotency
