import SmartStay.Idempotency.Isolation

/-!
# One execution at a time

For one key and one payload, with leases that outlast the `execute` they stand for, at
most one `execute` runs, and what is replayed is what one of them produced. Other keys
share the budgets of the store and may evict, but never a record of a running lease.

1. `running_kept`: a running lease is kept by every step but those of its owner.
2. `Exclusive`: an executing call holds the pending record of its key.
3. `Uniform`: one payload under the key makes every read one of the own payload.
4. `single_execution`: the four guarantees, in every run that meets the provisos and reads
   no pending record after the outcome `fulfilled`.
5. `replayed_null`: a run that meets the provisos, with such a read, replays `null`.
-/

namespace SmartStay.Idempotency

variable {cfg : Settings} {K : Key} {F : Fingerprint} {s t : System} {e : Event}

/-! ## 1. Running leases -/

/-- The event is earlier than `deadline`, or does not depend on the time. -/
def Event.before (deadline : Nat) : Event → Prop
  | .command _ _ now | .stats now => now < deadline
  | .start _ _ _ _ | .executed _ _ => True

theorem StoreStep.running_kept {now : Nat} {call : Call} {st st' : StoreState}
    (h : StoreStep cfg now call st st') {k : Key} {v : Volatile Record}
    (hv : Hash.hget st.records k = some v) (hrun : Running now v)
    (hother : call.key = k → v.value.ownedBy call.ownerToken = false) :
    Hash.hget st'.records k = some v := by
  have hforeign : Owned now st call.key call.ownerToken → k ≠ call.key := by
    rintro ⟨v', hv', howned, -⟩ rfl
    cases hv.symm.trans hv'
    rw [hother rfl] at howned
    cases howned
  cases h with
  | swept hs => exact hs.running k v hv hrun
  | granted swept hfree hs hg =>
    have hne : k ≠ call.key := by
      rintro rfl
      exact hfree v hv hrun
    rw [hg.records, Keyspace.setPx, Hash.hget_hset, if_neg hne]
    exact hs.running k v hv hrun
  | fulfilled response swept _ howned hs hf =>
    obtain ⟨searchId, responseBytes, hrecords⟩ := hf.records
    rw [hrecords, Keyspace.setPx, Hash.hget_hset, if_neg (hforeign howned)]
    exact hs.running k v hv hrun
  | released howned hr =>
    rw [hr.records, Keyspace.del, Hash.hget_hdel, if_neg (hforeign howned)]
    exact hv

/-- A pending record is there until its lease has run out, unless its owner itself
completes or releases it. -/
theorem running_kept (hi : Indexed s.store) (h : step cfg s e = some t) {k : Key}
    {v : Volatile Record} (hv : Hash.hget s.store.records k = some v)
    (hpending : v.value.isFulfilled = false) (hbefore : e.before v.expiresAt)
    (hother : ∀ c fate now call, e = .command c fate now → s.calls.hget c = some call →
      call.key = k → v.value.ownedBy call.ownerToken = false) :
    Hash.hget t.store.records k = some v := by
  rcases step_store hi h with hsame | ⟨now, rfl, hs⟩ | ⟨c, fate, now, call, rfl, hcall, hs⟩
  · exact hsame ▸ hv
  · exact hs.running k v hv ⟨hpending, hbefore⟩
  · exact hs.running_kept hv ⟨hpending, hbefore⟩ (hother c fate now call rfl hcall)

/-! ## 2. Owners -/

/-- The lease of the record of `K` does not run out while the `execute` of its owner
runs. -/
def LeaseHeld (K : Key) (s : System) (e : Event) : Prop :=
  ∀ c call, s.calls.hget c = some call → call.key = K → call.phase = .executing →
    ∀ v, Hash.hget s.store.records K = some v → v.value.ownedBy call.ownerToken = true →
      e.before v.expiresAt

instance (deadline : Nat) (e : Event) : Decidable (e.before deadline) :=
  match e with
  | .command _ _ now | .stats now => inferInstanceAs (Decidable (now < deadline))
  | .start _ _ _ _ | .executed _ _ => .isTrue trivial

instance (K : Key) (s : System) (e : Event) : Decidable (LeaseHeld K s e) :=
  inferInstanceAs (Decidable (∀ c call, s.calls.hget c = some call → call.key = K →
    call.phase = .executing → ∀ v, Hash.hget s.store.records K = some v →
      v.value.ownedBy call.ownerToken = true → e.before v.expiresAt))

/-- Owner tokens are not shared, and an executing call under `K` owns the record of `K`. -/
structure Exclusive (K : Key) (s : System) : Prop where
  minted : ∀ c call, s.calls.hget c = some call → call.ownerToken ∈ s.minted
  distinct : ∀ c c' call call', s.calls.hget c = some call → s.calls.hget c' = some call' →
    call.ownerToken = call'.ownerToken → c = c'
  leased : ∀ c call, s.calls.hget c = some call → call.key = K → call.phase = .executing →
    ∃ v, Hash.hget s.store.records K = some v ∧ v.value.ownedBy call.ownerToken = true

/-- The token of a record is the token of one call. -/
theorem ownedBy_unique {record : Record} {token token' : OwnerToken}
    (h : record.ownedBy token = true) (h' : record.ownedBy token' = true) : token = token' := by
  unfold Record.ownedBy at h h'
  split at h
  · next owner _ hstate =>
    simp only [hstate, beq_iff_eq] at h h'
    exact h.symm.trans h'
  · cases h

theorem pending_of_ownedBy {record : Record} {token : OwnerToken}
    (h : record.ownedBy token = true) : record.isFulfilled = false := by
  unfold Record.ownedBy at h
  unfold Record.isFulfilled
  split at h
  · rfl
  · cases h

/-- At most one `execute` runs under the key. -/
theorem Exclusive.unique (h : Exclusive K s) {c c' : CallId} {call call' : Call}
    (hcall : s.calls.hget c = some call) (hcall' : s.calls.hget c' = some call')
    (hK : call.key = K) (hK' : call'.key = K) (hexec : call.phase = .executing)
    (hexec' : call'.phase = .executing) : c = c' := by
  obtain ⟨v, hv, howned⟩ := h.leased c call hcall hK hexec
  obtain ⟨v', hv', howned'⟩ := h.leased c' call' hcall' hK' hexec'
  cases hv.symm.trans hv'
  exact h.distinct c c' call call' hcall hcall' (ownedBy_unique howned howned')

/-- The tokens of the calls are minted, so a call that starts brings one that no call
has. -/
theorem Exclusive.token_new (h : Exclusive K s) {c : CallId} {call : Call} {token : OwnerToken}
    (hnew : token ∉ s.minted) (hcall : s.calls.hget c = some call) : call.ownerToken ≠ token := by
  rintro rfl
  exact hnew (h.minted c call hcall)

theorem Exclusive.step (h : Exclusive K s) (hi : Indexed s.store) (hheld : LeaseHeld K s e)
    (hst : Idempotency.step cfg s e = some t) : Exclusive K t where
  minted c call hcall := by
    have hmono : ∀ token ∈ s.minted, token ∈ t.minted := by
      intro token htoken
      rcases step_minted hst with hsame | ⟨_, _, _, _, -, hcons⟩
      · exact hsame ▸ htoken
      · exact hcons ▸ List.mem_cons_of_mem _ htoken
    rcases step_identity hst hcall with ⟨call₀, hcall₀, -, -, htoken⟩ | ⟨_, _, rfl, -, -, -⟩
    · exact htoken ▸ hmono _ (h.minted c call₀ hcall₀)
    · obtain ⟨-, key, -, rfl⟩ := step_start hst
      exact List.mem_cons_self
  distinct c c' call call' hcall hcall' hsame := by
    rcases step_identity hst hcall with ⟨call₀, hcall₀, -, -, htoken⟩ | ⟨_, _, he, hnew, -, -⟩
    · rcases step_identity hst hcall' with ⟨call₀', hcall₀', -, -, htoken'⟩ | ⟨_, _, he', hnew', -, -⟩
      · exact h.distinct c c' call₀ call₀' hcall₀ hcall₀' (by rw [← htoken, hsame, htoken'])
      · exact absurd (htoken.symm.trans hsame) (h.token_new hnew' hcall₀)
    · rcases step_identity hst hcall' with ⟨call₀', hcall₀', -, -, htoken'⟩ | ⟨_, _, he', -, -, -⟩
      · exact absurd (htoken'.symm.trans hsame.symm) (h.token_new hnew hcall₀')
      · exact (Event.start.inj (he.symm.trans he')).1
  leased c call hcall hK hphase := by
    rcases step_calls hst hcall with hold | ⟨_, _, _, _, -, -, -, rfl⟩ |
      ⟨fate, now, call₀, r, rfl, hcall₀, he, hstore, rfl⟩ | ⟨outcome, call₀, -, -, hended⟩
    · -- The record of an earlier owner is kept: its lease runs, and no other call owns it.
      obtain ⟨v, hv, howned⟩ := h.leased c call hold hK hphase
      refine ⟨v, running_kept hi hst hv (pending_of_ownedBy howned)
        (hheld c call hold hK hphase v hv howned) ?_, howned⟩
      rintro c' fate now call' rfl hcall' -
      by_contra howned'
      rw [Bool.not_eq_false] at howned'
      obtain rfl := h.distinct c c' call call' hold hcall' (ownedBy_unique howned howned')
      obtain ⟨-, call₁, hcall₁, r, he, -⟩ := step_command hst
      obtain rfl : call = call₁ := Option.some.inj (hold.symm.trans hcall₁)
      simp [commandEffect, hphase] at he
    · cases hphase
    · simp only at hphase
      have hmoved := commandEffect_phase hi he
      rw [hphase] at hmoved
      cases hmoved with
      | idle _ hidle => cases hidle
      | created swept hg =>
        refine ⟨⟨{ fingerprint := call₀.fingerprint, state := .pending call₀.ownerToken now },
          now + cfg.ttlMs⟩, ?_, by simp [Record.ownedBy]⟩
        rw [hstore, hg.records, Keyspace.setPx, ← hK]
        exact Hash.hget_hset_self _ _ _
    · rcases hended with ⟨error, rfl⟩ | ⟨response, -, rfl⟩
      · cases hphase
      · simp only [afterExecute] at hphase
        split at hphase <;> try split at hphase
        all_goals cases hphase

/-! ## 3. One payload -/

/-- The calls that start under `K` have the payload `F`. -/
def OnePayload (cfg : Settings) (K : Key) (F : Fingerprint) : Event → Prop
  | .start _ idempotencyKey fingerprint _ =>
    (validateIdempotencyKey idempotencyKey).map cfg.recordKey = .ok K → fingerprint = F
  | .command _ _ _ | .executed _ _ | .stats _ => True

instance (cfg : Settings) (K : Key) (F : Fingerprint) (e : Event) :
    Decidable (OnePayload cfg K F e) :=
  match e with
  | .start _ idempotencyKey fingerprint _ => inferInstanceAs (Decidable
      ((validateIdempotencyKey idempotencyKey).map cfg.recordKey = .ok K → fingerprint = F))
  | .command _ _ _ | .executed _ _ | .stats _ => .isTrue trivial

/-- No call under `K` reads a pending record after the outcome `fulfilled`. -/
abbrev ReadsNoPending (K : Key) : System → Event → Prop := AtCommands K Call.findsFulfilled

/-- The calls and the record under `K` have the payload `F`. -/
structure Uniform (K : Key) (F : Fingerprint) (s : System) : Prop where
  calls : ∀ c call, s.calls.hget c = some call → call.key = K → call.fingerprint = F
  record : ∀ v, Hash.hget s.store.records K = some v → v.value.fingerprint = F

theorem Uniform.step (h : Uniform K F s) (hi : Indexed s.store) (hone : OnePayload cfg K F e)
    (hst : Idempotency.step cfg s e = some t) : Uniform K F t where
  calls c call hcall hK := by
    rcases step_identity hst hcall with ⟨call₀, hcall₀, hkey, hfp, -⟩ | ⟨_, key, rfl, -, hvalid, hkey⟩
    · rw [hfp]
      exact h.calls c call₀ hcall₀ (hkey ▸ hK)
    · exact hone (by rw [hvalid, ← hK, hkey]; rfl)
  record v hv := by
    rcases step_store hi hst with hsame | ⟨now, rfl, hs⟩ | ⟨c, fate, now, call, rfl, hcall, hs⟩
    · exact h.record v (hsame ▸ hv)
    · exact h.record v (hs.records K v hv)
    · cases hs with
      | swept hs => exact h.record v (hs.records K v hv)
      | granted swept _ hs hg =>
        rw [hg.records, Keyspace.setPx, Hash.hget_hset] at hv
        split at hv
        · next hK =>
          cases hv
          exact h.calls c call hcall hK.symm
        · exact h.record v (hs.records K v hv)
      | fulfilled response swept _ _ hs hf =>
        obtain ⟨searchId, responseBytes, hrecords⟩ := hf.records
        rw [hrecords, Keyspace.setPx, Hash.hget_hset] at hv
        split at hv
        · next hK =>
          cases hv
          exact h.calls c call hcall hK.symm
        · exact h.record v (hs.records K v hv)
      | released _ hr =>
        rw [hr.records, Keyspace.del, Hash.hget_hdel] at hv
        split at hv
        · cases hv
        · exact h.record v hv

/-- With one payload under the key, a read finds no other payload. -/
theorem Uniform.readsOwn (h : Uniform K F s) (hreads : ReadsNoPending K s e) : ReadsOwn K s e := by
  cases e with
  | command c fate now =>
    cases fate with
    | answered =>
      intro call hcall hK
      rw [Bool.and_eq_true]
      refine ⟨?_, hreads call hcall hK⟩
      unfold Call.findsOwn
      rw [hK]
      split
      · next record hrecord =>
        obtain ⟨expiresAt, hv, -⟩ := Keyspace.get_eq_some.mp hrecord
        have hfp : record.fingerprint = call.fingerprint :=
          (h.record _ hv).trans (h.calls c call hcall hK).symm
        simp [hfp]
      · rfl
    | lost | unanswered => trivial
  | start | executed | stats => trivial

/-! ## 4. Every run -/

/-- The guarantees for one key `K` and one payload `F`. -/
structure SingleExecution (cfg : Settings) (K : Key) (F : Fingerprint) (s : System) : Prop where
  /-- At most one `execute` runs. -/
  exclusive : ∀ c c' call call', s.calls.hget c = some call → s.calls.hget c' = some call' →
    call.key = K → call'.key = K → call.phase = .executing → call'.phase = .executing → c = c'
  /-- A pending record of a running lease leaves the store only by its owner. -/
  kept : ∀ e t v, step cfg s e = some t → Hash.hget s.store.records K = some v →
    v.value.isFulfilled = false → e.before v.expiresAt →
    (∀ c fate now call, e = .command c fate now → s.calls.hget c = some call → call.key = K →
      v.value.ownedBy call.ownerToken = false) →
    Hash.hget t.store.records K = some v
  /-- A replayed or coalesced result is the response of an execution. -/
  shared : ∀ c call result, s.calls.hget c = some call → call.key = K →
    call.phase = .returned result → result.replayed = true ∨ result.coalesced = true →
    ∃ p ∈ s.executions, result.response = some p ∧ p.key = K ∧ p.fingerprint = F

/-- Both eviction loops end in every state, whatever the limits, and the rounds that the
scripts are given are enough. -/
theorem evictions_end (now maxRecords oldBytes responseBytes maxBytes : Nat) (key : Key)
    (r : Nat × StoreState) {fuel : Nat} (h : r.2.expiry.zcard < fuel) :
    claimEviction now maxRecords fuel r ≠ .running ∧
      completeEviction now key oldBytes responseBytes maxBytes fuel r ≠ .running :=
  ⟨(eviction_ends _ now _ r h).1, (eviction_ends _ now _ r h).1⟩

/-- In every run in which the calls under `K` have the payload `F`, the leases of its
executing calls are held, and no call under `K` reads a pending record after the outcome
`fulfilled`. -/
theorem single_execution (cfg : Settings) (K : Key) (F : Fingerprint) {s : System}
    (h : (system cfg).Reach
      (fun s e => OnePayload cfg K F e ∧ LeaseHeld K s e ∧ ReadsNoPending K s e) s) :
    SingleExecution cfg K F s ∧
    ∀ (now maxRecords oldBytes responseBytes maxBytes : Nat) (key : Key) (r : Nat × StoreState)
      (fuel : Nat), r.2.expiry.zcard < fuel →
      claimEviction now maxRecords fuel r ≠ .running ∧
        completeEviction now key oldBytes responseBytes maxBytes fuel r ≠ .running := by
  have hinv : Exclusive K s ∧ Uniform K F s ∧ Isolated K s ∧ Traced s := by
    refine h.invariant (P := fun s => Exclusive K s ∧ Uniform K F s ∧ Isolated K s ∧ Traced s)
      (fun _ h0 => ?_) ?_
    · subst h0
      have hnone : ∀ c call, System.empty.calls.hget c ≠ some call := fun c call => by
        simp [System.empty]
      refine ⟨⟨fun c call hcall => absurd hcall (hnone c call),
        fun c _ call _ hcall => absurd hcall (hnone c call),
        fun c call hcall => absurd hcall (hnone c call)⟩,
        ⟨fun c call hcall => absurd hcall (hnone c call), fun v hv => ?_⟩,
        fun c call _ hcall => absurd hcall (hnone c call), .init⟩
      simp [System.empty, StoreState.empty] at hv
    · rintro s e t ⟨hexcl, hunif, hiso, htraced⟩ ⟨hone, hheld, hreads⟩ hst
      exact ⟨hexcl.step htraced.indexed hheld hst, hunif.step htraced.indexed hone hst,
        hiso.step htraced (hunif.readsOwn hreads) hst, htraced.step hst⟩
  obtain ⟨hexcl, hunif, hiso, htraced⟩ := hinv
  refine ⟨⟨?_, ?_, ?_⟩, fun now maxRecords oldBytes responseBytes maxBytes key r fuel hfuel =>
    evictions_end now maxRecords oldBytes responseBytes maxBytes key r hfuel⟩
  · intro c c' call call' hcall hcall' hK hK' hexec hexec'
    exact hexcl.unique hcall hcall' hK hK' hexec hexec'
  · intro e t v hst hv hpending hbefore hother
    exact running_kept htraced.indexed hst hv hpending hbefore hother
  · intro c call result hcall hK hphase _
    obtain ⟨p, hmem, hresponse, hkey, hfp, -⟩ := hiso c call result hcall hK hphase
    exact ⟨p, hmem, hresponse, hkey, hfp.trans (hunif.calls c call hcall hK)⟩

/-- The calls 1 and 2 come together; call 1 executes while call 3 comes under another
key. -/
def coalescedRun : List Event :=
  [.start 1 sampleKey "rome" "t1", .command 1 .answered 10,
    .start 2 sampleKey "rome" "t2", .command 2 .answered 20,
    .start 3 "search-0e5d8b6f21" "oslo" "t3", .command 3 .answered 30,
    .command 2 .answered 40, .executed 1 (.ok ⟨"ss2.1", "rome"⟩), .command 1 .answered 50,
    .command 2 .answered 90]

theorem single_execution_coalesced : ∃ s : System,
    (s.calls.hget 2).map Call.phase =
        some (.returned ⟨some ⟨1, sampleKey, "rome", ⟨"ss2.1", "rome"⟩⟩, false, true⟩) ∧
      SingleExecution sampleSettings sampleKey "rome" s ∧
      claimEviction 90 250 3 (900, s.store) ≠ .running := by
  have hrun : ((system sampleSettings).exec
      (fun s e => OnePayload sampleSettings sampleKey "rome" e ∧ LeaseHeld sampleKey s e ∧
        ReadsNoPending sampleKey s e) .empty coalescedRun).map
      (fun s => ((s.calls.hget 2).map Call.phase, s.store.expiry.zcard)) =
        some (some (.returned ⟨some ⟨1, sampleKey, "rome", ⟨"ss2.1", "rome"⟩⟩, false, true⟩), 2) := by
    decide +kernel
  obtain ⟨s, hs, hview⟩ := Machine.Reach.of_exec_map coalescedRun rfl hrun
  simp only [Prod.mk.injEq] at hview
  obtain ⟨hphase, hcard⟩ := hview
  obtain ⟨hsingle, hloops⟩ := single_execution sampleSettings sampleKey "rome" hs
  have hfuel : (900, s.store).2.expiry.zcard < 3 := hcard ▸ Nat.lt_succ_self 2
  exact ⟨s, hphase, hsingle, (hloops 90 250 0 0 0 sampleKey (900, s.store) 3 hfuel).1⟩

/-! ## 5. A replayed `null` -/

/-- The record of call 1 is fulfilled when call 2 claims; it expires, and call 3 claims,
before call 2 reads. -/
def expiredRun : List Event :=
  [.start 1 sampleKey "rome" "t1", .command 1 .answered 10,
    .executed 1 (.ok ⟨"ss2.1", "rome"⟩), .command 1 .answered 20,
    .start 2 sampleKey "rome" "t2", .command 2 .answered 1500010,
    .start 3 sampleKey "rome" "t3", .command 3 .answered 1500021,
    .command 2 .answered 1500022]

/-- Under the provisos on the payloads and the leases, call 2 returns `null` as a replayed
response. -/
theorem replayed_null : ∃ s : System,
    (system sampleSettings).Reach
      (fun s e => OnePayload sampleSettings sampleKey "rome" e ∧ LeaseHeld sampleKey s e) s ∧
    s.calls.hget 2 = some ⟨sampleKey, "rome", "t2", .returned ⟨none, true, false⟩⟩ ∧
    ¬ SingleExecution sampleSettings sampleKey "rome" s := by
  have hrun : ((system sampleSettings).exec
      (fun s e => OnePayload sampleSettings sampleKey "rome" e ∧ LeaseHeld sampleKey s e) .empty
      expiredRun).map (fun s => s.calls.hget 2) =
        some (some ⟨sampleKey, "rome", "t2", .returned ⟨none, true, false⟩⟩) := by
    decide +kernel
  obtain ⟨s, hs, hcall⟩ := Machine.Reach.of_exec_map expiredRun rfl hrun
  refine ⟨s, hs, hcall, fun hsingle => ?_⟩
  obtain ⟨p, -, hresponse, -⟩ := hsingle.shared 2 _ _ hcall rfl rfl (.inl rfl)
  cases hresponse

end SmartStay.Idempotency
