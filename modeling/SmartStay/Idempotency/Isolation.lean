import SmartStay.Idempotency.Steps

/-!
# Which response a call returns

A call returns the response of its own `execute`, or one that it reads from the store.
Everything stored is traced to the `execute` that produced it; what a read hands out is
then a question of which record it finds.

1. `Traced`: a stored response belongs to the key and the payload of its record, in every
   reachable state.
2. `Isolated`: a returned response was produced under the caller's key and payload.
   `payload_isolated`: it holds in every run whose reads meet `ReadsOwn`.
3. `payload_not_isolated`: a run of three calls under one key in which a waiter returns the
   response of another payload.
-/

namespace SmartStay.Idempotency

variable {cfg : Settings} {s t : System} {e : Event}

/-! ## 1. Traced responses -/

/-- The response of a fulfilled record was produced under the key and the payload of the
record, by one of the executions. -/
def Matched (executions : List Produced) (st : StoreState) : Prop :=
  ∀ k v w, Hash.hget st.records k = some v → v.value.isFulfilled = true →
    Hash.hget st.responses k = some w →
    w.value ∈ executions ∧ w.value.key = k ∧ w.value.fingerprint = v.value.fingerprint

/-- Every response in the store or in the hands of an owner has its origin. -/
structure Traced (s : System) : Prop where
  indexed : Indexed s.store
  stored : Matched s.executions s.store
  inHand : ∀ c call p, s.calls.hget c = some call → call.phase.inHand = some p →
    p ∈ s.executions ∧ p.call = c ∧ p.key = call.key ∧ p.fingerprint = call.fingerprint

theorem afterExecute_inHand {p q : Produced} (h : (afterExecute cfg p).inHand = some q) :
    q = p := by
  unfold afterExecute at h
  split at h <;> try split at h
  all_goals
    cases h
    rfl

/-- A command hands no response to an owner. -/
theorem PhaseStep.inHand {now : Nat} {fate : Fate} {call : Call} {st st' : StoreState}
    {phase : Phase} (h : PhaseStep cfg now fate call st st' phase) {p : Produced}
    (hp : phase.inHand = some p) : call.phase.inHand = some p := by
  cases h with
  | idle _ hidle => cases phase <;> cases hidle <;> cases hp
  | kept q hq =>
    cases hp
    exact hq
  | created | own | replayed | replayedNull | coalesced => cases hp

theorem Matched.swept {executions : List Produced} {now : Nat} {st st' : StoreState}
    (h : Matched executions st) (hs : Swept now st st') : Matched executions st' :=
  fun k v w hv hful hw => h k v w (hs.records k v hv) hful (hs.responses k w hw)

/-- A command keeps the match; a completion writes the response its owner has in hand. -/
theorem Matched.storeStep {executions : List Produced} {now : Nat} {call : Call}
    {st st' : StoreState} (h : Matched executions st) (hst : StoreStep cfg now call st st')
    (hhand : ∀ p, call.phase.inHand = some p →
      p ∈ executions ∧ p.key = call.key ∧ p.fingerprint = call.fingerprint) :
    Matched executions st' := by
  cases hst with
  | swept hs => exact h.swept hs
  | granted swept _ hs hg =>
    intro k v w hv hful hw
    rw [hg.records, Keyspace.setPx, Hash.hget_hset] at hv
    rw [hg.responses] at hw
    split at hv
    · -- The record of the claim is pending.
      cases hv
      cases hful
    · exact h.swept hs k v w hv hful hw
  | fulfilled response swept hphase _ hs hf =>
    intro k v w hv hful hw
    obtain ⟨searchId, responseBytes, hrecords⟩ := hf.records
    rw [hrecords, Keyspace.setPx, Hash.hget_hset] at hv
    rw [hf.responses, Keyspace.setPx, Hash.hget_hset] at hw
    split at hv
    · next hk =>
      rw [if_pos hk] at hw
      cases hv
      cases hw
      obtain ⟨hmem, hkey, hfp⟩ := hhand response (by rw [hphase]; rfl)
      exact ⟨hmem, hkey.trans hk.symm, hfp⟩
    · next hk =>
      rw [if_neg hk] at hw
      exact h.swept hs k v w hv hful hw
  | released _ hr =>
    intro k v w hv hful hw
    rw [hr.records, Keyspace.del, Hash.hget_hdel] at hv
    rw [hr.responses, Keyspace.del, Hash.hget_hdel] at hw
    split at hv
    · cases hv
    · next hk =>
      rw [if_neg hk] at hw
      exact h k v w hv hful hw

theorem Traced.init : Traced .empty where
  indexed k v hv := by simp [System.empty, StoreState.empty] at hv
  stored k v w hv := by simp [System.empty, StoreState.empty] at hv
  inHand c call p hcall := by simp [System.empty] at hcall

theorem Traced.step (h : Traced s) (hst : Idempotency.step cfg s e = some t) : Traced t where
  indexed := by
    rcases step_store h.indexed hst with hsame | ⟨now, -, hs⟩ | ⟨c, fate, now, call, -, -, hs⟩
    · exact hsame ▸ h.indexed
    · exact hs.indexed h.indexed
    · exact hs.indexed h.indexed
  stored := by
    have hmono : ∀ st, Matched s.executions st → Matched t.executions st :=
      fun st hm k v w hv hful hw =>
        ⟨step_executions hst (hm k v w hv hful hw).1, (hm k v w hv hful hw).2⟩
    apply hmono
    rcases step_store h.indexed hst with hsame | ⟨now, -, hs⟩ | ⟨c, fate, now, call, -, hcall, hs⟩
    · exact hsame ▸ h.stored
    · exact h.stored.swept hs
    · refine h.stored.storeStep hs fun p hp => ?_
      obtain ⟨hmem, -, hkey, hfp⟩ := h.inHand c call p hcall hp
      exact ⟨hmem, hkey, hfp⟩
  inHand c call p hcall hp := by
    rcases step_calls hst hcall with hold | ⟨_, _, _, _, -, -, -, rfl⟩ |
      ⟨fate, now, call₀, r, -, hcall₀, he, -, rfl⟩ | ⟨outcome, call₀, -, -, hended⟩
    · obtain ⟨hmem, horigin⟩ := h.inHand c call p hold hp
      exact ⟨step_executions hst hmem, horigin⟩
    · cases hp
    · have hbefore : call₀.phase.inHand = some p :=
        (commandEffect_phase h.indexed he).inHand hp
      obtain ⟨hmem, horigin⟩ := h.inHand c call₀ p hcall₀ hbefore
      exact ⟨step_executions hst hmem, horigin⟩
    · rcases hended with ⟨error, rfl⟩ | ⟨response, hmem, rfl⟩
      · cases hp
      · cases afterExecute_inHand hp
        exact ⟨hmem, rfl, rfl, rfl⟩

/-! ## 2. Returned responses -/

/-- Every call under `K` that has returned returned a response that some `execute` under
`K` produced for its own payload, and its own one unless it says that it was replayed or
coalesced. -/
def Isolated (K : Key) (s : System) : Prop :=
  ∀ c call result, s.calls.hget c = some call → call.key = K → call.phase = .returned result →
    ∃ p ∈ s.executions, result.response = some p ∧ p.key = K ∧
      p.fingerprint = call.fingerprint ∧
      (result.replayed = false → result.coalesced = false → p.call = c)

/-- The next command of the call is a read of its record. -/
def Call.reads (call : Call) (now : Nat) : Bool :=
  match call.phase with
  | .readFulfilled _ => true
  | .waiting _ deadline => now < deadline
  | .claim _ | .executing | .complete _ | .releaseAndReturn _ | .releaseAndThrow _ | .returned _
  | .threw _ => false

/-- A read finds no fulfilled record of another payload. -/
def Call.findsOwn (call : Call) (st : StoreState) (now : Nat) : Bool :=
  match st.records.get now call.key with
  | some record =>
    !call.reads now || !record.isFulfilled || record.fingerprint == call.fingerprint
  | none => true

/-- The read after the outcome `fulfilled` finds no pending record. -/
def Call.findsFulfilled (call : Call) (st : StoreState) (now : Nat) : Bool :=
  match call.phase, st.records.get now call.key with
  | .readFulfilled _, some record => record.isFulfilled
  | _, _ => true

/-- An answered command of a call under `K` meets `may`. -/
def AtCommands (K : Key) (may : Call → StoreState → Nat → Bool) (s : System) : Event → Prop
  | .command c .answered now =>
    ∀ call, s.calls.hget c = some call → call.key = K → may call s.store now = true
  | .command _ .lost _ | .command _ .unanswered _ | .start _ _ _ _ | .executed _ _ | .stats _ => True

instance (K : Key) (may : Call → StoreState → Nat → Bool) (s : System) (e : Event) :
    Decidable (AtCommands K may s e) :=
  match e with
  | .command c .answered now => inferInstanceAs (Decidable
      (∀ call, s.calls.hget c = some call → call.key = K → may call s.store now = true))
  | .command _ .lost _ | .command _ .unanswered _ | .start _ _ _ _ | .executed _ _ | .stats _ =>
    .isTrue trivial

/-- The reads under `K` find no fulfilled record of another payload, and after the outcome
`fulfilled` no pending one. -/
abbrev ReadsOwn (K : Key) : System → Event → Prop :=
  AtCommands K fun call st now => call.findsOwn st now && call.findsFulfilled st now

theorem readFulfilledResponse_fulfilled {st : StoreState} {key : Key} {now : Nat} {p : Produced}
    (h : readFulfilledResponse st key key now = .fulfilled p) :
    ∃ v w, st.records.get now key = some v.value ∧ Hash.hget st.records key = some v ∧
      v.value.isFulfilled = true ∧ Hash.hget st.responses key = some w ∧ w.value = p := by
  unfold readFulfilledResponse at h
  split at h
  · cases h
  next record hrecord =>
  split at h
  · next hful =>
    split at h
    · next response hresponse =>
      cases h
      obtain ⟨expiresAt, hv, -⟩ := Keyspace.get_eq_some.mp hrecord
      obtain ⟨expiresAt', hw, -⟩ := Keyspace.get_eq_some.mp hresponse
      exact ⟨⟨record, expiresAt⟩, ⟨p, expiresAt'⟩, hrecord, hv, hful, hw, rfl⟩
    · cases h
  · cases h

theorem findsFulfilled_not_pending {call : Call} {st : StoreState} {now attempt : Nat}
    (hphase : call.phase = .readFulfilled attempt) (hfinds : call.findsFulfilled st now = true) :
    readFulfilledResponse st call.key call.key now ≠ .pending := by
  unfold readFulfilledResponse
  split
  · simp
  next record hrecord =>
  simp only [Call.findsFulfilled, hphase, hrecord] at hfinds
  rw [if_pos hfinds]
  split <;> simp

/-- The response that a read finds has the payload of the reader. -/
theorem Traced.read (h : Traced s) {call : Call} {now : Nat}
    (hfinds : call.findsOwn s.store now = true) (hreads : call.reads now = true) {p : Produced}
    (hread : readFulfilledResponse s.store call.key call.key now = .fulfilled p) :
    p ∈ s.executions ∧ p.key = call.key ∧ p.fingerprint = call.fingerprint := by
  obtain ⟨v, w, hlive, hv, hful, hw, rfl⟩ := readFulfilledResponse_fulfilled hread
  obtain ⟨hmem, hkey, hfp⟩ := h.stored call.key v w hv hful hw
  have hown : v.value.fingerprint = call.fingerprint := by
    simpa [Call.findsOwn, hlive, hreads, hful] using hfinds
  exact ⟨hmem, hkey, hfp.trans hown⟩

theorem Isolated.step {K : Key} (h : Isolated K s) (htraced : Traced s) (hok : ReadsOwn K s e)
    (hst : Idempotency.step cfg s e = some t) : Isolated K t := by
  intro c call result hcall hK hphase
  rcases step_calls hst hcall with hold | ⟨_, _, _, _, -, -, -, rfl⟩ |
    ⟨fate, now, call₀, r, rfl, hcall₀, he, -, rfl⟩ | ⟨outcome, call₀, -, -, hended⟩
  · obtain ⟨p, hmem, horigin⟩ := h c call result hold hK hphase
    exact ⟨p, step_executions hst hmem, horigin⟩
  · cases hphase
  · have hexec : ∀ p, p ∈ s.executions → p ∈ t.executions := fun p => step_executions hst
    simp only at hphase
    have hmoved := commandEffect_phase htraced.indexed he
    rw [hphase] at hmoved
    cases hmoved with
    | idle _ hidle => cases hidle
    | own p hhand =>
      obtain ⟨hmem, hown, hkey, hfp⟩ := htraced.inHand c call₀ p hcall₀ hhand
      exact ⟨p, hexec p hmem, rfl, hkey.trans hK, hfp, fun _ _ => hown⟩
    | replayed attempt p hfate hread hp =>
      subst hfate
      have hfinds := (Bool.and_eq_true_iff.mp (hok call₀ hcall₀ hK)).1
      obtain ⟨hmem, hkey, hfp⟩ := htraced.read hfinds (by simp [Call.reads, hread]) hp
      exact ⟨p, hexec p hmem, rfl, hkey.trans hK, hfp, by simp⟩
    | replayedNull attempt hfate hread hpending =>
      subst hfate
      have hfinds := (Bool.and_eq_true_iff.mp (hok call₀ hcall₀ hK)).2
      exact absurd hpending (findsFulfilled_not_pending hread hfinds)
    | coalesced attempt deadline p hfate hwait hlt hp =>
      subst hfate
      have hfinds := (Bool.and_eq_true_iff.mp (hok call₀ hcall₀ hK)).1
      obtain ⟨hmem, hkey, hfp⟩ := htraced.read hfinds (by simp [Call.reads, hwait, hlt]) hp
      exact ⟨p, hexec p hmem, rfl, hkey.trans hK, hfp, by simp⟩
  · -- The end of an `execute` leaves the response with its owner.
    rcases hended with ⟨error, rfl⟩ | ⟨response, -, rfl⟩
    · cases hphase
    · simp only [afterExecute] at hphase
      split at hphase <;> try split at hphase
      all_goals cases hphase

/-- In every run in which each read under `K` finds no record of another payload, and after
the outcome `fulfilled` no pending one, the returned responses are isolated. -/
theorem payload_isolated (cfg : Settings) (K : Key) {s : System}
    (h : (system cfg).Reach (ReadsOwn K) s) : Isolated K s := by
  suffices Traced s ∧ Isolated K s from this.2
  refine h.invariant (P := fun s => Traced s ∧ Isolated K s) (fun _ h0 => ?_)
    fun _ _ _ hs hok hst => ⟨hs.1.step hst, hs.2.step hs.1 hok hst⟩
  subst h0
  exact ⟨.init, fun c call result hcall => by simp [System.empty] at hcall⟩

/-- Settings with the defaults of the store; every record counts as 160 bytes and every
response as 900. -/
def sampleSettings : Settings where
  ttlMs := 1500000
  recordMaxBytes := 2048
  maxRecords := 250
  maxStoredResponseBytes := 67108864
  encodedLength _ := 160
  pendingWaitMs := 120000
  maxResponseBytes := 1048576
  recordKey key := key
  byteLength _ := 900

/-- An `Idempotency-Key` of one search. -/
def sampleKey : String := "search-7f3c2a91d4"

/-- Two calls of one payload, one after the other, and a third one of another payload. -/
def replayRun : List Event :=
  [.start 1 sampleKey "rome" "t1", .command 1 .answered 10,
    .executed 1 (.ok ⟨"ss2.1", "rome"⟩), .command 1 .answered 20,
    .start 2 sampleKey "rome" "t2", .command 2 .answered 30, .command 2 .answered 40,
    .start 3 sampleKey "oslo" "t3", .command 3 .answered 50]

theorem payload_isolated_replay : ∃ s : System,
    (s.calls.hget 2).map Call.phase =
        some (.returned ⟨some ⟨1, sampleKey, "rome", ⟨"ss2.1", "rome"⟩⟩, true, false⟩) ∧
      Isolated sampleKey s := by
  have hrun : ((system sampleSettings).exec (ReadsOwn sampleKey) .empty replayRun).map
      (fun s => (s.calls.hget 2).map Call.phase) =
        some (some (.returned ⟨some ⟨1, sampleKey, "rome", ⟨"ss2.1", "rome"⟩⟩, true, false⟩)) := by
    decide +kernel
  obtain ⟨s, hs, hphase⟩ := Machine.Reach.of_exec_map replayRun rfl hrun
  exact ⟨s, hphase, payload_isolated sampleSettings sampleKey hs⟩

/-! ## 3. A response of another payload -/

/-- Call 2 waits for call 1, which fails and releases; call 3 claims the key for another
payload and completes before the next poll of call 2. -/
def reclaimedRun : List Event :=
  [.start 1 sampleKey "rome" "t1", .command 1 .answered 10,
    .start 2 sampleKey "rome" "t2", .command 2 .answered 20,
    .executed 1 (.error concurrentUpdate), .command 1 .answered 30,
    .start 3 sampleKey "oslo" "t3", .command 3 .answered 40,
    .executed 3 (.ok ⟨"ss2.3", "oslo"⟩), .command 3 .answered 50,
    .command 2 .answered 60]

/-- Call 2, of the payload `rome`, returns the response that call 3 produced for `oslo`. -/
theorem payload_not_isolated : ∃ s : System,
    (system sampleSettings).Reach Machine.Anything s ∧
    s.calls.hget 2 = some ⟨sampleKey, "rome", "t2",
      .returned ⟨some ⟨3, sampleKey, "oslo", ⟨"ss2.3", "oslo"⟩⟩, false, true⟩⟩ ∧
    ¬ Isolated sampleKey s := by
  have hrun : ((system sampleSettings).exec Machine.Anything .empty reclaimedRun).map
      (fun s => s.calls.hget 2) = some (some ⟨sampleKey, "rome", "t2",
        .returned ⟨some ⟨3, sampleKey, "oslo", ⟨"ss2.3", "oslo"⟩⟩, false, true⟩⟩) := by
    decide +kernel
  obtain ⟨s, hs, hcall⟩ := Machine.Reach.of_exec_map reclaimedRun rfl hrun
  refine ⟨s, hs, hcall, fun hiso => ?_⟩
  obtain ⟨p, -, hresponse, -, hfp, -⟩ := hiso 2 _ _ hcall rfl rfl
  cases hresponse
  exact absurd hfp (by decide)

end SmartStay.Idempotency
