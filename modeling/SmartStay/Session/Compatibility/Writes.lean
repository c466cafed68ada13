import SmartStay.Session.Compatibility.Relation

/-!
# Reads, updates and the initial search in both stores

1. `Agrees`: the stores agree after an operation, and their replies are alike.
2. `Agree.written`, `Agrees.written`: a session that both stores write.
3. Reads, updates, appended hotels, and the operations of the initial search.
-/

namespace SmartStay.Session.Compatibility

open InMemory Shared

variable {ρ : Type}

variable {s : Pair ρ} {now : Nat} {ids : Ids}

/-! ## 1. Operations that agree -/

/-- The stores agree after an operation, and their replies are alike. -/
structure Agrees (s : Pair ρ) (names : List Ids) (m : Memory ρ × Except StoreError (Reply ρ))
    (q : StoreState ρ × Except StoreError (Reply ρ)) : Prop where
  agree : Agree
    { clock := s.clock, memory := m.1, shared := q.1, names := names,
      grants := grantsAfter s.grants m.2 q.2 }
  alike : Alike names m.2 q.2

section Replies
variable {r r' : Except StoreError (Reply ρ)} {m : Memory ρ}

/-- Neither store does anything. -/
theorem Agrees.idle (h : Agree s) (hgrants : grantsAfter s.grants r r' = s.grants)
    (halike : Alike s.names r r') : Agrees s s.names (s.memory, r) (s.shared, r') :=
  ⟨by simpa only [hgrants] using h, halike⟩

/-- The store in memory removes what has ended. -/
theorem Agrees.read (h : Agree s) (hswept : Swept s.clock s.memory m)
    (hgrants : grantsAfter s.grants r r' = s.grants) (halike : Alike s.names r r') :
    Agrees s s.names (m, r) (s.shared, r') :=
  ⟨by simpa only [hgrants] using h.sweep hswept, halike⟩

theorem Agree.reaped (h : Agree s) (hswept : Swept s.clock s.memory m) :
    Agree { s with memory := m, shared := (reap s.shared s.clock).2 } :=
  (h.sweep hswept).reapShared fun _ _ hstored => (hswept.hget.mp hstored).2

/-- Both stores remove what has ended, and refuse the write. -/
theorem Agrees.refused (h : Agree s) (hswept : Swept s.clock s.memory m)
    (hgrants : grantsAfter s.grants r r' = s.grants) (halike : Alike s.names r r') :
    Agrees s s.names (m, r) ((reap s.shared s.clock).2, r') :=
  ⟨by simpa only [hgrants] using h.reaped hswept, halike⟩

end Replies

theorem withinCapacity_left {error : StoreError} {r : Except StoreError (Reply ρ)}
    (h : WithinCapacity (.error error) r) : isCapacityError error = false := by
  cases r with
  | error _ => exact h.1
  | ok _ => exact h

theorem withinCapacity_right {error : StoreError} {r : Except StoreError (Reply ρ)}
    (h : WithinCapacity r (.error error)) : isCapacityError error = false := by
  cases r with
  | error _ => exact h.2
  | ok _ => exact h

theorem sameSession_iff {names : List Ids} {session session' : SearchSession ρ} :
    SameSession names session session' ↔ ∃ searchId createdAt fence,
      (⟨session.searchId, searchId⟩ : Ids) ∈ names ∧
        session' = { session with
          searchId := searchId
          createdAt := createdAt
          continuationFencingNumber := fence } := by
  constructor
  · rintro ⟨hname, hsame⟩
    exact ⟨_, _, _, hname, hsame.symm⟩
  · rintro ⟨searchId, createdAt, fence, hname, rfl⟩
    exact ⟨hname, rfl⟩

/-- The leases after a write, away from the session that is written. -/
theorem commitWrite_leases {st : StoreState ρ} {searchId other : SearchId} {args : WriteArgs ρ}
    {total : Nat} (hne : other ≠ searchId) :
    Hash.hget (commitWrite st searchId searchId args total).leases other =
      Hash.hget st.leases other := by
  unfold commitWrite
  cases args.leaseAction with
  | keep => rfl
  | renew =>
    simp only [Keyspace.pexpire]
    split
    · rw [Keyspace.setPx, Hash.hget_hset, if_neg hne]
    · rfl
  | delete => rw [Keyspace.del, Hash.hget_hdel, if_neg hne]

/-! ## 2. Writes -/

/-- A session that both stores write under a name that they know. The leases of the shared
store may have changed before, at that name. -/
theorem Agree.written (h : Agree s) {m m' : Memory ρ} (hswept : Swept s.clock s.memory m)
    {name : Ids} (hname : name ∈ s.names) {session : SearchSession ρ} {args : WriteArgs ρ}
    {leases : Keyspace SearchId Lease} {fences : Keyspace SearchId Nat} {total : Nat}
    (hmemory : m'.sessions = m.sessions.hset name.memory session)
    (hclock : args.now = s.clock) (hends : session.expiresAt = s.clock + args.sessionTtl)
    (hleases : ∀ searchId, searchId ≠ name.shared →
      Hash.hget leases searchId = Hash.hget s.shared.leases searchId)
    (hnamed : session.searchId = name.memory)
    (hnamed' : args.serialized.session.searchId = name.shared)
    (hsame : SameSession s.names session args.serialized.session)
    (hlease : LeaseAgree s.grants (memoryLease s.clock session)
      (sharedLease s.clock (Hash.hget
        (commitWrite (reap { s.shared with leases := leases, fences := fences } s.clock).2 name.shared
          name.shared args total).leases name.shared))) :
    Agree { s with
      memory := m'
      shared := commitWrite (reap { s.shared with leases := leases, fences := fences } s.clock).2
        name.shared name.shared args total } := by
  have hbase := h.reaped hswept
  have hindexed : Indexed { s.shared with leases := leases, fences := fences } :=
    ⟨h.indexed.members, h.indexed.scores⟩
  refine hbase.put hname hmemory ?_ ?_ ?_
    ((hindexed.reap s.clock).commitWrite _ _ _) hnamed hnamed' hsame hlease
  · intro searchId
    simp only [commitWrite, Keyspace.setPx, Hash.hget_hset, hclock, hends, reap_sessions]
  · intro searchId hne
    rw [commitWrite_leases hne, reap_state, reap_state]
    exact hleases searchId hne
  · intro searchId hsome
    simp only [commitWrite, Keyspace.setPx, Hash.hget_hset, reap_state] at hsome ⊢
    split at hsome
    · next heq => exact .inl heq
    · exact .inr hsome

theorem commitWrite_keep {st : StoreState ρ} {searchId : SearchId} {args : WriteArgs ρ} {total : Nat}
    (hkeep : args.leaseAction = .keep) :
    (commitWrite (reap st now).2 searchId searchId args total).leases = st.leases := by
  rw [commitWrite, hkeep, reap_state]

/-- A renewed lease runs from now on. -/
theorem commitWrite_renew {st : StoreState ρ} {searchId : SearchId} {args : WriteArgs ρ}
    {total : Nat} {lease : Lease} (hrenew : args.leaseAction = .renew) (hnow : args.now = now)
    (hheld : st.leases.get now searchId = some lease) :
    Hash.hget (commitWrite (reap st now).2 searchId searchId args total).leases searchId =
      some ⟨lease, now + args.leaseTtl⟩ := by
  rw [commitWrite, hrenew, reap_state, hnow]
  simp only [Keyspace.pexpire, hheld, Keyspace.setPx, Hash.hget_hset_self]

/-- A released lease is gone. -/
theorem commitWrite_delete {st : StoreState ρ} {searchId : SearchId} {args : WriteArgs ρ}
    {total : Nat} (hdelete : args.leaseAction = .delete) :
    Hash.hget (commitWrite st searchId searchId args total).leases searchId = none := by
  rw [commitWrite, hdelete]
  exact Hash.hget_hdel_self _ _

theorem reap_leases (st : StoreState ρ) (now : Nat) : (reap st now).2.leases = st.leases := by
  rw [reap_state]

section Operations
variable {cfg : PairSettings ρ} {m : Memory ρ} {name : Ids} {session : SearchSession ρ}
  {envelope : Envelope ρ} {lockToken : String}

theorem Found.perform (hfound : Found s name session envelope) (h : Agree s) {op : Operation ρ}
    (hread : afterRead op 0 (some envelope) = .write 0 envelope) :
    PerformCases cfg.toStoreSettings s.shared name.shared op envelope s.clock
      (perform cfg.toStoreSettings s.shared name.shared op s.clock) :=
  perform_write h.indexed hfound.shared hfound.live hread

/-- A write of an operation over a session that both stores have. -/
theorem Agrees.written (h : Agree s) (hswept : Swept s.clock s.memory m)
    (hfound : Found s name session envelope) {op : Operation ρ} {m' : Memory ρ}
    {session' : SearchSession ρ} {total : Nat} {r r' : Except StoreError (Reply ρ)}
    (hmemory : m'.sessions = m.sessions.hset name.memory session')
    (hends : session'.expiresAt = s.clock + searchSessionTtlMs)
    (hnamed : session'.searchId = session.searchId)
    (hsame : SameSession s.names session'
      (nextSession cfg.toStoreSettings s.clock envelope.session op))
    (hlease : LeaseAgree s.grants (memoryLease s.clock session')
      (sharedLease s.clock (Hash.hget (commitWrite (reap s.shared s.clock).2 name.shared name.shared
        (writeArgs cfg.toStoreSettings s.clock envelope op) total).leases name.shared)))
    (hgrants : grantsAfter s.grants r r' = s.grants) (halike : Alike s.names r r') :
    Agrees s s.names (m', r)
      (commitWrite (reap s.shared s.clock).2 name.shared name.shared
        (writeArgs cfg.toStoreSettings s.clock envelope op) total, r') := by
  have hid : (nextSession cfg.toStoreSettings s.clock envelope.session op).searchId =
      envelope.session.searchId := by
    cases op <;> rfl
  refine ⟨?_, halike⟩
  simp only [hgrants]
  refine h.written hswept hfound.named hmemory rfl ?_ (fun _ _ => rfl) (hnamed.trans hfound.searchId)
    (hid.trans hfound.searchId') hsame hlease
  rw [hends, ← cfg.sessionTtl_same]
  rfl

/-! ## 3. Reads, updates and the initial search -/

theorem get_agrees (h : Agree s) (hids : SameIds s ids)
    (hoff : OffTick s (JsText.trim ids.shared) s.clock) :
    Agrees s s.names (s.memory.getSearchSession ids.memory s.clock)
      (Shared.getSearchSession s.shared ids.shared s.clock) := by
  refine .read h (swept _ _) rfl (.session ?_)
  unfold Memory.readSearchSession
  rcases h.focus hids hoff with hmissing | ⟨session, envelope, hfound⟩
  · have hgone := hmissing.swept (swept _ _)
    simp only at hgone
    rw [hmissing.read, hgone, ite_self]
    exact .none
  · have hstored := hfound.swept (swept _ _)
    simp only at hstored
    rw [hfound.read h, hstored, if_neg (h.valid _ hfound.named).2.1]
    exact .some hfound.same

/-! Updates and appended hotels. -/

theorem SameSession.assign {names : List Ids} {session session' : SearchSession ρ}
    (hsame : SameSession names session session') (updates : SessionUpdates ρ) :
    SameSession names (session.assign updates) (session'.assign updates) := by
  obtain ⟨searchId, createdAt, fence, hname, rfl⟩ := sameSession_iff.mp hsame
  exact sameSession_iff.mpr ⟨searchId, createdAt, _, hname, rfl⟩

/-- The sessions of a mutation in both stores. -/
theorem SameSession.updated {names : List Ids} {session session' : SearchSession ρ}
    (hsame : SameSession names session session') {mutation : Mutation ρ} {updates : SessionUpdates ρ}
    (hupdates : mutation.candidate (now + cfg.continuationLeaseTtlMs) session' = updates)
    (lease : Option LeaseContext) (execution : Option InitialSearchExecution) :
    SameSession names (Memory.updated session updates now)
      (nextSession cfg.toStoreSettings now session' (.mutate mutation lease execution)) := by
  obtain ⟨searchId, createdAt, fence, hname, hassigned⟩ := sameSession_iff.mp (hsame.assign updates)
  refine sameSession_iff.mpr ⟨searchId, createdAt, fence, hname, ?_⟩
  simp only [nextSession, hupdates, hassigned, cfg.sessionTtl_same]
  rfl

/-- An update in memory of a session that is there, when its write is allowed. -/
theorem updateSearchSession_allowed {searchId : SearchId} {updates : SessionUpdates ρ}
    {lease : Option LeaseContext} (hne : searchId ≠ "")
    (hstored : (m.removeExpiredSessions now).sessions.hget searchId = some session)
    (hallowed : assertContinuationWriteAllowed session lease now = none) :
    m.updateSearchSession searchId updates lease now =
      ({ m.removeExpiredSessions now with
          sessions := (m.removeExpiredSessions now).sessions.hset searchId
            (Memory.updated session updates now) },
        .ok (.result (.session (some (Memory.updated session updates now))))) := by
  simp only [Memory.updateSearchSession, if_neg hne, hstored, hallowed]

theorem updateSearchSession_refused {searchId : SearchId} {updates : SessionUpdates ρ}
    {lease : Option LeaseContext} {error : StoreError} (hne : searchId ≠ "")
    (hstored : (m.removeExpiredSessions now).sessions.hget searchId = some session)
    (hrefused : assertContinuationWriteAllowed session lease now = some error) :
    m.updateSearchSession searchId updates lease now =
      (m.removeExpiredSessions now, .error error) := by
  simp only [Memory.updateSearchSession, if_neg hne, hstored, hrefused]

/-- A mutation of a session that both stores have. -/
theorem mutate_agrees (h : Agree s) (hfound : Found s name session envelope)
    (hswept : Swept s.clock s.memory (m.removeExpiredSessions s.clock)) {mutation : Mutation ρ}
    {updates : SessionUpdates ρ} {fences : Fences Int} (hfences : SameFences s lockToken fences)
    (hupdates : mutation.candidate (s.clock + cfg.continuationLeaseTtlMs) envelope.session = updates)
    (hlease : memoryLease s.clock (session.assign updates) = memoryLease s.clock session)
    (hcapacity : WithinCapacity
      (m.updateSearchSession name.memory updates (getLeaseContext lockToken fences.memory) s.clock).2
      (perform cfg.toStoreSettings s.shared name.shared
        (.mutate mutation (getLeaseContext lockToken fences.shared) none) s.clock).2) :
    Agrees s s.names
      (m.updateSearchSession name.memory updates (getLeaseContext lockToken fences.memory) s.clock)
      (perform cfg.toStoreSettings s.shared name.shared
        (.mutate mutation (getLeaseContext lockToken fences.shared) none) s.clock) := by
  have hne := (h.valid _ hfound.named).2.1
  have hrefused := hfound.write_refused hfences
  have hcases : PerformCases cfg.toStoreSettings s.shared name.shared
      (.mutate mutation (getLeaseContext lockToken fences.shared) none) envelope s.clock
      (perform cfg.toStoreSettings s.shared name.shared
        (.mutate mutation (getLeaseContext lockToken fences.shared) none) s.clock) :=
    hfound.perform h rfl
  have hmode : modeOutcome cfg.nullText (reap s.shared s.clock).2 name.shared
      (writeArgs cfg.toStoreSettings s.clock envelope
        (.mutate mutation (getLeaseContext lockToken fences.shared) none)) =
      leaseRefusal s.shared.leases name.shared s.clock (getLeaseContext lockToken fences.shared) := by
    rw [← reap_leases s.shared s.clock]
    cases hshared : getLeaseContext lockToken fences.shared with
    | none => exact modeOutcome_unlocked rfl
    | some lease => exact modeOutcome_owned rfl rfl rfl
  generalize perform cfg.toStoreSettings s.shared name.shared
    (.mutate mutation (getLeaseContext lockToken fences.shared) none) s.clock = q at hcases hcapacity ⊢
  cases hcases with
  | capacity herror =>
    rw [withinCapacity_right hcapacity] at herror
    cases herror
  | written hallowed =>
    rw [hmode] at hallowed
    rw [hallowed] at hrefused
    rw [updateSearchSession_allowed hne (hfound.swept hswept) hrefused]
    have hsame := hfound.same.updated hupdates (getLeaseContext lockToken fences.shared) none
    refine .written h hswept hfound rfl rfl rfl hsame ?_ rfl (.session (.some hsame))
    rw [commitWrite_keep rfl]
    change LeaseAgree _ (memoryLease _ (session.assign updates)) _
    rw [hlease]
    exact hfound.lease
  | refused hoccurred =>
    rw [hmode] at hoccurred
    rw [hoccurred] at hrefused
    rw [updateSearchSession_refused hne (hfound.swept hswept) hrefused]
    exact .refused h hswept rfl (.rejected (.same _))

theorem Missing.mutate {ids : Ids}
    (hmissing : Missing s ⟨JsText.trim ids.memory, JsText.trim ids.shared⟩) (mutation : Mutation ρ)
    (lease : Option LeaseContext) (execution : Option InitialSearchExecution) :
    mutateSession cfg.toStoreSettings s.shared ids.shared mutation lease execution s.clock =
      (s.shared, .ok (.result (.session none))) := by
  unfold mutateSession
  split
  · rfl
  · exact (perform_none hmissing.shared).1 mutation lease execution

theorem Found.mutate {ids : Ids} (h : Agree s)
    (hfound : Found s ⟨JsText.trim ids.memory, JsText.trim ids.shared⟩ session envelope)
    (mutation : Mutation ρ) (lease : Option LeaseContext)
    (execution : Option InitialSearchExecution) :
    mutateSession cfg.toStoreSettings s.shared ids.shared mutation lease execution s.clock =
      SmartStay.Session.Shared.perform cfg.toStoreSettings s.shared (JsText.trim ids.shared)
        (.mutate mutation lease execution) s.clock :=
  if_neg (h.valid _ hfound.named).2.2.2.1

theorem Found.sessionAt {ids : Ids}
    (hfound : Found s ⟨JsText.trim ids.memory, JsText.trim ids.shared⟩ session envelope) :
    sessionAt s ids s.clock = some session := hfound.swept (Compatibility.swept _ _)

/-- An id that is not trimmed names no session in memory. -/
theorem Missing.untrimmed {ids : Ids} (h : Agree s)
    (hmissing : Missing s ⟨JsText.trim ids.memory, JsText.trim ids.shared⟩)
    (hswept : Swept s.clock s.memory m) : m.sessions.hget ids.memory = none := by
  by_contra hstored
  obtain ⟨session, hstored⟩ := Option.ne_none_iff_exists'.mp hstored
  obtain ⟨name, hname, heq⟩ := h.memoryNamed _ (Hash.mem_of_hget (hswept.hget.mp hstored).1)
  have htrim : JsText.trim ids.memory = ids.memory := by
    rw [← heq]
    exact (h.valid name hname).1
  have hgone : m.sessions.hget (JsText.trim ids.memory) = none := hmissing.swept hswept
  rw [htrim, hstored] at hgone
  cases hgone

theorem update_agrees (h : Agree s) {updates : SessionUpdates ρ} {fences : Fences Int}
    {execution : Option InitialSearchExecution}
    (hi : Agreeing cfg s (.update ids updates lockToken fences execution, s.clock)) :
    Agrees s s.names (s.memoryReply cfg s.clock (.update ids updates lockToken fences execution))
      (s.sharedReply cfg s.clock (.update ids updates lockToken fences execution)) := by
  obtain ⟨⟨⟨hids, hfences⟩, hcapacity⟩, hoff, hsession⟩ := hi
  simp only [Pair.memoryReply, Pair.sharedReply] at hcapacity ⊢
  rcases h.focus hids hoff with hmissing | ⟨session, envelope, hfound⟩
  · rw [hmissing.mutate]
    unfold Memory.updateSearchSession
    split
    · exact .idle h rfl (.session .none)
    · simp only [hmissing.untrimmed h (swept _ _)]
      exact .read h (swept _ _) rfl (.session .none)
  · obtain ⟨htrim, rfl, hlease⟩ := hsession session hfound.sessionAt
    have hid : s.memory.updateSearchSession ids.memory =
        s.memory.updateSearchSession (JsText.trim ids.memory) := by rw [htrim]
    rw [hfound.mutate h, hid] at hcapacity ⊢
    exact mutate_agrees h hfound (swept _ _) hfences rfl hlease hcapacity

theorem append_agrees (h : Agree s) {hotels : List Hotel} {fences : Fences Int}
    {execution : Option InitialSearchExecution}
    (hi : Agreeing cfg s (.append ids hotels lockToken fences execution, s.clock)) :
    Agrees s s.names (s.memoryReply cfg s.clock (.append ids hotels lockToken fences execution))
      (s.sharedReply cfg s.clock (.append ids hotels lockToken fences execution)) := by
  obtain ⟨⟨⟨hids, hfences⟩, hcapacity⟩, hoff, hsession⟩ := hi
  simp only [Pair.memoryReply, Pair.sharedReply, Memory.appendHotelsToSearchSession,
    Memory.readSearchSession] at hcapacity ⊢
  rcases h.focus hids hoff with hmissing | ⟨session, envelope, hfound⟩
  · have hgone := hmissing.swept (swept _ _)
    simp only at hgone
    rw [hmissing.mutate, hgone, ite_self]
    exact .read h (swept _ _) rfl (.session .none)
  · obtain ⟨htrim, rfl⟩ := hsession session hfound.sessionAt
    have hstored := hfound.swept (swept _ _)
    simp only at hstored
    have hid : (s.memory.removeExpiredSessions s.clock).updateSearchSession ids.memory =
        (s.memory.removeExpiredSessions s.clock).updateSearchSession (JsText.trim ids.memory) := by
      rw [htrim]
    rw [hfound.mutate h, hstored, if_neg (h.valid _ hfound.named).2.1] at hcapacity ⊢
    simp only [hid] at hcapacity ⊢
    have hhotels : session.hotels = envelope.session.hotels := by rw [← hfound.same.2]
    refine mutate_agrees h hfound (swept _ _).again hfences ?_ rfl hcapacity
    rw [hhotels]
    rfl

/-! The initial search. -/

/-- Without a lease in memory there is none in the shared store. -/
theorem Found.unleased (hfound : Found s name session envelope)
    (hnone : memoryLease s.clock session = none) :
    sharedLease s.clock (Hash.hget s.shared.leases name.shared) = none := by
  have hlease := hfound.lease
  rw [hnone] at hlease
  generalize sharedLease s.clock (Hash.hget s.shared.leases name.shared) = lease at hlease ⊢
  cases hlease
  rfl

theorem Found.reaped_get (hfound : Found s name session envelope) (h : Agree s) :
    (reap s.shared s.clock).2.sessions.get s.clock name.shared = some envelope :=
  Keyspace.get_eq_some.mpr
    ⟨session.expiresAt, reap_keeps h.indexed hfound.shared hfound.live, Nat.le_of_lt hfound.live⟩

theorem claim_agrees (h : Agree s) {execution : Option InitialSearchExecution}
    (hi : Agreeing cfg s (.claim ids execution, s.clock)) :
    Agrees s s.names (s.memoryReply cfg s.clock (.claim ids execution))
      (s.sharedReply cfg s.clock (.claim ids execution)) := by
  obtain ⟨⟨hids, hcapacity⟩, hoff, hsession⟩ := hi
  simp only [Pair.memoryReply, Pair.sharedReply] at hcapacity ⊢
  cases execution with
  | none => exact .idle h rfl (.rejected (.same _))
  | some execution =>
    simp only [Memory.claimInitialSearchExecution, Shared.claimInitialSearchExecution]
      at hcapacity ⊢
    rcases h.focus hids hoff with hmissing | ⟨session, envelope, hfound⟩
    · obtain ⟨error, error', hmemory, hshared, halike⟩ :=
        hmissing.require (swept _ _) cfg.processGeneration
      have hgone := hmissing.shared
      simp only at hgone
      simp only [hmemory, hshared, hgone, Except.map]
      exact .read h (swept _ _) rfl (.rejected halike)
    · obtain ⟨hmemory, -⟩ := hfound.require h (swept _ _) cfg.processGeneration
      have hget := hfound.get
      simp only at hget
      simp only [hmemory, hget] at hcapacity ⊢
      have hstage : envelope.session.initialSearchStage = session.initialSearchStage := by
        rw [← hfound.same.2]
      have hnumber : envelope.session.initialSearchFencingNumber =
          session.initialSearchFencingNumber := by rw [← hfound.same.2]
      have hreturned : ∀ result, afterRead (.claim execution) 0 (some envelope) = .returned result →
          perform cfg.toStoreSettings s.shared (JsText.trim ids.shared) (.claim execution) s.clock =
            (s.shared, .ok (.result result)) := fun _ hread => perform_returned hget hread
      by_cases hterminal : session.initialSearchStage.get?.any InitialSearchStage.isTerminal = true
      · rw [if_pos hterminal, hreturned (.claim false true envelope.session)]
        · exact .read h (swept _ _) rfl (.claim false true hfound.same)
        · simp only [afterRead, hstage, hterminal, if_true]
      by_cases hstale : execution.fencingNumber ≤ session.initialSearchFencingNumber.get?.getD 0
      · rw [if_neg hterminal, if_pos hstale, hreturned (.claim false false envelope.session)]
        · exact .read h (swept _ _) rfl (.claim false false hfound.same)
        · simp only [afterRead, hstage, hnumber, hterminal, hstale, if_true]
          rfl
      have hopen : session.initialSearchStage.get?.any InitialSearchStage.isTerminal = false :=
        Bool.not_eq_true _ ▸ hterminal
      obtain ⟨hnone, hnull⟩ :=
        hsession session hfound.sessionAt execution rfl ⟨hopen, Nat.not_le.mp hstale⟩
      rw [if_neg hterminal, if_neg hstale] at hcapacity ⊢
      have hcases : PerformCases cfg.toStoreSettings s.shared (JsText.trim ids.shared)
          (.claim execution) envelope s.clock
          (perform cfg.toStoreSettings s.shared (JsText.trim ids.shared) (.claim execution) s.clock) :=
        hfound.perform h (by simp only [afterRead, hstage, hnumber, hterminal, hstale]; rfl)
      generalize perform cfg.toStoreSettings s.shared (JsText.trim ids.shared) (.claim execution)
        s.clock = q at hcases hcapacity ⊢
      cases hcases with
      | capacity herror =>
        rw [withinCapacity_right hcapacity] at herror
        cases herror
      | refused hoccurred =>
        rw [modeOutcome_claim rfl (hfound.reaped_get h) rfl (hstage ▸ hopen) (hnumber ▸ hnull)
          (hnumber ▸ Nat.not_le.mp hstale)] at hoccurred
        cases hoccurred
      | written _ =>
        obtain ⟨searchId, createdAt, fence, hname, hcurrent⟩ := sameSession_iff.mp hfound.same
        have hsame : SameSession s.names
            { session with
              initialSearchStage := .value .running
              initialSearchExecutionToken := .value execution.executionToken
              initialSearchFencingNumber := .value execution.fencingNumber
              status := .running, searchIncomplete := true, isContinuing := false
              lastError := none, retryable := false, retryAfterMs := some 2000
              updatedAt := s.clock, expiresAt := s.clock + searchSessionTtlMs }
            (nextSession cfg.toStoreSettings s.clock envelope.session (.claim execution)) := by
          refine sameSession_iff.mpr ⟨searchId, createdAt, fence, hname, ?_⟩
          simp only [nextSession, hcurrent, cfg.sessionTtl_same]
        refine .written h (swept _ _) hfound rfl rfl rfl hsame ?_ rfl (.claim true false hsame)
        rw [commitWrite_keep rfl, hfound.unleased hnone, memoryLease_eq_none.mpr rfl]
        exact .none

theorem updateInitial_agrees (h : Agree s) {updates : SessionUpdates ρ}
    {execution : Option InitialSearchExecution}
    (hi : Agreeing cfg s (.updateInitial ids updates execution, s.clock)) :
    Agrees s s.names (s.memoryReply cfg s.clock (.updateInitial ids updates execution))
      (s.sharedReply cfg s.clock (.updateInitial ids updates execution)) := by
  obtain ⟨⟨hids, hcapacity⟩, hoff, hpresent, hsession⟩ := hi
  simp only [Pair.memoryReply, Pair.sharedReply, Memory.updateInitialSearchExecution,
    Shared.updateInitialSearchExecution] at hcapacity ⊢
  rcases h.focus hids hoff with hmissing | ⟨session, envelope, hfound⟩
  · have hgone : sessionAt s ids s.clock = none := hmissing.swept (swept _ _)
    rw [hgone] at hpresent
    cases hpresent
  obtain ⟨hmemory, -⟩ := hfound.require h (swept _ _) cfg.processGeneration
  simp only [hmemory] at hcapacity ⊢
  cases execution with
  | none => exact .read h (swept _ _) rfl (.rejected (.same _))
  | some execution =>
    obtain ⟨hnull, hunleased⟩ := hsession session hfound.sessionAt execution rfl
    simp only [hfound.mutate h] at hcapacity ⊢
    have hcases : PerformCases cfg.toStoreSettings s.shared (JsText.trim ids.shared)
        (.mutate (.assign (initialSearchUpdates updates)) none (some execution)) envelope s.clock
        (perform cfg.toStoreSettings s.shared (JsText.trim ids.shared)
          (.mutate (.assign (initialSearchUpdates updates)) none (some execution)) s.clock) :=
      hfound.perform h rfl
    have howns : (envelope.session.initialSearchExecutionToken.tostring cfg.nullText =
        execution.executionToken ∧
        envelope.session.initialSearchFencingNumber.tonumber = some execution.fencingNumber) ↔
        OwnsInitial session execution := by
      have htoken : envelope.session.initialSearchExecutionToken =
          session.initialSearchExecutionToken := by rw [← hfound.same.2]
      have hnumber : envelope.session.initialSearchFencingNumber =
          session.initialSearchFencingNumber := by rw [← hfound.same.2]
      rw [htoken, hnumber, JsonField.tostring_eq_iff execution.token_nonempty hnull,
        JsonField.tonumber_eq_iff execution.fence_pos]
      rfl
    have hmode : modeOutcome cfg.nullText (reap s.shared s.clock).2 (JsText.trim ids.shared)
        (writeArgs cfg.toStoreSettings s.clock envelope
          (.mutate (.assign (initialSearchUpdates updates)) none (some execution))) =
        if OwnsInitial session execution then none else some .staleInitialSearch := by
      rw [modeOutcome_initialOwned rfl (hfound.reaped_get h) rfl]
      exact if_congr howns rfl rfl
    generalize perform cfg.toStoreSettings s.shared (JsText.trim ids.shared)
      (.mutate (.assign (initialSearchUpdates updates)) none (some execution)) s.clock = q
      at hcases hcapacity ⊢
    by_cases hown : OwnsInitial session execution
    · obtain ⟨hnone, hnone'⟩ := hunleased hown
      have hallowed : assertContinuationWriteAllowed session none s.clock = none := by
        rw [assertContinuationWriteAllowed, memoryLease_eq_none.mp hnone]
        rfl
      rw [if_neg (not_or.mpr ⟨not_not.mpr hown.1, not_not.mpr hown.2⟩),
        updateSearchSession_allowed (h.valid _ hfound.named).2.1 (hfound.swept (swept _ _).again)
          hallowed] at hcapacity ⊢
      rw [if_pos hown] at hmode
      cases hcases with
      | capacity herror =>
        rw [withinCapacity_right hcapacity] at herror
        cases herror
      | refused hoccurred =>
        rw [hmode] at hoccurred
        cases hoccurred
      | written _ =>
        have hsame : SameSession s.names
            (Memory.updated session (initialSearchUpdates updates) s.clock)
            (nextSession cfg.toStoreSettings s.clock envelope.session
              (.mutate (.assign (initialSearchUpdates updates)) none (some execution))) :=
          hfound.same.updated rfl none (some execution)
        refine .written h (swept _ _).again hfound rfl rfl rfl hsame ?_ rfl (.session (.some hsame))
        rw [commitWrite_keep rfl, hfound.unleased hnone]
        change LeaseAgree _ (memoryLease _ (session.assign (initialSearchUpdates updates))) _
        rw [hnone']
        exact .none
    · have hforeign : session.initialSearchExecutionToken.get? ≠ some execution.executionToken ∨
          session.initialSearchFencingNumber.get? ≠ some execution.fencingNumber :=
        not_and_or.mp hown
      rw [if_pos hforeign] at hcapacity ⊢
      rw [if_neg hown] at hmode
      cases hcases with
      | capacity herror =>
        rw [withinCapacity_right hcapacity] at herror
        cases herror
      | refused hoccurred =>
        rw [hmode] at hoccurred
        cases hoccurred
        exact .refused h (swept _ _) rfl (.rejected (.same _))
      | written hallowed =>
        rw [hmode] at hallowed
        cases hallowed

end Operations

end SmartStay.Session.Compatibility
