import SmartStay.Session.Atomic
import SmartStay.Session.InMemory

/-!
# The shared session store, one call at a time

The functions of `createValkeySearchSessionAdapters` when no other call comes between their
commands and none of the commands fails.

1. Ids and reads.
2. `settle`: the commands of a call, one after the other.
3. The functions.
4. `modeOutcome`: the guard of each lock mode on a session that is there.
5. `perform_none`, `perform_write`, `saveAttempts_write`: what a call comes to.
-/

namespace SmartStay.Session.Shared

variable {ρ : Type}

/-! ## 1. Ids and reads -/

/-- `SEARCH_SESSION_ID_PATTERN.test(searchId)`. -/
def isSearchSessionId (searchId : SearchId) : Bool :=
  let text := (JsText.toLowerCase searchId).toList
  text.take 4 == "ss2.".toList && isUuid (text.drop 4)

/-- `getLocalSearchSessionState`. -/
def getLocalSearchSessionState (searchId : SearchId) : Option SearchSessionState :=
  if searchId = "" then some .missing
  else if isSearchSessionId searchId then none
  else if searchId.toList.take 4 = "ss1.".toList then some .expired
  else some .notFound

/-- `requireSearchSession`. -/
def requireSearchSession (st : StoreState ρ) (searchId : SearchId) (now : Nat) :
    Except StoreError (SearchSession ρ) :=
  match getLocalSearchSessionState (JsText.trim searchId) with
  | some state => .error state.error
  | none =>
    match st.sessions.get now (JsText.trim searchId) with
    | some envelope => .ok envelope.session
    | none =>
      if (st.tombstones.get now (JsText.trim searchId)).isSome then
        .error SearchSessionState.expired.error
      else .error SearchSessionState.notFound.error

/-- `getSearchSession`. -/
def readSearchSession (st : StoreState ρ) (searchId : SearchId) (now : Nat) :
    Option (SearchSession ρ) :=
  match getLocalSearchSessionState (JsText.trim searchId) with
  | some _ => none
  | none => (st.sessions.get now (JsText.trim searchId)).map Envelope.session

/-! ## 2. Commands in a row -/

/-- At most `fuel` commands of a call, all answered. -/
def settle (cfg : StoreSettings ρ) (now : Nat) :
    Nat → StoreState ρ → SessionCall ρ → StoreState ρ × Phase ρ
  | 0, st, call => (st, call.phase)
  | fuel + 1, st, call =>
    match commandEffect cfg st call .answered now with
    | none => (st, call.phase)
    | some r => settle cfg now fuel r.1 { call with phase := r.2.1 }

/-- What the caller gets. A call that has not ended yet stands for one that waits. -/
def outcome : Phase ρ → Except StoreError (Reply ρ)
  | .returned result => .ok (.result result)
  | .threw error => .error error
  | .read _ | .write _ _ | .require _ | .reread => .error createOperationalStateUnavailableError

/-- One of the compare-and-set loops: it reads, it writes, and it may read again. -/
def perform (cfg : StoreSettings ρ) (st : StoreState ρ) (searchId : SearchId) (op : Operation ρ)
    (now : Nat) : StoreState ρ × Except StoreError (Reply ρ) :=
  let r := settle cfg now 3 st ⟨searchId, op, .read 0⟩
  (r.1, outcome r.2)

/-! ## 3. Functions -/

/-- The `continuationFencingNumber` of `buildSavedSession`: a safe integer or `null`. -/
def savedFence (field : JsonField Nat) : JsonField Nat :=
  match finiteNumber field with
  | some n => if (n : Int) ≤ maxSafeInteger then .value n else .null
  | none => .null

/-- `buildSavedSession`. -/
def buildSavedSession (cfg : StoreSettings ρ) (input : SessionInput ρ) (searchId : SearchId)
    (existing : Option (SearchSession ρ)) (now : Nat) : SearchSession ρ :=
  input.saved searchId ((existing.map SearchSession.createdAt).getD (input.createdAt.getD now)) now
    cfg.sessionTtlMs (savedFence input.continuationFencingNumber)

/-- The arguments of the write of `saveSearchSession`. -/
def saveArgs (cfg : StoreSettings ρ) (current : Option (Envelope ρ)) (session : SearchSession ρ)
    (now : Nat) : WriteArgs ρ where
  now := now
  sessionTtl := cfg.sessionTtlMs
  tombstoneTtl := cfg.tombstoneLifetimeMs
  serialized :=
    { revision := (current.map fun envelope => envelope.revision + 1).getD 1, session := session }
  newBytes := cfg.byteLength
    { revision := (current.map fun envelope => envelope.revision + 1).getD 1, session := session }
  expectedRevision := (current.map fun envelope => (envelope.revision : Int)).getD (-1)
  maxCount := cfg.maxSessions
  aggregateBudget := cfg.aggregateSessionBytes
  lockMode := .unlocked
  lockToken := ""
  fencingNumber := 0
  leaseAction := .keep
  leaseTtl := cfg.continuationLeaseTtlMs
  initialExecutionToken := ""
  initialFencingNumber := 0
  sessionTtl_pos := cfg.sessionTtl_pos
  tombstoneTtl_pos := cfg.tombstoneLifetime_pos
  leaseTtl_pos := cfg.continuationLeaseTtl_pos

def searchIdInvalid : StoreError :=
  { code := "SEARCH_ID_INVALID"
    message := "The shared search session id is invalid."
    status := 400 }

/-- The attempts of `saveSearchSession`, each with the id that `createSearchId` draws in it. -/
def saveAttempts (cfg : StoreSettings ρ) (input : SessionInput ρ) (providedSearchId : SearchId)
    (now : Nat) : List SearchId → StoreState ρ → StoreState ρ × Except StoreError (Reply ρ)
  | [], st => (st, .error (writeFailure (.conflict 0)))
  | fresh :: draws, st =>
    let searchId := if providedSearchId = "" then fresh else providedSearchId
    let current := if providedSearchId = "" then none else st.sessions.get now searchId
    let session := buildSavedSession cfg input searchId (current.map Envelope.session) now
    let args := saveArgs cfg current session now
    if cfg.maxSessionBytes < cfg.byteLength args.serialized then (st, .error sessionTooLarge)
    else
      let r := sessionWrite cfg.nullText st searchId searchId args
      match r.2 with
      | .ok _ => (r.1, .ok (.result (.session (some session))))
      | .exists | .tombstoned =>
        if providedSearchId = "" then saveAttempts cfg input providedSearchId now draws r.1
        else (r.1, .error (writeFailure r.2))
      | .conflict _ | .missing =>
        if providedSearchId = "" then (r.1, .error (writeFailure r.2))
        else saveAttempts cfg input providedSearchId now draws r.1
      | .capacity | .initialTerminal | .staleInitialSearch | .locked | .staleLease
      | .aggregateBudget | .scriptError => (r.1, .error (writeFailure r.2))

/-- `saveSearchSession`. -/
def saveSearchSession (cfg : StoreSettings ρ) (st : StoreState ρ) (input : SessionInput ρ)
    (draws : List SearchId) (now : Nat) : StoreState ρ × Except StoreError (Reply ρ) :=
  let providedSearchId := JsText.trim input.searchId
  if providedSearchId ≠ "" ∧ isSearchSessionId providedSearchId = false then
    (st, .error searchIdInvalid)
  else saveAttempts cfg input providedSearchId now draws st

/-- `getSearchSession`, as a call. -/
def getSearchSession (st : StoreState ρ) (searchId : SearchId) (now : Nat) :
    StoreState ρ × Except StoreError (Reply ρ) :=
  (st, .ok (.result (.session (readSearchSession st searchId now))))

/-- `mutateSession`. -/
def mutateSession (cfg : StoreSettings ρ) (st : StoreState ρ) (searchId : SearchId)
    (mutation : Mutation ρ) (lease : Option LeaseContext)
    (execution : Option InitialSearchExecution) (now : Nat) :
    StoreState ρ × Except StoreError (Reply ρ) :=
  if JsText.trim searchId = "" then (st, .ok (.result (.session none)))
  else perform cfg st (JsText.trim searchId) (.mutate mutation lease execution) now

/-- `claimInitialSearchExecution`. -/
def claimInitialSearchExecution (cfg : StoreSettings ρ) (st : StoreState ρ) (searchId : SearchId)
    (execution : Option InitialSearchExecution) (now : Nat) :
    StoreState ρ × Except StoreError (Reply ρ) :=
  match execution with
  | none => (st, .error (writeFailure .staleInitialSearch))
  | some execution =>
    match st.sessions.get now (JsText.trim searchId) with
    | none =>
      (st, (requireSearchSession st searchId now).map fun session => .result (.session (some session)))
    | some _ => perform cfg st (JsText.trim searchId) (.claim execution) now

/-- `updateInitialSearchExecution`. -/
def updateInitialSearchExecution (cfg : StoreSettings ρ) (st : StoreState ρ)
    (searchId : SearchId) (updates : SessionUpdates ρ)
    (execution : Option InitialSearchExecution) (now : Nat) :
    StoreState ρ × Except StoreError (Reply ρ) :=
  match execution with
  | none => (st, .error (writeFailure .staleInitialSearch))
  | some execution =>
    mutateSession cfg st searchId (.assign (initialSearchUpdates updates)) none (some execution) now

/-- The updates that `tryAcquireSearchContinuation` makes under its lease. -/
def lockUpdates (cfg : StoreSettings ρ) (lockToken : String) (fencingNumber now : Nat) :
    SessionUpdates ρ :=
  { isContinuing := some true
    continuationLock := some (some lockToken)
    continuationLockExpiresAt := some (some (now + cfg.continuationLeaseTtlMs))
    continuationFencingNumber := some (some fencingNumber)
    lastError := some none }

/-- `tryAcquireSearchContinuation`. -/
def tryAcquireSearchContinuation (cfg : StoreSettings ρ) (st : StoreState ρ)
    (searchId : SearchId) (lockToken : String) (now : Nat) :
    StoreState ρ × Except StoreError (Reply ρ) :=
  match requireSearchSession st searchId now with
  | .error error => (st, .error error)
  | .ok current =>
    let r := acquireLease st (JsText.trim searchId) now lockToken cfg.continuationLeaseTtlMs
      cfg.tombstoneLifetimeMs
    match r.2 with
    | .busy => (r.1, .ok (.result (.lease false (some current))))
    | .missing =>
      (r.1,
        (requireSearchSession r.1 searchId now).map fun session => .result (.session (some session)))
    | .scriptError => (r.1, .error createOperationalStateUnavailableError)
    | .ok fence =>
      let w := mutateSession cfg r.1 searchId (.assign (lockUpdates cfg lockToken fence now))
        (getLeaseContext lockToken fence) none now
      match w.2 with
      | .ok (.result (.session session)) => (w.1, .ok (.acquired lockToken fence session))
      | .ok reply => (w.1, .ok reply)
      | .error error =>
        ((releaseLeaseOnly w.1 (JsText.trim searchId) now lockToken fence).1, .error error)

/-- `renewSearchContinuation`. -/
def renewSearchContinuation (cfg : StoreSettings ρ) (st : StoreState ρ) (searchId : SearchId)
    (lockToken : String) (fencingNumber : Option Int) (now : Nat) :
    StoreState ρ × Except StoreError (Reply ρ) :=
  match getLeaseContext lockToken (fencingNumber.getD 0) with
  | none => (st, .ok (.result (.lease false (readSearchSession st searchId now))))
  | some lease =>
    if JsText.trim searchId = "" then (st, .ok (.result (.lease false none)))
    else perform cfg st (JsText.trim searchId) (.renew lease) now

/-- `releaseSearchContinuation`; a fencing number that the options lack is taken from the
updates. -/
def releaseSearchContinuation (cfg : StoreSettings ρ) (st : StoreState ρ) (searchId : SearchId)
    (lockToken : String) (updates : SessionUpdates ρ) (fencingNumber : Option Int) (now : Nat) :
    StoreState ρ × Except StoreError (Reply ρ) :=
  let fencingNumber := fencingNumber <|> updates.continuationFencingNumber.join.map Int.ofNat
  match getLeaseContext lockToken (fencingNumber.getD 0) with
  | none => (st, .ok (.result (.lease false (readSearchSession st searchId now))))
  | some lease =>
    if JsText.trim searchId = "" then (st, .ok (.result (.lease false none)))
    else perform cfg st (JsText.trim searchId) (.release lease updates) now

/-! ## 4. Guards -/

variable {cfg : StoreSettings ρ} {st : StoreState ρ} {searchId : SearchId} {now : Nat}
  {op : Operation ρ} {current : Envelope ρ}

/-- The early returns of the write script between the revision and the budget. -/
def modeOutcome (nullText : String) (st : StoreState ρ) (searchId : SearchId)
    (args : WriteArgs ρ) : Option WriteOutcome :=
  initialClaimGuard st searchId args
    <|> initialOwnedGuard nullText st searchId args
    <|> unlockedGuard st searchId args
    <|> ownedGuard st searchId args

theorem writeGuards_eq (nullText : String) (st : StoreState ρ) (searchId : SearchId)
    (args : WriteArgs ρ) (total : Nat) :
    writeGuards nullText st searchId searchId args total =
      (revisionGuard st searchId args <|> modeOutcome nullText st searchId args <|>
        budgetGuard st searchId args total) := by
  unfold writeGuards modeOutcome
  cases revisionGuard st searchId args <;> cases initialClaimGuard st searchId args <;>
    cases initialOwnedGuard nullText st searchId args <;>
    cases unlockedGuard st searchId args <;> cases ownedGuard st searchId args <;> rfl

theorem budgetGuard_kind (st : StoreState ρ) (searchId : SearchId) (args : WriteArgs ρ)
    (total : Nat) : budgetGuard st searchId args total = none ∨
      budgetGuard st searchId args total = some .aggregateBudget := by
  unfold budgetGuard
  split
  · exact .inr rfl
  · exact .inl rfl

/-- The revision guard on a session at the revision that was read. -/
theorem revisionGuard_found {args : WriteArgs ρ}
    (hfound : st.sessions.get args.now searchId = some current)
    (hrevision : args.expectedRevision = current.revision) :
    revisionGuard st searchId args = none := by
  unfold revisionGuard
  rw [hfound, hrevision, if_neg (by omega)]
  simp

theorem getLeaseContext_eq_some {lockToken : String} {fencingNumber : Int} {lease : LeaseContext}
    (h : getLeaseContext lockToken fencingNumber = some lease) :
    lease.lockToken = lockToken ∧ (lease.fencingNumber : Int) = fencingNumber := by
  unfold getLeaseContext at h
  split at h
  · next hvalid =>
    cases h
    exact ⟨rfl, Int.toNat_of_nonneg (by omega)⟩
  · cases h

theorem getLeaseContext_of_pos {lockToken : String} (htoken : lockToken ≠ "") {fence : Nat}
    (hpos : 0 < fence) (hsafe : (fence : Int) ≤ maxSafeInteger) :
    ∃ lease, getLeaseContext lockToken fence = some lease ∧ lease.lockToken = lockToken ∧
      lease.fencingNumber = fence :=
  ⟨⟨lockToken, fence, htoken, hpos⟩, dif_pos ⟨htoken, hsafe, by omega⟩, rfl, rfl⟩

/-- The refusal of a write under a continuation lease, or without one. -/
def leaseRefusal (leases : Keyspace SearchId Lease) (searchId : SearchId) (now : Nat) :
    Option LeaseContext → Option WriteOutcome
  | none => if (leases.get now searchId).isSome then some .locked else none
  | some lease =>
    if leases.get now searchId = some ⟨lease.lockToken, lease.fencingNumber⟩ then none
    else some .staleLease

theorem modeOutcome_unlocked {nullText : String} {args : WriteArgs ρ}
    (hmode : args.lockMode = .unlocked) :
    modeOutcome nullText st searchId args = leaseRefusal st.leases searchId args.now none := by
  unfold modeOutcome initialClaimGuard initialOwnedGuard unlockedGuard ownedGuard leaseRefusal
  rw [hmode]
  cases st.leases.get args.now searchId <;> rfl

theorem modeOutcome_owned {nullText : String} {args : WriteArgs ρ} {lease : LeaseContext}
    (hmode : args.lockMode = .owned) (htoken : args.lockToken = lease.lockToken)
    (hfence : args.fencingNumber = lease.fencingNumber) :
    modeOutcome nullText st searchId args =
      leaseRefusal st.leases searchId args.now (some lease) := by
  unfold modeOutcome initialClaimGuard initialOwnedGuard unlockedGuard ownedGuard leaseRefusal
  rw [hmode, htoken, hfence]
  cases st.leases.get args.now searchId with
  | none => rfl
  | some held =>
    obtain ⟨token, fence⟩ := held
    by_cases hsame : token = lease.lockToken ∧ fence = lease.fencingNumber
    · simp [hsame]
    · have hne : token ≠ lease.lockToken ∨ fence ≠ lease.fencingNumber := by
        rwa [not_and_or] at hsame
      simp [hsame, hne]

theorem decoded_found {args : WriteArgs ρ}
    (hfound : st.sessions.get args.now searchId = some current)
    (hrevision : args.expectedRevision = current.revision) :
    decoded st searchId args = some current := by
  unfold decoded
  rw [hfound, hrevision, if_neg (by omega)]

theorem modeOutcome_claim {nullText : String} {args : WriteArgs ρ}
    (hmode : args.lockMode = .initialClaim)
    (hfound : st.sessions.get args.now searchId = some current)
    (hrevision : args.expectedRevision = current.revision)
    (hstage : current.session.initialSearchStage.get?.any InitialSearchStage.isTerminal = false)
    (hfence : current.session.initialSearchFencingNumber ≠ .null)
    (hnewer : current.session.initialSearchFencingNumber.get?.getD 0 < args.initialFencingNumber) :
    modeOutcome nullText st searchId args = none := by
  unfold modeOutcome initialClaimGuard initialOwnedGuard unlockedGuard ownedGuard
  rw [hmode, decoded_found hfound hrevision]
  have hopen : ¬(current.session.initialSearchStage = .value .complete ∨
      current.session.initialSearchStage = .value .failed) := by
    rintro (hstage' | hstage') <;> rw [hstage'] at hstage <;> cases hstage
  have hnumber : current.session.initialSearchFencingNumber.tonumber =
      some (current.session.initialSearchFencingNumber.get?.getD 0) := by
    cases hfield : current.session.initialSearchFencingNumber with
    | null => exact absurd hfield hfence
    | absent => rfl
    | value n => rfl
  have hgreater := Nat.not_le_of_lt hnewer
  simp only [if_pos, if_neg hopen, hnumber, if_neg hgreater]
  rfl

theorem modeOutcome_initialOwned {nullText : String} {args : WriteArgs ρ}
    (hmode : args.lockMode = .initialOwned)
    (hfound : st.sessions.get args.now searchId = some current)
    (hrevision : args.expectedRevision = current.revision) :
    modeOutcome nullText st searchId args =
      if current.session.initialSearchExecutionToken.tostring nullText =
            args.initialExecutionToken ∧
          current.session.initialSearchFencingNumber.tonumber = some args.initialFencingNumber
        then none
      else some .staleInitialSearch := by
  unfold modeOutcome initialClaimGuard initialOwnedGuard unlockedGuard ownedGuard
  rw [hmode, decoded_found hfound hrevision]
  by_cases howned : current.session.initialSearchExecutionToken.tostring nullText =
      args.initialExecutionToken ∧
    current.session.initialSearchFencingNumber.tonumber = some args.initialFencingNumber
  · simp [howned]
  · have hforeign := not_and_or.mp howned
    simp [howned, hforeign]

/-- The outcomes of a lock mode. -/
theorem modeOutcome_kind {nullText : String} {args : WriteArgs ρ} {outcome : WriteOutcome}
    (h : modeOutcome nullText st searchId args = some outcome) :
    (args.lockMode = .owned ∧ outcome = .staleLease) ∨ (args.lockMode = .unlocked ∧ outcome = .locked) ∨
    (args.lockMode = .initialOwned ∧ (outcome = .scriptError ∨ outcome = .staleInitialSearch)) ∨
    (args.lockMode = .initialClaim ∧ (outcome = .scriptError ∨ outcome = .initialTerminal ∨
      outcome = .staleInitialSearch)) := by
  unfold modeOutcome initialClaimGuard initialOwnedGuard unlockedGuard ownedGuard at h
  cases hmode : args.lockMode <;> simp only [hmode] at h <;> grind

/-! ## 5. Calls -/

/-- The error of a limit on sizes or counts. -/
def isCapacityError (error : StoreError) : Bool :=
  error.code == "SEARCH_SESSION_CAPACITY_REACHED" || error.code == "SEARCH_SESSION_TOO_LARGE"

/-- What a call comes to whose write is refused. -/
def refusal (session : SearchSession ρ) : Operation ρ → WriteOutcome → Except StoreError (Reply ρ)
  | .renew _, .staleLease | .release _ _, .staleLease =>
    .ok (.result (.lease false (some session)))
  | .claim _, .initialTerminal => .ok (.result (.claim false true session))
  | .claim _, .staleInitialSearch => .ok (.result (.claim false false session))
  | _, outcome => .error (writeFailure outcome)

/-- The ways a call ends that reads `current` and goes on to write. -/
inductive PerformCases (cfg : StoreSettings ρ) (st : StoreState ρ) (searchId : SearchId)
    (op : Operation ρ) (current : Envelope ρ) (now : Nat) :
    StoreState ρ × Except StoreError (Reply ρ) → Prop
  | capacity {st' : StoreState ρ} {error : StoreError} :
      isCapacityError error = true → PerformCases cfg st searchId op current now (st', .error error)
  | written :
      modeOutcome cfg.nullText (reap st now).2 searchId (writeArgs cfg now current op) = none →
      PerformCases cfg st searchId op current now
        (commitWrite (reap st now).2 searchId searchId (writeArgs cfg now current op)
          (reap st now).1,
          .ok (.result (committed (nextSession cfg now current.session op) op)))
  | refused {outcome : WriteOutcome} :
      modeOutcome cfg.nullText (reap st now).2 searchId (writeArgs cfg now current op) =
        some outcome →
      PerformCases cfg st searchId op current now
        ((reap st now).2, refusal current.session op outcome)

/-- A session whose time is not over survives the reaping. -/
theorem reap_keeps (hindexed : Indexed st) {v : Volatile (Envelope ρ)}
    (hstored : Hash.hget st.sessions searchId = some v) (hlive : now < v.expiresAt) :
    Hash.hget (reap st now).2.sessions searchId = some v := by
  rw [reap_sessions, Hash.hget_hdelAll, if_neg]
  · exact hstored
  · rw [SortedSet.notMem_zrangeByScore (hindexed.scores _ _ hstored)]
    exact hlive

/-- After a refused write a call ends, with one more read in some cases. -/
theorem settle_refused (hfound : st.sessions.get now searchId = some current)
    {args : WriteArgs ρ} {o : WriteOutcome} (hmode : args.lockMode = op.lockMode)
    (ho : modeOutcome cfg.nullText st searchId args = some o) (session : SearchSession ρ) :
    (settle cfg now 1 st ⟨searchId, op, afterWrite cfg op 0 session o⟩).1 = st ∧
      outcome (settle cfg now 1 st ⟨searchId, op, afterWrite cfg op 0 session o⟩).2 =
        refusal current.session op o := by
  have hkind := modeOutcome_kind ho
  rw [hmode] at hkind
  cases op with
  | claim execution =>
    simp only [Operation.lockMode, reduceCtorEq, false_and, true_and, false_or] at hkind
    rcases hkind with rfl | rfl | rfl
    · exact ⟨rfl, rfl⟩
    · simp [settle, afterWrite, commandEffect, Fate.reply, afterRequire, hfound, outcome, refusal]
    · simp [settle, afterWrite, commandEffect, Fate.reply, afterRequire, hfound, outcome, refusal]
  | renew lease =>
    simp only [Operation.lockMode, reduceCtorEq, false_and, true_and, or_false] at hkind
    subst hkind
    simp [settle, afterWrite, commandEffect, Fate.reply, hfound, outcome, refusal]
  | release lease updates =>
    simp only [Operation.lockMode, reduceCtorEq, false_and, true_and, or_false] at hkind
    subst hkind
    simp [settle, afterWrite, commandEffect, Fate.reply, hfound, outcome, refusal]
  | mutate mutation lease execution =>
    have hthrew : afterWrite cfg (.mutate mutation lease execution) 0 session o =
        .threw (writeFailure o) := by
      rcases hkind with ⟨-, rfl⟩ | ⟨-, rfl⟩ | ⟨-, rfl | rfl⟩ | ⟨-, rfl | rfl | rfl⟩ <;> rfl
    rw [hthrew]
    rcases hkind with ⟨-, rfl⟩ | ⟨-, rfl⟩ | ⟨-, rfl | rfl⟩ | ⟨-, rfl | rfl | rfl⟩ <;> exact ⟨rfl, rfl⟩

theorem perform_write (hindexed : Indexed st) {expiresAt : Nat}
    (hstored : Hash.hget st.sessions searchId = some ⟨current, expiresAt⟩)
    (hlive : now < expiresAt) (hread : afterRead op 0 (some current) = .write 0 current) :
    PerformCases cfg st searchId op current now (perform cfg st searchId op now) := by
  have hget : st.sessions.get now searchId = some current :=
    Keyspace.get_eq_some.mpr ⟨expiresAt, hstored, Nat.le_of_lt hlive⟩
  have hfound : (reap st now).2.sessions.get now searchId = some current :=
    Keyspace.get_eq_some.mpr ⟨expiresAt, reap_keeps hindexed hstored hlive, Nat.le_of_lt hlive⟩
  have hguards : writeGuards cfg.nullText (reap st now).2 searchId searchId
      (writeArgs cfg now current op) (reap st now).1 =
      (modeOutcome cfg.nullText (reap st now).2 searchId (writeArgs cfg now current op) <|>
        budgetGuard (reap st now).2 searchId (writeArgs cfg now current op) (reap st now).1) := by
    have hrevision : revisionGuard (reap st now).2 searchId (writeArgs cfg now current op) = none :=
      revisionGuard_found hfound rfl
    rw [writeGuards_eq, hrevision]
    rfl
  have hperform : perform cfg st searchId op now =
      (let w := writeEffect cfg st ⟨searchId, op, .write 0 current⟩ 0 current .answered now
       let r := settle cfg now 1 w.1 ⟨searchId, op, w.2.1⟩
       (r.1, outcome r.2)) := by
    simp only [perform, settle, commandEffect, hget, Fate.reply, hread]
  rw [hperform]
  by_cases hsize : cfg.maxSessionBytes < cfg.byteLength (nextEnvelope cfg now current op)
  · simp only [writeEffect, if_pos hsize, settle, commandEffect, outcome]
    exact .capacity (by decide)
  cases hmode : modeOutcome cfg.nullText (reap st now).2 searchId (writeArgs cfg now current op) with
  | some o =>
    have hrefused : sessionWrite cfg.nullText st searchId searchId (writeArgs cfg now current op) =
        ((reap st now).2, o) :=
      sessionWrite_refused (hguards.trans (by rw [hmode]; rfl))
    simp only [writeEffect, if_neg hsize, Fate.effect, Fate.reply, hrefused]
    obtain ⟨hstore, hreply⟩ := settle_refused hfound rfl hmode
      (nextEnvelope cfg now current op).session
    rw [hstore, hreply]
    exact .refused hmode
  | none =>
    cases hbudget : budgetGuard (reap st now).2 searchId (writeArgs cfg now current op)
        (reap st now).1 with
    | some o =>
      rcases budgetGuard_kind (reap st now).2 searchId (writeArgs cfg now current op)
        (reap st now).1 with hnone | hfull
      · rw [hnone] at hbudget
        cases hbudget
      rw [hfull] at hbudget
      cases hbudget
      have hrefused : sessionWrite cfg.nullText st searchId searchId
          (writeArgs cfg now current op) = ((reap st now).2, .aggregateBudget) :=
        sessionWrite_refused (hguards.trans (by rw [hmode, hfull]; rfl))
      have hthrew : ∀ session : SearchSession ρ, afterWrite cfg op 0 session .aggregateBudget =
          .threw (writeFailure .aggregateBudget) := by
        intro session
        cases op <;> rfl
      simp only [writeEffect, if_neg hsize, Fate.effect, Fate.reply, hrefused, hthrew, settle,
        commandEffect, outcome]
      exact .capacity (by decide)
    | none =>
      have hcommitted : sessionWrite cfg.nullText st searchId searchId
          (writeArgs cfg now current op) =
          (commitWrite (reap st now).2 searchId searchId (writeArgs cfg now current op)
            (reap st now).1,
          .ok (nextTotal (reap st now).2 searchId (writeArgs cfg now current op)
            (reap st now).1)) :=
        sessionWrite_committed (hguards.trans (by rw [hmode, hbudget]; rfl))
      have hreturned : ∀ n, afterWrite cfg op 0 (nextEnvelope cfg now current op).session (.ok n) =
          .returned (committed (nextEnvelope cfg now current op).session op) := by
        intro n
        cases op <;> rfl
      simp only [writeEffect, if_neg hsize, Fate.effect, Fate.reply, hcommitted, hreturned, settle,
        commandEffect, outcome]
      exact .written hmode

/-- A mutation, a renewal or a release without a session. -/
theorem perform_none (hnone : st.sessions.get now searchId = none) :
    (∀ mutation lease execution,
      perform cfg st searchId (.mutate mutation lease execution) now =
        (st, .ok (.result (.session none)))) ∧
    (∀ lease, perform cfg st searchId (.renew lease) now =
      (st, .ok (.result (.lease false none)))) ∧
    ∀ lease updates, perform cfg st searchId (.release lease updates) now =
      (st, .ok (.result (.lease false none))) := by
  refine ⟨fun mutation lease execution => ?_, fun lease => ?_, fun lease updates => ?_⟩
  all_goals
    simp only [perform, settle, commandEffect, hnone, Fate.reply, afterRead, outcome]

/-- A call that returns what it has read. -/
theorem perform_returned (hget : st.sessions.get now searchId = some current) {result : Result ρ}
    (hread : afterRead op 0 (some current) = .returned result) :
    perform cfg st searchId op now = (st, .ok (.result result)) := by
  simp only [perform, settle, commandEffect, hget, Fate.reply, hread, outcome]

variable (cfg) in
/-- The first attempt of a save, over a live session of the provided id or of an id that is
not known, with no lease on it, is the last. -/
theorem saveAttempts_write (input : SessionInput ρ) (draws : List SearchId)
    {provided fresh : SearchId} (hindexed : Indexed st)
    (hid : searchId = if provided = "" then fresh else provided)
    {existing : Option (Envelope ρ)}
    (hexisting : existing = none ∧ st.sessions.get now searchId = none ∧
        st.tombstones.get now searchId = none ∨
      provided ≠ "" ∧ ∃ current expiresAt, existing = some current ∧
        Hash.hget st.sessions searchId = some ⟨current, expiresAt⟩ ∧ now < expiresAt)
    (hlease : st.leases.get now searchId = none) :
    (∃ st' error, isCapacityError error = true ∧
      saveAttempts cfg input provided now (fresh :: draws) st = (st', .error error)) ∨
    saveAttempts cfg input provided now (fresh :: draws) st =
      (commitWrite (reap st now).2 searchId searchId
        (saveArgs cfg existing
          (buildSavedSession cfg input searchId (existing.map Envelope.session) now) now)
        (reap st now).1,
      .ok (.result (.session (some
        (buildSavedSession cfg input searchId (existing.map Envelope.session) now))))) := by
  have hcurrent : (if provided = "" then none else st.sessions.get now searchId) = existing := by
    rcases hexisting with ⟨rfl, hnone, -⟩ | ⟨hprovided, current, expiresAt, rfl, hstored, hlive⟩
    · split
      · rfl
      · exact hnone
    · rw [if_neg hprovided]
      exact Keyspace.get_eq_some.mpr ⟨expiresAt, hstored, Nat.le_of_lt hlive⟩
  unfold saveAttempts
  simp only [← hid, hcurrent]
  generalize hsession : buildSavedSession cfg input searchId (existing.map Envelope.session) now =
    session
  by_cases hsize : cfg.maxSessionBytes < cfg.byteLength (saveArgs cfg existing session now).serialized
  · rw [if_pos hsize]
    exact .inl ⟨st, sessionTooLarge, by decide, rfl⟩
  rw [if_neg hsize]
  have hmode : modeOutcome cfg.nullText (reap st now).2 searchId (saveArgs cfg existing session now) =
      none := by
    rw [modeOutcome_unlocked rfl, reap_state]
    simp only [leaseRefusal, saveArgs, hlease]
    rfl
  -- What is left are the limits.
  have hguards : writeGuards cfg.nullText (reap st now).2 searchId searchId
        (saveArgs cfg existing session now) (reap st now).1 = none ∨
      writeGuards cfg.nullText (reap st now).2 searchId searchId
        (saveArgs cfg existing session now) (reap st now).1 = some .capacity ∨
      writeGuards cfg.nullText (reap st now).2 searchId searchId
        (saveArgs cfg existing session now) (reap st now).1 = some .aggregateBudget := by
    have hrevision : revisionGuard (reap st now).2 searchId (saveArgs cfg existing session now) =
          none ∨
        revisionGuard (reap st now).2 searchId (saveArgs cfg existing session now) =
          some .capacity := by
      rcases hexisting with ⟨rfl, hnone, htomb⟩ | ⟨-, current, expiresAt, rfl, hstored, hlive⟩
      · have hgone : (reap st now).2.sessions.get now searchId = none := by
          by_contra hlive
          obtain ⟨e, hlive⟩ := Option.ne_none_iff_exists'.mp hlive
          rw [reap_live hlive] at hnone
          cases hnone
        have htomb' : (reap st now).2.tombstones.get now searchId = none := by
          rw [reap_state]
          exact htomb
        simp only [revisionGuard, saveArgs, Option.map_none, Option.getD_none, if_pos, hgone, htomb',
          Option.isSome_none, Bool.false_eq_true, if_false]
        by_cases hfull : cfg.maxSessions ≤ (reap st now).2.sizes.hlen
        · exact .inr (if_pos hfull)
        · exact .inl (if_neg hfull)
      · exact .inl (revisionGuard_found (Keyspace.get_eq_some.mpr
          ⟨expiresAt, reap_keeps hindexed hstored hlive, Nat.le_of_lt hlive⟩) rfl)
    rw [writeGuards_eq, hmode]
    rcases hrevision with hrevision | hrevision
    · rw [hrevision]
      rcases budgetGuard_kind (reap st now).2 searchId (saveArgs cfg existing session now)
        (reap st now).1 with hbudget | hbudget
      · exact .inl hbudget
      · exact .inr (.inr hbudget)
    · rw [hrevision]
      exact .inr (.inl rfl)
  have hrefused : ∀ outcome, writeGuards cfg.nullText (reap st now).2 searchId searchId
      (saveArgs cfg existing session now) (reap st now).1 = some outcome →
      sessionWrite cfg.nullText st searchId searchId (saveArgs cfg existing session now) =
        ((reap st now).2, outcome) := fun _ h => sessionWrite_refused h
  rcases hguards with hnone | hfull | hfull
  · have hwrite : sessionWrite cfg.nullText st searchId searchId
          (saveArgs cfg existing session now) =
        (commitWrite (reap st now).2 searchId searchId (saveArgs cfg existing session now)
            (reap st now).1,
          .ok (nextTotal (reap st now).2 searchId (saveArgs cfg existing session now)
            (reap st now).1)) := sessionWrite_committed hnone
    rw [hwrite]
    exact .inr rfl
  · rw [hrefused _ hfull]
    exact .inl ⟨_, writeFailure .capacity, by decide, rfl⟩
  · rw [hrefused _ hfull]
    exact .inl ⟨_, writeFailure .aggregateBudget, by decide, rfl⟩

/-- The lease script on a session without a lease. -/
theorem acquireLease_free (lockToken : String) (leaseTtl fenceTtl : Nat)
    (hget : st.sessions.get now searchId = some current)
    (hfree : st.leases.get now searchId = none)
    (hnumber : current.session.continuationFencingNumber ≠ .null) : ∃ fence fences,
      acquireLease st searchId now lockToken leaseTtl fenceTtl =
        ({ st with
            leases := st.leases.setPx now leaseTtl searchId ⟨lockToken, fence⟩
            fences := fences }, .ok fence) ∧
        fence = max (current.session.continuationFencingNumber.get?.getD 0)
          ((st.fences.get now searchId).getD 0) + 1 := by
  have htonumber : current.session.continuationFencingNumber.tonumber =
      some (current.session.continuationFencingNumber.get?.getD 0) := by
    cases hfield : current.session.continuationFencingNumber with
    | null => exact absurd hfield hnumber
    | absent => rfl
    | value n => rfl
  simp only [acquireLease, hget, hfree, htonumber]
  refine ⟨_, _, rfl, ?_⟩
  split <;> omega

variable (cfg) in
/-- A continuation lease that is free is taken, and the session says so, unless a limit is
reached. -/
theorem tryAcquire_write (hindexed : Indexed st) {searchId : SearchId} {expiresAt : Nat}
    (hstored : Hash.hget st.sessions (JsText.trim searchId) = some ⟨current, expiresAt⟩)
    (hlive : now < expiresAt)
    (hrequire : requireSearchSession st searchId now = .ok current.session)
    (hne : JsText.trim searchId ≠ "") (hfree : st.leases.get now (JsText.trim searchId) = none)
    (hnumber : current.session.continuationFencingNumber ≠ .null) {lockToken : String}
    (htoken : lockToken ≠ "")
    (hsafe : (max (current.session.continuationFencingNumber.get?.getD 0)
      ((st.fences.get now (JsText.trim searchId)).getD 0) : Nat) < maxSafeInteger) :
    (∃ st' error, isCapacityError error = true ∧
      tryAcquireSearchContinuation cfg st searchId lockToken now = (st', .error error)) ∨
    ∃ fences total lease, lease.lockToken = lockToken ∧
      tryAcquireSearchContinuation cfg st searchId lockToken now =
        (commitWrite
          (reap { st with
            leases := st.leases.setPx now cfg.continuationLeaseTtlMs (JsText.trim searchId)
              ⟨lockToken, lease.fencingNumber⟩
            fences := fences } now).2 (JsText.trim searchId) (JsText.trim searchId)
          (writeArgs cfg now current
            (.mutate (.assign (lockUpdates cfg lockToken lease.fencingNumber now)) (some lease) none))
          total,
        .ok (.acquired lockToken lease.fencingNumber (some (nextSession cfg now current.session
          (.mutate (.assign (lockUpdates cfg lockToken lease.fencingNumber now)) (some lease)
            none))))) := by
  have hget : st.sessions.get now (JsText.trim searchId) = some current :=
    Keyspace.get_eq_some.mpr ⟨expiresAt, hstored, Nat.le_of_lt hlive⟩
  obtain ⟨fence, fences, hacquired, hfence⟩ := acquireLease_free lockToken
    cfg.continuationLeaseTtlMs cfg.tombstoneLifetimeMs hget hfree hnumber
  obtain ⟨lease, hlease, htoken', rfl⟩ :=
    getLeaseContext_of_pos htoken (show 0 < fence by omega) (by omega)
  generalize hst' : ({ st with
      leases := st.leases.setPx now cfg.continuationLeaseTtlMs (JsText.trim searchId)
        ⟨lockToken, lease.fencingNumber⟩
      fences := fences } : StoreState ρ) = st' at hacquired
  have hcases : PerformCases cfg st' (JsText.trim searchId)
      (.mutate (.assign (lockUpdates cfg lockToken lease.fencingNumber now)) (some lease) none) current
      now (perform cfg st' (JsText.trim searchId)
        (.mutate (.assign (lockUpdates cfg lockToken lease.fencingNumber now)) (some lease) none)
        now) := by
    rw [← hst']
    exact perform_write ⟨hindexed.members, hindexed.scores⟩ hstored hlive rfl
  have hreply : tryAcquireSearchContinuation cfg st searchId lockToken now =
      (let w := perform cfg st' (JsText.trim searchId)
        (.mutate (.assign (lockUpdates cfg lockToken lease.fencingNumber now)) (some lease) none) now
      match w.2 with
      | .ok (.result (.session session)) =>
        (w.1, .ok (.acquired lockToken lease.fencingNumber session))
      | .ok reply => (w.1, .ok reply)
      | .error error =>
        ((releaseLeaseOnly w.1 (JsText.trim searchId) now lockToken lease.fencingNumber).1,
          .error error)) := by
    simp only [tryAcquireSearchContinuation, hrequire, hacquired, hlease, mutateSession, if_neg hne]
  -- The lease that was just taken lets the write pass.
  have hmode : modeOutcome cfg.nullText (reap st' now).2 (JsText.trim searchId)
      (writeArgs cfg now current (.mutate (.assign (lockUpdates cfg lockToken lease.fencingNumber now))
        (some lease) none)) = none := by
    have hheld : st'.leases.get now (JsText.trim searchId) =
        some ⟨lease.lockToken, lease.fencingNumber⟩ := by
      rw [← hst', htoken', Keyspace.get_setPx, if_pos rfl, if_pos (Nat.le_add_right _ _)]
    rw [modeOutcome_owned rfl rfl rfl, reap_state]
    exact if_pos hheld
  rw [hreply]
  generalize perform cfg st' (JsText.trim searchId)
    (.mutate (.assign (lockUpdates cfg lockToken lease.fencingNumber now)) (some lease) none) now = w
    at hcases ⊢
  cases hcases with
  | capacity herror => exact .inl ⟨_, _, herror, rfl⟩
  | written _ => exact .inr ⟨fences, _, lease, htoken', by rw [hst']; rfl⟩
  | refused hoccurred =>
    rw [hmode] at hoccurred
    cases hoccurred

end SmartStay.Session.Shared
