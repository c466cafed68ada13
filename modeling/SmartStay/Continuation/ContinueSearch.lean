import SmartStay.Continuation.SessionOutcome
import SmartStay.Session.InitialSearch

/-!
# `continueHotelSearch`

A call of `continueHotelSearch` is a program over the session store: it awaits one store
call after another and decides in between. This module runs any number of such calls, and
the updates of the workers, over the system of store calls of the session store, whose own
commands interleave as well.

1. `Held`, `ProviderOutcome`, `Task`, `Point`: where a call stands.
2. The decisions, in source order: before the lease, under the lease, the catch block.
3. The updates of a worker.
4. `System`, `Event`, `step`.
-/

namespace SmartStay.Continuation

open Session

/-! ## 1. Where a call stands -/

/-- The lease, `session` and `providerExecutions` of the `try` block. -/
structure Held where
  lease : LeaseContext
  session : Option StaySession
  executions : List ProviderExecution

/-- A page of results of one provider. -/
structure ProviderPage where
  hotels : List Hotel
  continuation : Option ProviderContinuation
  providerContext : Option String
  outcome : Option String
  code : Option String
  currency : Option String

/-- What `continueHotelSearchForProvider` came to: an exception, a response that says that
there are no results, another failed response as `getProviderContinuationFailure` reads it,
a page, or a value whose fields cannot be read (the message is that of the `TypeError`). -/
inductive ProviderOutcome
  | exception (code message : Option String) (retryable : Bool) (retryAfterMs : Option Nat)
  | noResults (code : Option String)
  | failed (failure : ProviderFailure)
  | page (page : ProviderPage)
  | malformed (message : String)

/-- The providers of `continuationResults` that are not applied yet, with their results. -/
abbrev Results := List (ProviderId × ProviderOutcome)

/-- What a call goes on with when its store call has ended. -/
inductive Task
  | recover (executions : List ProviderExecution)
  | finish (outcome : SessionOutcome)
  | wait (retryAfterMs : Option Nat)
  | lock (lease : LeaseContext)
  | begin (held : Held) (runnable : List ProviderId)
  | assertBefore (held : Held) (runnable : List ProviderId)
  | assertAfter (held : Held) (results : Results)
  | append (held : Held) (providerId : ProviderId) (page : ProviderPage) (results : Results)
  | currency (held : Held) (results : Results)
  | apply (held : Held) (results : Results)
  | release (held : Held) (outcome : SessionOutcome)
  | abort (error : ThrownError)

/-- Where a call stands: before a command of its own, waiting for its providers or for a
store call, or at its end. -/
inductive Point
  | enter
  | lockRead
  | lockScript (current : StaySession)
  | lockMissing
  | lockUndo (lease : LeaseContext) (error : StoreError)
  | providers (held : Held) (runnable : List ProviderId)
  | reread (held : Held) (currency : Option String) (results : Results)
  | await (c : CallId) (task : Task)
  | returned (response : SearchResponse)
  | threw (error : ThrownError)

/-- What a decision ends with: a point, or a store call to await. -/
inductive Next
  | goto (point : Point)
  | store (operation : Operation ProviderFields) (task : Task)

/-! ## 2. Decisions -/

/-- The assignments of a `getLegacyProviderSnapshot` with its executions. -/
def snapshotFields (executions : List ProviderExecution) (snapshot : LegacySnapshot)
    (fields : ProviderFields) : ProviderFields :=
  { fields with
    providerExecutions := some executions
    providerId := snapshot.providerId
    continuation := snapshot.continuation
    providerContext := snapshot.providerContext }

/-- `continuationLeaseIsActive`. -/
def continuationLeaseIsActive (session : StaySession) (now : Nat) : Bool :=
  session.isContinuing && session.continuationLock.any (· ≠ "") &&
    decide (now < session.continuationLockExpiresAt.getD 0)

/-- From `preLockOutcome` to the lease. -/
def beforeLock (executions : List ProviderExecution) (session : Option StaySession) (now : Nat) :
    Next :=
  let outcome := getContinuationSessionOutcome executions now
  if !outcome.searchIncomplete then
    match getLegacyProviderSnapshot executions session now with
    | .error message => .goto (.threw { message := message })
    | .ok snapshot =>
      .store (updateSearchSession
        { rest := snapshotFields executions { snapshot with continuation := none }
          status := some outcome.status
          searchIncomplete := some false
          isContinuing := some false
          lastError := some outcome.message
          retryable := some outcome.retryable
          retryAfterMs := some outcome.retryAfterMs } none) (.finish outcome)
  else if (getRunnableProviderExecutions executions now).isEmpty &&
      decide (0 < outcome.retryAfterMs.getD 0) then
    .store (updateSearchSession
      { rest := fun fields => { fields with providerExecutions := some executions }
        status := some .inProgress
        searchIncomplete := some true
        isContinuing := some false
        lastError := some none
        retryable := some true
        retryAfterMs := some outcome.retryAfterMs } none) (.wait outcome.retryAfterMs)
  else .goto .lockRead

/-- From the session that was read on entry. -/
def afterEnter (session : StaySession) (now : Nat) : Next :=
  if continuationLeaseIsActive session now then
    .goto (.returned (createContinuingSearchResponse (some session)))
  else
    let executions := normalizeSessionProviderExecutions session now
    let executions :=
      if session.isContinuing then recoverStaleProviderExecutions executions else executions
    if session.isContinuing || session.rest.providerExecutions.isNone then
      match getLegacyProviderSnapshot executions (some session) now with
      | .error message => .goto (.threw { message := message })
      | .ok snapshot =>
        .store (updateSearchSession
          { rest := snapshotFields executions snapshot
            isContinuing := some false
            continuationLock := some none
            continuationLockExpiresAt := some none } none) (.recover executions)
    else beforeLock executions (some session) now

/-- The catch block. -/
def abortWith (lease : LeaseContext) (error : ThrownError) : Next :=
  .store (.release lease { lastError := some (some error.message) }) (.abort error)

/-- Executions with their `getLegacyProviderSnapshot`, or the first exception of the two. -/
def withSnapshot (executions : Except String (List ProviderExecution))
    (session : Option StaySession) (now : Nat) :
    Except String (List ProviderExecution × LegacySnapshot) :=
  executions.bind fun executions =>
    (getLegacyProviderSnapshot executions session now).map fun snapshot => (executions, snapshot)

/-- `beginProviderExecutionAttempt` for one provider after the other. -/
def beginAll (executions : List ProviderExecution) (now : Nat) :
    List ProviderId → Except String (List ProviderExecution)
  | [] => .ok executions
  | providerId :: runnable =>
    (beginProviderExecutionAttempt executions providerId now).bind fun executions =>
      beginAll executions now runnable

/-- From the locked session to the write of the begun executions. -/
def afterLock (lease : LeaseContext) (session : Option StaySession) (now : Nat) : Next :=
  let executions := match session with
    | some session => normalizeSessionProviderExecutions session now
    | none => []
  let runnable := (getRunnableProviderExecutions executions now).map
    ProviderExecution.providerId
  match withSnapshot (beginAll executions now runnable) session now with
  | .error message => abortWith lease { message := message }
  | .ok (executions, snapshot) =>
    .store (updateSearchSession
      { rest := snapshotFields executions snapshot
        status := some .inProgress
        searchIncomplete := some true
        isContinuing := some true
        lastError := some none
        retryable := some false
        retryAfterMs := some none } (some lease))
      (.begin ⟨lease, session, executions⟩ runnable)

/-- The end of the loop over the results: the outcome and the release. -/
def releaseHeld (held : Held) (now : Nat) : Next :=
  let outcome := getContinuationSessionOutcome held.executions now
  match getLegacyProviderSnapshot held.executions held.session now with
  | .error message => abortWith held.lease { message := message }
  | .ok snapshot =>
    .store (.release held.lease
      { rest := snapshotFields held.executions snapshot
        status := some outcome.status
        searchIncomplete := some outcome.searchIncomplete
        lastError := some outcome.message
        retryable := some outcome.retryable
        retryAfterMs := some outcome.retryAfterMs }) (.release held outcome)

/-- The write after a result has been applied to the executions, or the exception of the
application. -/
def afterApplied (held : Held) (applied : Except String (List ProviderExecution))
    (results : Results) (now : Nat) : Next :=
  match withSnapshot applied held.session now with
  | .error message => abortWith held.lease { message := message }
  | .ok (executions, snapshot) =>
    .store (updateSearchSession
      { rest := snapshotFields executions snapshot
        isContinuing := some true
        retryable := some false
        retryAfterMs := some none } (some held.lease))
      (.apply { held with executions := executions } results)

/-- `activeExecution.providerContext`. -/
def activeContext (executions : List ProviderExecution) (providerId : ProviderId) :
    Option String :=
  (executions.find? (·.providerId == providerId)).bind ProviderExecution.providerContext

/-- The failure that the loop makes of an exception of a provider. -/
def exceptionFailure (code message : Option String) (retryable : Bool)
    (retryAfterMs : Option Nat) : ProviderFailure :=
  { outcome := "error"
    code := some (code.getD "PROVIDER_CONTINUATION_EXCEPTION")
    message := message.getD "Provider continuation failed."
    retryable := retryable
    retryAfterMs := retryAfterMs }

/-- One turn of the loop over the results. -/
def nextResult (held : Held) (results : Results) (now : Nat) : Next :=
  match results with
  | [] => releaseHeld held now
  | (providerId, .exception code message retryable retryAfterMs) :: results =>
    afterApplied held (applyProviderExecutionFailure held.executions providerId
      (exceptionFailure code message retryable retryAfterMs) now) results now
  | (providerId, .noResults code) :: results =>
    afterApplied held (applyProviderExecutionSuccess held.executions providerId
      { providerContext := activeContext held.executions providerId
        outcome := "no_results"
        code := code } now) results now
  | (providerId, .failed failure) :: results =>
    afterApplied held (applyProviderExecutionFailure held.executions providerId failure now)
      results now
  | (providerId, .page page) :: results =>
    .store (appendHotelsToSearchSession page.hotels (some held.lease))
      (.append held providerId page results)
  | (_, .malformed message) :: _ => abortWith held.lease { message := message }

/-- After the hotels of a page are appended. -/
def afterAppend (held : Held) (providerId : ProviderId) (page : ProviderPage) (results : Results)
    (now : Nat) : Next :=
  match applyProviderExecutionSuccess held.executions providerId
      { continuation := page.continuation
        providerContext :=
          page.providerContext <|> activeContext held.executions providerId
        outcome := page.outcome.getD "success"
        code := page.code } now with
  | .error message => abortWith held.lease { message := message }
  | .ok executions => .goto (.reread { held with executions := executions } page.currency results)

/-- After the session is read again. -/
def afterReread (held : Held) (currency : Option String) (results : Results)
    (session : StaySession) (now : Nat) : Next :=
  let held := { held with session := some session }
  match currency with
  | some currency =>
    if currency = "" then afterApplied held (.ok held.executions) results now
    else
      .store (updateSearchSession
        { rest := fun fields => { fields with currency := some currency } } (some held.lease))
        (.currency held results)
  | none => afterApplied held (.ok held.executions) results now

/-- The session or the lease that a store call has returned. -/
def resultSession : Result ProviderFields → Option StaySession
  | .session session | .lease _ session => session
  | .claim _ _ session => some session

/-- `renewal.renewed`, `releaseResult.released`. -/
def resultHeld : Result ProviderFields → Bool
  | .lease held _ => held
  | .session _ | .claim _ _ _ => false

/-- What follows a store call that has returned. -/
def afterReturn (task : Task) (result : Result ProviderFields) (now : Nat) : Next :=
  match task with
  | .recover executions => beforeLock executions (resultSession result) now
  | .finish outcome => .goto (.returned (outcomeResponse (resultSession result) outcome))
  | .wait retryAfterMs =>
    .goto (.returned (createSearchSessionResponse (resultSession result) true none none
      (some true) retryAfterMs))
  | .lock lease => afterLock lease (resultSession result) now
  | .begin held runnable =>
    .store (.renew held.lease)
      (.assertBefore { held with session := resultSession result } runnable)
  | .assertBefore held runnable =>
    if resultHeld result then .goto (.providers held runnable)
    else abortWith held.lease continuationLeaseLost
  | .assertAfter held results =>
    if resultHeld result then nextResult held results now
    else abortWith held.lease continuationLeaseLost
  | .append held providerId page results => afterAppend held providerId page results now
  | .currency held results =>
    afterApplied { held with session := resultSession result } (.ok held.executions) results now
  | .apply held results => nextResult { held with session := resultSession result } results now
  | .release held outcome =>
    if resultHeld result then
      .goto (.returned (outcomeResponse (resultSession result) outcome))
    else abortWith held.lease releaseRefused
  | .abort error => .goto (.threw error)

/-- What follows a store call that has thrown. -/
def afterThrow (task : Task) (error : StoreError) : Next :=
  let thrown := ThrownError.ofStore error
  match task with
  | .recover _ | .finish _ | .wait _ | .abort _ => .goto (.threw thrown)
  | .lock lease => .goto (.lockUndo lease error)
  | .begin held _ | .assertBefore held _ | .assertAfter held _ | .append held _ _ _
  | .currency held _ | .apply held _ | .release held _ => abortWith held.lease thrown

/-- What follows the script that grants a lease. A fence is a safe integer. -/
def afterLockScript (current : StaySession) (lockToken : String) :
    AcquireOutcome → Option Next
  | .busy => some (.goto (.returned (createContinuingSearchResponse (some current))))
  | .missing => some (.goto .lockMissing)
  | .scriptError =>
    some (.goto (.threw (.ofStore createOperationalStateUnavailableError)))
  | .ok fence =>
    (getLeaseContext lockToken fence).map fun lease =>
      .store (lockSearchContinuation lease) (.lock lease)

/-! ## 3. Workers -/

/-- An update of the initial search: the claim, the session that `persistInitialSession` is
given, `markQueuedHotelSearchRetry` and `markQueuedHotelSearchFailed`. -/
inductive WorkerUpdate
  | claim
  | persist (session : SessionUpdates ProviderFields)
  | retry (retryAfterMs : Nat)
  | failed (retryable : Bool) (retryAfterMs : Option Nat)

/-- The store call of an update. -/
def WorkerUpdate.operation (execution : InitialSearchExecution) :
    WorkerUpdate → Operation ProviderFields
  | .claim => .claim execution
  | .persist session =>
    updateInitialSearchExecution
      { session with
        initialSearchStage := some .complete
        initialSearchExecutionToken := some none
        initialSearchFencingNumber := none } execution
  | .retry retryAfterMs =>
    updateInitialSearchExecution
      { initialSearchStage := some .retrying
        status := some .queued
        searchIncomplete := some true
        isContinuing := some false
        lastError := some none
        retryable := some true
        retryAfterMs := some (some retryAfterMs) } execution
  | .failed retryable retryAfterMs =>
    updateInitialSearchExecution
      { initialSearchStage := some .failed
        initialSearchExecutionToken := some none
        status := some .failed
        searchIncomplete := some false
        isContinuing := some false
        lastError := some (some "Accommodation search could not be completed.")
        retryable := some retryable
        retryAfterMs := some retryAfterMs } execution

/-! ## 4. The system -/

abbrev ClientId := Nat

/-- A call of `continueHotelSearch`. -/
structure ContinueCall where
  searchId : SearchId
  point : Point

/-- The store with its calls, and the calls of `continueHotelSearch`. -/
structure System where
  base : Session.System ProviderFields
  clients : Hash ClientId ContinueCall

/-- `requireSearchSession`. -/
def requireSearchSession (st : StoreState ProviderFields) (searchId : SearchId) (now : Nat) :
    Except StoreError StaySession :=
  match st.sessions.get now searchId with
  | some envelope => .ok envelope.session
  | none =>
    if (st.tombstones.get now searchId).isSome then .error sessionExpired
    else .error sessionNotFound

/-- The next command of a call, or its turn after the store call it awaits: the store and
what the call does next. A call that waits for its providers or has ended has none. -/
def turn (cfg : StoreSettings ProviderFields) (base : Session.System ProviderFields)
    (call : ContinueCall) (fate : Fate) (now : Nat) (lockToken : String) :
    Option (StoreState ProviderFields × Next) :=
  let st := base.store
  let threw := fun error => Next.goto (.threw (.ofStore error))
  let unavailable := threw createOperationalStateUnavailableError
  match call.point with
  | .enter =>
    some (st, fate.reply (match requireSearchSession st call.searchId now with
      | .ok session => afterEnter session now
      | .error error => threw error) unavailable)
  | .lockRead =>
    some (st, fate.reply (match requireSearchSession st call.searchId now with
      | .ok session => .goto (.lockScript session)
      | .error error => threw error) unavailable)
  | .lockScript current =>
    let r := acquireLease st call.searchId now lockToken cfg.continuationLeaseTtlMs
      cfg.tombstoneLifetimeMs
    (afterLockScript current lockToken r.2).map fun next =>
      (fate.effect st r.1, fate.reply next unavailable)
  | .lockMissing =>
    some (st, fate.reply (match requireSearchSession st call.searchId now with
      | .ok _ => .goto (.returned (createContinuingSearchResponse none))
      | .error error => threw error) unavailable)
  | .lockUndo lease error =>
    some (fate.effect st (releaseLeaseOnly st call.searchId now lease.lockToken
      lease.fencingNumber).1, fate.reply (threw error) unavailable)
  | .reread held currency results =>
    let failed := fun error => abortWith held.lease (.ofStore error)
    some (st, fate.reply (match requireSearchSession st call.searchId now with
      | .ok session => afterReread held currency results session now
      | .error error => failed error) (failed createOperationalStateUnavailableError))
  | .await c task =>
    match (base.calls.hget c).map SessionCall.phase with
    | some (.returned result) => some (st, afterReturn task result now)
    | some (.threw error) => some (st, afterThrow task error)
    | _ => none
  | .providers _ _ | .returned _ | .threw _ => none

/-- A move of the system. `worker` starts an update of the initial search, `command` runs
a command of a store call, `enter` starts a call of `continueHotelSearch`, `turn` is its
next turn and `settled` the end of its provider calls; `c` names the store call that a turn
starts, if it starts one. -/
inductive Event
  | worker (c : CallId) (searchId : SearchId) (execution : InitialSearchExecution)
      (update : WorkerUpdate)
  | command (c : CallId) (fate : Fate) (now : Nat)
  | stats (now : Nat)
  | clear (searchId : SearchId)
  | enter (id : ClientId) (searchId : SearchId)
  | turn (id : ClientId) (fate : Fate) (now : Nat) (lockToken : String) (c : CallId)
  | settled (id : ClientId) (outcomes : List ProviderOutcome) (c : CallId)

/-- The system after a decision of a call over the base `base`. -/
def System.proceed (cfg : StoreSettings ProviderFields) (s : System)
    (base : Session.System ProviderFields) (id : ClientId) (call : ContinueCall) (c : CallId) :
    Next → Option System
  | .goto point => some ⟨base, s.clients.hset id { call with point := point }⟩
  | .store operation task =>
    (Session.step cfg base (.start c call.searchId operation)).map fun base =>
      ⟨base, s.clients.hset id { call with point := .await c task }⟩

/-- One step. No admission token is the text that Lua gives the null value. -/
def step (cfg : StoreSettings ProviderFields) (s : System) : Event → Option System
  | .worker c searchId execution update =>
    if execution.executionToken = cfg.nullText then none
    else
      (Session.step cfg s.base (.start c searchId (update.operation execution))).map fun base =>
        { s with base := base }
  | .command c fate now =>
    (Session.step cfg s.base (.command c fate now)).map fun base => { s with base := base }
  | .stats now =>
    (Session.step cfg s.base (.script (.stats now))).map fun base => { s with base := base }
  | .clear searchId =>
    (Session.step cfg s.base (.script (.clear searchId))).map fun base => { s with base := base }
  | .enter id searchId =>
    if id ∈ s.clients then none
    else some { s with clients := s.clients.hset id ⟨searchId, .enter⟩ }
  | .turn id fate now lockToken c =>
    if now < s.base.clock then none
    else
      (s.clients.hget id).bind fun call =>
        (turn cfg s.base call fate now lockToken).bind fun r =>
          s.proceed cfg { s.base with clock := now, store := r.1 } id call c r.2
  | .settled id outcomes c =>
    (s.clients.hget id).bind fun call =>
      match call.point with
      | .providers held runnable =>
        if outcomes.length = runnable.length then
          s.proceed cfg s.base id call c
            (.store (.renew held.lease) (.assertAfter held (runnable.zip outcomes)))
        else none
      | _ => none

/-- The runs from a store without calls. `start` says which stores. -/
def system (cfg : StoreSettings ProviderFields) (start : StoreState ProviderFields → Prop) :
    Machine System Event where
  init s := (start s.base.store ∧ s.base.calls = ∅ ∧ s.base.commits = []) ∧ s.clients = ∅
  step := step cfg

/-- The defaults of the store; every envelope counts as 400 bytes. -/
def sampleSettings : StoreSettings ProviderFields where
  sessionTtlMs := 1800000
  tombstoneLifetimeMs := 3600000
  continuationLeaseTtlMs := 300000
  maxSessions := 500
  maxSessionBytes := 1048576
  aggregateSessionBytes := 67108864
  casRetries := 12
  byteLength _ := 400
  nullText := "userdata: NULL"
  sessionTtl_pos := defaultSessionTtl_pos
  tombstoneLifetime_pos := defaultTombstoneTtl_pos
  continuationLeaseTtl_pos := defaultLeaseTtl_pos

/-- The store after `saveSearchSession` has saved its first session at 0. -/
def savedStore (session : StaySession) : StoreState ProviderFields :=
  { (StoreState.empty : StoreState ProviderFields) with
    sessions := Keyspace.setPx ∅ 0 1800000 session.searchId { revision := 1, session := session }
    tombstones := Keyspace.setPx ∅ 0 3600000 session.searchId ()
    expiry := SortedSet.zadd ∅ 1800000 session.searchId
    sizes := Hash.hset ∅ session.searchId 400
    totalBytes := 400 }

end SmartStay.Continuation
