import SmartStay.Lib.Command
import SmartStay.Lib.Text
import SmartStay.Session.Scripts
import SmartStay.Shared

/-!
# The functions of the session store

The mutations of `createValkeySearchSessionAdapters` are loops: read the envelope,
compute the next session from it, write it under a compare-and-set on the revision, and
start again on a conflict. This module embeds the loops as calls that run one command at
a time, so that any number of them interleave.

1. Contexts and updates.
2. `nextSession`, `writeArgs`: what one operation writes over an envelope.
3. `Phase`: where a call stands, and the decisions between two commands.
4. `System`, `Event`, `step`: the interleavings, with a log of the committed writes.
-/

namespace SmartStay.Session

/-! ## 1. Contexts and updates -/

/-- `Number.MAX_SAFE_INTEGER`. -/
def maxSafeInteger : Int := 9007199254740991

/-- The result of `getLeaseContext`. -/
@[ext]
structure LeaseContext where
  lockToken : String
  fencingNumber : Nat
  token_nonempty : lockToken ≠ ""
  fence_pos : 0 < fencingNumber
deriving Repr

instance : DecidableEq LeaseContext := fun _ _ => decidable_of_iff _ LeaseContext.ext_iff.symm

/-- The result of `getInitialSearchExecutionContext`. -/
@[ext]
structure InitialSearchExecution where
  executionToken : String
  fencingNumber : Nat
  token_nonempty : executionToken ≠ ""
  fence_pos : 0 < fencingNumber
deriving Repr

instance : DecidableEq InitialSearchExecution := fun _ _ =>
  decidable_of_iff _ InitialSearchExecution.ext_iff.symm

/-- `getLeaseContext`. -/
def getLeaseContext (lockToken : String) (fencingNumber : Int) : Option LeaseContext :=
  if h : lockToken ≠ "" ∧ fencingNumber ≤ maxSafeInteger ∧ 0 < fencingNumber then
    some ⟨lockToken, fencingNumber.toNat, h.1, by omega⟩
  else none

/-- `getInitialSearchExecutionContext`. -/
def getInitialSearchExecutionContext (executionToken : String) (fencingNumber : Int) :
    Option InitialSearchExecution :=
  if h : JsText.trim executionToken ≠ "" ∧ fencingNumber ≤ maxSafeInteger ∧ 0 < fencingNumber then
    some ⟨JsText.trim executionToken, fencingNumber.toNat, h.1, by omega⟩
  else none

/-- An `updates` object: the fields it sets. -/
structure SessionUpdates (ρ : Type) where
  hotels : Option (List Hotel) := none
  totalHotels : Option Nat := none
  status : Option SearchStatus := none
  searchIncomplete : Option Bool := none
  isContinuing : Option Bool := none
  continuationLock : Option (Option String) := none
  continuationLockExpiresAt : Option (Option Nat) := none
  continuationFencingNumber : Option (Option Nat) := none
  lastError : Option (Option String) := none
  retryable : Option Bool := none
  retryAfterMs : Option (Option Nat) := none
  initialSearchStage : Option InitialSearchStage := none
  initialSearchExecutionToken : Option (Option String) := none
  initialSearchFencingNumber : Option Nat := none
  rest : ρ → ρ := id

variable {ρ : Type}

/-- `{ ...session, ...updates }`. -/
def SearchSession.assign (session : SearchSession ρ) (updates : SessionUpdates ρ) :
    SearchSession ρ :=
  { session with
    hotels := updates.hotels.getD session.hotels
    totalHotels := updates.totalHotels <|> session.totalHotels
    status := updates.status.getD session.status
    searchIncomplete := updates.searchIncomplete.getD session.searchIncomplete
    isContinuing := updates.isContinuing.getD session.isContinuing
    continuationLock := updates.continuationLock.getD session.continuationLock
    continuationLockExpiresAt :=
      updates.continuationLockExpiresAt.getD session.continuationLockExpiresAt
    continuationFencingNumber :=
      (updates.continuationFencingNumber.map JsonField.ofOption).getD session.continuationFencingNumber
    lastError := updates.lastError.getD session.lastError
    retryable := updates.retryable.getD session.retryable
    retryAfterMs := updates.retryAfterMs.getD session.retryAfterMs
    initialSearchStage :=
      (updates.initialSearchStage.map JsonField.value).getD session.initialSearchStage
    initialSearchExecutionToken :=
      (updates.initialSearchExecutionToken.map JsonField.ofOption).getD
        session.initialSearchExecutionToken
    initialSearchFencingNumber :=
      (updates.initialSearchFencingNumber.map JsonField.value).getD session.initialSearchFencingNumber
    rest := updates.rest session.rest }

/-- `hotelsById.set(hotel.id, hotel)` on the values of the map: a known id keeps its
place, a new one goes to the end, a hotel without an id is skipped. -/
def setHotel (hotels : List Hotel) (hotel : Hotel) : List Hotel :=
  match hotel.id with
  | none => hotels
  | some id =>
    if hotels.any (·.id == some id) then hotels.map fun h => if h.id == some id then hotel else h
    else hotels ++ [hotel]

/-- `mergedHotels`. -/
def mergeHotels (current added : List Hotel) : List Hotel := (current ++ added).foldl setHotel []

/-! ## 2. Operations -/

/-- The settings of the adapters. `byteLength` is the size of the JSON text of an envelope,
`nullText` the text that Lua gives the null value of `cjson`. -/
structure StoreSettings (ρ : Type) where
  sessionTtlMs : Nat
  tombstoneLifetimeMs : Nat
  continuationLeaseTtlMs : Nat
  maxSessions : Nat
  maxSessionBytes : Nat
  aggregateSessionBytes : Nat
  casRetries : Nat
  byteLength : Envelope ρ → Nat
  nullText : String
  sessionTtl_pos : 0 < sessionTtlMs
  tombstoneLifetime_pos : 0 < tombstoneLifetimeMs
  continuationLeaseTtl_pos : 0 < continuationLeaseTtlMs

/-- The `mutate` argument of `mutateSession`; `lock` is the one that
`tryAcquireSearchContinuation` passes. -/
inductive Mutation (ρ : Type)
  | assign (updates : SessionUpdates ρ)
  | lock (lease : LeaseContext)
  | appendHotels (hotels : List Hotel)

/-- `mutate(session)`, where a lease taken now runs until `leaseExpiresAt`. -/
def Mutation.candidate (leaseExpiresAt : Nat) (session : SearchSession ρ) :
    Mutation ρ → SessionUpdates ρ
  | .assign updates => updates
  | .lock lease =>
    { isContinuing := some true
      continuationLock := some (some lease.lockToken)
      continuationLockExpiresAt := some (some leaseExpiresAt)
      continuationFencingNumber := some (some lease.fencingNumber)
      lastError := some none }
  | .appendHotels hotels =>
    { hotels := some (mergeHotels session.hotels hotels)
      totalHotels := some (mergeHotels session.hotels hotels).length }

/-- A read-modify-write loop of the store: `claimInitialSearchExecution`, `mutateSession`,
`renewSearchContinuation` and `releaseSearchContinuation`. -/
inductive Operation (ρ : Type)
  | claim (execution : InitialSearchExecution)
  | mutate (mutation : Mutation ρ) (lease : Option LeaseContext)
      (execution : Option InitialSearchExecution)
  | renew (lease : LeaseContext)
  | release (lease : LeaseContext) (updates : SessionUpdates ρ)

/-- The operation of `updateSearchSession`. -/
def updateSearchSession (updates : SessionUpdates ρ) (lease : Option LeaseContext) :
    Operation ρ := .mutate (.assign updates) lease none

/-- The write of `tryAcquireSearchContinuation`, after its script has granted the lease. -/
def lockSearchContinuation (lease : LeaseContext) : Operation ρ :=
  .mutate (.lock lease) (some lease) none

/-- The operation of `appendHotelsToSearchSession`. -/
def appendHotelsToSearchSession (hotels : List Hotel) (lease : Option LeaseContext) :
    Operation ρ := .mutate (.appendHotels hotels) lease none

/-- `nextUpdates` of `updateInitialSearchExecution`: a terminal stage gives up the token. -/
def initialSearchUpdates (updates : SessionUpdates ρ) : SessionUpdates ρ :=
  if updates.initialSearchStage.any InitialSearchStage.isTerminal then
    { updates with initialSearchExecutionToken := some none }
  else updates

/-- The operation of `updateInitialSearchExecution` once its context is accepted. -/
def updateInitialSearchExecution (updates : SessionUpdates ρ)
    (execution : InitialSearchExecution) : Operation ρ :=
  .mutate (.assign (initialSearchUpdates updates)) none (some execution)

/-- The session that an operation writes over `current` at the time `now`. -/
def nextSession (cfg : StoreSettings ρ) (now : Nat) (current : SearchSession ρ) :
    Operation ρ → SearchSession ρ
  | .claim execution =>
    { current with
      initialSearchStage := .value .running
      initialSearchExecutionToken := .value execution.executionToken
      initialSearchFencingNumber := .value execution.fencingNumber
      status := .running, searchIncomplete := true, isContinuing := false
      lastError := none, retryable := false, retryAfterMs := some 2000
      updatedAt := now, expiresAt := now + cfg.sessionTtlMs }
  | .mutate mutation _ _ =>
    { current.assign (mutation.candidate (now + cfg.continuationLeaseTtlMs) current) with
      updatedAt := now, expiresAt := now + cfg.sessionTtlMs }
  | .renew lease =>
    { current with
      isContinuing := true, continuationLock := some lease.lockToken
      continuationLockExpiresAt := some (now + cfg.continuationLeaseTtlMs)
      continuationFencingNumber := .value lease.fencingNumber
      updatedAt := now, expiresAt := now + cfg.sessionTtlMs }
  | .release lease updates =>
    { current.assign updates with
      isContinuing := false, continuationLock := none, continuationLockExpiresAt := none
      continuationFencingNumber := .value lease.fencingNumber
      updatedAt := now, expiresAt := now + cfg.sessionTtlMs }

/-- `initialSearchExecution` of an operation. -/
def Operation.execution? : Operation ρ → Option InitialSearchExecution
  | .claim execution => some execution
  | .mutate _ _ execution => execution
  | .renew _ | .release _ _ => none

/-- `leaseContext` of an operation. -/
def Operation.lease? : Operation ρ → Option LeaseContext
  | .claim _ => none
  | .mutate _ lease _ => lease
  | .renew lease | .release lease _ => some lease

def Operation.lockMode : Operation ρ → LockMode
  | .claim _ => .initialClaim
  | .mutate _ _ (some _) => .initialOwned
  | .mutate _ (some _) none => .owned
  | .mutate _ none none => .unlocked
  | .renew _ | .release _ _ => .owned

def Operation.leaseAction : Operation ρ → LeaseAction
  | .claim _ | .mutate _ _ _ => .keep
  | .renew _ => .renew
  | .release _ _ => .delete

/-- The envelope that `writeEnvelope` serialises. -/
def nextEnvelope (cfg : StoreSettings ρ) (now : Nat) (current : Envelope ρ) (op : Operation ρ) :
    Envelope ρ :=
  { revision := current.revision + 1, session := nextSession cfg now current.session op }

/-- The arguments that `writeEnvelope` passes to the write script. -/
def writeArgs (cfg : StoreSettings ρ) (now : Nat) (current : Envelope ρ) (op : Operation ρ) :
    WriteArgs ρ where
  now := now
  sessionTtl := cfg.sessionTtlMs
  tombstoneTtl := cfg.tombstoneLifetimeMs
  serialized := nextEnvelope cfg now current op
  newBytes := cfg.byteLength (nextEnvelope cfg now current op)
  expectedRevision := current.revision
  maxCount := cfg.maxSessions
  aggregateBudget := cfg.aggregateSessionBytes
  lockMode := op.lockMode
  lockToken := (op.lease?.map LeaseContext.lockToken).getD ""
  fencingNumber := (op.lease?.map LeaseContext.fencingNumber).getD 0
  leaseAction := op.leaseAction
  leaseTtl := cfg.continuationLeaseTtlMs
  initialExecutionToken := (op.execution?.map InitialSearchExecution.executionToken).getD ""
  initialFencingNumber := (op.execution?.map InitialSearchExecution.fencingNumber).getD 0
  sessionTtl_pos := cfg.sessionTtl_pos
  tombstoneTtl_pos := cfg.tombstoneLifetime_pos
  leaseTtl_pos := cfg.continuationLeaseTtl_pos

/-! ## 3. Where a call stands -/

/-- The error of `serializeBounded` in `writeEnvelope`. -/
def sessionTooLarge : StoreError :=
  { code := "SEARCH_SESSION_TOO_LARGE"
    message := "The search session exceeds the shared-state size limit."
    status := 503 }

def sessionExpired : StoreError :=
  { code := "SEARCH_SESSION_EXPIRED"
    message := "This search session has expired. Start a new search."
    status := 410 }

def sessionNotFound : StoreError :=
  { code := "SEARCH_SESSION_NOT_FOUND"
    message := "The requested search session was not found."
    status := 404 }

/-- `throwWriteFailure`. -/
def writeFailure : WriteOutcome → StoreError
  | .capacity | .aggregateBudget =>
    { code := "SEARCH_SESSION_CAPACITY_REACHED"
      message := "Hotel search capacity is temporarily full. Please try again shortly."
      status := 503
      retryable := true
      retryAfterMs := some 1000 }
  | .staleLease =>
    { code := "SEARCH_CONTINUATION_LEASE_STALE"
      message := "This search continuation is already being processed."
      status := 409
      retryable := true
      retryAfterMs := some 250 }
  | .locked =>
    { code := "SEARCH_CONTINUATION_IN_PROGRESS"
      message := "This search continuation is already being processed."
      status := 409
      retryable := true
      retryAfterMs := some 250 }
  | .staleInitialSearch =>
    { code := "SEARCH_INITIAL_EXECUTION_STALE"
      message := "This queued search attempt is no longer current."
      status := 409 }
  | .scriptError => createOperationalStateUnavailableError
  | .exists | .tombstoned | .missing | .conflict _ | .initialTerminal | .ok _ =>
    { code := "SEARCH_SESSION_CONCURRENT_UPDATE"
      message := "The search session changed concurrently. Please try again."
      status := 409
      retryable := true
      retryAfterMs := some 100 }

/-- What a call returns. -/
inductive Result (ρ : Type)
  | session (session : Option (SearchSession ρ))
  | claim (claimed terminal : Bool) (session : SearchSession ρ)
  | lease (held : Bool) (session : Option (SearchSession ρ))

/-- The command a call runs next, or how it ended. `require` is the `requireSearchSession`
that ends a claim, with the `terminal` it reports; `reread` is the `getSearchSession` after
a lost lease. -/
inductive Phase (ρ : Type)
  | read (attempt : Nat)
  | write (attempt : Nat) (current : Envelope ρ)
  | require (terminal : Option Bool)
  | reread
  | returned (result : Result ρ)
  | threw (error : StoreError)

/-- The decision on the envelope that was read. -/
def afterRead (op : Operation ρ) (attempt : Nat) : Option (Envelope ρ) → Phase ρ
  | none =>
    match op with
    | .claim _ => .require none
    | .mutate _ _ _ => .returned (.session none)
    | .renew _ | .release _ _ => .returned (.lease false none)
  | some current =>
    match op with
    | .claim execution =>
      if current.session.initialSearchStage.get?.any InitialSearchStage.isTerminal then
        .returned (.claim false true current.session)
      else if execution.fencingNumber ≤
          (current.session.initialSearchFencingNumber.get?).getD 0 then
        .returned (.claim false false current.session)
      else .write attempt current
    | .mutate _ _ _ | .renew _ | .release _ _ => .write attempt current

/-- The result of a committed write. -/
def committed (session : SearchSession ρ) : Operation ρ → Result ρ
  | .claim _ => .claim true false session
  | .mutate _ _ _ => .session (some session)
  | .renew _ | .release _ _ => .lease true (some session)

/-- The decision on the outcome of the write script. -/
def afterWrite (cfg : StoreSettings ρ) (op : Operation ρ) (attempt : Nat)
    (session : SearchSession ρ) (outcome : WriteOutcome) : Phase ρ :=
  match outcome, op with
  | .ok _, _ => .returned (committed session op)
  | .conflict _, _ =>
    if attempt + 1 < cfg.casRetries then .read (attempt + 1) else .threw (writeFailure outcome)
  | .missing, .mutate _ _ _ => .returned (.session none)
  | .missing, .renew _ | .missing, .release _ _ => .reread
  | .staleLease, .renew _ | .staleLease, .release _ _ => .reread
  | .initialTerminal, .claim _ => .require (some true)
  | .staleInitialSearch, .claim _ => .require (some false)
  | _, _ => .threw (writeFailure outcome)

/-- `requireSearchSession` at the end of a claim. -/
def afterRequire (st : StoreState ρ) (searchId : SearchId) (now : Nat) (terminal : Option Bool) :
    Phase ρ :=
  match st.sessions.get now searchId, terminal with
  | some envelope, some terminal => .returned (.claim false terminal envelope.session)
  | some envelope, none => .returned (.session (some envelope.session))
  | none, _ =>
    if (st.tombstones.get now searchId).isSome then .threw sessionExpired
    else .threw sessionNotFound

/-! ## 4. The system -/

abbrev CallId := Nat

/-- A call on one session. -/
structure SessionCall (ρ : Type) where
  searchId : SearchId
  operation : Operation ρ
  phase : Phase ρ

/-- A committed write: the operation, the envelope it replaced and the one it wrote. -/
structure Commit (ρ : Type) where
  searchId : SearchId
  operation : Operation ρ
  before : Envelope ρ
  after : Envelope ρ

/-- The store, the calls in flight and the commits so far, newest first. -/
structure System (ρ : Type) where
  clock : Nat
  store : StoreState ρ
  calls : Hash CallId (SessionCall ρ)
  commits : List (Commit ρ)

/-- The write of a call: the store, the phase and the commits after it. -/
def writeEffect (cfg : StoreSettings ρ) (st : StoreState ρ) (call : SessionCall ρ)
    (attempt : Nat) (current : Envelope ρ) (fate : Fate) (now : Nat) :
    StoreState ρ × Phase ρ × List (Commit ρ) :=
  let envelope := nextEnvelope cfg now current call.operation
  if cfg.maxSessionBytes < cfg.byteLength envelope then (st, .threw sessionTooLarge, [])
  else
    let r := sessionWrite cfg.nullText st call.searchId call.searchId
      (writeArgs cfg now current call.operation)
    (fate.effect st r.1,
      fate.reply (afterWrite cfg call.operation attempt envelope.session r.2)
        (.threw createOperationalStateUnavailableError),
      match fate, r.2 with
      | .answered, .ok _ | .unanswered, .ok _ =>
        [⟨call.searchId, call.operation, current, envelope⟩]
      | _, _ => [])

/-- One command of a call. A finished call runs no command. -/
def commandEffect (cfg : StoreSettings ρ) (st : StoreState ρ) (call : SessionCall ρ)
    (fate : Fate) (now : Nat) : Option (StoreState ρ × Phase ρ × List (Commit ρ)) :=
  let unavailable := .threw createOperationalStateUnavailableError
  match call.phase with
  | .read attempt =>
    some (st, fate.reply (afterRead call.operation attempt (st.sessions.get now call.searchId))
      unavailable, [])
  | .write attempt current => some (writeEffect cfg st call attempt current fate now)
  | .require terminal =>
    some (st, fate.reply (afterRequire st call.searchId now terminal) unavailable, [])
  | .reread =>
    some (st, fate.reply (.returned (.lease false
      ((st.sessions.get now call.searchId).map Envelope.session))) unavailable, [])
  | .returned _ | .threw _ => none

/-- A move of the system: a call starts, a call runs its next command, or another script
than the write script runs. -/
inductive Event (ρ : Type)
  | start (c : CallId) (searchId : SearchId) (operation : Operation ρ)
  | command (c : CallId) (fate : Fate) (now : Nat)
  | script (call : ScriptCall ρ)

/-- One step. A call id is used once, and times do not decrease. -/
def step (cfg : StoreSettings ρ) (s : System ρ) : Event ρ → Option (System ρ)
  | .start c searchId operation =>
    if c ∈ s.calls then none
    else some { s with calls := s.calls.hset c ⟨searchId, operation, .read 0⟩ }
  | .command c fate now =>
    if now < s.clock then none
    else
      (s.calls.hget c).bind fun call =>
        (commandEffect cfg s.store call fate now).map fun r =>
          { clock := now, store := r.1
            calls := s.calls.hset c { call with phase := r.2.1 }
            commits := r.2.2 ++ s.commits }
  | .script (.write _ _) => none
  | .script call =>
    if call.now?.getD s.clock < s.clock then none
    else some { s with clock := call.now?.getD s.clock, store := call.run cfg.nullText s.store }

/-- The runs of the system from a store without calls. `start` says which stores. -/
def system (cfg : StoreSettings ρ) (start : StoreState ρ → Prop) :
    Machine (System ρ) (Event ρ) where
  init s := start s.store ∧ s.calls = ∅ ∧ s.commits = []
  step := step cfg

end SmartStay.Session
