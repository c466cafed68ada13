import SmartStay.Session.Store

/-!
# The session store in memory

`server/storage/searchSession.js` keeps the search sessions in a `Map`, the ids of expired
sessions for some time in another one, and one counter of fencing numbers for all sessions.

1. The variables of the module, ids and errors.
2. `removeExpiredSessions`, `saveSearchSession`, and the state of an id.
3. The continuation lease of a session and the guard of a write.
4. The operations: update, append, the initial search, and the lease.

A session has the fields of the shared store; the options of a call are read with the
functions of that store, which are the same.
-/

namespace SmartStay.Session

/-- What an operation of either store returns. -/
inductive Reply (ρ : Type)
  | result (result : Result ρ)
  | acquired (lockToken : String) (fencingNumber : Nat) (session : Option (SearchSession ρ))

/-- The object that `saveSearchSession` is given. An absent or empty `searchId` is `""`. -/
structure SessionInput (ρ : Type) where
  searchId : SearchId := ""
  createdAt : Option Nat := none
  hotels : Option (List Hotel) := none
  totalHotels : Option Nat := none
  status : Option SearchStatus := none
  searchIncomplete : Option Bool := none
  isContinuing : Option Bool := none
  continuationLock : Option String := none
  continuationLockExpiresAt : JsonField Nat := .absent
  continuationFencingNumber : JsonField Nat := .absent
  lastError : Option String := none
  retryable : Bool := false
  retryAfterMs : Option Nat := none
  initialSearchStage : JsonField InitialSearchStage := .absent
  initialSearchExecutionToken : JsonField String := .absent
  initialSearchFencingNumber : JsonField Nat := .absent
  rest : ρ

variable {ρ : Type}

/-- `Number(field)` when it is finite: `null` counts as 0, an absent field as `NaN`. -/
def finiteNumber : JsonField Nat → Option Nat
  | .value n => some n
  | .null => some 0
  | .absent => none

/-- The defaults that both stores fill in; they differ in `createdAt` and in
`continuationFencingNumber`. -/
def SessionInput.saved (input : SessionInput ρ) (searchId : SearchId)
    (createdAt now sessionTtlMs : Nat) (fence : JsonField Nat) : SearchSession ρ where
  searchId := searchId
  createdAt := createdAt
  updatedAt := now
  expiresAt := now + sessionTtlMs
  hotels := input.hotels.getD []
  totalHotels := input.totalHotels
  status := input.status.getD .inProgress
  searchIncomplete := input.searchIncomplete.getD true
  isContinuing := input.isContinuing.getD false
  continuationLock := input.continuationLock
  continuationLockExpiresAt := finiteNumber input.continuationLockExpiresAt
  continuationFencingNumber := fence
  lastError := input.lastError
  retryable := input.retryable
  retryAfterMs := input.retryAfterMs
  initialSearchStage := input.initialSearchStage
  initialSearchExecutionToken := input.initialSearchExecutionToken
  initialSearchFencingNumber := input.initialSearchFencingNumber
  rest := input.rest

def searchIdRequired : StoreError :=
  { code := "SEARCH_ID_REQUIRED", message := "searchId is required.", status := 400 }

/-- `SEARCH_SESSION_STATES`. -/
inductive SearchSessionState
  | missing | active | expired | notFound
deriving DecidableEq, Repr

/-- What `requireSearchSession` throws in a state that is not active. -/
def SearchSessionState.error : SearchSessionState → StoreError
  | .missing => searchIdRequired
  | .expired => sessionExpired
  | .active | .notFound => sessionNotFound

/-- The characters of a random UUID in lower case. -/
def isUuid (text : List Char) : Bool :=
  text.length == 36 && text.zipIdx.all fun (c, i) =>
    if i == 8 || i == 13 || i == 18 || i == 23 then c == '-'
    else if i == 14 then '1' ≤ c && c ≤ '5'
    else if i == 19 then c == '8' || c == '9' || c == 'a' || c == 'b'
    else JsText.isLowerHex c

namespace InMemory

/-! ## 1. State -/

/-- `SEARCH_SESSION_TTL_MS`. -/
def searchSessionTtlMs : Nat := 30 * 60 * 1000

/-- `MAX_SEARCH_SESSIONS`. -/
def maxSearchSessions : Nat := 500

/-- `EXPIRED_SEARCH_ID_RETENTION_MS`. -/
def expiredSearchIdRetentionMs : Nat := searchSessionTtlMs

/-- `CONTINUATION_LOCK_TTL_MS`. -/
def continuationLockTtlMs : Nat := 5 * 60 * 1000

/-- The variables of the module. -/
structure Memory (ρ : Type) where
  sessions : Hash SearchId (SearchSession ρ) := ∅
  expiredSearchIds : Hash SearchId Nat := ∅
  continuationFencingNumber : Nat := 0

/-- `getSearchIdGeneration`. -/
def getSearchIdGeneration (searchId : SearchId) : Option String :=
  let text := (JsText.toLowerCase (JsText.trim searchId)).toList
  let generation := (text.drop 4).take 16
  if text.take 4 = "ss1.".toList ∧ generation.length = 16 ∧ generation.all JsText.isLowerHex ∧
      (text.drop 20).take 1 = ".".toList ∧ isUuid (text.drop 21) then
    some (String.ofList generation)
  else none

/-- `isSearchIdFromPreviousProcess`, in a process of the given generation. -/
def isSearchIdFromPreviousProcess (processGeneration : String) (searchId : SearchId) : Bool :=
  match getSearchIdGeneration searchId with
  | some generation => generation != processGeneration
  | none => false

/-! ## 2. Saving and expiry -/

namespace Memory

/-- The ids of the sessions whose time is over. -/
def expiredIds (m : Memory ρ) (now : Nat) : List SearchId :=
  (m.sessions.entries.filter fun e => decide (e.2.expiresAt ≤ now)).map Sigma.fst

/-- `removeExpiredSessions`. -/
def removeExpiredSessions (m : Memory ρ) (now : Nat) : Memory ρ :=
  let expired := (m.expiredIds now).foldl
    (fun ids searchId => ids.hset searchId (now + expiredSearchIdRetentionMs)) m.expiredSearchIds
  { m with
    sessions := m.sessions.hdelAll (m.expiredIds now)
    expiredSearchIds :=
      expired.hdelAll ((expired.entries.filter fun e => decide (e.2 ≤ now)).map Sigma.fst) }

/-- The sessions that are left are those whose time is not over. -/
theorem hget_removeExpiredSessions (m : Memory ρ) (now : Nat) (searchId : SearchId) :
    (m.removeExpiredSessions now).sessions.hget searchId =
      (m.sessions.hget searchId).filter fun session => decide (now < session.expiresAt) := by
  have hexpired : searchId ∈ m.expiredIds now ↔
      ∃ session, m.sessions.hget searchId = some session ∧ session.expiresAt ≤ now := by
    simp only [expiredIds, List.mem_map, List.mem_filter, decide_eq_true_eq]
    constructor
    · rintro ⟨⟨searchId', session⟩, ⟨hentry, hends⟩, rfl⟩
      exact ⟨session, AList.mem_lookup_iff.mpr hentry, hends⟩
    · rintro ⟨session, hstored, hends⟩
      exact ⟨⟨searchId, session⟩, ⟨AList.mem_lookup_iff.mp hstored, hends⟩, rfl⟩
  change (m.sessions.hdelAll (m.expiredIds now)).hget searchId = _
  rw [Hash.hget_hdelAll]
  cases hstored : m.sessions.hget searchId with
  | none => simp
  | some session =>
    by_cases hlive : now < session.expiresAt
    · have hkept : searchId ∉ m.expiredIds now := by
        rw [hexpired]
        rintro ⟨session', hstored', hends⟩
        rw [hstored] at hstored'
        cases hstored'
        omega
      rw [if_neg hkept, Option.filter_some_pos (by simpa using hlive)]
    · rw [if_pos (hexpired.mpr ⟨session, hstored, Nat.not_lt.mp hlive⟩),
        Option.filter_some_neg (by simpa using hlive)]

/-- The `continuationFencingNumber` of a saved session: a positive safe integer or `null`. -/
def savedFence : JsonField Nat → JsonField Nat
  | .value n => if 0 < n ∧ (n : Int) ≤ maxSafeInteger then .value n else .null
  | .absent | .null => .null

/-- The error of `saveSearchSession` at the limit. -/
def capacityReached : StoreError :=
  { code := "SEARCH_SESSION_CAPACITY_REACHED"
    message := "Hotel search capacity is temporarily full. Please try again shortly."
    status := 503
    retryable := true
    retryAfterMs := some 1000 }

/-- `saveSearchSession`; `fresh` is what `createSearchId` draws. -/
def saveSearchSession (m : Memory ρ) (input : SessionInput ρ) (fresh : SearchId) (now : Nat) :
    Memory ρ × Except StoreError (Reply ρ) :=
  let m := m.removeExpiredSessions now
  let searchId := if input.searchId = "" then fresh else input.searchId
  if searchId ∉ m.sessions ∧ maxSearchSessions ≤ m.sessions.hlen then (m, .error capacityReached)
  else
    let saved := input.saved searchId (input.createdAt.getD now) now searchSessionTtlMs
      (savedFence input.continuationFencingNumber)
    ({ m with
        sessions := m.sessions.hset searchId saved
        expiredSearchIds := m.expiredSearchIds.hdel searchId },
      .ok (.result (.session (some saved))))

/-- `getSearchSessionState`, after `removeExpiredSessions`. -/
def getSearchSessionState (processGeneration : String) (m : Memory ρ) (searchId : SearchId) :
    SearchSessionState :=
  let normalized := JsText.trim searchId
  if normalized = "" then .missing
  else if normalized ∈ m.sessions then .active
  else if normalized ∈ m.expiredSearchIds then .expired
  else if isSearchIdFromPreviousProcess processGeneration normalized then .expired
  else .notFound

/-- `requireSearchSession`, after `removeExpiredSessions`. -/
def requireSearchSession (processGeneration : String) (m : Memory ρ) (searchId : SearchId) :
    Except StoreError (SearchSession ρ) :=
  match m.sessions.hget (JsText.trim searchId), m.getSearchSessionState processGeneration searchId with
  | some session, .active => .ok session
  | _, state => .error state.error

/-- `getSearchSession`, after `removeExpiredSessions`. -/
def readSearchSession (m : Memory ρ) (searchId : SearchId) : Option (SearchSession ρ) :=
  if JsText.trim searchId = "" then none else m.sessions.hget (JsText.trim searchId)

/-- `getSearchSession`. -/
def getSearchSession (m : Memory ρ) (searchId : SearchId) (now : Nat) :
    Memory ρ × Except StoreError (Reply ρ) :=
  let m := m.removeExpiredSessions now
  (m, .ok (.result (.session (m.readSearchSession searchId))))

end Memory

/-! ## 3. The lease of a session -/

/-- `hasActiveContinuationLease`. -/
def hasActiveContinuationLease (session : SearchSession ρ) (now : Nat) : Bool :=
  session.isContinuing && session.continuationLock.any (· != "") &&
    session.continuationLockExpiresAt.any (fun expiresAt => decide (now < expiresAt)) &&
    session.continuationFencingNumber.get?.any
      (fun fence => decide (0 < fence ∧ (fence : Int) ≤ maxSafeInteger))

/-- `assertContinuationWriteAllowed`: the error, if there is one. -/
def assertContinuationWriteAllowed (session : SearchSession ρ) (lease : Option LeaseContext)
    (now : Nat) : Option StoreError :=
  match lease with
  | none => if hasActiveContinuationLease session now then some (writeFailure .locked) else none
  | some lease =>
    if hasActiveContinuationLease session now = false ∨
        session.continuationLock ≠ some lease.lockToken ∨
        session.continuationFencingNumber.get? ≠ some lease.fencingNumber then
      some (writeFailure .staleLease)
    else none

/-! ## 4. Operations -/

namespace Memory

/-- `{ ...currentSession, ...updates }` with the fields that no update can set. -/
def updated (session : SearchSession ρ) (updates : SessionUpdates ρ) (now : Nat) :
    SearchSession ρ :=
  { session.assign updates with updatedAt := now, expiresAt := now + searchSessionTtlMs }

/-- `updateSearchSession`, which does not trim its `searchId`. -/
def updateSearchSession (m : Memory ρ) (searchId : SearchId) (updates : SessionUpdates ρ)
    (lease : Option LeaseContext) (now : Nat) : Memory ρ × Except StoreError (Reply ρ) :=
  if searchId = "" then (m, .ok (.result (.session none)))
  else
    let m := m.removeExpiredSessions now
    match m.sessions.hget searchId with
    | none => (m, .ok (.result (.session none)))
    | some current =>
      match assertContinuationWriteAllowed current lease now with
      | some error => (m, .error error)
      | none =>
        let session := updated current updates now
        ({ m with sessions := m.sessions.hset searchId session },
          .ok (.result (.session (some session))))

/-- `appendHotelsToSearchSession`. -/
def appendHotelsToSearchSession (m : Memory ρ) (searchId : SearchId) (hotels : List Hotel)
    (lease : Option LeaseContext) (now : Nat) : Memory ρ × Except StoreError (Reply ρ) :=
  let m := m.removeExpiredSessions now
  match m.readSearchSession searchId with
  | none => (m, .ok (.result (.session none)))
  | some current =>
    m.updateSearchSession searchId
      { hotels := some (mergeHotels current.hotels hotels)
        totalHotels := some (mergeHotels current.hotels hotels).length } lease now

/-- `claimInitialSearchExecution`. -/
def claimInitialSearchExecution (processGeneration : String) (m : Memory ρ) (searchId : SearchId)
    (execution : Option InitialSearchExecution) (now : Nat) :
    Memory ρ × Except StoreError (Reply ρ) :=
  match execution with
  | none => (m, .error (writeFailure .staleInitialSearch))
  | some execution =>
    let m := m.removeExpiredSessions now
    match m.requireSearchSession processGeneration searchId with
    | .error error => (m, .error error)
    | .ok current =>
      if current.initialSearchStage.get?.any InitialSearchStage.isTerminal then
        (m, .ok (.result (.claim false true current)))
      else if execution.fencingNumber ≤ current.initialSearchFencingNumber.get?.getD 0 then
        (m, .ok (.result (.claim false false current)))
      else
        let session :=
          { current with
            initialSearchStage := .value .running
            initialSearchExecutionToken := .value execution.executionToken
            initialSearchFencingNumber := .value execution.fencingNumber
            status := .running, searchIncomplete := true, isContinuing := false
            lastError := none, retryable := false, retryAfterMs := some 2000
            updatedAt := now, expiresAt := now + searchSessionTtlMs }
        ({ m with sessions := m.sessions.hset (JsText.trim searchId) session },
          .ok (.result (.claim true false session)))

/-- `updateInitialSearchExecution`. -/
def updateInitialSearchExecution (processGeneration : String) (m : Memory ρ)
    (searchId : SearchId) (updates : SessionUpdates ρ)
    (execution : Option InitialSearchExecution) (now : Nat) :
    Memory ρ × Except StoreError (Reply ρ) :=
  let m := m.removeExpiredSessions now
  match m.requireSearchSession processGeneration searchId, execution with
  | .error error, _ => (m, .error error)
  | .ok _, none => (m, .error (writeFailure .staleInitialSearch))
  | .ok current, some execution =>
    if current.initialSearchExecutionToken.get? ≠ some execution.executionToken ∨
        current.initialSearchFencingNumber.get? ≠ some execution.fencingNumber then
      (m, .error (writeFailure .staleInitialSearch))
    else
      m.updateSearchSession (JsText.trim searchId) (initialSearchUpdates updates) none now

/-- `tryAcquireSearchContinuation`; `lockToken` is the UUID that it draws. -/
def tryAcquireSearchContinuation (processGeneration : String) (m : Memory ρ)
    (searchId : SearchId) (lockToken : String) (now : Nat) :
    Memory ρ × Except StoreError (Reply ρ) :=
  let m := m.removeExpiredSessions now
  match m.requireSearchSession processGeneration searchId with
  | .error error => (m, .error error)
  | .ok current =>
    if hasActiveContinuationLease current now then
      (m, .ok (.result (.lease false (some current))))
    else
      let fencingNumber := max m.continuationFencingNumber
        (current.continuationFencingNumber.get?.getD 0) + 1
      let session :=
        { current with
          isContinuing := true, continuationLock := some lockToken
          continuationLockExpiresAt := some (now + continuationLockTtlMs)
          continuationFencingNumber := .value fencingNumber
          lastError := none
          updatedAt := now, expiresAt := now + searchSessionTtlMs }
      ({ m with
          sessions := m.sessions.hset (JsText.trim searchId) session
          continuationFencingNumber := fencingNumber },
        .ok (.acquired lockToken fencingNumber (some session)))

/-- The fencing number of a renewal or a release is the one of the session, or missing. -/
def hasMatchingFence (session : SearchSession ρ) (fencingNumber : Option Int) : Bool :=
  match fencingNumber with
  | none => true
  | some fence => session.continuationFencingNumber.get?.any fun n : Nat => decide ((n : Int) = fence)

/-- The session has the lease of the token. -/
def ownsLease (session : SearchSession ρ) (lockToken : String) (fencingNumber : Option Int)
    (now : Nat) : Bool :=
  lockToken != "" && session.continuationLock == some lockToken &&
    hasActiveContinuationLease session now && hasMatchingFence session fencingNumber

/-- `renewSearchContinuation`. -/
def renewSearchContinuation (m : Memory ρ) (searchId : SearchId) (lockToken : String)
    (fencingNumber : Option Int) (now : Nat) : Memory ρ × Except StoreError (Reply ρ) :=
  let m := m.removeExpiredSessions now
  match m.sessions.hget (JsText.trim searchId) with
  | none => (m, .ok (.result (.lease false none)))
  | some current =>
    if ownsLease current lockToken fencingNumber now then
      let session :=
        { current with
          isContinuing := true
          continuationLockExpiresAt := some (now + continuationLockTtlMs)
          updatedAt := now, expiresAt := now + searchSessionTtlMs }
      ({ m with sessions := m.sessions.hset (JsText.trim searchId) session },
        .ok (.result (.lease true (some session))))
    else (m, .ok (.result (.lease false (some current))))

/-- `releaseSearchContinuation`. -/
def releaseSearchContinuation (m : Memory ρ) (searchId : SearchId) (lockToken : String)
    (updates : SessionUpdates ρ) (fencingNumber : Option Int) (now : Nat) :
    Memory ρ × Except StoreError (Reply ρ) :=
  let m := m.removeExpiredSessions now
  if JsText.trim searchId = "" ∨ lockToken = "" then
    (m, .ok (.result (.lease false (m.readSearchSession searchId))))
  else
    match m.sessions.hget (JsText.trim searchId) with
    | none => (m, .ok (.result (.lease false none)))
    | some current =>
      if ownsLease current lockToken fencingNumber now then
        let session :=
          { current.assign updates with
            isContinuing := false, continuationLock := none, continuationLockExpiresAt := none
            updatedAt := now, expiresAt := now + searchSessionTtlMs }
        ({ m with sessions := m.sessions.hset (JsText.trim searchId) session },
          .ok (.result (.lease true (some session))))
      else (m, .ok (.result (.lease false (some current))))

end Memory

end InMemory

end SmartStay.Session
