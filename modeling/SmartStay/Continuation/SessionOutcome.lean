import SmartStay.Continuation.ProviderExecutions
import SmartStay.Session.Store

/-!
# What the stay service reads off a session

The pure functions of `server/services/stayService.js` that `continueHotelSearch` decides
with.

1. The session with its provider executions.
2. `getContinuationSessionOutcome`: the status that follows from the executions.
3. The response to the client and the errors.
-/

namespace SmartStay.Continuation

open Session

/-! ## 1. The session -/

/-- The fields of a search session that belong to its providers; `providerExecutions` is
`none` when the field is not an array. -/
structure ProviderFields where
  providerId : Option ProviderId := none
  providerExecutions : Option (List ProviderExecution) := some []
  continuation : Option ProviderContinuation := none
  providerContext : Option String := none
  currency : Option String := none
deriving DecidableEq, Repr

abbrev StaySession := SearchSession ProviderFields

/-- `normalizeSessionProviderExecutions`. A session without executions may name the one
provider it was made with. -/
def normalizeSessionProviderExecutions (session : StaySession) (now : Nat) :
    List ProviderExecution :=
  match session.rest.providerExecutions with
  | some (execution :: executions) => normalizeProviderExecutionStates (execution :: executions)
  | some [] | none =>
    match session.rest.providerId with
    | none => []
    | some providerId =>
      createProviderExecutionStates now
        [{ providerId := providerId
           supportsContinuation := session.rest.continuation.isSome
           continuation := session.rest.continuation
           providerContext := session.rest.providerContext
           outcome := if session.status = .completed then some "success" else none }]

/-- The snapshot of `getLegacyProviderSnapshot`. -/
structure LegacySnapshot where
  providerId : Option ProviderId
  continuation : Option ProviderContinuation
  providerContext : Option String
deriving DecidableEq, Repr

/-- `getLegacyProviderSnapshot`, or the message of its exception: a session that is `null`
is looked at only for what the runnable execution does not have. -/
def getLegacyProviderSnapshot (executions : List ProviderExecution)
    (session : Option StaySession) (now : Nat) : Except String LegacySnapshot :=
  match getPrimaryRunnableProviderExecution executions now, session with
  | some runnable, some session =>
    .ok ⟨some runnable.providerId, runnable.continuation,
      runnable.providerContext <|> session.rest.providerContext⟩
  | none, some session => .ok ⟨session.rest.providerId, none, session.rest.providerContext⟩
  | some runnable, none =>
    match runnable.providerContext with
    | some providerContext =>
      .ok ⟨some runnable.providerId, runnable.continuation, some providerContext⟩
    | none => .error "Cannot read properties of null (reading 'providerContext')"
  | none, none => .error "Cannot read properties of null (reading 'providerId')"

/-! ## 2. The outcome -/

/-- The result of `getTerminalProviderFailureCode`. -/
structure TerminalFailure where
  code : String
  message : String
  retryable : Bool
deriving DecidableEq, Repr

/-- `getTerminalProviderFailureCode`. -/
def getTerminalProviderFailureCode (executions : List ProviderExecution) : TerminalFailure :=
  let outcomes := ((normalizeProviderExecutionStates executions).filter
    (·.state = .terminalFailure)).map fun execution =>
      JsText.toLowerCase (JsText.trim (execution.lastOutcome.getD ""))
  let rateLimited := fun outcome => outcome == "rate_limited" || outcome == "rate-limited"
  let circuitOpen := fun outcome => outcome == "circuit_open" || outcome == "circuit-open"
  if !outcomes.isEmpty && outcomes.all (fun outcome => rateLimited outcome || circuitOpen outcome) &&
      outcomes.any rateLimited then
    { code := "PROVIDER_RATE_LIMITED"
      message := "Accommodation search is temporarily rate limited."
      retryable := true }
  else if !outcomes.isEmpty && outcomes.all (· == "timeout") then
    { code := "PROVIDER_TIMEOUT"
      message := "Accommodation providers took too long to respond."
      retryable := true }
  else if !outcomes.isEmpty &&
      outcomes.all (fun outcome => outcome == "unavailable" || circuitOpen outcome) then
    { code := "PROVIDER_UNAVAILABLE"
      message := "Accommodation search is temporarily unavailable."
      retryable := true }
  else
    { code := "PROVIDER_CONTINUATION_FAILED"
      message := "One or more providers could not complete the search."
      retryable := false }

/-- `normalizeRetryAfterMs` of `providerRetryPolicy.js`. -/
def normalizeRetryAfterMs (value : Option Nat) : Option Nat := value.map (min 1800000)

/-- The result of `getContinuationSessionOutcome`. -/
structure SessionOutcome where
  searchIncomplete : Bool
  status : SearchStatus
  success : Bool
  code : Option String
  message : Option String
  retryable : Bool
  retryAfterMs : Option Nat
deriving DecidableEq, Repr

/-- `getContinuationSessionOutcome`: a search is incomplete while some provider is
runnable, runs or waits for a retry. -/
def getContinuationSessionOutcome (executions : List ProviderExecution) (now : Nat) :
    SessionOutcome :=
  let summary := summarizeProviderExecutions executions now
  let searchIncomplete :=
    decide (0 < summary.runnable ∨ 0 < summary.running ∨ 0 < summary.waitingForRetry)
  let hasTerminalFailure := decide (0 < summary.terminalFailures)
  let terminalFailure := getTerminalProviderFailureCode executions
  let terminalRetryDelays := ((normalizeProviderExecutionStates executions).filter
    (·.state = .terminalFailure)).filterMap fun execution =>
      normalizeRetryAfterMs execution.retryAfterMs
  let failed := !searchIncomplete && hasTerminalFailure
  { searchIncomplete := searchIncomplete
    status :=
      if searchIncomplete then .inProgress
      else if hasTerminalFailure then .failed
      else .completed
    success := !hasTerminalFailure || searchIncomplete
    code := if failed then some terminalFailure.code else none
    message := if failed then some terminalFailure.message else none
    retryable := failed && terminalFailure.retryable
    retryAfterMs := if searchIncomplete then summary.retryAfterMs else terminalRetryDelays.min? }

/-! ## 3. Responses and errors -/

/-- The response of `createSearchSessionResponse`. -/
structure SearchResponse where
  success : Bool
  message : Option String
  code : Option String
  searchId : Option SearchId
  status : SearchStatus
  searchIncomplete : Bool
  isContinuing : Bool
  totalHotels : Nat
  currency : Option String
  retryable : Bool
  retryAfterMs : Option Nat
  hotels : List Hotel
deriving DecidableEq, Repr

/-- `createSearchSessionResponse`, where `session` may be `null`. -/
def createSearchSessionResponse (session : Option StaySession) (success : Bool)
    (message code : Option String) (retryable : Option Bool) (retryAfterMs : Option Nat) :
    SearchResponse :=
  { success := success
    message := message
    code := code
    searchId := session.map SearchSession.searchId
    status := (session.map SearchSession.status).getD .inProgress
    searchIncomplete := (session.map SearchSession.searchIncomplete).getD false
    isContinuing := (session.map SearchSession.isContinuing).getD false
    totalHotels := (session.map fun session => session.hotels.length).getD 0
    currency := session.bind fun session => session.rest.currency
    retryable := retryable.getD ((session.map SearchSession.retryable).getD false)
    retryAfterMs := normalizeRetryAfterMs
      (retryAfterMs <|> session.bind SearchSession.retryAfterMs)
    hotels := (session.map SearchSession.hotels).getD [] }

/-- The response that carries an outcome. -/
def outcomeResponse (session : Option StaySession) (outcome : SessionOutcome) : SearchResponse :=
  createSearchSessionResponse session outcome.success outcome.message outcome.code
    (some outcome.retryable) outcome.retryAfterMs

/-- `createContinuingSearchResponse`. -/
def createContinuingSearchResponse (session : Option StaySession) : SearchResponse :=
  createSearchSessionResponse session true none none none none

/-- The fields of an exception that `continueHotelSearch` throws. -/
structure ThrownError where
  message : String
  code : Option String := none
  status : Option Nat := none
  retryable : Bool := false
  retryAfterMs : Option Nat := none
deriving DecidableEq, Repr

/-- An exception of the store. -/
def ThrownError.ofStore (error : StoreError) : ThrownError :=
  { message := error.message
    code := some error.code
    status := some error.status
    retryable := error.retryable
    retryAfterMs := error.retryAfterMs }

/-- The exception of `assertContinuationLease`. -/
def continuationLeaseLost : ThrownError :=
  { message := "Continuation lock ownership was lost."
    code := some "SEARCH_CONTINUATION_LOCK_LOST"
    status := some 409
    retryable := true
    retryAfterMs := some 250 }

/-- The exception after a release that was refused. -/
def releaseRefused : ThrownError :=
  { message := "Continuation lock ownership was lost before release."
    code := some "SEARCH_CONTINUATION_LOCK_LOST" }

end SmartStay.Continuation
