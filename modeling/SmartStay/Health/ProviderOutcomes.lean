import SmartStay.Lib.Fallible
import SmartStay.Lib.JsValue
import Mathlib.Data.List.Infix

/-!
# Outcomes of provider operations

How `server/providers/common/providerSearchOutcomeService.js` and `providerRetryPolicy.js` read what
an adapter has thrown. Anything can be thrown, so the conversions of its fields can fail in turn.
The headers of a response are an object of fields, and their `get` looks a name up in any case.

1. `TextRuntime`, `ProviderSearchOutcome`.
2. `normalizeRetryAfterMs`, `extractRetryAfterMs`, `resolveProviderRetryPolicy`.
3. `classifyProviderException`, `createProviderFailureDetails`.
4. `createProviderFailureDetails_ok_iff`: which errors the details can be read from.
-/

namespace SmartStay.Health

open JsValue

/-! ## 1. Outcomes -/

/-- Conversions of text that the code uses. -/
structure TextRuntime where
  numberText : JsFloat → JsString
  toUpperCase : JsString → JsString
  toLowerCase : JsString → JsString
  dateParse : JsString → JsFloat

/-- `PROVIDER_SEARCH_OUTCOMES`. -/
inductive ProviderSearchOutcome
  | success | noResults | error | timeout | rateLimited | unavailable | circuitOpen
deriving DecidableEq, Repr

namespace ProviderSearchOutcome

def name : ProviderSearchOutcome → String
  | success => "success"
  | noResults => "no_results"
  | error => "error"
  | timeout => "timeout"
  | rateLimited => "rate_limited"
  | unavailable => "unavailable"
  | circuitOpen => "circuit_open"

end ProviderSearchOutcome

def isProviderHealthyOutcome (outcome : ProviderSearchOutcome) : Bool :=
  outcome = .success || outcome = .noResults

def shouldCountProviderFailure (outcome : ProviderSearchOutcome) : Bool :=
  outcome = .error || outcome = .timeout || outcome = .rateLimited || outcome = .unavailable

/-- The outcome that is neither healthy nor a failure. -/
theorem circuitOpen_of_not_counted {outcome : ProviderSearchOutcome}
    (hhealthy : isProviderHealthyOutcome outcome = false)
    (hcounted : shouldCountProviderFailure outcome = false) : outcome = .circuitOpen := by
  revert hhealthy hcounted
  cases outcome <;> decide

/-! ## 2. Retries -/

def defaultProviderRetryAfterMs : ℚ := 2500

def defaultMaxProviderRetryAfterMs : ℚ := 1800000

/-- `normalizeRetryAfterMs`, with `normalizeNonNegativeNumber`. -/
def normalizeRetryAfterMs (value : JsValue) : Except String (Option ℚ) :=
  if isMissing value then .ok none
  else do
    match ← toNumber value with
    | .finite x => return if 0 ≤ x then some (min x defaultMaxProviderRetryAfterMs) else none
    | _ => return none

variable (rt : TextRuntime)

def parseRetryAfterHeaderMs (nowMs : ℚ) (value : JsValue) : Except String (Option ℚ) :=
  match value with
  | none | some .null => .ok none
  | value => do
    let trimmedValue := (← toText rt.numberText value).trim
    if trimmedValue = [] then return none
    else
      let atDate : Option ℚ := match rt.dateParse trimmedValue with
        | .finite retryDate => some (min (max 0 (retryDate - nowMs)) defaultMaxProviderRetryAfterMs)
        | _ => none
      match JsNumeral.toNumber trimmedValue with
      | .finite seconds =>
        return if 0 ≤ seconds then some (min (seconds * 1000) defaultMaxProviderRetryAfterMs)
          else atDate
      | _ => return atDate

/-- `readHeader(headers, "retry-after")`. -/
def readRetryAfter (headers : JsValue) : JsValue :=
  match headers with
  | some (.obj fields) =>
    (fields.find? fun field => rt.toLowerCase field.1 = .ofString "retry-after").map Prod.snd
  | _ => none

/-- The first candidate that is a delay. -/
def firstRetryAfterMs : List JsValue → Except String (Option ℚ)
  | [] => .ok none
  | candidate :: rest => do
    match ← normalizeRetryAfterMs candidate with
    | some delay => return some delay
    | none => firstRetryAfterMs rest

def extractRetryAfterMs (nowMs : ℚ) (source : JsValue) : Except String (Option ℚ) := do
  let data := member (member source "response") "data"
  match ← firstRetryAfterMs
      [member source "retryAfterMs", member source "retry_after_ms", member data "retryAfterMs",
        member data "retry_after_ms", member (member source "data") "retryAfterMs",
        member (member source "data") "retry_after_ms"] with
  | some delay => return some delay
  | none =>
    parseRetryAfterHeaderMs rt nowMs (readRetryAfter rt
      (nullish (member (member source "response") "headers") (member source "headers")))

/-- `isRateLimitedProviderFailure`; a code that is missing is empty. -/
def isRateLimitedProviderFailure (status : Option ℤ) (code : JsString) (outcome : JsValue) : Bool :=
  let normalizedCode := rt.toUpperCase code.trim
  let normalizedOutcome := match outcome with
    | some (.str text) => rt.toLowerCase text.trim
    | _ => []
  status = some 429 ||
    ["429", "RATE_LIMITED", "PROVIDER_RATE_LIMITED", "TOO_MANY_REQUESTS", "HTTP_429"].any
      (normalizedCode = .ofString ·) ||
    ["rate_limited", "rate-limited"].any (normalizedOutcome = .ofString ·)

structure RetryPolicy where
  retryable : Bool
  retryAfterMs : Option ℚ
  rateLimited : Bool
deriving DecidableEq

/-- `resolveProviderRetryPolicy` for an outcome of `classifyProviderException`. The time of the next
attempt, which nothing reads, is left out. -/
def resolveProviderRetryPolicy (status : Option ℤ) (code : JsString)
    (outcome : ProviderSearchOutcome) (explicitRetryable : Option Bool) (retryAfterMs : Option ℚ) :
    RetryPolicy :=
  let rateLimited :=
    isRateLimitedProviderFailure rt status code (some (.str (.ofString outcome.name)))
  let transientOutcome := outcome = .timeout || outcome = .unavailable ||
    outcome = .circuitOpen || outcome = .rateLimited
  let retryable := explicitRetryable.getD (rateLimited || transientOutcome)
  { retryable := retryable
    retryAfterMs :=
      if retryable then
        some ((retryAfterMs.map (min · defaultMaxProviderRetryAfterMs)).getD
          defaultProviderRetryAfterMs)
      else none
    rateLimited := rateLimited }

/-! ## 3. Exceptions -/

def normalizeStatus (value : JsValue) : Except String (Option ℤ) := do
  match ← toNumber value with
  | .finite x => return if x.den = 1 then some x.num else none
  | _ => return none

def getProviderErrorStatus (error : JsValue) : Except String (Option ℤ) :=
  normalizeStatus (nullish (member error "status") (member (member error "response") "status"))

def getProviderErrorCode (error : JsValue) : Except String (Option JsString) :=
  match nullish (member error "code") (member (member (member error "response") "data") "code") with
  | none | some .null => .ok none
  | code => do return some (← toText rt.numberText code)

def getProviderErrorMessage (error : JsValue) : JsValue :=
  nullish (member error "message")
    (nullish (member (member (member error "response") "data") "message")
      (some (.str (.ofString "Provider search failed."))))

def isRateLimitError (error : JsValue) : Except String Bool := do
  let status ← getProviderErrorStatus error
  let code ← getProviderErrorCode rt error
  return isRateLimitedProviderFailure rt status (code.getD []) (member error "outcome")

def timeoutErrorCodes : List String :=
  ["ECONNABORTED", "ETIMEDOUT", "ESOCKETTIMEDOUT", "PROVIDER_TIMEOUT"]

def unavailableErrorCodes : List String :=
  ["ECONNREFUSED", "ECONNRESET", "ENETUNREACH", "EHOSTUNREACH", "EAI_AGAIN"]

/-- `codes.has(code.toUpperCase())`. -/
def hasCode (codes : List String) (code : Option JsString) : Bool :=
  code.any fun code => codes.any (rt.toUpperCase code = .ofString ·)

/-- The status or the code of a timeout. -/
def isTimeoutCode (status : Option ℤ) (code : Option JsString) : Bool :=
  status = some 408 || status = some 504 || hasCode rt timeoutErrorCodes code

/-- The message is read as text, whatever it is. -/
def isTimeoutError (error : JsValue) : Except String Bool := do
  let status ← getProviderErrorStatus error
  let code ← getProviderErrorCode rt error
  if isTimeoutCode rt status code then return true
  else
    match getProviderErrorMessage error with
    | some (.str text) =>
      let message := rt.toLowerCase text
      return (JsString.ofString "timeout") <:+: message || (JsString.ofString "timed out") <:+: message
    | _ => throw "getProviderErrorMessage(...).toLowerCase is not a function"

def isUnavailableError (error : JsValue) : Except String Bool := do
  let status ← getProviderErrorStatus error
  if status.any (500 ≤ ·) then return true
  else return hasCode rt unavailableErrorCodes (← getProviderErrorCode rt error)

def classifyProviderException (error : JsValue) : Except String ProviderSearchOutcome := do
  if ← isRateLimitError rt error then return .rateLimited
  else if ← isTimeoutError rt error then return .timeout
  else if ← isUnavailableError rt error then return .unavailable
  else return .error

structure ProviderFailureDetails where
  errorType : ProviderSearchOutcome
  status : Option ℤ
  code : Option JsString
  message : JsValue
  retryable : Bool
  retryAfterMs : Option ℚ
  retryAfterWasExplicit : Bool

def createProviderFailureDetails (nowMs : ℚ) (error : JsValue) :
    Except String ProviderFailureDetails := do
  let errorType ← classifyProviderException rt error
  let status ← getProviderErrorStatus error
  let code ← getProviderErrorCode rt error
  let retryAfterMs ← extractRetryAfterMs rt nowMs error
  let explicitRetryable := match member error "retryable" with
    | some (.bool retryable) => some retryable
    | _ => none
  let retryPolicy :=
    resolveProviderRetryPolicy rt status (code.getD []) errorType explicitRetryable retryAfterMs
  return { errorType := errorType, status := status, code := code
           message := getProviderErrorMessage error
           retryable := retryPolicy.retryable
           retryAfterMs := retryPolicy.retryAfterMs
           retryAfterWasExplicit := retryAfterMs.isSome }

/-! ## 4. Readable errors -/

variable {rt}

/-- An error whose fields can all be read. -/
structure ReadableError (rt : TextRuntime) (nowMs : ℚ) (error : JsValue) : Prop where
  status : ∃ status, getProviderErrorStatus error = .ok status
  code : ∃ code, getProviderErrorCode rt error = .ok code
  retryAfter : ∃ delay, extractRetryAfterMs rt nowMs error = .ok delay
  /-- The message is a text, unless the status or the code already tells enough. -/
  message : (∃ text, getProviderErrorMessage error = some (.str text)) ∨
    ∀ status code, getProviderErrorStatus error = .ok status → getProviderErrorCode rt error = .ok code →
      isRateLimitedProviderFailure rt status (code.getD []) (member error "outcome") = true ∨
        isTimeoutCode rt status code = true

theorem isRateLimitError_eq {error : JsValue} {status : Option ℤ} {code : Option JsString}
    (hstatus : getProviderErrorStatus error = .ok status)
    (hcode : getProviderErrorCode rt error = .ok code) : isRateLimitError rt error =
      .ok (isRateLimitedProviderFailure rt status (code.getD []) (member error "outcome")) := by
  rw [isRateLimitError, hstatus, hcode]
  rfl

/-- A timeout can be told when the message is text or need not be read. -/
theorem isTimeoutError_ok_iff {error : JsValue} {status : Option ℤ} {code : Option JsString}
    (hstatus : getProviderErrorStatus error = .ok status)
    (hcode : getProviderErrorCode rt error = .ok code) :
    (∃ timeout, isTimeoutError rt error = .ok timeout) ↔
      (∃ text, getProviderErrorMessage error = some (.str text)) ∨
        isTimeoutCode rt status code = true := by
  rw [isTimeoutError, hstatus, hcode]
  show (∃ timeout, (if isTimeoutCode rt status code = true then _ else _) = _) ↔ _
  by_cases htimeout : isTimeoutCode rt status code = true
  · rw [if_pos htimeout]
    exact iff_of_true ⟨true, rfl⟩ (.inr htimeout)
  · rw [if_neg htimeout]
    simp only [htimeout, Bool.false_eq_true, or_false]
    split
    next text hmessage => exact iff_of_true ⟨_, rfl⟩ ⟨text, hmessage⟩
    next hmessage =>
      refine iff_of_false ?_ fun ⟨text, htext⟩ => hmessage text htext
      rintro ⟨timeout, h⟩
      exact nomatch h

theorem isUnavailableError_ok {error : JsValue} {status : Option ℤ} {code : Option JsString}
    (hstatus : getProviderErrorStatus error = .ok status)
    (hcode : getProviderErrorCode rt error = .ok code) :
    ∃ unavailable, isUnavailableError rt error = .ok unavailable := by
  rw [isUnavailableError, hstatus, hcode]
  show ∃ unavailable, (if status.any (500 ≤ ·) = true then _ else _) = _
  split
  · exact ⟨true, rfl⟩
  · exact ⟨_, rfl⟩

/-- An error can be classified when a timeout can be told or it is a rate limit. -/
theorem classifyProviderException_ok_iff {error : JsValue} {status : Option ℤ}
    {code : Option JsString} (hstatus : getProviderErrorStatus error = .ok status)
    (hcode : getProviderErrorCode rt error = .ok code) :
    (∃ outcome, classifyProviderException rt error = .ok outcome) ↔
      (∃ text, getProviderErrorMessage error = some (.str text)) ∨
        isRateLimitedProviderFailure rt status (code.getD []) (member error "outcome") = true ∨
          isTimeoutCode rt status code = true := by
  have htimeout := isTimeoutError_ok_iff hstatus hcode
  obtain ⟨unavailable, hunavailable⟩ := isUnavailableError_ok hstatus hcode
  rw [classifyProviderException, isRateLimitError_eq hstatus hcode, or_left_comm, ← htimeout]
  cases isRateLimitedProviderFailure rt status (code.getD []) (member error "outcome") with
  | true => exact iff_of_true ⟨_, rfl⟩ (.inl rfl)
  | false =>
    constructor
    · rintro ⟨_, h⟩
      obtain ⟨_, hfalse, h⟩ := Fallible.bind_ok.mp h
      cases hfalse
      simp only [Bool.false_eq_true, if_false] at h
      obtain ⟨timeout, h, -⟩ := Fallible.bind_ok.mp h
      exact .inr ⟨timeout, h⟩
    · rintro (h | ⟨timeout, h⟩)
      · exact nomatch h
      · rw [h, hunavailable]
        cases timeout <;> cases unavailable <;> exact ⟨_, rfl⟩

/-- Details can be made of the readable errors and of no others. -/
theorem createProviderFailureDetails_ok_iff {nowMs : ℚ} {error : JsValue} :
    (∃ details, createProviderFailureDetails rt nowMs error = .ok details) ↔
      ReadableError rt nowMs error := by
  constructor
  · rintro ⟨_, h⟩
    obtain ⟨outcome, houtcome, h⟩ := Fallible.bind_ok.mp h
    obtain ⟨status, hstatus, h⟩ := Fallible.bind_ok.mp h
    obtain ⟨code, hcode, h⟩ := Fallible.bind_ok.mp h
    obtain ⟨delay, hdelay, -⟩ := Fallible.bind_ok.mp h
    refine ⟨⟨status, hstatus⟩, ⟨code, hcode⟩, ⟨delay, hdelay⟩, ?_⟩
    rcases (classifyProviderException_ok_iff hstatus hcode).mp ⟨outcome, houtcome⟩ with h | h
    · exact .inl h
    · refine .inr fun status' code' hstatus' hcode' => ?_
      rw [hstatus, Except.ok.injEq] at hstatus'
      rw [hcode, Except.ok.injEq] at hcode'
      rwa [← hstatus', ← hcode']
  · rintro ⟨⟨status, hstatus⟩, ⟨code, hcode⟩, ⟨delay, hdelay⟩, hmessage⟩
    obtain ⟨outcome, houtcome⟩ := (classifyProviderException_ok_iff hstatus hcode).mpr
      (hmessage.imp_right fun h => h status code hstatus hcode)
    exact ⟨_, Fallible.bind_ok.mpr ⟨outcome, houtcome, Fallible.bind_ok.mpr ⟨status, hstatus,
      Fallible.bind_ok.mpr ⟨code, hcode, Fallible.bind_ok.mpr ⟨delay, hdelay, rfl⟩⟩⟩⟩⟩

end SmartStay.Health
