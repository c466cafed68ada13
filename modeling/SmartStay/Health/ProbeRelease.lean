import SmartStay.Health.Agreement
import SmartStay.Health.ProviderOutcomes

/-!
# Probes are given back

`executeProviderOperation` of `server/providers/accommodationProviderOrchestrator.js` over the
circuit in memory. What a call reports depends on nothing but what its adapter returned or threw, so
a call is an admission and a list of reports. The delays of reports are rounded up to whole
milliseconds, as the clock is; the texts of reports that only a snapshot shows are left out.

1. `validateProviderSearchResult`, `prepareProviderResult`.
2. `operationReports`: the reports of a call.
3. `Settles`, `operationReports_ne_nil_iff`: which calls report.
4. `operations`: calls under any interleaving, with other users of the circuit.
5. `probe_given_back_iff`: a call gives its probe back in every run exactly when it settles.
-/

namespace SmartStay.Health

open JsValue Memory

/-! ## 1. Results -/

/-- An `Error` with a message, and with the code that is assigned to it. -/
def errorValue (message : JsString) (code : Option String := none) : JsValue :=
  some (.obj ((.ofString "message", .str message) ::
    (code.map fun code => (.ofString "code", .str (.ofString code))).toList))

def textError (message : String) : JsValue := errorValue (.ofString message)

/-- A result that was found valid. -/
structure ProviderSearchResult where
  providerId : JsString
  outcome : ProviderSearchOutcome
  hotels : List (JsonValue JsFloat)
  continuation : Option (JsString × JsonValue JsFloat)
  failedResponse : JsValue

section
variable (rt : TextRuntime)

def normalizeProviderId (providerId : JsValue) : Except JsValue JsString :=
  match providerId with
  | some (.str text) =>
    if text.trim = [] then .error (textError "A valid providerId is required.")
    else .ok (rt.toLowerCase text.trim)
  | _ => .error (textError "A valid providerId is required.")

def createProviderContinuation (providerId cursor : JsValue) :
    Except JsValue (Option (JsString × JsonValue JsFloat)) :=
  let normalizedCursor : JsValue := match cursor with
    | some (.str text) => some (.str text.trim)
    | cursor => cursor
  match normalizedCursor with
  | none | some .null | some (.str []) => .ok none
  | some cursor => do return some (← normalizeProviderId rt providerId, cursor)

/-- `PROVIDER_SEARCH_OUTCOMES` has the value. -/
def outcomeOf (value : JsValue) : Option ProviderSearchOutcome :=
  match value with
  | some (.str text) =>
    [.success, .noResults, .error, .timeout, .rateLimited, .unavailable, .circuitOpen].find?
      fun outcome => text = .ofString outcome.name
  | _ => none

/-- `throw error` when the test holds. -/
def throwErrorWhen (c : Prop) [Decidable c] (message : String) : Except JsValue Unit :=
  if c then .error (textError message) else .ok ()

/-- The error for an outcome that is none: its text is read for the message. -/
def invalidOutcome (outcome : JsValue) : JsValue :=
  match toText rt.numberText outcome with
  | .ok text => errorValue (.ofString "Invalid provider search outcome: " ++ text)
  | .error message => textError message

def validateProviderSearchResult (result : JsValue) : Except JsValue ProviderSearchResult := do
  match result with
  | some (.obj _) => do
    let _ ← normalizeProviderId rt (member result "providerId")
    let providerId := match member result "providerId" with
      | some (.str text) => text
      | _ => []
    match outcomeOf (member result "outcome"), member result "hotels" with
    | none, _ => throw (invalidOutcome rt (member result "outcome"))
    | some outcome, some (.arr hotels) => do
      let continuation := member result "continuation"
      let continuationCursor := match continuation with
        | some (.obj _) => member continuation "cursor"
        | continuation => continuation
      let normalizedContinuation ←
        createProviderContinuation rt (member result "providerId") continuationCursor
      let failedResponse := member result "failedResponse"
      throwErrorWhen ((nullish continuation none).isSome ∧ normalizedContinuation.isNone)
        "Provider continuation must contain a usable cursor."
      throwErrorWhen (outcome = .success ∧ hotels.length = 0 ∧ normalizedContinuation.isNone)
        "Successful provider result must contain at least one hotel or a continuation."
      throwErrorWhen (outcome ≠ .success ∧ 0 < hotels.length)
        "Non-success provider result cannot contain hotels."
      throwErrorWhen (outcome = .success ∧ ¬ failedResponse matches some .null)
        "Successful provider result cannot contain failedResponse."
      throwErrorWhen (outcome ≠ .success ∧ truthy failedResponse = false)
        "Non-success provider result must contain failedResponse."
      return { providerId := providerId, outcome := outcome, hotels := hotels
               continuation := normalizedContinuation, failedResponse := failedResponse }
    | some _, _ => throw (textError "Provider search result hotels must be an array.")
  | _ => throw (textError "Provider search result must be an object.")

def prepareProviderResult (expectedProviderId : JsString) (result : JsValue) :
    Except JsValue ProviderSearchResult := do
  let validatedResult ← validateProviderSearchResult rt result
  if validatedResult.providerId ≠ expectedProviderId then
    throw (errorValue (JsString.ofString "Provider result id mismatch: expected \"" ++
      expectedProviderId ++ JsString.ofString "\", received \"" ++ validatedResult.providerId ++
      JsString.ofString "\".") (some "PROVIDER_RESULT_ID_MISMATCH"))
  else return validatedResult

/-! ## 2. Reports -/

/-- A call that was admitted: the provider, what the adapter threw or returned (errors of loading
it, of the capacity and of the timeout are thrown as well), and the time an error is read at. -/
structure OperationRun where
  providerId : JsString
  outcome : Except JsValue JsValue
  nowMs : ℚ

/-- A report to the circuit. One is interrupted, when its delay cannot be converted, after the
probe was released. -/
inductive Report
  | healthy
  | failure (failure : FailureReport)
  | interrupted (failure : FailureReport)
deriving DecidableEq

def failureReport (errorType : ProviderSearchOutcome) (explicit : Bool) (retryAfterMs : JsFloat) :
    FailureReport :=
  { errorType := some errorType.name
    retryAfterMs :=
      match retryAfterMs with
      | .finite x => if 0 ≤ x then .value ⌈x⌉.toNat else .absent
      | _ => .absent
    retryAfterWasExplicit := explicit }

/-- The report in the `catch` block, when details can be made of the error. -/
def catchReports (nowMs : ℚ) (error : JsValue) : List Report :=
  match createProviderFailureDetails rt nowMs error with
  | .ok details =>
    [.failure (failureReport details.errorType details.retryAfterWasExplicit
      (.finite (details.retryAfterMs.getD 0)))]
  | .error _ => []

/-- The attempt that is returned reads the delay once more. -/
def completionReports (nowMs : ℚ) (retryAfterMs : JsValue) : List Report :=
  match toNumber retryAfterMs with
  | .ok _ => []
  | .error message => catchReports rt nowMs (textError message)

/-- The reports for a valid result. -/
def resultReports (nowMs : ℚ) (result : ProviderSearchResult) : List Report :=
  let retryAfterMs := member result.failedResponse "retryAfterMs"
  if isProviderHealthyOutcome result.outcome then .healthy :: completionReports rt nowMs retryAfterMs
  else if shouldCountProviderFailure result.outcome then
    let explicit := (nullish retryAfterMs none).isSome
    match toNumber (nullish retryAfterMs (some .null)) with
    | .ok delay =>
      .failure (failureReport result.outcome explicit delay) ::
        completionReports rt nowMs retryAfterMs
    | .error message =>
      .interrupted (failureReport result.outcome explicit .nan) ::
        catchReports rt nowMs (textError message)
  else completionReports rt nowMs retryAfterMs

/-- What `executeProviderOperation` reports to the circuit after it was admitted. -/
def operationReports (run : OperationRun) : List Report :=
  match run.outcome with
  | .error error => catchReports rt run.nowMs error
  | .ok rawResult =>
    match prepareProviderResult rt run.providerId rawResult with
    | .error error => catchReports rt run.nowMs error
    | .ok result => resultReports rt run.nowMs result

end

/-! ## 3. Calls that report -/

variable {rt : TextRuntime}

theorem member_cons_ne {key : JsString} {value : JsonValue JsFloat}
    {rest : List (JsString × JsonValue JsFloat)} {name : String} (h : key ≠ .ofString name) :
    member (some (.obj ((key, value) :: rest))) name = member (some (.obj rest)) name := by
  simp only [member, JsonValue.get, List.find?_cons, h, decide_false]

/-- An error has no properties but its message and its code. -/
theorem member_errorValue {message : JsString} {code : Option String} {name : String}
    (hmessage : JsString.ofString "message" ≠ .ofString name)
    (hcode : JsString.ofString "code" ≠ .ofString name) :
    member (errorValue message code) name = none := by
  rw [errorValue, member_cons_ne hmessage]
  cases code with
  | none => rfl
  | some code =>
    show member (some (.obj [(_, _)])) name = none
    rw [member_cons_ne hcode]
    rfl

/-- The errors that the code itself makes can be read. -/
theorem readable_errorValue (nowMs : ℚ) (message : JsString) (code : Option String) :
    ReadableError rt nowMs (errorValue message code) := by
  have hstatus : member (errorValue message code) "status" = none :=
    member_errorValue (by decide +kernel) (by decide +kernel)
  have hresponse : member (errorValue message code) "response" = none :=
    member_errorValue (by decide +kernel) (by decide +kernel)
  have hdata : member (errorValue message code) "data" = none :=
    member_errorValue (by decide +kernel) (by decide +kernel)
  have hretry : member (errorValue message code) "retryAfterMs" = none :=
    member_errorValue (by decide +kernel) (by decide +kernel)
  have hretry' : member (errorValue message code) "retry_after_ms" = none :=
    member_errorValue (by decide +kernel) (by decide +kernel)
  have hheaders : member (errorValue message code) "headers" = none :=
    member_errorValue (by decide +kernel) (by decide +kernel)
  have hmessage : member (errorValue message code) "message" = some (.str message) := by
    simp only [errorValue, member, JsonValue.get, List.find?_cons, decide_true, Option.map_some]
  have hcode : member (errorValue message code) "code" =
      code.map fun code => .str (.ofString code) := by
    rw [errorValue, member_cons_ne (by decide +kernel)]
    cases code with
    | none => rfl
    | some code =>
      simp only [member, JsonValue.get, Option.map_some, Option.toList_some, List.find?_cons,
        decide_true]
  refine ⟨⟨none, ?_⟩, ?_, ⟨none, ?_⟩, .inl ⟨message, ?_⟩⟩
  · rw [getProviderErrorStatus, hstatus, hresponse]
    rfl
  · rw [getProviderErrorCode, hcode, hresponse]
    cases code with
    | none => exact ⟨none, rfl⟩
    | some code => exact ⟨some _, rfl⟩
  · rw [extractRetryAfterMs, hresponse, hdata, hretry, hretry', hheaders]
    rfl
  · rw [getProviderErrorMessage, hmessage]
    rfl

/-- A computation that throws nothing but errors that the code makes. -/
def OwnErrors {α : Type} (x : Except JsValue α) : Prop :=
  ∀ error, x = .error error → ∃ message code, error = errorValue message code

theorem OwnErrors.ok {α : Type} (a : α) : OwnErrors (.ok a) := nofun

theorem OwnErrors.error {α : Type} (message : JsString) (code : Option String) :
    OwnErrors (α := α) (.error (errorValue message code)) := by
  rintro error ⟨⟩
  exact ⟨message, code, rfl⟩

theorem OwnErrors.bind {α β : Type} {x : Except JsValue α} {f : α → Except JsValue β}
    (hx : OwnErrors x) (hf : ∀ a, OwnErrors (f a)) : OwnErrors (x >>= f) := by
  cases x with
  | error e =>
    rintro _ ⟨⟩
    exact hx _ rfl
  | ok a => exact hf a

theorem OwnErrors.throwWhen (c : Prop) [Decidable c] (message : String) :
    OwnErrors (throwErrorWhen c message) := by
  unfold throwErrorWhen
  split
  · exact .error _ none
  · exact .ok ()

theorem OwnErrors.normalizeProviderId (providerId : JsValue) :
    OwnErrors (normalizeProviderId rt providerId) := by
  unfold Health.normalizeProviderId
  split
  · split
    · exact .error _ none
    · exact .ok _
  · exact .error _ none

theorem OwnErrors.createProviderContinuation (providerId cursor : JsValue) :
    OwnErrors (createProviderContinuation rt providerId cursor) := by
  unfold Health.createProviderContinuation
  dsimp only
  split
  · exact .ok none
  · exact .ok none
  · exact .ok none
  · exact .bind (.normalizeProviderId _) fun _ => .ok _

theorem OwnErrors.invalidOutcome {α : Type} (outcome : JsValue) :
    OwnErrors (α := α) (.error (invalidOutcome rt outcome)) := by
  unfold Health.invalidOutcome
  split
  · exact .error _ none
  · exact .error _ none

theorem OwnErrors.validateProviderSearchResult (result : JsValue) :
    OwnErrors (validateProviderSearchResult rt result) := by
  unfold Health.validateProviderSearchResult
  split
  · refine .bind (.normalizeProviderId _) fun _ => ?_
    dsimp only
    split
    · exact .invalidOutcome _
    · refine .bind (.createProviderContinuation _ _) fun _ => .bind (.throwWhen _ _) fun _ =>
        .bind (.throwWhen _ _) fun _ => .bind (.throwWhen _ _) fun _ => .bind (.throwWhen _ _)
          fun _ => .bind (.throwWhen _ _) fun _ => .ok _
    · exact .error _ none
  · exact .error _ none

theorem OwnErrors.prepareProviderResult (expectedProviderId : JsString) (result : JsValue) :
    OwnErrors (prepareProviderResult rt expectedProviderId result) := by
  refine .bind (.validateProviderSearchResult _) fun validatedResult => ?_
  split
  · exact .error _ _
  · exact .ok _

/-- A caught error is reported when it can be read. -/
theorem catchReports_ne_nil_iff {nowMs : ℚ} {error : JsValue} :
    catchReports rt nowMs error ≠ [] ↔ ReadableError rt nowMs error := by
  rw [← createProviderFailureDetails_ok_iff, catchReports]
  cases createProviderFailureDetails rt nowMs error with
  | error e => exact iff_of_false (fun h => h rfl) nofun
  | ok details => exact iff_of_true nofun ⟨details, rfl⟩

theorem catchReports_errorValue (nowMs : ℚ) (message : JsString) (code : Option String) :
    catchReports rt nowMs (errorValue message code) ≠ [] :=
  catchReports_ne_nil_iff.mpr (readable_errorValue nowMs message code)

/-- The attempt reports nothing when its delay can be read. -/
theorem completionReports_ne_nil_iff {nowMs : ℚ} {retryAfterMs : JsValue} :
    completionReports rt nowMs retryAfterMs ≠ [] ↔
      ∃ message, toNumber retryAfterMs = .error message := by
  rw [completionReports]
  cases toNumber retryAfterMs with
  | ok x => exact iff_of_false (fun h => h rfl) nofun
  | error message => exact iff_of_true (catchReports_errorValue nowMs _ none) ⟨message, rfl⟩

/-- The condition on what the adapter threw or returned: an error can be read, and a valid result
does not say that the circuit is open, unless its delay cannot be converted. -/
def Settles (rt : TextRuntime) (run : OperationRun) : Prop :=
  match run.outcome with
  | .error error => ReadableError rt run.nowMs error
  | .ok rawResult => ∀ result, prepareProviderResult rt run.providerId rawResult = .ok result →
      result.outcome = .circuitOpen →
      ∃ message, toNumber (member result.failedResponse "retryAfterMs") = .error message

theorem resultReports_ne_nil_iff {nowMs : ℚ} {result : ProviderSearchResult} :
    resultReports rt nowMs result ≠ [] ↔ (result.outcome = .circuitOpen →
      ∃ message, toNumber (member result.failedResponse "retryAfterMs") = .error message) := by
  rw [resultReports]
  cases hhealthy : isProviderHealthyOutcome result.outcome with
  | true =>
    refine iff_of_true nofun fun hopen => ?_
    rw [hopen] at hhealthy
    exact nomatch hhealthy
  | false =>
    cases hcounted : shouldCountProviderFailure result.outcome with
    | true =>
      refine iff_of_true ?_ fun hopen => ?_
      · simp only [Bool.false_eq_true, if_false, if_true]
        split <;> nofun
      · rw [hopen] at hcounted
        exact nomatch hcounted
    | false =>
      have hopen := circuitOpen_of_not_counted hhealthy hcounted
      simp only [Bool.false_eq_true, if_false]
      rw [completionReports_ne_nil_iff]
      exact ⟨fun h _ => h, fun h => h hopen⟩

/-- The calls that settle are those that report to the circuit. -/
theorem operationReports_ne_nil_iff (run : OperationRun) :
    operationReports rt run ≠ [] ↔ Settles rt run := by
  unfold operationReports Settles
  cases run.outcome with
  | error error => exact catchReports_ne_nil_iff
  | ok rawResult =>
    dsimp only
    cases hprepare : prepareProviderResult rt run.providerId rawResult with
    | error error =>
      obtain ⟨message, code, rfl⟩ := OwnErrors.prepareProviderResult _ _ error hprepare
      exact iff_of_true (catchReports_errorValue _ message code) nofun
    | ok result =>
      dsimp only
      rw [resultReports_ne_nil_iff]
      constructor
      · rintro h _ ⟨⟩
        exact h
      · exact fun h => h result rfl

/-! ## 4. Calls and their runs -/

abbrev CallId := Nat

/-- Who was admitted as a probe: a call, or another user of the circuit. -/
inductive Prober
  | call (call : CallId)
  | other
deriving DecidableEq

/-- The circuit of a provider in memory and its calls. A running call has the reports that it is
still to make. Two ghosts: the prober in flight, and what became of the calls. -/
structure Operations where
  memory : ProviderHealthState := {}
  probe : Option Prober := none
  running : Hash CallId (List Report) := ∅
  started : Hash CallId OperationRun := ∅

inductive OperationEvent
  | start (call : CallId) (run : OperationRun)
  | report (call : CallId)
  | finish (call : CallId)
  | other (operation : HealthOperation)

/-- The state in memory after a report. -/
def Report.apply (policy : HealthPolicy) (state : ProviderHealthState) (now : Nat) :
    Report → ProviderHealthState
  | .healthy => (Memory.recordProviderSuccess state now).1
  | .failure details => (Memory.recordProviderFailure state now details policy).1
  | .interrupted details =>
    { state with
      consecutiveFailures := state.consecutiveFailures + 1
      lastFailureAt := some now
      lastErrorType := some (details.errorType.getD "provider_error")
      lastErrorMessage := details.message
      lastErrorStatus := details.status
      halfOpenProbeInFlight := false }

/-- The prober in flight after an attempt of `prober`. -/
def proberAfter (permission : AttemptPermission) (prober : Prober) (probe : Option Prober) :
    Option Prober :=
  if permission.allowed = true ∧ permission.reason = "half_open_probe" then some prober else probe

variable (rt) (policy : HealthPolicy)

def Operations.step (s : Operations) : OperationEvent × Nat → Option Operations
  | (.start call run, now) =>
    if call ∈ s.started then none
    else
      let result := Memory.beginProviderAttempt s.memory now
      some
        { memory := result.1
          probe := proberAfter result.2 (.call call) s.probe
          running :=
            if result.2.allowed then s.running.hset call (operationReports rt run) else s.running
          started := s.started.hset call run }
  | (.report call, now) =>
    match s.running.hget call with
    | some (report :: rest) =>
      some
        { s with
          memory := report.apply policy s.memory now
          probe := none
          running := s.running.hset call rest }
    | _ => none
  | (.finish call, _) =>
    match s.running.hget call with
    | some [] => some { s with running := s.running.hdel call }
    | _ => none
  | (.other (.begin _), now) =>
    let result := Memory.beginProviderAttempt s.memory now
    some { s with memory := result.1, probe := proberAfter result.2 .other s.probe }
  | (.other operation, now) =>
    some { s with memory := memoryStep s.memory (operation, now), probe := none }

/-- Calls of `executeProviderOperation`, and other users of the circuit, under any interleaving. -/
def operations : Machine Operations (OperationEvent × Nat) where
  init s := s = {}
  step := Operations.step rt policy

variable {rt} {policy} {s t : Operations} {call : CallId} {run : OperationRun} {now : Nat}

/-- An attempt takes the slot of the probe only when it is admitted as one. -/
theorem begin_inFlight (state : ProviderHealthState) (now : Nat)
    (h : (Memory.beginProviderAttempt state now).1.halfOpenProbeInFlight = true) :
    (Memory.beginProviderAttempt state now).2.allowed = true ∧
      (Memory.beginProviderAttempt state now).2.reason = "half_open_probe" ∨
    state.halfOpenProbeInFlight = true := by
  unfold Memory.beginProviderAttempt at h ⊢
  dsimp only at h ⊢
  -- the slot that the attempt finds, when the cooldown may be over
  generalize hslot : (if state.circuitState = .opened then state.halfOpened else state) = slot at h ⊢
  have hflight : slot.halfOpenProbeInFlight = true → state.halfOpenProbeInFlight = true := by
    rw [← hslot]
    split
    · exact nofun
    · exact id
  by_cases hopen : state.circuitState = .opened ∧ state.nextAttemptAt.all (· ≤ now) = false
  · rw [if_pos hopen] at h
    exact .inr h
  · rw [if_neg hopen] at h ⊢
    by_cases hprobe : slot.circuitState = .halfOpen ∧ slot.halfOpenProbeInFlight = true
    · rw [if_pos hprobe] at h
      exact .inr (hflight h)
    · rw [if_neg hprobe] at h ⊢
      by_cases hhalf : slot.circuitState = .halfOpen
      · exact .inl ⟨rfl, if_pos hhalf⟩
      · exact .inr (hflight (by simpa [hhalf] using h))

/-- After any report no probe is in flight. -/
theorem Report.apply_inFlight (policy : HealthPolicy) (report : Report) (state : ProviderHealthState) (now : Nat) :
    (report.apply policy state now).halfOpenProbeInFlight = false := by
  cases report with
  | healthy => rfl
  | failure details =>
    show (Memory.recordProviderFailure state now details policy).1.halfOpenProbeInFlight = false
    unfold Memory.recordProviderFailure
    dsimp only
    split <;> rfl
  | interrupted details => rfl

/-- While no probe is in flight, some later attempt is allowed. -/
theorem begin_later {state : ProviderHealthState} (h : state.halfOpenProbeInFlight = false) :
    ∃ late, ∀ now, late ≤ now → (Memory.beginProviderAttempt state now).2.allowed = true := by
  refine ⟨state.nextAttemptAt.getD 0, fun now hnow => ?_⟩
  have hcases := memory_begin_cases state now
  generalize Memory.beginProviderAttempt state now = result at hcases ⊢
  obtain ⟨state', allowed, reason, token, health⟩ := result
  cases hcases with
  | circuitOpen _ hwait => exact absurd hwait (Nat.not_lt_of_le hnow)
  | inFlight _ hflight => exact nomatch h.symm.trans hflight
  | probe => rfl
  | closed => rfl

/-- The invariant: a probe in flight has a prober, and a call that is the prober and settles is
still to report. -/
structure Owned (rt : TextRuntime) (s : Operations) : Prop where
  flag : s.memory.halfOpenProbeInFlight = true → s.probe ≠ none
  known : ∀ call, s.probe = some (.call call) → call ∈ s.started
  pending : ∀ call run, s.probe = some (.call call) → s.started.hget call = some run →
    Settles rt run → ∃ report rest, s.running.hget call = some (report :: rest)

theorem proberAfter_cases (permission : AttemptPermission) (prober : Prober)
    (probe : Option Prober) :
    (permission.allowed = true ∧ permission.reason = "half_open_probe") ∧
      proberAfter permission prober probe = some prober ∨
    ¬ (permission.allowed = true ∧ permission.reason = "half_open_probe") ∧
      proberAfter permission prober probe = probe := by
  unfold proberAfter
  split
  next h => exact .inl ⟨h, rfl⟩
  next h => exact .inr ⟨h, rfl⟩

/-- A probe in flight after an attempt has a prober. -/
theorem Owned.begin_flag (hs : Owned rt s) (prober : Prober) (now : Nat)
    (h : (Memory.beginProviderAttempt s.memory now).1.halfOpenProbeInFlight = true) :
    proberAfter (Memory.beginProviderAttempt s.memory now).2 prober s.probe ≠ none := by
  rcases proberAfter_cases (Memory.beginProviderAttempt s.memory now).2 prober s.probe with ⟨-, heq⟩ | ⟨hno, heq⟩
  · rw [heq]
    exact nofun
  · rw [heq]
    rcases begin_inFlight s.memory now h with hprobe | hflight
    · exact absurd hprobe hno
    · exact hs.flag hflight

/-- A call starts: it is the prober with all its reports to make, or the prober stays. -/
theorem Owned.start (hs : Owned rt s)
    (hstep : Operations.step rt policy s (.start call run, now) = some t) : Owned rt t := by
  rw [Operations.step, Option.ite_none_left_eq_some] at hstep
  obtain ⟨hnew, hstep⟩ := hstep
  obtain rfl := Option.some.inj hstep
  have hprober := proberAfter_cases (Memory.beginProviderAttempt s.memory now).2 (.call call) s.probe
  refine ⟨hs.begin_flag _ now, fun other hother => ?_, fun other run' hother hrun hsettles => ?_⟩
  · dsimp only at hother ⊢
    rw [Hash.mem_hset]
    rcases hprober with ⟨-, heq⟩ | ⟨-, heq⟩ <;> rw [heq] at hother
    · obtain ⟨⟨⟩⟩ := hother
      exact .inl rfl
    · exact .inr (hs.known other hother)
  · dsimp only at hother hrun ⊢
    rcases hprober with ⟨⟨hallowed, -⟩, heq⟩ | ⟨-, heq⟩ <;> rw [heq] at hother
    · obtain ⟨⟨⟩⟩ := hother
      rw [Hash.hget_hset_self] at hrun
      obtain rfl := Option.some.inj hrun
      rw [if_pos hallowed, Hash.hget_hset_self]
      obtain ⟨report, rest, hreports⟩ :=
        List.exists_cons_of_ne_nil ((operationReports_ne_nil_iff run).mpr hsettles)
      exact ⟨report, rest, by rw [hreports]⟩
    · have hne : other ≠ call := by
        rintro rfl
        exact hnew (hs.known other hother)
      rw [Hash.hget_hset, if_neg hne] at hrun
      obtain ⟨report, rest, hreports⟩ := hs.pending other run' hother hrun hsettles
      refine ⟨report, rest, ?_⟩
      split
      · rwa [Hash.hget_hset, if_neg hne]
      · exact hreports

/-- A call finishes that has nothing to report, so it is not the prober if it settles. -/
theorem Owned.finish (hs : Owned rt s)
    (hstep : Operations.step rt policy s (.finish call, now) = some t) : Owned rt t := by
  rw [Operations.step] at hstep
  split at hstep
  next hrunning =>
    obtain rfl := Option.some.inj hstep
    refine ⟨hs.flag, hs.known, fun other run hother hrun hsettles => ?_⟩
    obtain ⟨report, rest, hreports⟩ := hs.pending other run hother hrun hsettles
    have hne : other ≠ call := by
      rintro rfl
      exact nomatch hrunning.symm.trans hreports
    refine ⟨report, rest, ?_⟩
    show (s.running.hdel call).hget other = _
    rwa [Hash.hget_hdel, if_neg hne]
  next => exact nomatch hstep

theorem Owned.step (hs : Owned rt s) {i : OperationEvent × Nat}
    (hstep : Operations.step rt policy s i = some t) : Owned rt t := by
  obtain ⟨event, now⟩ := i
  cases event with
  | start call run => exact hs.start hstep
  | finish call => exact hs.finish hstep
  | report call =>
    rw [Operations.step] at hstep
    split at hstep
    next report rest hrunning =>
      obtain rfl := Option.some.inj hstep
      have hflight := Report.apply_inFlight policy report s.memory now
      exact ⟨fun h => (nomatch hflight.symm.trans h), nofun, nofun⟩
    next => exact nomatch hstep
  | other operation =>
    cases operation with
    | begin token =>
      obtain rfl := Option.some.inj hstep
      have hprober := proberAfter_cases (Memory.beginProviderAttempt s.memory now).2 .other s.probe
      have hcall : ∀ call, proberAfter (Memory.beginProviderAttempt s.memory now).2 .other s.probe =
          some (.call call) → s.probe = some (.call call) := by
        intro call hcall
        rcases hprober with ⟨-, heq⟩ | ⟨-, heq⟩ <;> rw [heq] at hcall
        · exact nomatch hcall
        · exact hcall
      exact ⟨hs.begin_flag _ now, fun call h => hs.known call (hcall call h),
        fun call run h => hs.pending call run (hcall call h)⟩
    | success token =>
      obtain rfl := Option.some.inj hstep
      exact ⟨nofun, nofun, nofun⟩
    | failure failure policy token =>
      obtain rfl := Option.some.inj hstep
      have hflight := Report.apply_inFlight policy (.failure failure) s.memory now
      exact ⟨fun h => (nomatch hflight.symm.trans h), nofun, nofun⟩

/-! ## 5. Probes are given back -/

/-- The call is not the prober any more, and unless another one is, a later attempt is allowed. -/
def GivenBack (s : Operations) (call : CallId) : Prop :=
  s.probe ≠ some (.call call) ∧ (s.probe = none →
    ∃ late, ∀ now, late ≤ now → (Memory.beginProviderAttempt s.memory now).2.allowed = true)

theorem owned_of_reach (h : (operations rt policy).Reach Machine.Anything s) : Owned rt s := by
  refine h.invariant ?_ fun s i t hs _ hstep => hs.step hstep
  rintro s rfl
  exact ⟨nofun, nofun, nofun⟩

/-- A call that settles has given its probe back when it returns. -/
theorem Owned.givenBack (hs : Owned rt s) (hstarted : s.started.hget call = some run)
    (hreturned : s.running.hget call = none) (hsettles : Settles rt run) : GivenBack s call := by
  refine ⟨fun hprobe => ?_, fun hnone => begin_later ?_⟩
  · obtain ⟨report, rest, hreports⟩ := hs.pending call run hprobe hstarted hsettles
    exact nomatch hreturned.symm.trans hreports
  · by_contra hflight
    exact hs.flag (by simpa using hflight) hnone

/-- The circuit after a failure that opens it for no time. -/
def openedCircuit : ProviderHealthState :=
  (Memory.recordProviderFailure {} 0
    { retryAfterMs := .value 0, retryAfterWasExplicit := true } {}).1

/-- A call without a report keeps the slot of the probe. -/
theorem stuck_of_no_report (policy : HealthPolicy) (hnone : operationReports rt run = []) :
    ∃ s, (operations rt policy).Reach Machine.Anything s ∧ s.started.hget 0 = some run ∧
      s.running.hget 0 = none ∧ s.probe = some (.call 0) := by
  -- another user opens the circuit, the call is admitted as the probe, and returns
  let opened : Operations := { memory := openedCircuit }
  let probing : Operations :=
    { memory := (Memory.beginProviderAttempt openedCircuit 0).1, probe := some (.call 0)
      running := (∅ : Hash CallId (List Report)).hset 0 []
      started := (∅ : Hash CallId OperationRun).hset 0 run }
  let returned : Operations := { probing with running := probing.running.hdel 0 }
  have hopened : (operations rt policy).step {} (.other (.failure
      { retryAfterMs := .value 0, retryAfterWasExplicit := true } {} ""), 0) = some opened := rfl
  have hprobing : (operations rt policy).step opened (.start 0 run, 0) = some probing := by
    show Operations.step rt policy opened (.start 0 run, 0) = some probing
    rw [Operations.step, if_neg (by simp [opened]), hnone]
    rfl
  have hreturned : (operations rt policy).step probing (.finish 0, 0) = some returned := by
    have hrunning : probing.running.hget 0 = some [] := Hash.hget_hset_self _ _ _
    show Operations.step rt policy probing (.finish 0, 0) = some returned
    rw [Operations.step, hrunning]
  exact ⟨returned, .step (.step (.step (.init rfl) trivial hopened) trivial hprobing) trivial
    hreturned, Hash.hget_hset_self _ _ _, Hash.hget_hdel_self _ _, rfl⟩

/-- For every call: in every run of calls and of other users of the circuit, it has given its probe
back when it has returned or thrown, if and only if it settles. -/
theorem probe_given_back_iff (rt : TextRuntime) (policy : HealthPolicy) (run : OperationRun) :
    (∀ s, (operations rt policy).Reach Machine.Anything s → ∀ call,
      s.started.hget call = some run → s.running.hget call = none → GivenBack s call) ↔
    Settles rt run := by
  constructor
  · intro h
    by_contra hsettles
    have hnone : operationReports rt run = [] := by
      by_contra hreports
      exact hsettles ((operationReports_ne_nil_iff run).mp hreports)
    obtain ⟨s, hs, hstarted, hreturned, hprobe⟩ := stuck_of_no_report policy hnone
    exact (h s hs 0 hstarted hreturned).1 hprobe
  · exact fun hsettles s hs call hstarted hreturned =>
      (owned_of_reach hs).givenBack hstarted hreturned hsettles

/-- Text of ASCII characters, and no dates. -/
def asciiRuntime : TextRuntime where
  numberText _ := .ofString "NaN"
  toUpperCase := List.map fun u => if 97 ≤ u.val ∧ u.val ≤ 122 then Fin.ofNat _ (u.val - 32) else u
  toLowerCase := List.map fun u => if 65 ≤ u.val ∧ u.val ≤ 90 then Fin.ofNat _ (u.val + 32) else u
  dateParse _ := .nan

/-- An adapter that answers that its own circuit is open. -/
def circuitOpenRun : OperationRun :=
  { providerId := .ofString "rates"
    nowMs := 0
    outcome := .ok (some (.obj [(.ofString "providerId", .str (.ofString "rates")),
      (.ofString "outcome", .str (.ofString "circuit_open")), (.ofString "hotels", .arr []),
      (.ofString "failedResponse",
        .obj [(.ofString "code", .str (.ofString "PROVIDER_CIRCUIT_OPEN"))])])) }

/-- The slot of its probe is never free again: until something else reports, no attempt is
allowed. -/
theorem circuit_open_keeps_probe :
    ∃ s, (operations asciiRuntime {}).Reach Machine.Anything s ∧
      s.started.hget 0 = some circuitOpenRun ∧ s.running.hget 0 = none ∧ ¬ GivenBack s 0 := by
  have hnone : operationReports asciiRuntime circuitOpenRun = [] := by decide +kernel
  obtain ⟨s, hs, hstarted, hreturned, hprobe⟩ := stuck_of_no_report {} hnone
  exact ⟨s, hs, hstarted, hreturned, fun h => h.1 hprobe⟩

end SmartStay.Health
