import SmartStay.Lib.Keyed
import SmartStay.Lib.Text

/-!
# Provider executions

`server/providers/common/providerContinuationState.js` keeps one execution for each
provider of a search: where its pages stand and whether it may be called again. This
module embeds its functions on lists of executions, and `recoverStaleProviderExecutions`
of the stay service.

1. Ids, continuations, executions.
2. Normalisation.
3. Runnable executions.
4. The transitions: begin, success, failure, recovery, and the summary.
5. `RunningIn`: which providers are in the state `running` after a transition.

An operation on the list takes the time `now` of its `Date.now()`.
-/

namespace SmartStay.Continuation

/-! ## 1. Executions -/

/-- A provider id as `normalizeProviderId` returns it. -/
structure ProviderId where
  value : String
  normal : JsText.toLowerCase (JsText.trim value) = value
  nonempty : value ≠ ""
deriving DecidableEq, Repr

/-- A continuation with a usable cursor, as `normalizeProviderContinuation` returns it;
`cursor` is the text `stableSerialize` makes of the cursor. -/
structure ProviderContinuation where
  providerId : ProviderId
  cursor : String
deriving DecidableEq, Repr

/-- `PROVIDER_EXECUTION_STATES`. -/
inductive ExecutionState
  | pending | running | completed | retryableFailure | terminalFailure
deriving DecidableEq, Repr

/-- The execution of one provider. -/
structure ProviderExecution where
  providerId : ProviderId
  supportsContinuation : Bool
  state : ExecutionState
  continuation : Option ProviderContinuation := none
  providerContext : Option String := none
  attemptCount : Nat := 0
  attemptsForCursor : Nat := 0
  maxAttemptsPerCursor : Nat := 2
  lastAttemptAt : Option Nat := none
  completedAt : Option Nat := none
  lastOutcome : Option String := none
  lastCode : Option String := none
  lastError : Option String := none
  retryable : Bool := false
  retryAfterMs : Option Nat := none
  nextAttemptAt : Option Nat := none
deriving DecidableEq, Repr

/-- `DEFAULT_MAX_ATTEMPTS_PER_CURSOR`. -/
def defaultMaxAttemptsPerCursor : Nat := 2

/-- `DEFAULT_MAX_CONTINUATION_RETRY_WAIT_MS`. -/
def defaultMaxContinuationRetryWaitMs : Nat := 60000

/-- `DEFAULT_PROVIDER_RETRY_AFTER_MS`. -/
def defaultProviderRetryAfterMs : Nat := 2500

/-- `normalizePositiveInteger`. -/
def normalizePositiveInteger (value fallbackValue : Nat) : Nat :=
  if 0 < value then value else fallbackValue

/-- The text of an error field: trimmed, and `null` when nothing is left. -/
def normalizeErrorText (text : Option String) : Option String :=
  (text.map JsText.trim).filter (· ≠ "")

/-- The argument of `createProviderExecutionState`. -/
structure ProviderDescriptor where
  providerId : ProviderId
  supportsContinuation : Bool := false
  continuation : Option ProviderContinuation := none
  providerContext : Option String := none
  outcome : Option String := none
  code : Option String := none
  message : Option String := none
  retryable : Bool := false
  retryAfterMs : Option Nat := none
  maxAttemptsPerCursor : Nat := defaultMaxAttemptsPerCursor
deriving DecidableEq, Repr

/-- The outcomes that end a provider which cannot continue in `terminal-failure`. -/
def isTerminalOutcome (outcome : Option String) : Bool :=
  ["error", "timeout", "rate_limited", "rate-limited", "unavailable", "circuit_open",
    "circuit-open", "stalled"].contains (JsText.toLowerCase (JsText.trim (outcome.getD "")))

/-- `createProviderExecutionState`. -/
def createProviderExecutionState (now : Nat) (d : ProviderDescriptor) : ProviderExecution :=
  let canContinue := d.supportsContinuation && d.continuation.isSome
  { providerId := d.providerId
    supportsContinuation := d.supportsContinuation
    state :=
      if canContinue then .pending
      else if isTerminalOutcome d.outcome then .terminalFailure
      else .completed
    continuation := d.continuation
    providerContext := d.providerContext
    maxAttemptsPerCursor :=
      normalizePositiveInteger d.maxAttemptsPerCursor defaultMaxAttemptsPerCursor
    completedAt := if canContinue then none else some now
    lastOutcome := d.outcome
    lastCode := d.code
    lastError := if isTerminalOutcome d.outcome then normalizeErrorText d.message else none
    retryable := d.retryable
    retryAfterMs := d.retryAfterMs }

/-! ## 2. Normalisation -/

/-- `normalizeNullableTimestamp` on a time or `null`: `Number(null)` is 0. -/
def normalizeNullableTimestamp (value : Option Nat) : Option Nat := some (value.getD 0)

/-- `normalizeProviderExecutionState`: without a continuation nothing is left to do. -/
def normalizeProviderExecutionState (execution : ProviderExecution) : ProviderExecution :=
  { execution with
    state :=
      if execution.supportsContinuation && execution.continuation.isSome then execution.state
      else
        match execution.state with
        | .pending | .running | .retryableFailure => .completed
        | .completed | .terminalFailure => execution.state
    maxAttemptsPerCursor :=
      normalizePositiveInteger execution.maxAttemptsPerCursor defaultMaxAttemptsPerCursor
    lastAttemptAt := normalizeNullableTimestamp execution.lastAttemptAt
    completedAt := normalizeNullableTimestamp execution.completedAt
    lastError := normalizeErrorText execution.lastError
    nextAttemptAt := normalizeNullableTimestamp execution.nextAttemptAt }

/-- `executionsByProvider.set(execution.providerId, execution)` on the values of the map. -/
def setExecution (executions : List ProviderExecution) (execution : ProviderExecution) :
    List ProviderExecution :=
  if executions.any (·.providerId == execution.providerId) then
    executions.map fun e => if e.providerId == execution.providerId then execution else e
  else executions ++ [execution]

/-- `createProviderExecutionStates`. -/
def createProviderExecutionStates (now : Nat) (descriptors : List ProviderDescriptor) :
    List ProviderExecution :=
  (descriptors.map (createProviderExecutionState now)).foldl setExecution []

/-- `normalizeProviderExecutionStates`. -/
def normalizeProviderExecutionStates (executions : List ProviderExecution) :
    List ProviderExecution :=
  (executions.map normalizeProviderExecutionState).foldl setExecution []

/-! ## 3. Runnable executions -/

/-- `getProviderExecutionRetryDelayMs`. -/
def getProviderExecutionRetryDelayMs (execution : ProviderExecution) (now : Nat) : Nat :=
  let normalized := normalizeProviderExecutionState execution
  match normalized.state, normalized.nextAttemptAt with
  | .retryableFailure, some nextAttemptAt => nextAttemptAt - now
  | _, _ => 0

/-- `isProviderExecutionRunnable`. -/
def isProviderExecutionRunnable (execution : ProviderExecution) (now : Nat) : Bool :=
  let normalized := normalizeProviderExecutionState execution
  normalized.supportsContinuation && normalized.continuation.isSome &&
    (normalized.state == .pending || normalized.state == .retryableFailure) &&
    getProviderExecutionRetryDelayMs normalized now == 0

/-- `getRunnableProviderExecutions`. -/
def getRunnableProviderExecutions (executions : List ProviderExecution) (now : Nat) :
    List ProviderExecution :=
  (normalizeProviderExecutionStates executions).filter (isProviderExecutionRunnable · now)

/-- `getPrimaryRunnableProviderExecution`. -/
def getPrimaryRunnableProviderExecution (executions : List ProviderExecution) (now : Nat) :
    Option ProviderExecution := (getRunnableProviderExecutions executions now).head?

/-- `getProviderExecution`. -/
def getProviderExecution (executions : List ProviderExecution) (providerId : ProviderId) :
    Option ProviderExecution :=
  (normalizeProviderExecutionStates executions).find? (·.providerId == providerId)

/-! ## 4. Transitions -/

/-- `replaceProviderExecution`. -/
def replaceProviderExecution (executions : List ProviderExecution)
    (replacement : ProviderExecution) : List ProviderExecution :=
  setExecution (normalizeProviderExecutionStates executions)
    (normalizeProviderExecutionState replacement)

/-- `beginProviderExecutionAttempt`, or the message of its exception. -/
def beginProviderExecutionAttempt (executions : List ProviderExecution) (providerId : ProviderId)
    (now : Nat) : Except String (List ProviderExecution) :=
  match getProviderExecution executions providerId with
  | some execution =>
    if isProviderExecutionRunnable execution now then
      .ok (replaceProviderExecution executions
        { execution with
          state := .running
          attemptCount := execution.attemptCount + 1
          attemptsForCursor := execution.attemptsForCursor + 1
          lastAttemptAt := some now
          lastError := none
          retryable := false
          retryAfterMs := none
          nextAttemptAt := none })
    else .error ("Provider \"" ++ providerId.value ++ "\" has no runnable continuation.")
  | none => .error ("Provider \"" ++ providerId.value ++ "\" has no runnable continuation.")

/-- The options of `applyProviderExecutionSuccess`. -/
structure ProviderSuccess where
  continuation : Option ProviderContinuation := none
  providerContext : Option String := none
  outcome : String := "success"
  code : Option String := none
deriving DecidableEq, Repr

/-- `applyProviderExecutionSuccess`, or the message of its exception. A continuation that
does not advance ends the provider. -/
def applyProviderExecutionSuccess (executions : List ProviderExecution) (providerId : ProviderId)
    (success : ProviderSuccess) (now : Nat) : Except String (List ProviderExecution) :=
  match getProviderExecution executions providerId with
  | none => .error ("Provider execution \"" ++ providerId.value ++ "\" was not found.")
  | some execution =>
    if success.continuation.isSome && execution.continuation == success.continuation then
      .ok (replaceProviderExecution executions
        { execution with
          state := .terminalFailure
          continuation := none
          completedAt := some now
          lastOutcome := some "stalled"
          lastCode := some "PROVIDER_CONTINUATION_STALLED"
          lastError := some "Provider continuation did not advance."
          retryable := false
          retryAfterMs := none
          nextAttemptAt := none })
    else
      .ok (replaceProviderExecution executions
        { execution with
          state := if success.continuation.isSome then .pending else .completed
          continuation := success.continuation
          providerContext := success.providerContext
          attemptsForCursor :=
            if success.continuation.isSome then 0 else execution.attemptsForCursor
          completedAt := if success.continuation.isSome then none else some now
          lastOutcome := some success.outcome
          lastCode := success.code
          lastError := none
          retryable := false
          retryAfterMs := none
          nextAttemptAt := none })

/-- The options of `applyProviderExecutionFailure`. -/
structure ProviderFailure where
  outcome : String := "error"
  code : Option String := none
  message : String := "Provider continuation failed."
  retryable : Bool := false
  retryAfterMs : Option Nat := none
deriving DecidableEq, Repr

/-- `effectiveRetryAfterMs`. -/
def ProviderFailure.effectiveRetryAfterMs (failure : ProviderFailure) : Option Nat :=
  if failure.retryable then some (failure.retryAfterMs.getD defaultProviderRetryAfterMs)
  else failure.retryAfterMs

/-- `canRetry`. -/
def ProviderFailure.canRetry (failure : ProviderFailure) (execution : ProviderExecution) : Bool :=
  failure.retryable &&
    failure.effectiveRetryAfterMs.all (· ≤ defaultMaxContinuationRetryWaitMs) &&
    execution.continuation.isSome &&
    decide (execution.attemptsForCursor < execution.maxAttemptsPerCursor)

/-- `applyProviderExecutionFailure`, or the message of its exception. -/
def applyProviderExecutionFailure (executions : List ProviderExecution) (providerId : ProviderId)
    (failure : ProviderFailure) (now : Nat) : Except String (List ProviderExecution) :=
  match getProviderExecution executions providerId with
  | none => .error ("Provider execution \"" ++ providerId.value ++ "\" was not found.")
  | some execution =>
    let canRetry := failure.canRetry execution
    .ok (replaceProviderExecution executions
      { execution with
        state := if canRetry then .retryableFailure else .terminalFailure
        continuation := if canRetry then execution.continuation else none
        completedAt := if canRetry then none else some now
        lastOutcome := some failure.outcome
        lastCode := failure.code
        lastError :=
          if JsText.trim failure.message = "" then some "Provider continuation failed."
          else some (JsText.trim failure.message)
        retryable := canRetry
        retryAfterMs := failure.effectiveRetryAfterMs
        nextAttemptAt :=
          if canRetry then failure.effectiveRetryAfterMs.map (now + ·) else none })

/-- `recoverStaleProviderExecutions`. -/
def recoverStaleProviderExecutions (executions : List ProviderExecution) :
    List ProviderExecution :=
  (normalizeProviderExecutionStates executions).map fun execution =>
    if execution.state = .running then
      { execution with
        state := .pending, retryable := false, retryAfterMs := none, nextAttemptAt := none }
    else execution

/-- The summary of `summarizeProviderExecutions`. -/
structure ProviderSummary where
  total : Nat
  pending : Nat
  running : Nat
  completed : Nat
  retryableFailures : Nat
  waitingForRetry : Nat
  retryAfterMs : Option Nat
  terminalFailures : Nat
  runnable : Nat
deriving DecidableEq, Repr

/-- `summarizeProviderExecutions`. -/
def summarizeProviderExecutions (executions : List ProviderExecution) (now : Nat) :
    ProviderSummary :=
  let normalized := normalizeProviderExecutionStates executions
  let inState := fun state => (normalized.filter (·.state = state)).length
  let delays := ((normalized.filter (·.state = .retryableFailure)).map
    (getProviderExecutionRetryDelayMs · now)).filter (0 < ·)
  { total := normalized.length
    pending := inState .pending
    running := inState .running
    completed := inState .completed
    retryableFailures := inState .retryableFailure
    waitingForRetry := delays.length
    retryAfterMs := delays.min?
    terminalFailures := inState .terminalFailure
    runnable := (normalized.filter (isProviderExecutionRunnable · now)).length }

/-! ## 5. Running executions -/

/-- Only the listed providers have an execution in the state `running`. -/
def RunningIn (ids : List ProviderId) (executions : List ProviderExecution) : Prop :=
  ∀ execution ∈ executions, execution.state = .running → execution.providerId ∈ ids

variable {executions executions' : List ProviderExecution} {execution : ProviderExecution}
  {ids : List ProviderId} {providerId : ProviderId} {now : Nat}

theorem mem_setExecution {e : ProviderExecution} (h : e ∈ setExecution executions execution) :
    e = execution ∨ e ∈ executions ∧ e.providerId ≠ execution.providerId := by
  have hset : e ∈ Keyed.set ProviderExecution.providerId executions execution := h
  exact Keyed.mem_set hset

theorem mem_foldl_setExecution {e : ProviderExecution} (added executions : List ProviderExecution)
    (h : e ∈ added.foldl setExecution executions) : e ∈ executions ∨ e ∈ added := by
  have hset : e ∈ Keyed.setAll ProviderExecution.providerId executions added := h
  exact Keyed.mem_setAll hset

theorem mem_normalize {e : ProviderExecution} (h : e ∈ normalizeProviderExecutionStates executions) :
    ∃ e' ∈ executions, normalizeProviderExecutionState e' = e := by
  rcases mem_foldl_setExecution _ _ h with h | h
  · cases h
  · exact List.mem_map.mp h

/-- Normalisation makes nothing run. -/
theorem normalize_running (h : (normalizeProviderExecutionState execution).state = .running) :
    execution.state = .running := by
  simp only [normalizeProviderExecutionState] at h
  split at h
  · exact h
  · cases hstate : execution.state <;> simp [hstate] at h

theorem RunningIn.mono {ids' : List ProviderId} (h : RunningIn ids executions)
    (hsub : ∀ id ∈ ids, id ∈ ids') : RunningIn ids' executions :=
  fun e he hrun => hsub _ (h e he hrun)

theorem RunningIn.normalize (h : RunningIn ids executions) :
    RunningIn ids (normalizeProviderExecutionStates executions) := by
  intro e he hrun
  obtain ⟨e', he', rfl⟩ := mem_normalize he
  exact h e' he' (normalize_running hrun)

/-- A replacement takes its provider out, unless it runs. -/
theorem RunningIn.replace {ids' : List ProviderId} {replacement : ProviderExecution}
    (h : RunningIn ids executions)
    (hothers : ∀ id ∈ ids, id ≠ replacement.providerId → id ∈ ids')
    (hrun : replacement.state = .running → replacement.providerId ∈ ids') :
    RunningIn ids' (replaceProviderExecution executions replacement) := by
  intro e he hstate
  rcases mem_setExecution he with rfl | ⟨he, hne⟩
  · exact hrun (normalize_running hstate)
  · exact hothers _ (h.normalize e he hstate) hne

theorem getProviderExecution_id (h : getProviderExecution executions providerId = some execution) :
    execution.providerId = providerId := by
  have hfound := List.find?_some h
  simpa using hfound

theorem RunningIn.begin (h : RunningIn ids executions)
    (hok : beginProviderExecutionAttempt executions providerId now = .ok executions') :
    RunningIn (providerId :: ids) executions' := by
  unfold beginProviderExecutionAttempt at hok
  split at hok
  · next execution hget =>
    split at hok
    · cases hok
      refine h.replace (fun id hid _ => List.mem_cons_of_mem _ hid) fun _ => ?_
      rw [getProviderExecution_id hget]
      exact List.mem_cons_self
    · cases hok
  · cases hok

/-- A settled attempt no longer runs. -/
theorem RunningIn.settle {replacement : ProviderExecution}
    (h : RunningIn (providerId :: ids) executions) (hid : replacement.providerId = providerId)
    (hstate : replacement.state ≠ .running) :
    RunningIn ids (replaceProviderExecution executions replacement) := by
  refine h.replace (fun id hmem hne => ?_) fun hrun => absurd hrun hstate
  rcases List.mem_cons.mp hmem with rfl | hmem
  · exact absurd hid.symm hne
  · exact hmem

theorem RunningIn.success {success : ProviderSuccess}
    (h : RunningIn (providerId :: ids) executions)
    (hok : applyProviderExecutionSuccess executions providerId success now = .ok executions') :
    RunningIn ids executions' := by
  unfold applyProviderExecutionSuccess at hok
  split at hok
  · cases hok
  next execution hget =>
  have hid := getProviderExecution_id hget
  split at hok
  · cases hok
    exact h.settle hid (by simp)
  · cases hok
    refine h.settle hid ?_
    dsimp only
    split <;> simp

theorem RunningIn.failure {failure : ProviderFailure}
    (h : RunningIn (providerId :: ids) executions)
    (hok : applyProviderExecutionFailure executions providerId failure now = .ok executions') :
    RunningIn ids executions' := by
  unfold applyProviderExecutionFailure at hok
  split at hok
  · cases hok
  next execution hget =>
  have hid := getProviderExecution_id hget
  cases hok
  refine h.settle hid ?_
  dsimp only
  split <;> simp

theorem recover_running (executions : List ProviderExecution) :
    RunningIn [] (recoverStaleProviderExecutions executions) := by
  intro e he hrun
  obtain ⟨e', -, rfl⟩ := List.mem_map.mp he
  split at hrun
  · cases hrun
  · next hne => exact absurd hrun hne

theorem create_running (now : Nat) (descriptors : List ProviderDescriptor) :
    RunningIn [] (createProviderExecutionStates now descriptors) := by
  intro e he hrun
  rcases mem_foldl_setExecution _ _ he with he | he
  · cases he
  · obtain ⟨d, -, rfl⟩ := List.mem_map.mp he
    simp only [createProviderExecutionState] at hrun
    split at hrun <;> try split at hrun
    all_goals cases hrun

theorem getProviderExecutionRetryDelayMs_eq_zero (h : execution.nextAttemptAt.getD 0 ≤ now) :
    getProviderExecutionRetryDelayMs execution now = 0 := by
  unfold getProviderExecutionRetryDelayMs
  dsimp only
  split
  · next nextAttemptAt _ hnext =>
    cases hnext
    omega
  · rfl

/-- An execution that is not done has a continuation to go on with. -/
def Continuable (execution : ProviderExecution) : Prop :=
  execution.state ≠ .completed → execution.state ≠ .terminalFailure →
    (execution.supportsContinuation && execution.continuation.isSome) = true

theorem normalize_continuable (execution : ProviderExecution) :
    Continuable (normalizeProviderExecutionState execution) := by
  intro hcompleted hterminal
  simp only [normalizeProviderExecutionState] at hcompleted hterminal ⊢
  by_contra hcan
  rw [if_neg hcan] at hcompleted hterminal
  cases hexec : execution.state <;> simp [hexec] at hcompleted hterminal

theorem create_continuable (now : Nat) (descriptor : ProviderDescriptor) :
    Continuable (createProviderExecutionState now descriptor) := by
  intro hcompleted hterminal
  simp only [createProviderExecutionState] at hcompleted hterminal ⊢
  by_contra hcan
  rw [if_neg hcan] at hcompleted hterminal
  split at hterminal
  · exact hterminal rfl
  · next houtcome =>
    rw [if_neg houtcome] at hcompleted
    exact hcompleted rfl

theorem recover_continuable (h : execution ∈ recoverStaleProviderExecutions executions) :
    Continuable execution := by
  obtain ⟨e', he', rfl⟩ := List.mem_map.mp h
  obtain ⟨e', -, rfl⟩ := mem_normalize he'
  have hcan := normalize_continuable e'
  split
  · next hrun =>
    rw [Continuable, hrun] at hcan
    exact fun _ _ => hcan (by simp) (by simp)
  · exact hcan

/-- A provider that does not run is done, or it can begin when its delay is over. -/
theorem Continuable.beginnable (h : Continuable execution) (hidle : execution.state ≠ .running) :
    execution.state = .completed ∨ execution.state = .terminalFailure ∨
      ∀ now, execution.nextAttemptAt.getD 0 ≤ now →
        isProviderExecutionRunnable execution now = true := by
  have hrunnable : execution.state = .pending ∨ execution.state = .retryableFailure → ∀ now,
      execution.nextAttemptAt.getD 0 ≤ now → isProviderExecutionRunnable execution now = true := by
    intro hstate now hnow
    have hcan : (execution.supportsContinuation && execution.continuation.isSome) = true := by
      rcases hstate with hstate | hstate <;> exact h (by simp [hstate]) (by simp [hstate])
    have hdelay : getProviderExecutionRetryDelayMs (normalizeProviderExecutionState execution) now
        = 0 := getProviderExecutionRetryDelayMs_eq_zero hnow
    simp only [isProviderExecutionRunnable, hdelay]
    rcases hstate with hstate | hstate <;>
      simp [normalizeProviderExecutionState, hstate, Bool.and_eq_true_iff.mp hcan]
  cases hstate : execution.state with
  | completed => exact .inl rfl
  | terminalFailure => exact .inr (.inl rfl)
  | running => exact absurd hstate hidle
  | pending => exact .inr (.inr (hrunnable (.inl hstate)))
  | retryableFailure => exact .inr (.inr (hrunnable (.inr hstate)))

end SmartStay.Continuation
