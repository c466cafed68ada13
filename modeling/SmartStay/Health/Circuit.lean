import SmartStay.Lib.Lua
import SmartStay.Lib.Run
import SmartStay.Lib.SortedSet
import SmartStay.Lib.Text

/-!
# The shared circuit breaker

`server/state/valkey/valkeyProviderHealthStore.js` keeps the circuit of a provider in one
hash, with a time to live. Three Lua scripts write it. This module embeds them for one
provider; the index set of the hashes, which only the reset of all providers reads, is
left out.

1. Failures, policies, snapshots.
2. The scripts.
3. What each script does, case by case.
4. `breaker`: any interleaving of attempts and reports; its invariant `Guarded`.
5. `circuit_safety`.
-/

namespace SmartStay.Health

/-! ## 1. Records -/

abbrev AttemptToken := String

/-- `PROVIDER_CIRCUIT_STATES`. -/
inductive CircuitState
  | closed | opened | halfOpen
deriving DecidableEq, Repr

/-- The policy that `resolveProviderHealthPolicy` answers. -/
structure HealthPolicy where
  failureThreshold : Nat := 3
  cooldownMs : Nat := 120000
deriving DecidableEq, Repr

/-- The failure of a report. -/
structure FailureReport where
  errorType : Option String := none
  code : Option String := none
  message : Option String := none
  status : Option Nat := none
  retryAfterMs : JsonField Nat := .absent
  retryAfterWasExplicit : Bool := false
deriving DecidableEq, Repr

/-- The delay of `explicitRetry`: `Number(null)` is 0, `Number(undefined)` is not finite. -/
def FailureReport.explicitRetry (failure : FailureReport) : Option Nat :=
  if failure.retryAfterWasExplicit then
    match failure.retryAfterMs with
    | .absent => none
    | .null => some 0
    | .value delay => some delay
  else none

/-- `normalizeFailureType`. -/
def normalizeFailureType (failure : FailureReport) : String :=
  let source := (failure.errorType <|> failure.code).getD "provider_error"
  let text := String.ofList ((JsText.trim source).toList.take 96)
  if text = "" then "provider_error" else text

/-- The hash of a provider; `HGET` of a missing field is `none`. -/
structure CircuitRecord where
  circuitState : Option CircuitState := none
  consecutiveFailures : Option Nat := none
  openedAt : Option Nat := none
  nextAttemptAt : Option Nat := none
  lastAttemptAt : Option Nat := none
  lastSuccessAt : Option Nat := none
  lastFailureAt : Option Nat := none
  lastErrorType : Option String := none
  lastErrorStatus : Option Nat := none
  halfOpenProbeToken : Option AttemptToken := none
  halfOpenProbeExpiresAt : Option Nat := none
deriving DecidableEq, Repr

/-- `redis.call('HGET', KEYS[1], 'circuitState') or 'closed'`. -/
def CircuitRecord.state (record : CircuitRecord) : CircuitState :=
  record.circuitState.getD .closed

/-- `redis.call('HGET', KEYS[1], 'consecutiveFailures') or '0'`. -/
def CircuitRecord.failures (record : CircuitRecord) : Nat := record.consecutiveFailures.getD 0

/-- The snapshot that both health stores answer. -/
structure ProviderHealth where
  circuitState : CircuitState
  consecutiveFailures : Nat
  openedAt : Option Nat
  nextAttemptAt : Option Nat
  lastAttemptAt : Option Nat
  lastSuccessAt : Option Nat
  lastFailureAt : Option Nat
  lastErrorType : Option String
  lastErrorMessage : Option String
  lastErrorStatus : Option Nat
  halfOpenProbeInFlight : Bool
  retryAfterMs : Nat
deriving DecidableEq, Repr

/-- `parseSnapshot` of the `result` of a script. -/
def parseSnapshot (record : CircuitRecord) (now : Nat) : ProviderHealth :=
  { circuitState := record.state
    consecutiveFailures := record.failures
    openedAt := record.openedAt
    nextAttemptAt := record.nextAttemptAt
    lastAttemptAt := record.lastAttemptAt
    lastSuccessAt := record.lastSuccessAt
    lastFailureAt := record.lastFailureAt
    lastErrorType := record.lastErrorType
    lastErrorMessage := none
    lastErrorStatus := record.lastErrorStatus
    halfOpenProbeInFlight := record.halfOpenProbeToken.isSome
    retryAfterMs :=
      if record.state = .opened then (record.nextAttemptAt.map (· - now)).getD 0 else 0 }

/-- The answer to an attempt. -/
structure AttemptPermission where
  allowed : Bool
  reason : String
  attemptToken : Option AttemptToken := none
  health : ProviderHealth
deriving DecidableEq, Repr

/-- The settings of the store: `safeHalfOpenProbeLeaseMs` and `safeRecordTtlMs`. -/
structure HealthSettings where
  halfOpenProbeLeaseMs : Nat := 30000
  recordTtlMs : Nat := 86400000
deriving DecidableEq, Repr

/-! ## 2. Scripts -/

/-- `KEYS[1]`, which may be missing. -/
abbrev CircuitKey := Option (Volatile CircuitRecord)

namespace CircuitKey

/-- The stored hash, dead or alive. -/
def stored (key : CircuitKey) : CircuitRecord := (key.map Volatile.value).getD {}

/-- The hash as a script reads it at the time `now`. -/
def read (key : CircuitKey) (now : Nat) : CircuitRecord :=
  match key with
  | some volatile => if now ≤ volatile.expiresAt then volatile.value else {}
  | none => {}

end CircuitKey

variable (cfg : HealthSettings)

/-- `HSET`, `HDEL` and then `PEXPIRE KEYS[1] record_ttl`. -/
def putCircuit (now : Nat) (record : CircuitRecord) : CircuitKey :=
  some ⟨record, now + cfg.recordTtlMs⟩

/-- `HSET` and `HDEL` when the cooldown is over. -/
def CircuitRecord.halfOpened (record : CircuitRecord) : CircuitRecord :=
  { record with
    circuitState := some .halfOpen, halfOpenProbeToken := none, halfOpenProbeExpiresAt := none }

/-- `BEGIN_ATTEMPT_SCRIPT`. -/
def beginProviderAttempt (key : CircuitKey) (now : Nat) (attemptToken : AttemptToken) :
    CircuitKey × AttemptPermission :=
  let record := key.read now
  if record.state = .opened ∧ now < record.nextAttemptAt.getD 0 then
    (putCircuit cfg now record,
      { allowed := false, reason := "circuit_open", health := parseSnapshot record now })
  else
    let record := if record.state = .opened then record.halfOpened else record
    if record.state = .halfOpen then
      if record.halfOpenProbeToken.isSome ∧ now < record.halfOpenProbeExpiresAt.getD 0 then
        (putCircuit cfg now record,
          { allowed := false, reason := "half_open_probe_in_flight"
            health := parseSnapshot record now })
      else
        let record :=
          { record with
            circuitState := some .halfOpen
            halfOpenProbeToken := some attemptToken
            halfOpenProbeExpiresAt := some (now + cfg.halfOpenProbeLeaseMs)
            lastAttemptAt := some now }
        (putCircuit cfg now record,
          { allowed := true, reason := "half_open_probe", attemptToken := some attemptToken
            health := parseSnapshot record now })
    else
      let record :=
        { record with
          circuitState := some .closed
          lastAttemptAt := some now
          consecutiveFailures := some record.failures }
      (putCircuit cfg now record,
        { allowed := true, reason := "circuit_closed", health := parseSnapshot record now })

/-- The report does not carry the token of the probe. -/
def isStale (record : CircuitRecord) (attemptToken : AttemptToken) : Bool :=
  attemptToken == "" || attemptToken != record.halfOpenProbeToken.getD ""

/-- `RECORD_SUCCESS_SCRIPT`. -/
def recordProviderSuccess (key : CircuitKey) (now : Nat) (attemptToken : AttemptToken) :
    CircuitKey × ProviderHealth :=
  let record := key.read now
  if (record.state = .halfOpen ∨ record.state = .opened) ∧ isStale record attemptToken then
    (key, parseSnapshot record now)
  else
    let record :=
      { record with
        circuitState := some .closed
        consecutiveFailures := some 0
        lastSuccessAt := some now
        openedAt := none
        nextAttemptAt := none
        halfOpenProbeToken := none
        halfOpenProbeExpiresAt := none }
    (putCircuit cfg now record, parseSnapshot record now)

/-- `RECORD_FAILURE_SCRIPT`. -/
def recordProviderFailure (key : CircuitKey) (now : Nat) (failure : FailureReport)
    (policy : HealthPolicy) (attemptToken : AttemptToken) : CircuitKey × ProviderHealth :=
  let record := key.read now
  if record.state = .halfOpen ∧ isStale record attemptToken then
    (key, parseSnapshot record now)
  else if record.state = .opened then (key, parseSnapshot record now)
  else
    let failures := record.failures + 1
    let shouldOpen := record.state = .halfOpen ∨ failure.explicitRetry.isSome ∨
      policy.failureThreshold ≤ failures
    let record :=
      { record with
        consecutiveFailures := some failures
        lastFailureAt := some now
        lastErrorType := some (normalizeFailureType failure)
        lastErrorStatus := failure.status
        halfOpenProbeToken := none
        halfOpenProbeExpiresAt := none }
    let record :=
      if shouldOpen then
        { record with
          circuitState := some .opened
          openedAt := some now
          nextAttemptAt := some (now + failure.explicitRetry.getD policy.cooldownMs) }
      else
        { record with circuitState := some .closed, openedAt := none, nextAttemptAt := none }
    (putCircuit cfg now record, parseSnapshot record now)

/-! ## 3. The scripts, case by case -/

variable {cfg} {key : CircuitKey} {now : Nat} {attemptToken : AttemptToken} {record : CircuitRecord}

@[simp] theorem stored_put (now : Nat) (record : CircuitRecord) :
    (putCircuit cfg now record).stored = record := rfl

theorem read_of_live {volatile : Volatile CircuitRecord} (h : now ≤ volatile.expiresAt) :
    CircuitKey.read (some volatile) now = volatile.value := if_pos h

/-- The record of an admitted probe. -/
def CircuitRecord.probing (cfg : HealthSettings) (record : CircuitRecord) (now : Nat)
    (attemptToken : AttemptToken) : CircuitRecord :=
  { record with
    circuitState := some .halfOpen
    halfOpenProbeToken := some attemptToken
    halfOpenProbeExpiresAt := some (now + cfg.halfOpenProbeLeaseMs)
    lastAttemptAt := some now }

/-- A probe is in flight whose lease has not expired. -/
def CircuitRecord.ProbeInFlight (record : CircuitRecord) (now : Nat) : Prop :=
  record.halfOpenProbeToken.isSome = true ∧ now < record.halfOpenProbeExpiresAt.getD 0

instance (record : CircuitRecord) (now : Nat) : Decidable (record.ProbeInFlight now) :=
  inferInstanceAs (Decidable (_ ∧ _))

/-- What `BEGIN_ATTEMPT_SCRIPT` does to the hash `record` and answers. -/
inductive Begun (cfg : HealthSettings) (record : CircuitRecord) (now : Nat)
    (attemptToken : AttemptToken) : CircuitKey → Bool → Option AttemptToken → Prop
  | circuitOpen : record.state = .opened → now < record.nextAttemptAt.getD 0 →
      Begun cfg record now attemptToken (putCircuit cfg now record) false none
  | inFlight : record.state = .halfOpen → record.ProbeInFlight now →
      Begun cfg record now attemptToken (putCircuit cfg now record) false none
  | cooledDown : record.state = .opened → record.nextAttemptAt.getD 0 ≤ now →
      Begun cfg record now attemptToken
        (putCircuit cfg now (record.probing cfg now attemptToken)) true (some attemptToken)
  | abandoned : record.state = .halfOpen → ¬ record.ProbeInFlight now →
      Begun cfg record now attemptToken
        (putCircuit cfg now (record.probing cfg now attemptToken)) true (some attemptToken)
  | closed {record' : CircuitRecord} : record.state = .closed → record'.state = .closed →
      record'.failures = record.failures → record'.nextAttemptAt = record.nextAttemptAt →
      record'.halfOpenProbeToken = record.halfOpenProbeToken →
      record'.halfOpenProbeExpiresAt = record.halfOpenProbeExpiresAt →
      Begun cfg record now attemptToken (putCircuit cfg now record') true none

variable (cfg) in
theorem begin_cases (key : CircuitKey) (now : Nat) (attemptToken : AttemptToken) :
    Begun cfg (key.read now) now attemptToken
      (beginProviderAttempt cfg key now attemptToken).1
      (beginProviderAttempt cfg key now attemptToken).2.allowed
      (beginProviderAttempt cfg key now attemptToken).2.attemptToken := by
  unfold beginProviderAttempt
  generalize key.read now = record
  dsimp only
  by_cases hopen : record.state = .opened
  · by_cases hnext : now < record.nextAttemptAt.getD 0
    · rw [if_pos ⟨hopen, hnext⟩]
      exact .circuitOpen hopen hnext
    · have hhalf : record.halfOpened.state = .halfOpen := rfl
      have hnone : ¬ record.halfOpened.ProbeInFlight now := fun h => Bool.noConfusion h.1
      rw [CircuitRecord.ProbeInFlight] at hnone
      rw [if_neg fun h => hnext h.2, if_pos hopen, if_pos hhalf, if_neg hnone]
      exact .cooledDown hopen (Nat.le_of_not_lt hnext)
  rw [if_neg fun h => hopen h.1, if_neg hopen]
  by_cases hhalf : record.state = .halfOpen
  · rw [if_pos hhalf]
    by_cases hflight : record.ProbeInFlight now
    · rw [CircuitRecord.ProbeInFlight] at hflight
      rw [if_pos hflight]
      exact .inFlight hhalf hflight
    · have hlapsed := hflight
      rw [CircuitRecord.ProbeInFlight] at hlapsed
      rw [if_neg hlapsed]
      exact .abandoned hhalf hflight
  · have hclosed : record.state = .closed := by
      cases hstate : record.state with
      | closed => rfl
      | opened => exact absurd hstate hopen
      | halfOpen => exact absurd hstate hhalf
    rw [if_neg hhalf]
    exact .closed hclosed rfl rfl rfl rfl rfl

/-- A report that does not carry the token of the probe of a circuit that is not closed. -/
def Stale (record : CircuitRecord) (attemptToken : AttemptToken) : Prop :=
  record.state ≠ .closed ∧
    (attemptToken = "" ∨ record.halfOpenProbeToken ≠ some attemptToken)

theorem isStale_iff : isStale record attemptToken = true ↔
    attemptToken = "" ∨ record.halfOpenProbeToken ≠ some attemptToken := by
  unfold isStale
  cases htoken : record.halfOpenProbeToken with
  | none =>
    simp only [Option.getD_none, Bool.or_eq_true, beq_iff_eq, bne_iff_ne]
    exact iff_of_true (em _) (.inr (by simp))
  | some token =>
    simp only [Option.getD_some, Bool.or_eq_true, beq_iff_eq, bne_iff_ne, ne_eq, Option.some.injEq]
    exact or_congr_right (not_congr eq_comm)

/-- The hash after a success that counts. -/
structure Recovered (record' : CircuitRecord) : Prop where
  state : record'.state = .closed
  failures : record'.failures = 0
  nextAttemptAt : record'.nextAttemptAt = none
  token : record'.halfOpenProbeToken = none

variable (cfg) in
/-- A success changes nothing when it is stale, and closes the circuit otherwise. -/
theorem success_cases (key : CircuitKey) (now : Nat) (attemptToken : AttemptToken) :
    Stale (key.read now) attemptToken ∧
      (recordProviderSuccess cfg key now attemptToken).1 = key ∨
    ¬ Stale (key.read now) attemptToken ∧ ∃ record', Recovered record' ∧
      (recordProviderSuccess cfg key now attemptToken).1 = putCircuit cfg now record' := by
  have hstale : Stale (key.read now) attemptToken ↔
      ((key.read now).state = .halfOpen ∨ (key.read now).state = .opened) ∧
        isStale (key.read now) attemptToken = true := by
    rw [Stale, isStale_iff]
    refine and_congr_left fun _ => ?_
    cases (key.read now).state <;> simp
  unfold recordProviderSuccess
  dsimp only
  by_cases h : Stale (key.read now) attemptToken
  · rw [if_pos (hstale.mp h)]
    exact .inl ⟨h, rfl⟩
  · rw [if_neg fun hcond => h (hstale.mpr hcond)]
    exact .inr ⟨h, _, ⟨rfl, rfl, rfl, rfl⟩, rfl⟩

/-- The failure opens the circuit. -/
def ShouldOpen (record : CircuitRecord) (failure : FailureReport) (policy : HealthPolicy) : Prop :=
  record.state = .halfOpen ∨ failure.explicitRetry.isSome = true ∨
    policy.failureThreshold ≤ record.failures + 1

instance (record : CircuitRecord) (failure : FailureReport) (policy : HealthPolicy) :
    Decidable (ShouldOpen record failure policy) := inferInstanceAs (Decidable (_ ∨ _ ∨ _))

/-- The hash after a failure that counts. -/
structure Failed (record : CircuitRecord) (now : Nat) (failure : FailureReport)
    (policy : HealthPolicy) (record' : CircuitRecord) : Prop where
  state : record'.state = if ShouldOpen record failure policy then .opened else .closed
  failures : record'.failures = record.failures + 1
  nextAttemptAt : record'.nextAttemptAt =
    if ShouldOpen record failure policy then some (now + failure.explicitRetry.getD policy.cooldownMs)
    else none
  token : record'.halfOpenProbeToken = none

variable (cfg) in
/-- A failure of an open circuit, or without the token of its probe, changes nothing. -/
theorem failure_cases (key : CircuitKey) (now : Nat) (failure : FailureReport)
    (policy : HealthPolicy) (attemptToken : AttemptToken) :
    ((key.read now).state = .opened ∨ Stale (key.read now) attemptToken) ∧
      (recordProviderFailure cfg key now failure policy attemptToken).1 = key ∨
    (key.read now).state ≠ .opened ∧ ¬ Stale (key.read now) attemptToken ∧
      ∃ record', Failed (key.read now) now failure policy record' ∧
        (recordProviderFailure cfg key now failure policy attemptToken).1 =
          putCircuit cfg now record' := by
  unfold recordProviderFailure
  generalize key.read now = record
  dsimp only
  by_cases hopen : record.state = .opened
  · refine .inl ⟨.inl hopen, ?_⟩
    rw [if_neg (by simp [hopen]), if_pos hopen]
  by_cases hstale : record.state = .halfOpen ∧ isStale record attemptToken = true
  · refine .inl ⟨.inr ⟨by simp [hstale.1], isStale_iff.mp hstale.2⟩, ?_⟩
    rw [if_pos hstale]
  have hcurrent : ¬ Stale record attemptToken := by
    intro h
    cases hstate : record.state with
    | closed => exact h.1 hstate
    | opened => exact hopen hstate
    | halfOpen => exact hstale ⟨hstate, isStale_iff.mpr h.2⟩
  rw [if_neg hstale, if_neg hopen]
  refine .inr ⟨hopen, hcurrent, ?_⟩
  by_cases hshould : ShouldOpen record failure policy
  · have hcond := hshould
    rw [ShouldOpen] at hcond
    rw [if_pos hcond]
    exact ⟨_, ⟨(if_pos hshould).symm, rfl, (if_pos hshould).symm, rfl⟩, rfl⟩
  · have hcond := hshould
    rw [ShouldOpen] at hcond
    rw [if_neg hcond]
    exact ⟨_, ⟨(if_neg hshould).symm, rfl, (if_neg hshould).symm, rfl⟩, rfl⟩

/-! ## 4. Attempts and reports -/

/-- One execution of a script. -/
inductive HealthOperation
  | begin (attemptToken : AttemptToken)
  | success (attemptToken : AttemptToken)
  | failure (failure : FailureReport) (policy : HealthPolicy) (attemptToken : AttemptToken)
deriving DecidableEq

/-- The token of a report, empty when the report has none. -/
def HealthOperation.report : HealthOperation → Option AttemptToken
  | .begin _ => none
  | .success attemptToken | .failure _ _ attemptToken => some attemptToken

/-- The circuit of a provider. Two ghosts: the tokens that `randomUUID` gave so far, and
the probes that were admitted and not reported on, with the ends of their leases. -/
structure Breaker where
  key : CircuitKey := none
  clock : Nat := 0
  issued : List AttemptToken := []
  probes : List (AttemptToken × Nat) := []
deriving DecidableEq

variable (cfg) in
/-- One script at a time that does not go back. -/
def Breaker.step (s : Breaker) : HealthOperation × Nat → Option Breaker
  | (.begin attemptToken, now) =>
    if s.clock ≤ now ∧ attemptToken ≠ "" ∧ attemptToken ∉ s.issued then
      let result := beginProviderAttempt cfg s.key now attemptToken
      some
        { key := result.1
          clock := now
          issued := attemptToken :: s.issued
          probes :=
            (result.2.attemptToken.map (·, now + cfg.halfOpenProbeLeaseMs)).toList ++ s.probes }
    else none
  | (.success attemptToken, now) =>
    if s.clock ≤ now then
      some
        { s with
          key := (recordProviderSuccess cfg s.key now attemptToken).1
          clock := now
          probes := s.probes.filter (·.1 ≠ attemptToken) }
    else none
  | (.failure failure policy attemptToken, now) =>
    if s.clock ≤ now then
      some
        { s with
          key := (recordProviderFailure cfg s.key now failure policy attemptToken).1
          clock := now
          probes := s.probes.filter (·.1 ≠ attemptToken) }
    else none

variable (cfg) in
/-- The circuit under any interleaving of attempts and reports. -/
def breaker : Machine Breaker (HealthOperation × Nat) where
  init s := s = {}
  step := Breaker.step cfg

/-- The hash is still alive when it is read. -/
def InLifetime (s : Breaker) (i : HealthOperation × Nat) : Prop :=
  ∀ volatile, s.key = some volatile → i.2 ≤ volatile.expiresAt

instance (s : Breaker) (i : HealthOperation × Nat) : Decidable (InLifetime s i) :=
  inferInstanceAs (Decidable (∀ volatile, s.key = some volatile → i.2 ≤ volatile.expiresAt))

variable {s t : Breaker} {op : HealthOperation}

theorem InLifetime.read (h : InLifetime s (op, now)) : s.key.read now = s.key.stored := by
  cases hkey : s.key with
  | none => rfl
  | some volatile => exact read_of_live (h volatile hkey)

/-- A report: the hash it leaves, and that it settles the probe whose token it carries. -/
theorem report_cases (hreport : op.report = some attemptToken)
    (h : Breaker.step cfg s (op, now) = some t) (hlife : InLifetime s (op, now)) :
    s.clock ≤ now ∧ t.clock = now ∧ t.issued = s.issued ∧
    t.probes = s.probes.filter (·.1 ≠ attemptToken) ∧
    ((s.key.stored.state = .opened ∨ Stale s.key.stored attemptToken) ∧ t.key = s.key ∨
      ¬ Stale s.key.stored attemptToken ∧ t.key.stored.halfOpenProbeToken = none ∧
        t.key.stored.state ≠ .halfOpen) := by
  have hread := hlife.read
  cases op with
  | begin token => cases hreport
  | success token =>
    cases hreport
    simp only [Breaker.step, Option.ite_none_right_eq_some, Option.some.injEq] at h
    obtain ⟨hclock, rfl⟩ := h
    refine ⟨hclock, rfl, rfl, rfl, ?_⟩
    have hcases := success_cases cfg s.key now attemptToken
    rw [hread] at hcases
    rcases hcases with ⟨hstale, hkey⟩ | ⟨hstale, record', hrecovered, hkey⟩
    · exact .inl ⟨.inr hstale, hkey⟩
    · refine .inr ⟨hstale, ?_⟩
      dsimp only
      rw [hkey, stored_put]
      exact ⟨hrecovered.token, by simp [hrecovered.state]⟩
  | failure failure policy token =>
    cases hreport
    simp only [Breaker.step, Option.ite_none_right_eq_some, Option.some.injEq] at h
    obtain ⟨hclock, rfl⟩ := h
    refine ⟨hclock, rfl, rfl, rfl, ?_⟩
    have hcases := failure_cases cfg s.key now failure policy attemptToken
    rw [hread] at hcases
    rcases hcases with ⟨hstale, hkey⟩ | ⟨-, hstale, record', hfailed, hkey⟩
    · exact .inl ⟨hstale, hkey⟩
    · refine .inr ⟨hstale, ?_⟩
      dsimp only
      rw [hkey, stored_put]
      refine ⟨hfailed.token, ?_⟩
      rw [hfailed.state]
      split <;> simp

/-- The invariant: a token is stored exactly while the circuit is half open, and a probe
that nobody reported on and whose lease runs is the stored one. -/
structure Guarded (s : Breaker) : Prop where
  token : s.key.stored.halfOpenProbeToken.isSome = true ↔ s.key.stored.state = .halfOpen
  issued : ∀ probe ∈ s.probes, probe.1 ∈ s.issued
  nodup : (s.probes.map Prod.fst).Nodup
  probe : ∀ probe ∈ s.probes, s.clock < probe.2 →
    s.key.stored.halfOpenProbeToken = some probe.1 ∧
      s.key.stored.halfOpenProbeExpiresAt = some probe.2

/-- While the circuit is not half open, no probe is out. -/
theorem Guarded.no_probe (h : Guarded s) (hstate : s.key.stored.state ≠ .halfOpen)
    {probe : AttemptToken × Nat} (hprobe : probe ∈ s.probes) : probe.2 ≤ s.clock := by
  by_contra hlive
  have htoken := (h.probe probe hprobe (Nat.lt_of_not_le hlive)).1
  exact hstate (h.token.mp (by simp [htoken]))

theorem Guarded.report (h : Guarded s) (hreport : op.report = some attemptToken)
    (hstep : Breaker.step cfg s (op, now) = some t) (hlife : InLifetime s (op, now)) :
    Guarded t := by
  obtain ⟨hclock, htime, hissued, hprobes, hkey⟩ := report_cases hreport hstep hlife
  have hkept : ∀ probe ∈ t.probes, probe ∈ s.probes ∧ probe.1 ≠ attemptToken := by
    intro probe hprobe
    rw [hprobes, List.mem_filter] at hprobe
    exact ⟨hprobe.1, by simpa using hprobe.2⟩
  refine ⟨?_, ?_, ?_, ?_⟩
  · rcases hkey with ⟨-, hkey⟩ | ⟨-, htoken, hstate⟩
    · rw [hkey]
      exact h.token
    · simp [htoken, hstate]
  · intro probe hprobe
    rw [hissued]
    exact h.issued probe (hkept probe hprobe).1
  · rw [hprobes]
    exact h.nodup.sublist (List.filter_sublist.map _)
  · intro probe hprobe hlive
    obtain ⟨hold, hne⟩ := hkept probe hprobe
    have hstored := h.probe probe hold (by omega)
    rcases hkey with ⟨-, hkey⟩ | ⟨hstale, -, -⟩
    · rw [hkey]
      exact hstored
    · -- A report that counts in the state half open carries the token of the probe.
      have hhalf := h.token.mp (by simp [hstored.1])
      refine absurd ⟨by simp [hhalf], .inr ?_⟩ hstale
      rw [hstored.1]
      simpa using hne

/-- Time passes, tokens are issued, and the probe stays as it is. -/
theorem Guarded.wait (h : Guarded s) (hclock : s.clock ≤ t.clock)
    (hissued : ∀ token ∈ s.issued, token ∈ t.issued) (hprobes : t.probes = s.probes)
    (hstate : t.key.stored.state = s.key.stored.state)
    (htoken : t.key.stored.halfOpenProbeToken = s.key.stored.halfOpenProbeToken)
    (hexpires : t.key.stored.halfOpenProbeExpiresAt = s.key.stored.halfOpenProbeExpiresAt) :
    Guarded t := by
  refine ⟨?_, ?_, ?_, ?_⟩
  · rw [htoken, hstate]
    exact h.token
  · intro probe hprobe
    rw [hprobes] at hprobe
    exact hissued _ (h.issued probe hprobe)
  · rw [hprobes]
    exact h.nodup
  · intro probe hprobe hlive
    rw [hprobes] at hprobe
    rw [htoken, hexpires]
    exact h.probe probe hprobe (by omega)

/-- A probe is admitted when the leases of all others are over. -/
theorem Guarded.probing (h : Guarded s) (hfresh : attemptToken ∉ s.issued)
    (hover : ∀ probe ∈ s.probes, probe.2 ≤ now) :
    Guarded
      { key := putCircuit cfg now (record.probing cfg now attemptToken)
        clock := now
        issued := attemptToken :: s.issued
        probes := (attemptToken, now + cfg.halfOpenProbeLeaseMs) :: s.probes } := by
  refine ⟨iff_of_true rfl rfl, ?_, ?_, ?_⟩
  · intro probe hprobe
    rcases List.mem_cons.mp hprobe with rfl | hprobe
    · exact List.mem_cons_self
    · exact List.mem_cons_of_mem _ (h.issued probe hprobe)
  · rw [List.map_cons, List.nodup_cons]
    refine ⟨fun hmem => ?_, h.nodup⟩
    obtain ⟨probe, hprobe, htoken⟩ := List.mem_map.mp hmem
    have hissued := h.issued probe hprobe
    rw [htoken] at hissued
    exact hfresh hissued
  · intro probe hprobe hlive
    rcases List.mem_cons.mp hprobe with rfl | hprobe
    · exact ⟨rfl, rfl⟩
    · exact absurd hlive (Nat.not_lt_of_le (hover probe hprobe))

theorem Guarded.begin (h : Guarded s)
    (hstep : Breaker.step cfg s (.begin attemptToken, now) = some t)
    (hlife : InLifetime s (.begin attemptToken, now)) : Guarded t := by
  simp only [Breaker.step, Option.ite_none_right_eq_some, Option.some.injEq] at hstep
  obtain ⟨⟨hclock, -, hfresh⟩, rfl⟩ := hstep
  have hissued : ∀ token ∈ s.issued, token ∈ attemptToken :: s.issued :=
    fun _ => List.mem_cons_of_mem _
  have hcases := begin_cases cfg s.key now attemptToken
  rw [hlife.read] at hcases
  generalize beginProviderAttempt cfg s.key now attemptToken = result at hcases ⊢
  obtain ⟨key, allowed, reason, token, health⟩ := result
  cases hcases with
  | circuitOpen => exact h.wait hclock hissued rfl rfl rfl rfl
  | inFlight => exact h.wait hclock hissued rfl rfl rfl rfl
  | cooledDown hstate =>
    refine h.probing hfresh fun probe hprobe => ?_
    exact Nat.le_trans (h.no_probe (by simp [hstate]) hprobe) hclock
  | abandoned hstate hflight =>
    refine h.probing hfresh fun probe hprobe => ?_
    by_contra hlive
    obtain ⟨htoken, hexpires⟩ := h.probe probe hprobe (by omega)
    refine hflight ⟨by simp [htoken], ?_⟩
    rw [hexpires, Option.getD_some]
    omega
  | closed hstate hclosed _ _ htoken hexpires =>
    exact h.wait hclock hissued rfl (hclosed.trans hstate.symm) htoken hexpires

theorem Guarded.step (h : Guarded s) (hstep : Breaker.step cfg s (op, now) = some t)
    (hlife : InLifetime s (op, now)) : Guarded t := by
  cases hop : op with
  | begin attemptToken => exact h.begin (hop ▸ hstep) (hop ▸ hlife)
  | success attemptToken => exact h.report (by rw [hop]; rfl) hstep hlife
  | failure failure policy attemptToken => exact h.report (by rw [hop]; rfl) hstep hlife

/-! ## 5. Safety -/

/-- At most one probe has a running lease. -/
theorem Guarded.one_probe (h : Guarded s) (hnow : s.clock ≤ now) :
    (s.probes.filter (now < ·.2)).length ≤ 1 := by
  have hsame : ∀ probe ∈ s.probes.filter (now < ·.2), ∀ other ∈ s.probes.filter (now < ·.2),
      probe = other := by
    intro probe hprobe other hother
    simp only [List.mem_filter, decide_eq_true_eq] at hprobe hother
    obtain ⟨htoken, hexpires⟩ := h.probe probe hprobe.1 (by omega)
    obtain ⟨htoken', hexpires'⟩ := h.probe other hother.1 (by omega)
    rw [htoken, Option.some.injEq] at htoken'
    rw [hexpires, Option.some.injEq] at hexpires'
    exact Prod.ext htoken' hexpires'
  have hnodup : (s.probes.filter (now < ·.2)).Nodup := (h.nodup.of_map _).filter _
  generalize s.probes.filter (now < ·.2) = live at hsame hnodup ⊢
  match live with
  | [] | [_] => simp
  | probe :: other :: rest =>
    have heq := hsame probe (by simp) other (by simp)
    simp [heq] at hnodup

/-- In every run within the lifetime of the hash: a probe token is stored exactly while the
circuit is half open; at most one admitted probe, not yet reported on, has a running lease;
no attempt is allowed before the end of the cooldown; only a report with the token of the
probe moves the circuit out of half open; and a report without it changes nothing while the
circuit is not closed. -/
theorem circuit_safety (h : (breaker cfg).Reach InLifetime s) :
    (s.key.stored.halfOpenProbeToken.isSome = true ↔ s.key.stored.state = .halfOpen) ∧
    (∀ now, s.clock ≤ now → (s.probes.filter (now < ·.2)).length ≤ 1) ∧
    (∀ now attemptToken, InLifetime s (.begin attemptToken, now) →
      s.key.stored.state = .opened → now < s.key.stored.nextAttemptAt.getD 0 →
      (beginProviderAttempt cfg s.key now attemptToken).2.allowed = false) ∧
    (∀ op now t, Breaker.step cfg s (op, now) = some t → InLifetime s (op, now) →
      s.key.stored.state = .halfOpen → t.key.stored.state ≠ .halfOpen →
      ∃ attemptToken, op.report = some attemptToken ∧
        s.key.stored.halfOpenProbeToken = some attemptToken) ∧
    (∀ op now t attemptToken, op.report = some attemptToken →
      Breaker.step cfg s (op, now) = some t → InLifetime s (op, now) →
      s.key.stored.state ≠ .closed → s.key.stored.halfOpenProbeToken ≠ some attemptToken →
      t.key = s.key) := by
  have hs : Guarded s := by
    refine h.invariant ?_ fun s i t hs hlife hstep => hs.step hstep hlife
    rintro s rfl
    exact ⟨by decide, by simp, by simp, by simp⟩
  refine ⟨hs.token, fun now hnow => hs.one_probe hnow, ?_, ?_, ?_⟩
  · intro now attemptToken hlife hstate hnext
    have hcases := begin_cases cfg s.key now attemptToken
    rw [hlife.read] at hcases
    generalize beginProviderAttempt cfg s.key now attemptToken = result at hcases ⊢
    obtain ⟨key, allowed, reason, token, health⟩ := result
    cases hcases with
    | circuitOpen => rfl
    | inFlight => rfl
    | cooledDown _ hover => exact absurd hnext (Nat.not_lt_of_le hover)
    | abandoned hhalf => simp [hstate] at hhalf
    | closed hclosed => simp [hstate] at hclosed
  · intro op now t hstep hlife hhalf hleft
    cases hreport : op.report with
    | some attemptToken =>
      obtain ⟨-, -, -, -, hkey⟩ := report_cases hreport hstep hlife
      rcases hkey with ⟨-, hkey⟩ | ⟨hstale, -, -⟩
      · exact absurd (hkey ▸ hhalf) hleft
      · refine ⟨attemptToken, rfl, ?_⟩
        by_contra hother
        exact hstale ⟨by simp [hhalf], .inr hother⟩
    | none =>
      -- An attempt leaves a half open circuit half open.
      cases op with
      | success => cases hreport
      | failure => cases hreport
      | begin attemptToken =>
        simp only [Breaker.step, Option.ite_none_right_eq_some, Option.some.injEq] at hstep
        obtain ⟨-, rfl⟩ := hstep
        have hcases := begin_cases cfg s.key now attemptToken
        rw [hlife.read] at hcases
        generalize beginProviderAttempt cfg s.key now attemptToken = result at hcases hleft
        obtain ⟨key, allowed, reason, token, health⟩ := result
        cases hcases with
        | circuitOpen hopen => simp [hhalf] at hopen
        | inFlight => exact absurd hhalf hleft
        | cooledDown hopen => simp [hhalf] at hopen
        | abandoned => exact absurd rfl hleft
        | closed hclosed => simp [hhalf] at hclosed
  · intro op now t attemptToken hreport hstep hlife hstate hother
    obtain ⟨-, -, -, -, hkey⟩ := report_cases hreport hstep hlife
    rcases hkey with ⟨-, hkey⟩ | ⟨hstale, -, -⟩
    · exact hkey
    · exact absurd ⟨hstate, .inr hother⟩ hstale

/-- An explicit delay opens the circuit, a probe is abandoned, the next one fails, and the
first one succeeds too late. -/
def probeRun : List (HealthOperation × Nat) :=
  [(.begin "a", 10),
    (.failure { retryAfterMs := .value 100, retryAfterWasExplicit := true } {} "", 20),
    (.begin "b", 50), (.begin "c", 120), (.begin "d", 130), (.begin "e", 30120),
    (.failure {} {} "e", 30200), (.success "c", 30300)]

theorem circuit_safety_probe : ∃ s, (breaker {}).Reach InLifetime s ∧
    s.key.stored.state = .opened ∧ s.key.stored.nextAttemptAt = some 150200 ∧
    s.key.stored.halfOpenProbeToken.isSome = false ∧
    ∀ now, s.clock ≤ now → (s.probes.filter (now < ·.2)).length ≤ 1 := by
  have hrun : ((breaker {}).exec InLifetime {} probeRun).map
      (fun s => (s.key.stored.state, s.key.stored.nextAttemptAt)) = some (.opened, some 150200) := by
    decide +kernel
  obtain ⟨s, hs, hlast⟩ := Machine.Reach.of_exec_map probeRun rfl hrun
  obtain ⟨hstate, hnext⟩ := Prod.mk.inj hlast
  obtain ⟨htoken, hone, -⟩ := circuit_safety hs
  refine ⟨s, hs, hstate, hnext, ?_, hone⟩
  rw [← Bool.not_eq_true, htoken, hstate]
  decide

end SmartStay.Health
