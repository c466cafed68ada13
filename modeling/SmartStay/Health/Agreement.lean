import SmartStay.Health.Circuit

/-!
# The two circuit breakers

`server/providers/common/providerHealthService.js` keeps the circuits of one process in
memory. It knows no probe tokens and no probe leases: every report counts, and a probe is
in flight until some report comes. This module runs it next to the shared breaker.

1. The breaker in memory.
2. `breakers`: both of them under the same operations.
3. `Orderly`: the operations on which the two agree, and what each does there.
4. `breakers_agree`, and `breakers_disagree`: a late success.
-/

namespace SmartStay.Health

/-! ## 1. The breaker in memory -/

namespace Memory

/-- The state of a provider, as `createProviderHealthState` makes it. -/
structure ProviderHealthState where
  circuitState : CircuitState := .closed
  consecutiveFailures : Nat := 0
  openedAt : Option Nat := none
  nextAttemptAt : Option Nat := none
  lastAttemptAt : Option Nat := none
  lastSuccessAt : Option Nat := none
  lastFailureAt : Option Nat := none
  lastErrorType : Option String := none
  lastErrorMessage : Option String := none
  lastErrorStatus : Option Nat := none
  halfOpenProbeInFlight : Bool := false
deriving DecidableEq, Repr

/-- `createProviderHealthSnapshot`. -/
def createProviderHealthSnapshot (state : ProviderHealthState) (now : Nat) : ProviderHealth :=
  { circuitState := state.circuitState
    consecutiveFailures := state.consecutiveFailures
    openedAt := state.openedAt
    nextAttemptAt := state.nextAttemptAt
    lastAttemptAt := state.lastAttemptAt
    lastSuccessAt := state.lastSuccessAt
    lastFailureAt := state.lastFailureAt
    lastErrorType := state.lastErrorType
    lastErrorMessage := state.lastErrorMessage
    lastErrorStatus := state.lastErrorStatus
    halfOpenProbeInFlight := state.halfOpenProbeInFlight
    retryAfterMs :=
      if state.circuitState = .opened then (state.nextAttemptAt.map (· - now)).getD 0 else 0 }

/-- The state when the cooldown is over. -/
def ProviderHealthState.halfOpened (state : ProviderHealthState) : ProviderHealthState :=
  { state with circuitState := .halfOpen, halfOpenProbeInFlight := false }

/-- `beginProviderAttempt`. -/
def beginProviderAttempt (state : ProviderHealthState) (now : Nat) :
    ProviderHealthState × AttemptPermission :=
  let cooldownFinished := state.nextAttemptAt.all (· ≤ now)
  if state.circuitState = .opened ∧ cooldownFinished = false then
    (state,
      { allowed := false, reason := "circuit_open"
        health := createProviderHealthSnapshot state now })
  else
    let state := if state.circuitState = .opened then state.halfOpened else state
    if state.circuitState = .halfOpen ∧ state.halfOpenProbeInFlight then
      (state,
        { allowed := false, reason := "half_open_probe_in_flight"
          health := createProviderHealthSnapshot state now })
    else
      let state :=
        { state with
          lastAttemptAt := some now
          halfOpenProbeInFlight := state.circuitState = .halfOpen || state.halfOpenProbeInFlight }
      (state,
        { allowed := true
          reason := if state.circuitState = .halfOpen then "half_open_probe" else "circuit_closed"
          health := createProviderHealthSnapshot state now })

/-- `recordProviderSuccess`, which is `recordProviderHealthyResponse` too. -/
def recordProviderSuccess (state : ProviderHealthState) (now : Nat) :
    ProviderHealthState × ProviderHealth :=
  let state :=
    { state with
      circuitState := .closed
      consecutiveFailures := 0
      openedAt := none
      nextAttemptAt := none
      lastSuccessAt := some now
      halfOpenProbeInFlight := false }
  (state, createProviderHealthSnapshot state now)

/-- `recordProviderFailure`. -/
def recordProviderFailure (state : ProviderHealthState) (now : Nat) (failure : FailureReport)
    (policy : HealthPolicy) : ProviderHealthState × ProviderHealth :=
  let wasHalfOpen := state.circuitState = .halfOpen
  let state :=
    { state with
      consecutiveFailures := state.consecutiveFailures + 1
      lastFailureAt := some now
      lastErrorType := some (failure.errorType.getD "provider_error")
      lastErrorMessage := failure.message
      lastErrorStatus := failure.status
      halfOpenProbeInFlight := false }
  let shouldOpenCircuit := wasHalfOpen ∨ failure.explicitRetry.isSome ∨
    policy.failureThreshold ≤ state.consecutiveFailures
  let state :=
    if shouldOpenCircuit then
      { state with
        circuitState := .opened
        openedAt := some now
        nextAttemptAt := some (now + failure.explicitRetry.getD policy.cooldownMs) }
    else { state with circuitState := .closed, openedAt := none, nextAttemptAt := none }
  (state, createProviderHealthSnapshot state now)

end Memory

/-! ## 2. Both breakers -/

open Memory (ProviderHealthState)

/-- The state in memory after an operation, which reads no token. -/
def memoryStep (state : ProviderHealthState) : HealthOperation × Nat → ProviderHealthState
  | (.begin _, now) => (Memory.beginProviderAttempt state now).1
  | (.success _, now) => (Memory.recordProviderSuccess state now).1
  | (.failure failure policy _, now) => (Memory.recordProviderFailure state now failure policy).1

/-- The two breakers of one provider. -/
structure Breakers where
  memory : ProviderHealthState := {}
  shared : Breaker := {}
deriving DecidableEq

variable (cfg : HealthSettings)

/-- Both breakers under the same operations at the same times. -/
def breakers : Machine Breakers (HealthOperation × Nat) where
  init s := s = {}
  step s i := (s.shared.step cfg i).map fun shared => ⟨memoryStep s.memory i, shared⟩

/-- The breakers are in the same state. -/
def Agree (s : Breakers) : Prop :=
  s.memory.circuitState = s.shared.key.stored.state ∧
  s.memory.consecutiveFailures = s.shared.key.stored.failures ∧
  s.memory.nextAttemptAt = s.shared.key.stored.nextAttemptAt

/-- The breakers decide alike whether the attempt is allowed. -/
def SameDecision (s : Breakers) : HealthOperation × Nat → Prop
  | (.begin attemptToken, now) =>
    (Memory.beginProviderAttempt s.memory now).2.allowed =
      (beginProviderAttempt cfg s.shared.key now attemptToken).2.allowed
  | (.success _, _) | (.failure _ _ _, _) => True

/-! ## 3. Orderly operations -/

/-- No attempt finds a probe whose lease has lapsed, and no report is stale. -/
def Orderly (s : Breakers) : HealthOperation × Nat → Prop
  | (.begin _, now) => s.shared.key.stored.state = .halfOpen →
      s.shared.key.stored.ProbeInFlight now
  | (.success attemptToken, _) | (.failure _ _ attemptToken, _) =>
      ¬ Stale s.shared.key.stored attemptToken

/-- Orderly, and before the hash expires. -/
def Settled (s : Breakers) (i : HealthOperation × Nat) : Prop :=
  InLifetime s.shared i ∧ Orderly s i

variable {cfg} {state : ProviderHealthState} {now : Nat} {s t : Breakers} {op : HealthOperation}

/-- What the attempt does in memory. -/
inductive MemoryBegun (state : ProviderHealthState) (now : Nat) :
    ProviderHealthState → Bool → Prop
  | circuitOpen : state.circuitState = .opened → now < state.nextAttemptAt.getD 0 →
      MemoryBegun state now state false
  | inFlight : state.circuitState = .halfOpen → state.halfOpenProbeInFlight = true →
      MemoryBegun state now state false
  | probe {state' : ProviderHealthState} :
      state.circuitState = .opened ∧ state.nextAttemptAt.getD 0 ≤ now ∨
        state.circuitState = .halfOpen ∧ state.halfOpenProbeInFlight = false →
      state'.circuitState = .halfOpen → state'.halfOpenProbeInFlight = true →
      state'.consecutiveFailures = state.consecutiveFailures →
      state'.nextAttemptAt = state.nextAttemptAt → MemoryBegun state now state' true
  | closed {state' : ProviderHealthState} : state.circuitState = .closed →
      state'.circuitState = .closed → state'.consecutiveFailures = state.consecutiveFailures →
      state'.nextAttemptAt = state.nextAttemptAt → MemoryBegun state now state' true

theorem memory_begin_cases (state : ProviderHealthState) (now : Nat) :
    MemoryBegun state now (Memory.beginProviderAttempt state now).1
      (Memory.beginProviderAttempt state now).2.allowed := by
  have hcooldown : state.nextAttemptAt.all (· ≤ now) = false ↔
      now < state.nextAttemptAt.getD 0 := by
    cases state.nextAttemptAt <;> simp
  unfold Memory.beginProviderAttempt
  dsimp only
  by_cases hopen : state.circuitState = .opened
  · by_cases hnext : now < state.nextAttemptAt.getD 0
    · rw [if_pos ⟨hopen, hcooldown.mpr hnext⟩]
      exact .circuitOpen hopen hnext
    · rw [if_neg fun h => hnext (hcooldown.mp h.2), if_pos hopen,
        if_neg fun h => Bool.noConfusion h.2]
      exact .probe (.inl ⟨hopen, Nat.le_of_not_lt hnext⟩) rfl rfl rfl rfl
  rw [if_neg fun h => hopen h.1, if_neg hopen]
  by_cases hhalf : state.circuitState = .halfOpen
  · cases hflight : state.halfOpenProbeInFlight with
    | true =>
      rw [if_pos ⟨hhalf, rfl⟩]
      exact .inFlight hhalf hflight
    | false =>
      rw [if_neg fun h => Bool.noConfusion h.2]
      exact .probe (.inr ⟨hhalf, hflight⟩) hhalf (by simp [hhalf]) rfl rfl
  · have hclosed : state.circuitState = .closed := by
      cases hstate : state.circuitState with
      | closed => rfl
      | opened => exact absurd hstate hopen
      | halfOpen => exact absurd hstate hhalf
    rw [if_neg fun h => hhalf h.1]
    exact .closed hclosed hclosed rfl rfl

variable (now) in
/-- What the failure does in memory, in terms of a hash in the same state. -/
theorem memory_failure_cases {record : CircuitRecord} (failure : FailureReport)
    (policy : HealthPolicy) (hstate : state.circuitState = record.state)
    (hfailures : state.consecutiveFailures = record.failures) :
    let state' := (Memory.recordProviderFailure state now failure policy).1
    (state'.circuitState = if ShouldOpen record failure policy then .opened else .closed) ∧
    state'.consecutiveFailures = record.failures + 1 ∧
    state'.nextAttemptAt =
      if ShouldOpen record failure policy then
        some (now + failure.explicitRetry.getD policy.cooldownMs)
      else none := by
  unfold Memory.recordProviderFailure
  dsimp only
  rw [hstate, hfailures]
  by_cases hshould : ShouldOpen record failure policy
  · have hcond := hshould
    rw [ShouldOpen] at hcond
    rw [if_pos hcond, if_pos hshould, if_pos hshould]
    exact ⟨rfl, rfl, rfl⟩
  · have hcond := hshould
    rw [ShouldOpen] at hcond
    rw [if_neg hcond, if_neg hshould, if_neg hshould]
    exact ⟨rfl, rfl, rfl⟩

/-- The invariant: the breakers are in the same state, and in memory a probe is in flight
while the circuit is half open. -/
structure Agreed (s : Breakers) : Prop where
  guarded : Guarded s.shared
  agree : Agree s
  inFlight : s.memory.circuitState = .halfOpen → s.memory.halfOpenProbeInFlight = true

/-- In memory an attempt leaves a half open circuit with a probe in flight. -/
theorem memory_begin_inFlight
    (h : state.circuitState = .halfOpen → state.halfOpenProbeInFlight = true)
    (hhalf : (Memory.beginProviderAttempt state now).1.circuitState = .halfOpen) :
    (Memory.beginProviderAttempt state now).1.halfOpenProbeInFlight = true := by
  have hm := memory_begin_cases state now
  generalize Memory.beginProviderAttempt state now = result at hm hhalf ⊢
  obtain ⟨state', allowed, reason, token, health⟩ := result
  cases hm with
  | circuitOpen => exact h hhalf
  | inFlight => exact h hhalf
  | probe _ _ hflight => exact hflight
  | closed _ hclosed => cases hclosed.symm.trans hhalf

/-- Of an attempt the two make the same exactly when no lapsed probe is in its way. -/
theorem Agreed.begin (h : Agreed s) {attemptToken : AttemptToken}
    (hstep : (breakers cfg).step s (.begin attemptToken, now) = some t)
    (hlife : InLifetime s.shared (.begin attemptToken, now)) :
    SameDecision cfg s (.begin attemptToken, now) ∧ Agree t ↔
      Orderly s (.begin attemptToken, now) := by
  obtain ⟨shared, hshared, rfl⟩ := Option.map_eq_some_iff.mp hstep
  simp only [Breaker.step, Option.ite_none_right_eq_some, Option.some.injEq] at hshared
  obtain ⟨-, rfl⟩ := hshared
  obtain ⟨hstate, hfailures, hnext⟩ := h.agree
  have hs := begin_cases cfg s.shared.key now attemptToken
  rw [hlife.read] at hs
  have hm := memory_begin_cases s.memory now
  simp only [SameDecision, Agree, memoryStep, Orderly]
  generalize beginProviderAttempt cfg s.shared.key now attemptToken = result at hs ⊢
  generalize Memory.beginProviderAttempt s.memory now = memory at hm ⊢
  obtain ⟨key, allowed, reason, token, health⟩ := result
  obtain ⟨state', allowed', reason', token', health'⟩ := memory
  dsimp only at hs hm ⊢
  cases hs with
  | circuitOpen hopen hwait =>
    rw [hopen] at hstate
    refine iff_of_true ?_ (by simp [hopen])
    cases hm with
    | circuitOpen => exact ⟨rfl, hstate.trans hopen.symm, hfailures, hnext⟩
    | inFlight hhalf => simp [hstate] at hhalf
    | closed hclosed => simp [hstate] at hclosed
    | probe hprobe =>
      rw [hnext] at hprobe
      simp [hstate, Nat.not_le_of_lt hwait] at hprobe
  | inFlight hhalf hflight =>
    have hprobing := h.inFlight (hstate.trans hhalf)
    rw [hhalf] at hstate
    refine iff_of_true ?_ fun _ => hflight
    cases hm with
    | circuitOpen hopen => simp [hstate] at hopen
    | inFlight => exact ⟨rfl, hstate.trans hhalf.symm, hfailures, hnext⟩
    | closed hclosed => simp [hstate] at hclosed
    | probe hprobe => simp [hstate, hprobing] at hprobe
  | cooledDown hopen hover =>
    rw [hopen] at hstate
    refine iff_of_true ?_ (by simp [hopen])
    cases hm with
    | circuitOpen _ hwait =>
      rw [hnext] at hwait
      exact absurd hwait (Nat.not_lt_of_le hover)
    | inFlight hhalf => simp [hstate] at hhalf
    | closed hclosed => simp [hstate] at hclosed
    | probe _ hhalf _ hkept hnext' =>
      exact ⟨rfl, hhalf, hkept.trans hfailures, hnext'.trans hnext⟩
  | abandoned hhalf hlapsed =>
    -- In memory the abandoned probe is in flight for good.
    have hprobing := h.inFlight (hstate.trans hhalf)
    rw [hhalf] at hstate
    refine iff_of_false ?_ fun hflight => hlapsed (hflight hhalf)
    cases hm with
    | circuitOpen hopen => simp [hstate] at hopen
    | inFlight => exact fun hsame => Bool.noConfusion hsame.1
    | closed hclosed => simp [hstate] at hclosed
    | probe hprobe => simp [hstate, hprobing] at hprobe
  | closed hclosed hclosed' hkept hnext' =>
    rw [hclosed] at hstate
    refine iff_of_true ?_ (by simp [hclosed])
    cases hm with
    | circuitOpen hopen => simp [hstate] at hopen
    | inFlight hhalf => simp [hstate] at hhalf
    | probe hprobe => simp [hstate] at hprobe
    | closed _ hstill hsame hwait =>
      exact ⟨rfl, hstill.trans hclosed'.symm, hsame.trans (hfailures.trans hkept.symm),
        hwait.trans (hnext.trans hnext'.symm)⟩

/-- After a success they are in the same state exactly when the success is not stale. -/
theorem success_agree_iff {attemptToken : AttemptToken}
    (hstep : (breakers cfg).step s (.success attemptToken, now) = some t)
    (hlife : InLifetime s.shared (.success attemptToken, now)) :
    Agree t ↔ Orderly s (.success attemptToken, now) := by
  obtain ⟨shared, hshared, rfl⟩ := Option.map_eq_some_iff.mp hstep
  simp only [Breaker.step, Option.ite_none_right_eq_some, Option.some.injEq] at hshared
  obtain ⟨-, rfl⟩ := hshared
  have hcases := success_cases cfg s.shared.key now attemptToken
  rw [hlife.read] at hcases
  simp only [Agree, memoryStep, Orderly]
  rcases hcases with ⟨hstale, hkey⟩ | ⟨hcurrent, record', hrecovered, hkey⟩
  · rw [hkey]
    exact iff_of_false (fun hagree => hstale.1 hagree.1.symm) (not_not_intro hstale)
  · rw [hkey, stored_put]
    exact iff_of_true ⟨hrecovered.state.symm, hrecovered.failures.symm,
      hrecovered.nextAttemptAt.symm⟩ hcurrent

/-- The same for a failure: a stale one counts in memory. -/
theorem Agreed.failure (h : Agreed s) {failure : FailureReport} {policy : HealthPolicy}
    {attemptToken : AttemptToken}
    (hstep : (breakers cfg).step s (.failure failure policy attemptToken, now) = some t)
    (hlife : InLifetime s.shared (.failure failure policy attemptToken, now)) :
    Agree t ↔ Orderly s (.failure failure policy attemptToken, now) := by
  obtain ⟨shared, hshared, rfl⟩ := Option.map_eq_some_iff.mp hstep
  simp only [Breaker.step, Option.ite_none_right_eq_some, Option.some.injEq] at hshared
  obtain ⟨-, rfl⟩ := hshared
  obtain ⟨hstate, hfailures, hnext⟩ := h.agree
  have hcases := failure_cases cfg s.shared.key now failure policy attemptToken
  have hmemory := memory_failure_cases now failure policy hstate hfailures
  rw [hlife.read] at hcases
  simp only [Agree, memoryStep, Orderly]
  dsimp only at hmemory
  rw [hmemory.1, hmemory.2.1, hmemory.2.2]
  rcases hcases with ⟨hstale, hkey⟩ | ⟨-, hcurrent, record', hfailed, hkey⟩
  · rw [hkey]
    refine iff_of_false (fun hagree => by have := hagree.2.1; omega) (not_not_intro ?_)
    rcases hstale with hopen | hstale
    · -- An open circuit has no token that a report could carry.
      have hnone : s.shared.key.stored.halfOpenProbeToken = none := by
        have htoken := h.guarded.token
        rw [hopen] at htoken
        simpa using htoken
      exact ⟨by simp [hopen], .inr (by simp [hnone])⟩
    · exact hstale
  · rw [hkey, stored_put]
    exact iff_of_true ⟨hfailed.state.symm, hfailed.failures.symm, hfailed.nextAttemptAt.symm⟩
      hcurrent

theorem Agreed.step_iff (h : Agreed s) (hstep : (breakers cfg).step s (op, now) = some t)
    (hlife : InLifetime s.shared (op, now)) :
    SameDecision cfg s (op, now) ∧ Agree t ↔ Orderly s (op, now) := by
  cases hop : op with
  | begin attemptToken => exact h.begin (hop ▸ hstep) (hop ▸ hlife)
  | success attemptToken =>
    exact (and_iff_right trivial).trans (success_agree_iff (hop ▸ hstep) (hop ▸ hlife))
  | failure failure policy attemptToken =>
    exact (and_iff_right trivial).trans (h.failure (hop ▸ hstep) (hop ▸ hlife))

theorem Agreed.step (h : Agreed s) (hstep : (breakers cfg).step s (op, now) = some t)
    (hsettled : Settled s (op, now)) : Agreed t := by
  have hsame := (h.step_iff hstep hsettled.1).mpr hsettled.2
  obtain ⟨shared, hshared, rfl⟩ := Option.map_eq_some_iff.mp hstep
  refine ⟨h.guarded.step hshared hsettled.1, hsame.2, fun hhalf => ?_⟩
  cases op with
  | begin attemptToken => exact memory_begin_inFlight h.inFlight hhalf
  | success attemptToken => cases hhalf
  | failure failure policy attemptToken =>
    have hmemory := memory_failure_cases now failure policy h.agree.1 h.agree.2.1
    have hstate := hmemory.1.symm.trans hhalf
    split at hstate <;> cases hstate

/-! ## 4. Agreement -/

/-- In every run of orderly operations within the lifetime of the hash, the two breakers
are in the same state. The next operation is decided alike and leaves them in the same
state exactly when it is orderly too. -/
theorem breakers_agree (h : (breakers cfg).Reach Settled s) :
    Agree s ∧
    ∀ op now t, (breakers cfg).step s (op, now) = some t → InLifetime s.shared (op, now) →
      (SameDecision cfg s (op, now) ∧ Agree t ↔ Orderly s (op, now)) := by
  have hs : Agreed s := by
    refine h.invariant ?_ fun s i t hs hsettled hstep => hs.step hstep hsettled
    rintro s rfl
    exact ⟨⟨by decide, by simp, by simp, by simp⟩, ⟨rfl, rfl, rfl⟩, fun hhalf => by cases hhalf⟩
  exact ⟨hs.agree, fun op now t hstep hlife => hs.step_iff hstep hlife⟩

instance (record : CircuitRecord) (attemptToken : AttemptToken) :
    Decidable (Stale record attemptToken) := inferInstanceAs (Decidable (_ ∧ (_ ∨ _)))

instance : ∀ s i, Decidable (Orderly s i)
  | s, (.begin _, now) => inferInstanceAs (Decidable
      (s.shared.key.stored.state = .halfOpen → s.shared.key.stored.ProbeInFlight now))
  | s, (.success attemptToken, _) | s, (.failure _ _ attemptToken, _) =>
      inferInstanceAs (Decidable (¬ Stale s.shared.key.stored attemptToken))

instance (s : Breakers) (i : HealthOperation × Nat) : Decidable (Settled s i) :=
  inferInstanceAs (Decidable (_ ∧ _))

/-- The failure of an operation that was allowed while the circuit was closed. -/
def limited : FailureReport := { retryAfterMs := .value 100, retryAfterWasExplicit := true }

/-- The circuit opens, a probe fails and the next one succeeds. -/
def orderlyRun : List (HealthOperation × Nat) :=
  [(.begin "a", 10), (.failure limited {} "", 20), (.begin "b", 50), (.begin "c", 120),
    (.failure limited {} "c", 130), (.begin "d", 230), (.begin "e", 240), (.success "d", 250)]

theorem breakers_agree_orderly : ∃ s, (breakers {}).Reach Settled s ∧
    s.shared.issued = ["e", "d", "c", "b", "a"] ∧ Agree s := by
  have hrun : ((breakers {}).exec Settled {} orderlyRun).map (·.shared.issued) =
      some ["e", "d", "c", "b", "a"] := by decide +kernel
  obtain ⟨s, hs, hissued⟩ := Machine.Reach.of_exec_map orderlyRun rfl hrun
  exact ⟨s, hs, hissued, (breakers_agree hs).1⟩

/-- Of two operations that began while the circuit was closed, the failure opens it and the
success comes after it. -/
def lateSuccessRun : List (HealthOperation × Nat) :=
  [(.begin "a", 10), (.begin "b", 11), (.failure limited {} "", 20), (.success "", 30)]

/-- The late success closes the circuit in memory, and the shared one stays open: the next
attempt is allowed by one of them only. -/
theorem breakers_disagree : ∃ s, (breakers {}).Reach (fun s i => InLifetime s.shared i) s ∧
    s.memory.circuitState = .closed ∧ s.shared.key.stored.state = .opened ∧
    (Memory.beginProviderAttempt s.memory 40).2.allowed = true ∧
    (beginProviderAttempt {} s.shared.key 40 "c").2.allowed = false := by
  have hrun : ((breakers {}).exec (fun s i => InLifetime s.shared i) {} lateSuccessRun).map
      (fun s => (s.memory.circuitState, s.shared.key.stored.state,
        (Memory.beginProviderAttempt s.memory 40).2.allowed,
        (beginProviderAttempt {} s.shared.key 40 "c").2.allowed)) =
      some (.closed, .opened, true, false) := by decide +kernel
  obtain ⟨s, hs, hlast⟩ := Machine.Reach.of_exec_map lateSuccessRun rfl hrun
  simp only [Prod.mk.injEq] at hlast
  exact ⟨s, hs, hlast⟩

end SmartStay.Health
