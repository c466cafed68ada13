import SmartStay.Continuation.SessionOutcome

/-!
# The lifecycle of provider executions

The executions of one search under any sequence of the transitions of
`providerContinuationState.js`, each at any time.

1. `Progress`: the executions, with the attempts that were begun as a ghost list.
2. The list after a transition: ids, and the entries of the other providers.
3. `Moves`: what a transition makes of the execution it is about.
4. `Sound`: the invariant, and what is done stays done.
5. `execution_lifecycle`.
-/

namespace SmartStay.Continuation

/-! ## 1. The machine -/

/-- A transition of the executions of a search. -/
inductive Transition
  | begin (providerId : ProviderId)
  | success (providerId : ProviderId) (success : ProviderSuccess)
  | failure (providerId : ProviderId) (failure : ProviderFailure)
  | recover
deriving DecidableEq

/-- The provider a transition is about. -/
def Transition.provider : Transition → Option ProviderId
  | .begin providerId | .success providerId _ | .failure providerId _ => some providerId
  | .recover => none

/-- The executions of a search. The list `begun` is a ghost: each attempt adds its provider
and the cursor it was begun at. -/
structure Progress where
  executions : List ProviderExecution
  begun : List (ProviderId × String) := []
deriving DecidableEq

namespace Progress

/-- The cursor at which the provider goes on. -/
def cursor (s : Progress) (providerId : ProviderId) : Option String :=
  (getProviderExecution s.executions providerId).bind fun execution =>
    execution.continuation.map (·.cursor)

/-- An attempt of the provider was begun and has not ended. -/
def isRunning (s : Progress) (providerId : ProviderId) : Bool :=
  (getProviderExecution s.executions providerId).any (·.state == .running)

/-- The list after a transition that did not throw. -/
def put (s : Progress) : Except String (List ProviderExecution) → Option Progress
  | .ok executions => some { s with executions := executions }
  | .error _ => none

/-- One transition at the time `now`. A success or a failure ends an attempt that runs. -/
def step (s : Progress) : Transition × Nat → Option Progress
  | (.begin providerId, now) =>
    ({ s with begun := (s.cursor providerId).toList.map (providerId, ·) ++ s.begun } : Progress).put
      (beginProviderExecutionAttempt s.executions providerId now)
  | (.success providerId success, now) =>
    if s.isRunning providerId then
      s.put (applyProviderExecutionSuccess s.executions providerId success now)
    else none
  | (.failure providerId failure, now) =>
    if s.isRunning providerId then
      s.put (applyProviderExecutionFailure s.executions providerId failure now)
    else none
  | (.recover, _) => some { s with executions := recoverStaleProviderExecutions s.executions }

end Progress

/-- The executions of a search, from the descriptors of its first page on. -/
def lifecycle : Machine Progress (Transition × Nat) where
  init s := ∃ now descriptors, s = { executions := createProviderExecutionStates now descriptors }
  step := Progress.step

/-! ## 2. The list after a transition -/

/-- The ids of a list of executions. -/
def executionIds (executions : List ProviderExecution) : List ProviderId :=
  executions.map ProviderExecution.providerId

/-- The entry of a provider. -/
def entry (executions : List ProviderExecution) (providerId : ProviderId) :
    Option ProviderExecution := executions.find? (·.providerId == providerId)

variable {executions executions' : List ProviderExecution} {e e' replacement : ProviderExecution}
  {providerId : ProviderId} {now : Nat}

theorem executionIds_map {f : ProviderExecution → ProviderExecution}
    (hf : ∀ e, (f e).providerId = e.providerId) :
    executionIds (executions.map f) = executionIds executions := by
  rw [executionIds, List.map_map]
  exact List.map_congr_left fun e _ => hf e

theorem entry_map {f : ProviderExecution → ProviderExecution}
    (hf : ∀ e, (f e).providerId = e.providerId) (providerId : ProviderId) :
    entry (executions.map f) providerId = (entry executions providerId).map f := by
  rw [entry, List.find?_map]
  congr 2
  funext e
  simp only [Function.comp_apply, hf]

theorem mem_of_entry (h : entry executions providerId = some e) :
    e ∈ executions ∧ e.providerId = providerId := by
  refine ⟨List.mem_of_find?_eq_some h, ?_⟩
  have hfound := List.find?_some h
  simpa using hfound

theorem create_ids (now : Nat) (descriptors : List ProviderDescriptor) :
    (executionIds (createProviderExecutionStates now descriptors)).Nodup :=
  Keyed.nodup_setAll List.nodup_nil

theorem normalize_id (e : ProviderExecution) :
    (normalizeProviderExecutionState e).providerId = e.providerId := rfl

theorem executionIds_normalize (executions : List ProviderExecution) :
    executionIds (executions.map normalizeProviderExecutionState) = executionIds executions :=
  executionIds_map normalize_id

/-- Normalisation of a list with different ids goes entry by entry. -/
theorem normalize_eq_map (hids : (executionIds executions).Nodup) :
    normalizeProviderExecutionStates executions =
      executions.map normalizeProviderExecutionState := by
  rw [← executionIds_normalize] at hids
  exact Keyed.setAll_of_nodup hids

theorem entry_normalize (hids : (executionIds executions).Nodup) (providerId : ProviderId) :
    entry (normalizeProviderExecutionStates executions) providerId =
      (entry executions providerId).map normalizeProviderExecutionState := by
  rw [normalize_eq_map hids]
  exact entry_map normalize_id providerId

theorem replace_ids (hids : (executionIds executions).Nodup) :
    (executionIds (replaceProviderExecution executions replacement)).Nodup := by
  have hnormal : (executionIds (normalizeProviderExecutionStates executions)).Nodup := by
    rwa [normalize_eq_map hids, executionIds_normalize]
  exact Keyed.nodup_set hnormal

/-- A replacement is about one provider: the entries of the others are normalised. -/
theorem entry_replace (hids : (executionIds executions).Nodup) (providerId : ProviderId) :
    entry (replaceProviderExecution executions replacement) providerId =
      if replacement.providerId = providerId then some (normalizeProviderExecutionState replacement)
      else (entry executions providerId).map normalizeProviderExecutionState := by
  rw [← entry_normalize hids]
  exact Keyed.find?_set ProviderExecution.providerId _ _ _

/-- What a recovery makes of an execution. -/
def recovered (e : ProviderExecution) : ProviderExecution :=
  let execution := normalizeProviderExecutionState e
  if execution.state = .running then
    { execution with
      state := .pending, retryable := false, retryAfterMs := none, nextAttemptAt := none }
  else execution

theorem recovered_id (e : ProviderExecution) : (recovered e).providerId = e.providerId := by
  unfold recovered
  dsimp only
  split <;> rfl

theorem recover_eq_map (hids : (executionIds executions).Nodup) :
    recoverStaleProviderExecutions executions = executions.map recovered := by
  rw [recoverStaleProviderExecutions, normalize_eq_map hids, List.map_map]
  rfl

/-! ## 3. What a transition does -/

/-- There is something left to do for the provider. -/
def Active (e : ProviderExecution) : Prop :=
  e.state = .pending ∨ e.state = .running ∨ e.state = .retryableFailure

/-- Nothing is left to do for the provider. -/
def Done (e : ProviderExecution) : Prop := e.state = .completed ∨ e.state = .terminalFailure

theorem active_or_done (e : ProviderExecution) : Active e ∨ Done e := by
  cases hstate : e.state <;> simp [Active, Done, hstate]

theorem Active.not_done (h : Active e) : ¬ Done e := by
  rcases h with h | h | h <;> simp [Done, h]

theorem Continuable.supported (h : Continuable e) (hactive : Active e) :
    (e.supportsContinuation && e.continuation.isSome) = true := by
  rcases hactive with hstate | hstate | hstate <;> exact h (by simp [hstate]) (by simp [hstate])

/-- Normalisation keeps the state of a sound execution. -/
theorem Continuable.normalize_state (h : Continuable e) :
    (normalizeProviderExecutionState e).state = e.state := by
  rcases active_or_done e with hactive | hdone
  · simp [normalizeProviderExecutionState, h.supported hactive]
  · rcases hdone with hstate | hstate <;> simp [normalizeProviderExecutionState, hstate]

theorem Done.normalize_state (h : Done e) :
    (normalizeProviderExecutionState e).state = e.state := by
  rcases h with hstate | hstate <;> simp [normalizeProviderExecutionState, hstate]

theorem normalize_delay (e : ProviderExecution) (now : Nat) :
    getProviderExecutionRetryDelayMs (normalizeProviderExecutionState e) now =
      getProviderExecutionRetryDelayMs e now := by
  have htwice : (normalizeProviderExecutionState (normalizeProviderExecutionState e)).state =
      (normalizeProviderExecutionState e).state := (normalize_continuable e).normalize_state
  simp only [getProviderExecutionRetryDelayMs, htwice]
  rfl

theorem runnable_iff (h : Continuable e) :
    isProviderExecutionRunnable e now = true ↔
      (e.state = .pending ∨ e.state = .retryableFailure) ∧
        getProviderExecutionRetryDelayMs e now = 0 := by
  have hparts : isProviderExecutionRunnable e now = true ↔
      (e.supportsContinuation && e.continuation.isSome) = true ∧
        (e.state = .pending ∨ e.state = .retryableFailure) ∧
        getProviderExecutionRetryDelayMs e now = 0 := by
    simp only [isProviderExecutionRunnable, normalize_delay, h.normalize_state]
    simp [normalizeProviderExecutionState, and_assoc]
  refine hparts.trans ⟨And.right, fun hright => ⟨h.supported ?_, hright⟩⟩
  rcases hright.1 with hstate | hstate
  · exact .inl hstate
  · exact .inr (.inr hstate)

/-- What a transition at the time `now` makes of the execution `e` of its provider; the
last argument lists the cursor at which an attempt was begun. -/
inductive Moves (now : Nat) (e : ProviderExecution) :
    Transition → ProviderExecution → List String → Prop
  | begun {e' : ProviderExecution} {providerId : ProviderId} {c : ProviderContinuation} :
      isProviderExecutionRunnable e now = true → e.continuation = some c →
      e'.state = .running → e'.continuation = some c →
      e'.attemptsForCursor = e.attemptsForCursor + 1 →
      Moves now e (.begin providerId) e' [c.cursor]
  | ended {e' : ProviderExecution} {transition : Transition} :
      e.state = .running → Done e' → Moves now e transition e' []
  | advanced {e' : ProviderExecution} {providerId : ProviderId} {success : ProviderSuccess}
      {c : ProviderContinuation} :
      e.state = .running → success.continuation = some c → e.continuation ≠ some c →
      e'.state = .pending → e'.continuation = some c → e'.attemptsForCursor = 0 →
      Moves now e (.success providerId success) e' []
  | retried {e' : ProviderExecution} {providerId : ProviderId} {failure : ProviderFailure} :
      e.state = .running → e'.state = .retryableFailure → e'.continuation = e.continuation →
      e'.attemptsForCursor = e.attemptsForCursor →
      e.attemptsForCursor < e.maxAttemptsPerCursor →
      Moves now e (.failure providerId failure) e' []

/-- One provider's execution moves, and the list is replaced accordingly. -/
structure MovesAt (s t : Progress) (transition : Transition) (now : Nat)
    (providerId : ProviderId) (e e' : ProviderExecution) (cursors : List String) : Prop where
  provider : transition.provider = some providerId
  found : getProviderExecution s.executions providerId = some e
  replaced : t.executions = replaceProviderExecution s.executions e'
  same : e'.providerId = providerId ∧ e'.maxAttemptsPerCursor = e.maxAttemptsPerCursor
  begun : t.begun = cursors.map (providerId, ·) ++ s.begun
  moves : Moves now e transition e' cursors

variable {s t : Progress} {transition : Transition}

theorem put_eq {result : Except String (List ProviderExecution)} (h : s.put result = some t) :
    ∃ executions, result = .ok executions ∧ t = { s with executions := executions } := by
  cases hresult : result with
  | error message => simp [Progress.put, hresult] at h
  | ok executions =>
    simp only [Progress.put, hresult, Option.some.injEq] at h
    exact ⟨executions, rfl, h.symm⟩

/-- A begin sets the runnable execution of the provider to run. -/
theorem begin_moves (h : s.step (.begin providerId, now) = some t) :
    ∃ e e' cursors, MovesAt s t (.begin providerId) now providerId e e' cursors := by
  obtain ⟨executions, hbegin, rfl⟩ := put_eq h
  unfold beginProviderExecutionAttempt at hbegin
  split at hbegin
  · next e hget =>
    split at hbegin
    · next hrunnable =>
      cases hbegin
      have hid := getProviderExecution_id hget
      have hsome : e.continuation.isSome = true := by
        simp only [isProviderExecutionRunnable, Bool.and_eq_true] at hrunnable
        exact hrunnable.1.1.2
      obtain ⟨c, hc⟩ := Option.isSome_iff_exists.mp hsome
      have hcursor : s.cursor providerId = some c.cursor := by
        simp [Progress.cursor, hget, hc]
      exact ⟨e, _, [c.cursor],
        { provider := rfl
          found := hget
          replaced := rfl
          same := ⟨hid, rfl⟩
          begun := by simp [hcursor]
          moves := .begun hrunnable hc rfl hc rfl }⟩
    · cases hbegin
  · cases hbegin

theorem running_of_guard {e : ProviderExecution} (hguard : s.isRunning providerId = true)
    (hget : getProviderExecution s.executions providerId = some e) : e.state = .running := by
  simpa [Progress.isRunning, hget] using hguard

/-- A success ends the execution of the provider or moves it to another cursor. -/
theorem success_moves {success : ProviderSuccess}
    (h : s.step (.success providerId success, now) = some t) :
    ∃ e e' cursors, MovesAt s t (.success providerId success) now providerId e e' cursors := by
  simp only [Progress.step, Option.ite_none_right_eq_some] at h
  obtain ⟨hguard, hput⟩ := h
  obtain ⟨executions, hsuccess, rfl⟩ := put_eq hput
  unfold applyProviderExecutionSuccess at hsuccess
  split at hsuccess
  · cases hsuccess
  next e hget =>
  have hid := getProviderExecution_id hget
  have hrun := running_of_guard hguard hget
  split at hsuccess
  · -- The continuation did not advance.
    cases hsuccess
    exact ⟨e, _, [],
      { provider := rfl
        found := hget
        replaced := rfl
        same := ⟨hid, rfl⟩
        begun := rfl
        moves := .ended hrun (.inr rfl) }⟩
  · next hadvanced =>
    cases hsuccess
    refine ⟨e, _, [],
      { provider := rfl
        found := hget
        replaced := rfl
        same := ⟨hid, rfl⟩
        begun := rfl
        moves := ?_ }⟩
    cases hnext : success.continuation with
    | none => exact .ended hrun (.inl rfl)
    | some c =>
      have hother : e.continuation ≠ some c := by simpa [hnext] using hadvanced
      exact .advanced hrun hnext hother rfl rfl rfl

/-- A failure ends the execution of the provider or leaves it to a retry. -/
theorem failure_moves {failure : ProviderFailure}
    (h : s.step (.failure providerId failure, now) = some t) :
    ∃ e e' cursors, MovesAt s t (.failure providerId failure) now providerId e e' cursors := by
  simp only [Progress.step, Option.ite_none_right_eq_some] at h
  obtain ⟨hguard, hput⟩ := h
  obtain ⟨executions, hfailure, rfl⟩ := put_eq hput
  unfold applyProviderExecutionFailure at hfailure
  split at hfailure
  · cases hfailure
  next e hget =>
  have hid := getProviderExecution_id hget
  have hrun := running_of_guard hguard hget
  cases hfailure
  refine ⟨e, _, [],
    { provider := rfl
      found := hget
      replaced := rfl
      same := ⟨hid, rfl⟩
      begun := rfl
      moves := ?_ }⟩
  by_cases hretry : failure.canRetry e = true
  · have hbelow : e.attemptsForCursor < e.maxAttemptsPerCursor := by
      simp only [ProviderFailure.canRetry, Bool.and_eq_true, decide_eq_true_eq] at hretry
      exact hretry.2
    exact .retried hrun (if_pos hretry) (if_pos hretry) rfl hbelow
  · exact .ended hrun (.inr (if_neg hretry))

/-- A transition moves the execution of one provider, or it is a recovery. -/
theorem step_cases (h : s.step (transition, now) = some t) :
    transition = .recover ∧ t = { s with executions := recoverStaleProviderExecutions s.executions } ∨
    ∃ providerId e e' cursors, MovesAt s t transition now providerId e e' cursors := by
  cases transition with
  | begin providerId => exact .inr ⟨providerId, begin_moves h⟩
  | success providerId success => exact .inr ⟨providerId, success_moves h⟩
  | failure providerId failure => exact .inr ⟨providerId, failure_moves h⟩
  | recover =>
    cases h
    exact .inl ⟨rfl, rfl⟩

/-! ## 4. The invariant -/

/-- Every provider has one execution, and one with something left to do can go on. -/
structure Sound (s : Progress) : Prop where
  ids : (executionIds s.executions).Nodup
  continuable : ∀ e ∈ s.executions, Continuable e

theorem sound_init (h : lifecycle.init s) : Sound s := by
  obtain ⟨now, descriptors, rfl⟩ := h
  refine ⟨create_ids now descriptors, fun e he => ?_⟩
  rcases mem_foldl_setExecution _ _ he with he | he
  · cases he
  · obtain ⟨descriptor, -, rfl⟩ := List.mem_map.mp he
    exact create_continuable now descriptor

theorem Sound.step (hs : Sound s) (h : s.step (transition, now) = some t) : Sound t := by
  rcases step_cases h with ⟨-, rfl⟩ | ⟨providerId, e, e', cursors, hmoves⟩
  · refine ⟨?_, fun e he => recover_continuable he⟩
    rw [recover_eq_map hs.ids, executionIds_map recovered_id]
    exact hs.ids
  · rw [show t = ⟨t.executions, t.begun⟩ from rfl, hmoves.replaced]
    refine ⟨replace_ids hs.ids, fun y hy => ?_⟩
    rcases mem_setExecution hy with rfl | ⟨hy, -⟩
    · exact normalize_continuable e'
    · obtain ⟨y', -, rfl⟩ := mem_normalize hy
      exact normalize_continuable y'

/-- The entry of a provider after a transition of another one. -/
theorem MovesAt.others {e e' : ProviderExecution} {cursors : List String} {other : ProviderId}
    (h : MovesAt s t transition now providerId e e' cursors) (hs : Sound s)
    (hne : other ≠ providerId) :
    entry t.executions other =
      (entry s.executions other).map normalizeProviderExecutionState := by
  have hid : e'.providerId ≠ other := by
    rw [h.same.1]
    exact hne.symm
  rw [h.replaced, entry_replace hs.ids, if_neg hid]

/-- The execution a transition is about has something left to do. -/
theorem MovesAt.active {e e' : ProviderExecution} {cursors : List String}
    (h : MovesAt s t transition now providerId e e' cursors) (hs : Sound s) :
    ∃ e₀, entry s.executions providerId = some e₀ ∧ e = normalizeProviderExecutionState e₀ ∧
      Active e₀ := by
  have hfound : (entry s.executions providerId).map normalizeProviderExecutionState = some e := by
    rw [← entry_normalize hs.ids]
    exact h.found
  obtain ⟨e₀, hentry, rfl⟩ := Option.map_eq_some_iff.mp hfound
  refine ⟨e₀, hentry, rfl, ?_⟩
  have hstate := (hs.continuable _ (mem_of_entry hentry).1).normalize_state
  rw [Active, ← hstate]
  cases h.moves with
  | begun hrunnable =>
    rcases ((runnable_iff (normalize_continuable e₀)).mp hrunnable).1 with hstate | hstate
    · exact .inl hstate
    · exact .inr (.inr hstate)
  | ended hrun => exact .inr (.inl hrun)
  | advanced hrun => exact .inr (.inl hrun)
  | retried hrun => exact .inr (.inl hrun)

/-- What was done in `s` is done in the same way in `t`. -/
def DoneStays (s t : Progress) : Prop :=
  ∀ providerId e, entry s.executions providerId = some e → Done e →
    ∃ e', entry t.executions providerId = some e' ∧ e'.state = e.state

theorem doneStays_step (hs : Sound s) (h : s.step (transition, now) = some t) : DoneStays s t := by
  intro other e hentry hdone
  rcases step_cases h with ⟨-, rfl⟩ | ⟨providerId, eₚ, e', cursors, hmoves⟩
  · refine ⟨recovered e, ?_, ?_⟩
    · rw [recover_eq_map hs.ids, entry_map recovered_id, hentry]
      rfl
    · have hidle : (normalizeProviderExecutionState e).state ≠ .running := by
        rw [hdone.normalize_state]
        rcases hdone with hstate | hstate <;> simp [hstate]
      simp only [recovered, if_neg hidle]
      exact hdone.normalize_state
  · have hne : other ≠ providerId := by
      rintro rfl
      obtain ⟨e₀, hentry₀, -, hactive⟩ := hmoves.active hs
      rw [hentry, Option.some.injEq] at hentry₀
      exact hactive.not_done (hentry₀ ▸ hdone)
    refine ⟨normalizeProviderExecutionState e, ?_, hdone.normalize_state⟩
    rw [hmoves.others hs hne, hentry]
    rfl

/-! ## 5. The lifecycle -/

/-- The clock does not matter for whether a search is complete: what cannot run yet waits. -/
theorem searchIncomplete_iff (executions : List ProviderExecution) (now : Nat) :
    (getContinuationSessionOutcome executions now).searchIncomplete = true ↔
      ∃ e ∈ normalizeProviderExecutionStates executions, Active e := by
  have hcan : ∀ e ∈ normalizeProviderExecutionStates executions, Continuable e := by
    intro e he
    obtain ⟨e', -, rfl⟩ := mem_normalize he
    exact normalize_continuable e'
  have hparts : (getContinuationSessionOutcome executions now).searchIncomplete = true ↔
      (∃ e ∈ normalizeProviderExecutionStates executions,
        isProviderExecutionRunnable e now = true) ∨
      (∃ e ∈ normalizeProviderExecutionStates executions, e.state = .running) ∨
      ∃ e ∈ normalizeProviderExecutionStates executions,
        e.state = .retryableFailure ∧ 0 < getProviderExecutionRetryDelayMs e now := by
    simp [getContinuationSessionOutcome, summarizeProviderExecutions, List.length_pos_iff_exists_mem,
      and_assoc]
  rw [hparts]
  constructor
  · rintro (⟨e, he, hrunnable⟩ | ⟨e, he, hrun⟩ | ⟨e, he, hretry, -⟩)
    · rcases ((runnable_iff (hcan e he)).mp hrunnable).1 with hstate | hstate
      · exact ⟨e, he, .inl hstate⟩
      · exact ⟨e, he, .inr (.inr hstate)⟩
    · exact ⟨e, he, .inr (.inl hrun)⟩
    · exact ⟨e, he, .inr (.inr hretry)⟩
  · rintro ⟨e, he, hpending | hrun | hretry⟩
    · have hdelay : getProviderExecutionRetryDelayMs e now = 0 := by
        have hnormal := (hcan e he).normalize_state
        simp [getProviderExecutionRetryDelayMs, hnormal, hpending]
      exact .inl ⟨e, he, (runnable_iff (hcan e he)).mpr ⟨.inl hpending, hdelay⟩⟩
    · exact .inr (.inl ⟨e, he, hrun⟩)
    · -- A retry is runnable, or the search waits for it.
      rcases Nat.eq_zero_or_pos (getProviderExecutionRetryDelayMs e now) with hdelay | hdelay
      · exact .inl ⟨e, he, (runnable_iff (hcan e he)).mpr ⟨.inr hretry, hdelay⟩⟩
      · exact .inr (.inr ⟨e, he, hretry, hdelay⟩)

theorem sound (h : lifecycle.Reach Machine.Anything s) : Sound s :=
  h.invariant (fun _ => sound_init) fun _ _ _ hs _ hstep => hs.step hstep

theorem doneStays (h : lifecycle.Reach Machine.Anything s)
    (hsteps : lifecycle.Steps Machine.Anything s t) : DoneStays s t := by
  refine hsteps.relation (sound h) (fun _ _ _ hs _ hstep => hs.step hstep) ?_ ?_ ?_
  · exact fun s providerId e hentry _ => ⟨e, hentry, rfl⟩
  · intro s t u hst htu providerId e hentry hdone
    obtain ⟨e', hentry', hstate⟩ := hst providerId e hentry hdone
    have hdone' : Done e' := by rwa [Done, hstate]
    obtain ⟨e'', hentry'', hstate'⟩ := htu providerId e' hentry' hdone'
    exact ⟨e'', hentry'', hstate'.trans hstate⟩
  · exact fun s i t hs _ hstep => doneStays_step hs hstep

theorem Done.not_runnable (h : Done e) (now : Nat) : isProviderExecutionRunnable e now = false := by
  have hstate := h.normalize_state
  rcases h with h | h <;> simp [isProviderExecutionRunnable, hstate, h]

/-- In every run, with recoveries anywhere: the provider ids are different; an execution
with something left to do has a continuation; what is done keeps its state and is never
runnable again; a transition of one provider only normalises the executions of the others;
and the search is incomplete exactly while something is left to do. -/
theorem execution_lifecycle (h : lifecycle.Reach Machine.Anything s) :
    (executionIds s.executions).Nodup ∧
    (∀ e ∈ s.executions, Active e → e.continuation.isSome = true) ∧
    (∀ t, lifecycle.Steps Machine.Anything s t → ∀ providerId e,
      entry s.executions providerId = some e → Done e →
      ∃ e', entry t.executions providerId = some e' ∧ e'.state = e.state ∧
        ∀ now, isProviderExecutionRunnable e' now = false) ∧
    (∀ transition now t, s.step (transition, now) = some t → ∀ providerId,
      transition.provider = some providerId → ∀ other, other ≠ providerId →
      entry t.executions other =
        (entry s.executions other).map normalizeProviderExecutionState) ∧
    (∀ now, (getContinuationSessionOutcome s.executions now).searchIncomplete = true ↔
      ∃ e ∈ s.executions, Active e) := by
  have hs := sound h
  refine ⟨hs.ids, ?_, ?_, ?_, ?_⟩
  · intro e he hactive
    have hsupported := (hs.continuable e he).supported hactive
    exact (Bool.and_eq_true_iff.mp hsupported).2
  · intro t hsteps providerId e hentry hdone
    obtain ⟨e', hentry', hstate⟩ := doneStays h hsteps providerId e hentry hdone
    have hdone' : Done e' := by rwa [Done, hstate]
    exact ⟨e', hentry', hstate, hdone'.not_runnable⟩
  · intro transition now t hstep providerId hprovider other hne
    rcases step_cases hstep with ⟨rfl, -⟩ | ⟨moved, e, e', cursors, hmoves⟩
    · cases hprovider
    · rw [hmoves.provider, Option.some.injEq] at hprovider
      subst hprovider
      exact hmoves.others hs hne
  · intro now
    rw [searchIncomplete_iff, normalize_eq_map hs.ids]
    constructor
    · rintro ⟨e, he, hactive⟩
      obtain ⟨e₀, he₀, rfl⟩ := List.mem_map.mp he
      rw [Active, (hs.continuable e₀ he₀).normalize_state] at hactive
      exact ⟨e₀, he₀, hactive⟩
    · rintro ⟨e, he, hactive⟩
      refine ⟨_, List.mem_map_of_mem he, ?_⟩
      rwa [Active, (hs.continuable e he).normalize_state]

/-! A search of two pages: the first attempt at the second one is to be tried again. -/

/-- A provider of the sample runs. -/
def hotelbeds : ProviderId := ⟨"hotelbeds", by decide +kernel, by decide⟩

/-- The executions of a search whose provider goes on at the cursor `1`. -/
def firstPage : Progress where
  executions := createProviderExecutionStates 0
    [{ providerId := hotelbeds, supportsContinuation := true
       continuation := some ⟨hotelbeds, "1"⟩, maxAttemptsPerCursor := 2 }]

theorem firstPage_init : lifecycle.init firstPage := ⟨0, _, rfl⟩

/-- A success at the first cursor and a timeout at the second one. -/
def secondPageRun : List (Transition × Nat) :=
  [(.begin hotelbeds, 10), (.success hotelbeds { continuation := some ⟨hotelbeds, "2"⟩ }, 20),
    (.begin hotelbeds, 30), (.failure hotelbeds { outcome := "timeout", retryable := true }, 40)]

theorem execution_lifecycle_retry : ∃ s, lifecycle.Reach Machine.Anything s ∧
    s.executions.map (·.state) = [.retryableFailure] ∧
    (executionIds s.executions).Nodup ∧
    ∀ now, (getContinuationSessionOutcome s.executions now).searchIncomplete = true := by
  have hrun : (lifecycle.exec Machine.Anything firstPage secondPageRun).map
      (·.executions.map (·.state)) = some [.retryableFailure] := by decide +kernel
  obtain ⟨s, hs, hstates⟩ := Machine.Reach.of_exec_map secondPageRun firstPage_init hrun
  obtain ⟨hids, -, -, -, hincomplete⟩ := execution_lifecycle hs
  obtain ⟨e, he, hstate⟩ : ∃ e ∈ s.executions, e.state = .retryableFailure :=
    List.mem_map.mp (hstates ▸ List.mem_singleton_self _)
  exact ⟨s, hs, hstates, hids, fun now => (hincomplete now).mpr ⟨e, he, .inr (.inr hstate)⟩⟩

end SmartStay.Continuation
