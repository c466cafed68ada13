import SmartStay.Idempotency.Records

/-!
# One step of the idempotency system

1. `StoreStep`, `commandEffect_store`: what a command of a call does to the store.
   `PhaseStep`, `commandEffect_phase`: what it does to the phase of the call.
2. `step_command`, `step_start`, `step_executed`: what a step is, by event.
3. `step_calls`, `step_identity`, `step_minted`, `step_executions`, `step_store`: a part of the state after a step.
-/

namespace SmartStay.Idempotency

variable {cfg : Settings} {s t : System} {e : Event}

/-! ## 1. Commands -/

/-- What a command of `call` does to the store. -/
inductive StoreStep (cfg : Settings) (now : Nat) (call : Call) (st st' : StoreState) : Prop
  | swept : Swept now st st' → StoreStep cfg now call st st'
  | granted (swept : StoreState) : Expendable now st call.key → Swept now st swept →
      Granted cfg.toLimits now call.key call.fingerprint call.ownerToken swept st' →
      StoreStep cfg now call st st'
  | fulfilled (response : Produced) (swept : StoreState) : call.phase = .complete response →
      Owned now st call.key call.ownerToken → Swept now st swept →
      Fulfilled cfg.toLimits now call.key call.key call.fingerprint response swept st' →
      StoreStep cfg now call st st'
  | released : Owned now st call.key call.ownerToken → Released call.key call.key st st' →
      StoreStep cfg now call st st'

theorem StoreStep.refl (cfg : Settings) (now : Nat) (call : Call) (st : StoreState) :
    StoreStep cfg now call st st := .swept (.refl now st)

theorem StoreStep.indexed {now : Nat} {call : Call} {st st' : StoreState}
    (h : StoreStep cfg now call st st') (hi : Indexed st) : Indexed st' := by
  cases h with
  | swept hs => exact hs.indexed hi
  | granted swept _ hs hg => exact (hs.indexed hi).written hg.records hg.expiry
  | fulfilled response swept _ _ hs hf =>
    obtain ⟨searchId, responseBytes, hrecords⟩ := hf.records
    exact (hs.indexed hi).written hrecords hf.expiry
  | released _ hr => exact hr.indexed hi

theorem releaseScript_step (cfg : Settings) (st : StoreState) (call : Call) (now : Nat) :
    StoreStep cfg now call st (releaseScript st call.key call.key call.ownerToken now).1 := by
  rcases releaseScript_cases st call.key call.key call.ownerToken now with hsame | ⟨howned, hr⟩
  · rw [hsame]
    exact .refl cfg now call st
  · exact .released howned hr

/-- The store after a command. -/
theorem commandEffect_store {st : StoreState} (hi : Indexed st) {call : Call} {fate : Fate}
    {now : Nat} {r : StoreState × Phase} (h : commandEffect cfg st call fate now = some r) :
    StoreStep cfg now call st r.1 := by
  have hkeep := StoreStep.refl cfg now call st
  cases hphase : call.phase with
  | claim attempt =>
    simp only [commandEffect, hphase, Option.some.injEq] at h
    subst h
    refine fate.effect_of (P := StoreStep cfg now call st) hkeep fun _ => ?_
    rcases claimScript_cases cfg.toLimits hi call.key call.key call.fingerprint call.ownerToken now
      with ⟨-, hs⟩ | ⟨-, hfree, swept, hs, hg⟩
    · exact .swept hs
    · exact .granted swept hfree hs hg
  | readFulfilled attempt =>
    simp only [commandEffect, hphase, Option.some.injEq] at h
    subst h
    exact hkeep
  | waiting attempt deadline =>
    simp only [commandEffect, hphase] at h
    split at h <;> cases h <;> exact hkeep
  | complete response =>
    simp only [commandEffect, hphase, Option.some.injEq] at h
    subst h
    refine fate.effect_of (P := StoreStep cfg now call st) hkeep fun _ => ?_
    rcases completeScript_cases cfg.toLimits st call.key call.key call.ownerToken call.fingerprint
      (JsText.trim response.response.searchId) (cfg.byteLength response.response) response now
      with ⟨-, hs⟩ | ⟨-, howned, swept, hs, hf⟩
    · exact .swept hs
    · exact .fulfilled response swept hphase howned hs hf
  | releaseAndReturn response =>
    simp only [commandEffect, hphase, Option.some.injEq] at h
    subst h
    exact fate.effect_of (P := StoreStep cfg now call st) hkeep fun _ =>
      releaseScript_step cfg st call now
  | releaseAndThrow error =>
    simp only [commandEffect, hphase, Option.some.injEq] at h
    subst h
    exact fate.effect_of (P := StoreStep cfg now call st) hkeep fun _ =>
      releaseScript_step cfg st call now
  | executing => simp [commandEffect, hphase] at h
  | returned result => simp [commandEffect, hphase] at h
  | threw error => simp [commandEffect, hphase] at h

/-- The response that an owner has produced and not returned yet. -/
def Phase.inHand : Phase → Option Produced
  | .complete response | .releaseAndReturn response => some response
  | .claim _ | .readFulfilled _ | .waiting _ _ | .executing | .releaseAndThrow _ | .returned _
  | .threw _ => none

/-- The call neither runs its `execute`, nor has a response in hand, nor has returned. -/
def Phase.isIdle : Phase → Bool
  | .claim _ | .readFulfilled _ | .waiting _ _ | .releaseAndThrow _ | .threw _ => true
  | .executing | .complete _ | .releaseAndReturn _ | .returned _ => false

/-- What a command of `call` makes of its phase. -/
inductive PhaseStep (cfg : Settings) (now : Nat) (fate : Fate) (call : Call)
    (st st' : StoreState) : Phase → Prop
  | idle (phase : Phase) : phase.isIdle = true → PhaseStep cfg now fate call st st' phase
  | created (swept : StoreState) :
      Granted cfg.toLimits now call.key call.fingerprint call.ownerToken swept st' →
      PhaseStep cfg now fate call st st' .executing
  | kept (p : Produced) : call.phase.inHand = some p →
      PhaseStep cfg now fate call st st' (.releaseAndReturn p)
  | own (p : Produced) : call.phase.inHand = some p →
      PhaseStep cfg now fate call st st' (.returned ⟨some p, false, false⟩)
  | replayed (attempt : Nat) (p : Produced) : fate = .answered →
      call.phase = .readFulfilled attempt →
      readFulfilledResponse st call.key call.key now = .fulfilled p →
      PhaseStep cfg now fate call st st' (.returned ⟨some p, true, false⟩)
  | replayedNull (attempt : Nat) : fate = .answered → call.phase = .readFulfilled attempt →
      readFulfilledResponse st call.key call.key now = .pending →
      PhaseStep cfg now fate call st st' (.returned ⟨none, true, false⟩)
  | coalesced (attempt deadline : Nat) (p : Produced) : fate = .answered →
      call.phase = .waiting attempt deadline → now < deadline →
      readFulfilledResponse st call.key call.key now = .fulfilled p →
      PhaseStep cfg now fate call st st' (.returned ⟨some p, false, true⟩)

theorem retry_isIdle (attempt : Nat) : (retry attempt).isIdle = true := by
  unfold retry
  split <;> rfl

/-- The phase after a command. -/
theorem commandEffect_phase {st : StoreState} (hi : Indexed st) {call : Call} {fate : Fate}
    {now : Nat} {r : StoreState × Phase} (h : commandEffect cfg st call fate now = some r) :
    PhaseStep cfg now fate call st r.1 r.2 := by
  cases hphase : call.phase with
  | claim attempt =>
    simp only [commandEffect, hphase, Option.some.injEq] at h
    subst h
    cases fate with
    | answered =>
      rcases claimScript_cases cfg.toLimits hi call.key call.key call.fingerprint call.ownerToken
        now with ⟨hne, -⟩ | ⟨hcreated, -, swept, -, hg⟩
      · refine .idle _ ?_
        simp only [Fate.reply, afterClaim]
        split <;> first | rfl | contradiction
      · simp only [Fate.reply, hcreated, afterClaim]
        exact .created swept hg
    | lost | unanswered => exact .idle _ rfl
  | readFulfilled attempt =>
    simp only [commandEffect, hphase, Option.some.injEq] at h
    subst h
    cases fate with
    | answered =>
      simp only [Fate.reply]
      cases hread : readFulfilledResponse st call.key call.key now with
      | missing => exact .idle _ (retry_isIdle attempt)
      | pending => exact .replayedNull attempt rfl hphase hread
      | fulfilled response => exact .replayed attempt response rfl hphase hread
      | unavailable => exact .idle _ rfl
    | lost | unanswered => exact .idle _ rfl
  | waiting attempt deadline =>
    simp only [commandEffect, hphase] at h
    split at h
    · next hlt =>
      cases h
      cases fate with
      | answered =>
        simp only [Fate.reply]
        cases hread : readFulfilledResponse st call.key call.key now with
        | missing => exact .idle _ (retry_isIdle attempt)
        | pending => exact .idle _ rfl
        | fulfilled response => exact .coalesced attempt deadline response rfl hphase hlt hread
        | unavailable => exact .idle _ rfl
      | lost | unanswered => exact .idle _ rfl
    · cases h
      exact .idle _ rfl
  | complete response =>
    simp only [commandEffect, hphase, Option.some.injEq] at h
    subst h
    have hhand : call.phase.inHand = some response := by rw [hphase]; rfl
    cases fate with
    | answered =>
      simp only [Fate.reply, afterComplete]
      split
      · exact .own response hhand
      · exact .kept response hhand
      · exact .kept response hhand
      all_goals exact .idle _ rfl
    | lost | unanswered => exact .idle _ rfl
  | releaseAndReturn response =>
    simp only [commandEffect, hphase, Option.some.injEq] at h
    subst h
    cases fate with
    | answered => exact .own response (by rw [hphase]; rfl)
    | lost | unanswered => exact .idle _ rfl
  | releaseAndThrow error =>
    simp only [commandEffect, hphase, Option.some.injEq] at h
    subst h
    cases fate <;> exact .idle _ rfl
  | executing => simp [commandEffect, hphase] at h
  | returned result => simp [commandEffect, hphase] at h
  | threw error => simp [commandEffect, hphase] at h

/-! ## 2. The events -/

/-- What a `command` step is. -/
theorem step_command {c : CallId} {fate : Fate} {now : Nat}
    (h : step cfg s (.command c fate now) = some t) :
    s.clock ≤ now ∧ ∃ call, s.calls.hget c = some call ∧
      ∃ r, commandEffect cfg s.store call fate now = some r ∧
        t = { s with
              clock := now, store := r.1, calls := s.calls.hset c { call with phase := r.2 } } := by
  simp only [step, Option.ite_none_left_eq_some, not_lt, Option.bind_eq_some_iff,
    Option.map_eq_some_iff] at h
  obtain ⟨hnow, call, hcall, r, he, rfl⟩ := h
  exact ⟨hnow, call, hcall, r, he, rfl⟩

/-- What a `start` step is. -/
theorem step_start {c : CallId} {idempotencyKey : String} {fingerprint : Fingerprint}
    {ownerToken : OwnerToken}
    (h : step cfg s (.start c idempotencyKey fingerprint ownerToken) = some t) :
    ownerToken ∉ s.minted ∧ ∃ key, validateIdempotencyKey idempotencyKey = .ok key ∧
      t = { s with
            calls := s.calls.hset c ⟨cfg.recordKey key, fingerprint, ownerToken, .claim 0⟩
            minted := ownerToken :: s.minted } := by
  simp only [step, Option.ite_none_left_eq_some, not_or] at h
  obtain ⟨⟨-, hnew⟩, h⟩ := h
  split at h
  · cases h
  · next key hkey =>
    cases h
    exact ⟨hnew, key, hkey, rfl⟩

/-- What an `executed` step is. -/
theorem step_executed {c : CallId} {outcome : Except StoreError Response}
    (h : step cfg s (.executed c outcome) = some t) :
    t.store = s.store ∧ ∃ call, s.calls.hget c = some call ∧ call.phase = .executing ∧
      ((∃ error, t.executions = s.executions ∧
          t.calls = s.calls.hset c { call with phase := .releaseAndThrow error }) ∨
        ∃ response, t.executions = ⟨c, call.key, call.fingerprint, response⟩ :: s.executions ∧
          t.calls = s.calls.hset c
            { call with phase := afterExecute cfg ⟨c, call.key, call.fingerprint, response⟩ }) := by
  simp only [step, Option.bind_eq_some_iff, Option.ite_none_left_eq_some, not_not] at h
  obtain ⟨call, hcall, hphase, h⟩ := h
  cases outcome with
  | error error =>
    cases h
    exact ⟨rfl, call, hcall, hphase, .inl ⟨error, rfl, rfl⟩⟩
  | ok response =>
    cases h
    exact ⟨rfl, call, hcall, hphase, .inr ⟨response, rfl, rfl⟩⟩

/-! ## 3. The parts of the state -/

/-- A call in the state after a step: one in its phase of before, or one that has just
started, or the one that ran the command, or the one whose `execute` has ended. -/
theorem step_calls (h : step cfg s e = some t) {c : CallId} {call : Call}
    (hcall : t.calls.hget c = some call) :
    s.calls.hget c = some call ∨
    (∃ idempotencyKey key fingerprint ownerToken,
      e = .start c idempotencyKey fingerprint ownerToken ∧ ownerToken ∉ s.minted ∧
      validateIdempotencyKey idempotencyKey = .ok key ∧
      call = ⟨cfg.recordKey key, fingerprint, ownerToken, .claim 0⟩) ∨
    (∃ fate now call₀ r, e = .command c fate now ∧ s.calls.hget c = some call₀ ∧
      commandEffect cfg s.store call₀ fate now = some r ∧ t.store = r.1 ∧
      call = { call₀ with phase := r.2 }) ∨
    ∃ outcome call₀, e = .executed c outcome ∧ s.calls.hget c = some call₀ ∧
      ((∃ error, call = { call₀ with phase := .releaseAndThrow error }) ∨
        ∃ response, ⟨c, call₀.key, call₀.fingerprint, response⟩ ∈ t.executions ∧
          call = { call₀ with
            phase := afterExecute cfg ⟨c, call₀.key, call₀.fingerprint, response⟩ }) := by
  cases e with
  | start c' idempotencyKey fingerprint ownerToken =>
    obtain ⟨hnew, key, hkey, rfl⟩ := step_start h
    simp only [Hash.hget_hset] at hcall
    split at hcall
    · next heq =>
      cases hcall
      exact .inr (.inl ⟨idempotencyKey, key, fingerprint, ownerToken, by rw [heq], hnew, hkey, rfl⟩)
    · exact .inl hcall
  | command c' fate now =>
    obtain ⟨-, call₀, hcall₀, r, he, rfl⟩ := step_command h
    simp only [Hash.hget_hset] at hcall
    split at hcall
    · next heq =>
      cases hcall
      exact .inr (.inr (.inl ⟨fate, now, call₀, r, by rw [heq], heq ▸ hcall₀, he, rfl, rfl⟩))
    · exact .inl hcall
  | executed c' outcome =>
    obtain ⟨-, call₀, hcall₀, -, ⟨error, -, hcalls⟩ | ⟨response, hexec, hcalls⟩⟩ := step_executed h
    all_goals
      rw [hcalls, Hash.hget_hset] at hcall
      split at hcall
    · next heq =>
      cases hcall
      exact .inr (.inr (.inr ⟨outcome, call₀, by rw [heq], heq ▸ hcall₀, .inl ⟨error, rfl⟩⟩))
    · exact .inl hcall
    · next heq =>
      cases hcall
      refine .inr (.inr (.inr ⟨outcome, call₀, by rw [heq], heq ▸ hcall₀, .inr ⟨response, ?_, ?_⟩⟩))
      · rw [hexec, heq]
        exact List.mem_cons_self
      · rw [heq]
    · exact .inl hcall
  | stats now =>
    simp only [step, Option.ite_none_left_eq_some] at h
    obtain ⟨-, h⟩ := h
    cases h
    exact .inl hcall

/-- A call in the state after a step was there before, with the same key, payload and
token, or has just started. -/
theorem step_identity (h : step cfg s e = some t) {c : CallId} {call : Call}
    (hcall : t.calls.hget c = some call) :
    (∃ call₀, s.calls.hget c = some call₀ ∧ call.key = call₀.key ∧
      call.fingerprint = call₀.fingerprint ∧ call.ownerToken = call₀.ownerToken) ∨
    ∃ idempotencyKey key, e = .start c idempotencyKey call.fingerprint call.ownerToken ∧
      call.ownerToken ∉ s.minted ∧ validateIdempotencyKey idempotencyKey = .ok key ∧
      call.key = cfg.recordKey key := by
  rcases step_calls h hcall with hold | ⟨idempotencyKey, key, fingerprint, ownerToken, he, hnew, hkey,
    rfl⟩ | ⟨fate, now, call₀, r, -, hcall₀, -, -, rfl⟩ | ⟨outcome, call₀, -, hcall₀, hended⟩
  · exact .inl ⟨call, hold, rfl, rfl, rfl⟩
  · exact .inr ⟨idempotencyKey, key, he, hnew, hkey, rfl⟩
  · exact .inl ⟨call₀, hcall₀, rfl, rfl, rfl⟩
  · rcases hended with ⟨error, rfl⟩ | ⟨response, -, rfl⟩
    all_goals exact .inl ⟨call₀, hcall₀, rfl, rfl, rfl⟩

theorem step_minted (h : step cfg s e = some t) : t.minted = s.minted ∨
    ∃ c idempotencyKey fingerprint ownerToken,
      e = .start c idempotencyKey fingerprint ownerToken ∧ t.minted = ownerToken :: s.minted := by
  cases e with
  | start c idempotencyKey fingerprint ownerToken =>
    obtain ⟨-, key, -, rfl⟩ := step_start h
    exact .inr ⟨c, idempotencyKey, fingerprint, ownerToken, rfl, rfl⟩
  | command c fate now =>
    obtain ⟨-, call, -, r, -, rfl⟩ := step_command h
    exact .inl rfl
  | executed c outcome =>
    simp only [step, Option.bind_eq_some_iff, Option.ite_none_left_eq_some] at h
    obtain ⟨call, -, -, h⟩ := h
    cases outcome <;> cases h <;> exact .inl rfl
  | stats now =>
    simp only [step, Option.ite_none_left_eq_some] at h
    obtain ⟨-, h⟩ := h
    cases h
    exact .inl rfl

/-- Executions are never forgotten. -/
theorem step_executions (h : step cfg s e = some t) {p : Produced} (hp : p ∈ s.executions) :
    p ∈ t.executions := by
  cases e with
  | start c idempotencyKey fingerprint ownerToken =>
    obtain ⟨-, key, -, rfl⟩ := step_start h
    exact hp
  | command c fate now =>
    obtain ⟨-, call, -, r, -, rfl⟩ := step_command h
    exact hp
  | executed c outcome =>
    obtain ⟨-, call, -, -, ⟨error, hexec, -⟩ | ⟨response, hexec, -⟩⟩ := step_executed h
    · exact hexec ▸ hp
    · exact hexec ▸ List.mem_cons_of_mem _ hp
  | stats now =>
    simp only [step, Option.ite_none_left_eq_some] at h
    obtain ⟨-, h⟩ := h
    cases h
    exact hp

/-- The store in the state after a step. -/
theorem step_store (hi : Indexed s.store) (h : step cfg s e = some t) :
    t.store = s.store ∨
    (∃ now, e = .stats now ∧ Swept now s.store t.store) ∨
    ∃ c fate now call, e = .command c fate now ∧ s.calls.hget c = some call ∧
      StoreStep cfg now call s.store t.store := by
  cases e with
  | start c idempotencyKey fingerprint ownerToken =>
    obtain ⟨-, key, -, rfl⟩ := step_start h
    exact .inl rfl
  | command c fate now =>
    obtain ⟨-, call, hcall, r, he, rfl⟩ := step_command h
    exact .inr (.inr ⟨c, fate, now, call, rfl, hcall, commandEffect_store hi he⟩)
  | executed c outcome => exact .inl (step_executed h).1
  | stats now =>
    simp only [step, Option.ite_none_left_eq_some] at h
    obtain ⟨-, h⟩ := h
    cases h
    exact .inr (.inl ⟨now, rfl, statsScript_swept hi now⟩)

end SmartStay.Idempotency
