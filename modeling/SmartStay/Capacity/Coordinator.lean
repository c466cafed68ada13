import SmartStay.Capacity.Scripts
import SmartStay.Lib.Run

/-!
# The shared capacity coordinator

Any number of processes call `acquireProviderOperationCapacity`, renew and release their
leases, and abort. Every script runs atomically in the store; a command that a caller has
given up may still run later.

1. Calls and the system of all of them.
2. `Effect`, `RunEffect`: what one event does.
3. `CallsOrdered`: a call that was granted a lease never asks again.
4. `RequestsCounted`: the counter of each provider against the leases it was granted.
5. `Held`: the leases that have not expired are in the store, when no clock is ahead.
6. `capacity_bounds`.
-/

namespace SmartStay.Capacity

open SortedSet FixedWindow

/-! ## 1. Calls -/

/-- The arguments of `acquireProviderOperationCapacity` that matter here. -/
structure AcquireRequest where
  providerId : ProviderId
  leaseTtlMs : Option Nat := none
deriving DecidableEq, Repr

/-- `safeLeaseTtlMs`. -/
def AcquireRequest.safeLeaseTtlMs (cfg : CapacitySettings) (request : AcquireRequest) : Nat :=
  match request.leaseTtlMs with
  | some ttl => if 100 ≤ ttl ∧ ttl ≤ 600000 then ttl else cfg.leaseTtlMs
  | none => cfg.leaseTtlMs

theorem safeLeaseTtlMs_min (cfg : CapacitySettings) (request : AcquireRequest) :
    100 ≤ request.safeLeaseTtlMs cfg := by
  have hdefault := cfg.leaseTtlMs_min
  unfold AcquireRequest.safeLeaseTtlMs
  split
  · split <;> omega
  · exact hdefault

/-- What `acquireProviderOperationCapacity` throws. -/
inductive AcquireError
  | aborted
  | unavailable
  | rateLimited (retryAfterMs : Nat)
  | capacityExceeded
  | configuration (message : String)
deriving DecidableEq, Repr

/-- Where a call is: before its start, at the top of its loop or between two polls, waiting
for the reply of its script, with a lease that it holds, lost or released, or failed. -/
inductive Phase
  | idle
  | polling
  | awaiting
  | leased
  | lost
  | released
  | failed (error : AcquireError)
deriving DecidableEq, Repr

/-- A call: its phase, `waiterRegistered`, and the time that a command of it carries which
has not run yet. -/
structure Call where
  phase : Phase := .idle
  waiterRegistered : Bool := false
  inFlight : Option Nat := none
deriving DecidableEq, Repr

/-- The call goes on with the reply, unless it has given up. -/
def Call.resume (call : Call) (reply : AcquireReply) : Call :=
  let call := { call with inFlight := none }
  if call.phase = .awaiting then
    match reply with
    | .acquired _ => { call with phase := .leased, waiterRegistered := false }
    | .rateLimited retryAfterMs =>
      { call with phase := .failed (.rateLimited retryAfterMs), waiterRegistered := false }
    | .queueFull => { call with phase := .failed .capacityExceeded }
    | .waiting => { call with phase := .polling, waiterRegistered := true }
  else call

/-- A lease that `ACQUIRE_SCRIPT` granted, and when it ends. -/
structure Lease where
  providerId : ProviderId
  expiresAt : Nat
deriving DecidableEq, Repr

/-- A run of `ACQUIRE_SCRIPT` that granted a lease, at the time of the store. -/
structure Acquisition where
  call : CallId
  providerId : ProviderId
  time : Nat
deriving DecidableEq, Repr

/-- The store with its clock, and the calls. Three ghosts: the leases that were granted and
not released, with the end that the last renewal gave them; all acquisitions; and the
starts of the windows of each provider. -/
structure CapacitySystem where
  store : CapacityStore := {}
  clock : Nat := 0
  calls : CallId → Call := fun _ => {}
  leases : Hash CallId Lease := ∅
  acquired : List Acquisition := []
  windows : ProviderId → List Nat := fun _ => []

/-- What happens. `fail` is a command that failed for the caller, or an abort between two
polls; `run` is the execution of the acquire script that is in flight. -/
inductive CapacityEvent
  | start (call : CallId)
  | send (call : CallId) (now : Nat)
  | run (call : CallId)
  | drop (call : CallId)
  | fail (call : CallId)
  | removeWaiter (call : CallId)
  | renew (call : CallId) (now : Nat)
  | release (call : CallId)
  | releaseLease (call : CallId)
  | snapshot (providerId : Option ProviderId) (now : Nat)
deriving DecidableEq

variable (cfg : CapacitySettings) (requests : CallId → AcquireRequest)

namespace CapacitySystem

/-- One call changes. -/
def setCall (s : CapacitySystem) (call : CallId) (state : Call) : CapacitySystem :=
  { s with calls := Function.update s.calls call state }

/-- `ACQUIRE_SCRIPT` of the call, with the time it was sent at. -/
def runAcquire (s : CapacitySystem) (call : CallId) (now : Nat) : CapacitySystem :=
  let request := requests call
  let result := acquireScript cfg s.store request.providerId call now
    (request.safeLeaseTtlMs cfg) s.clock
  let s' := { s with store := result.1 }.setCall call ((s.calls call).resume result.2)
  match result.2 with
  | .acquired expiresAt =>
    { s' with
      leases := s.leases.hset call ⟨request.providerId, expiresAt⟩
      acquired := ⟨call, request.providerId, s.clock⟩ :: s.acquired
      windows :=
        if (cfg.rateLimit request.providerId).isSome ∧
            windowOver s.store.rate s.clock request.providerId then
          Function.update s.windows request.providerId
            (s.clock :: s.windows request.providerId)
        else s.windows }
  | .rateLimited _ | .queueFull | .waiting => s'

/-- `RENEW_SCRIPT` of the call; when it fails the lease is lost for a caller that holds it. -/
def runRenew (s : CapacitySystem) (call : CallId) (now : Nat) : CapacitySystem :=
  let request := requests call
  let result := renewScript s.store request.providerId call now (request.safeLeaseTtlMs cfg)
  if 0 < result.2 then
    { s with store := result.1, leases := s.leases.hset call ⟨request.providerId, result.2⟩ }
  else
    { s with store := result.1 }.setCall call
      (if (s.calls call).phase = Phase.leased then { s.calls call with phase := .lost }
      else s.calls call)

/-- One event; the clock of the store has moved on before it. A renewal that was sent may
run after the lease is lost or released. -/
def event (s : CapacitySystem) : CapacityEvent → Option CapacitySystem
  | .start call =>
    if (s.calls call).phase = .idle then
      match cfg.resolveAccountRateLimit (requests call).providerId with
      | .ok _ => some (s.setCall call { phase := .polling })
      | .error message => some (s.setCall call { phase := .failed (.configuration message) })
    else none
  | .send call now =>
    if (s.calls call).phase = .polling then
      some (s.setCall call { s.calls call with phase := .awaiting, inFlight := some now })
    else none
  | .run call => (s.calls call).inFlight.map fun now => s.runAcquire cfg requests call now
  | .drop call => some (s.setCall call { s.calls call with inFlight := none })
  | .fail call =>
    match (s.calls call).phase with
    | .polling => some (s.setCall call { s.calls call with phase := .failed .aborted })
    | .awaiting => some (s.setCall call { s.calls call with phase := .failed .unavailable })
    | .idle | .leased | .lost | .released | .failed _ => none
  | .removeWaiter call =>
    match (s.calls call).phase with
    | .failed _ =>
      if (s.calls call).waiterRegistered then
        some { s with store := s.store.removeWaiter (requests call).providerId call }
      else none
    | .idle | .polling | .awaiting | .leased | .lost | .released => none
  | .renew call now =>
    match (s.calls call).phase with
    | .leased | .lost | .released => some (s.runRenew cfg requests call now)
    | .idle | .polling | .awaiting | .failed _ => none
  | .release call =>
    match (s.calls call).phase with
    | .leased | .lost => some (s.setCall call { s.calls call with phase := .released })
    | .idle | .polling | .awaiting | .released | .failed _ => none
  | .releaseLease call =>
    if (s.calls call).phase = .released then
      some
        { s with
          store := (releaseScript s.store (requests call).providerId call).1
          leases := s.leases.hdel call }
    else none
  | .snapshot providerId now =>
    some { s with store := (snapshotScript s.store providerId now).1 }

end CapacitySystem

/-- The coordinator with any calls: an event and the time of the store, which does not go
back. -/
def capacitySystem : Machine CapacitySystem (CapacityEvent × Nat) where
  init s := s = {}
  step s i :=
    if s.clock ≤ i.2 then ({ s with clock := i.2 } : CapacitySystem).event cfg requests i.1
    else none

/-- The time that a command carries is not ahead of the clock of the store. -/
def Punctual (s : CapacitySystem) : CapacityEvent × Nat → Prop
  | (.run call, time) => ∀ now, (s.calls call).inFlight = some now → now ≤ time
  | (.renew _ now, time) | (.snapshot _ now, time) => now ≤ time
  | (.start _, _) | (.send _ _, _) | (.drop _, _) | (.fail _, _) | (.removeWaiter _, _)
  | (.release _, _) | (.releaseLease _, _) => True

variable {cfg : CapacitySettings} {requests : CallId → AcquireRequest} {s t : CapacitySystem}
  {e : CapacityEvent} {call : CallId} {now : Nat}

/-! ## 2. Effects -/

/-- Only a call that waits for a reply, or that gave up on it, has a command in flight. -/
def Call.Sane (call : Call) : Prop :=
  call.inFlight ≠ none → call.phase = .awaiting ∨ ∃ error, call.phase = .failed error

/-- The call runs no acquire script any more. -/
def Call.Over (call : Call) : Prop :=
  call.inFlight = none ∧ call.phase ≠ .idle ∧ call.phase ≠ .polling ∧ call.phase ≠ .awaiting

/-- What one event does: the call goes on by itself, or a script runs. `punctual` says that
the time the script was sent with is not ahead of the clock of the store. -/
inductive Effect (cfg : CapacitySettings) (requests : CallId → AcquireRequest) (punctual : Prop)
    (s : CapacitySystem) : CapacitySystem → Prop
  | goes (call : CallId) {state : Call} :
      ((s.calls call).Sane → state.Sane) → ((s.calls call).Over → state.Over) →
      Effect cfg requests punctual s (s.setCall call state)
  | run {call : CallId} {now : Nat} :
      (s.calls call).inFlight = some now → (punctual → now ≤ s.clock) →
      Effect cfg requests punctual s (s.runAcquire cfg requests call now)
  | removeWaiter (call : CallId) :
      Effect cfg requests punctual s
        { s with store := s.store.removeWaiter (requests call).providerId call }
  | renew (call : CallId) (now : Nat) :
      Effect cfg requests punctual s (s.runRenew cfg requests call now)
  | release (call : CallId) :
      Effect cfg requests punctual s
        { s with
          store := (releaseScript s.store (requests call).providerId call).1
          leases := s.leases.hdel call }
  | snapshot (providerId : Option ProviderId) {now : Nat} :
      (punctual → now ≤ s.clock) →
      Effect cfg requests punctual s
        { s with store := (snapshotScript s.store providerId now).1 }

theorem event_effect (h : s.event cfg requests e = some t) :
    Effect cfg requests (Punctual s (e, s.clock)) s t := by
  cases e with
  | start call =>
    simp only [CapacitySystem.event, Option.ite_none_right_eq_some] at h
    obtain ⟨hidle, h⟩ := h
    split at h <;> cases h
    · exact .goes call (by simp [Call.Sane]) fun hover => absurd hidle hover.2.1
    · exact .goes call (by simp [Call.Sane]) (by simp [Call.Over])
  | send call now =>
    simp only [CapacitySystem.event, Option.ite_none_right_eq_some, Option.some.injEq] at h
    obtain ⟨hpolling, rfl⟩ := h
    exact .goes call (by simp [Call.Sane]) fun hover => absurd hpolling hover.2.2.1
  | run call =>
    simp only [CapacitySystem.event, Option.map_eq_some_iff] at h
    obtain ⟨now, hnow, rfl⟩ := h
    exact .run hnow fun hpunctual => hpunctual now hnow
  | drop call =>
    cases h
    exact .goes call (by simp [Call.Sane]) fun hover => ⟨rfl, hover.2⟩
  | fail call =>
    simp only [CapacitySystem.event] at h
    split at h <;> cases h
    · next hphase => exact .goes call (by simp [Call.Sane]) fun hover => absurd hphase hover.2.2.1
    · next hphase => exact .goes call (by simp [Call.Sane]) fun hover => absurd hphase hover.2.2.2
  | removeWaiter call =>
    simp only [CapacitySystem.event] at h
    split at h <;> try cases h
    simp only [Option.ite_none_right_eq_some, Option.some.injEq] at h
    obtain ⟨-, rfl⟩ := h
    exact .removeWaiter call
  | renew call now =>
    simp only [CapacitySystem.event] at h
    split at h <;> cases h <;> exact .renew call now
  | release call =>
    simp only [CapacitySystem.event] at h
    split at h <;> cases h
    all_goals
      refine .goes call (fun hsane hflight => ?_) fun hover => ⟨hover.1, by simp⟩
      have hphase := hsane hflight
      simp_all
  | releaseLease call =>
    simp only [CapacitySystem.event, Option.ite_none_right_eq_some, Option.some.injEq] at h
    obtain ⟨-, rfl⟩ := h
    exact .release call
  | snapshot providerId now =>
    cases h
    exact .snapshot providerId id

/-- A step moves the clock on and then has an effect. -/
theorem step_effect {i : CapacityEvent × Nat}
    (h : (capacitySystem cfg requests).step s i = some t) :
    s.clock ≤ i.2 ∧ Effect cfg requests (Punctual s i) { s with clock := i.2 } t := by
  simp only [capacitySystem, Option.ite_none_right_eq_some] at h
  exact ⟨h.1, event_effect h.2⟩

/-- What a run of the acquire script does: it grants the lease and counts the request, or it
changes no lease that has not expired, and no counter. -/
inductive RunEffect (cfg : CapacitySettings) (requests : CallId → AcquireRequest)
    (s : CapacitySystem) (call : CallId) (now : Nat) : CapacitySystem → Prop
  | granted {rate : Keyspace ProviderId Nat} {expiresAt : Nat} :
      cfg.rateLimit (requests call).providerId = none ∧ rate = s.store.rate ∨
        (∃ limit, cfg.rateLimit (requests call).providerId = some limit ∧
          countRequest limit s.store.rate s.clock (requests call).providerId = .ok rate) →
      RunEffect cfg requests s call now
        { s with
          store := (({ s.store.purge (requests call).providerId now with rate := rate } :
            CapacityStore).putLease (requests call).providerId call expiresAt).removeWaiter
              (requests call).providerId call
          calls := Function.update s.calls call ((s.calls call).resume (.acquired expiresAt))
          leases := s.leases.hset call ⟨(requests call).providerId, expiresAt⟩
          acquired := ⟨call, (requests call).providerId, s.clock⟩ :: s.acquired
          windows :=
            if (cfg.rateLimit (requests call).providerId).isSome ∧
                windowOver s.store.rate s.clock (requests call).providerId then
              Function.update s.windows (requests call).providerId
                (s.clock :: s.windows (requests call).providerId)
            else s.windows }
  | refused {store : CapacityStore} {reply : AcquireReply} :
      store.active = (s.store.purge (requests call).providerId now).active →
      store.activeOf = (s.store.purge (requests call).providerId now).activeOf →
      store.rate = s.store.rate →
      RunEffect cfg requests s call now
        { s with
          store := store, calls := Function.update s.calls call ((s.calls call).resume reply) }

theorem run_effect (cfg : CapacitySettings) (requests : CallId → AcquireRequest)
    (s : CapacitySystem) (call : CallId) (now : Nat) :
    RunEffect cfg requests s call now (s.runAcquire cfg requests call now) := by
  have hcases := acquire_cases cfg s.store (requests call).providerId call now
    ((requests call).safeLeaseTtlMs cfg) s.clock
  unfold CapacitySystem.runAcquire
  dsimp only
  generalize acquireScript cfg s.store (requests call).providerId call now
    ((requests call).safeLeaseTtlMs cfg) s.clock = result at hcases ⊢
  obtain ⟨store, reply⟩ := result
  dsimp only at hcases ⊢
  cases hcases with
  | granted hcount => exact .granted hcount
  | refused hreply hactive hactiveOf hrate =>
    cases reply with
    | acquired expiresAt => exact absurd rfl (hreply expiresAt)
    | rateLimited _ | queueFull | waiting => exact .refused hactive hactiveOf hrate

theorem runAcquire_store (s : CapacitySystem) (call : CallId) (now : Nat) :
    (s.runAcquire cfg requests call now).store = (acquireScript cfg s.store
      (requests call).providerId call now ((requests call).safeLeaseTtlMs cfg) s.clock).1 := by
  unfold CapacitySystem.runAcquire
  dsimp only
  split <;> rfl

theorem runRenew_store (s : CapacitySystem) (call : CallId) (now : Nat) :
    (s.runRenew cfg requests call now).store = (renewScript s.store
      (requests call).providerId call now ((requests call).safeLeaseTtlMs cfg)).1 := by
  unfold CapacitySystem.runRenew
  dsimp only
  split <;> rfl

/-- Every effect keeps the limits of the store. -/
theorem Effect.capped {punctual : Prop} (h : Effect cfg requests punctual s t)
    (hs : Capped cfg (fun call => (requests call).providerId) s.store) :
    Capped cfg (fun call => (requests call).providerId) t.store := by
  cases h with
  | goes call => exact hs
  | run =>
    rw [runAcquire_store]
    exact hs.acquire rfl
  | removeWaiter call => exact hs.removeWaiter _ _
  | renew call now =>
    rw [runRenew_store]
    exact hs.renew
  | release call => exact hs.release
  | snapshot providerId => exact hs.snapshot providerId

/-! ## 3. Calls -/

/-- Every call is sane, one that was granted a lease is over, and none was granted two. -/
structure CallsOrdered (s : CapacitySystem) : Prop where
  sane : ∀ call, (s.calls call).Sane
  ended : ∀ grant ∈ s.acquired, (s.calls grant.call).Over
  once : (s.acquired.map Acquisition.call).Nodup

/-- With a reply a call that may have one runs no more, unless it waits or polls again. -/
theorem Call.resume_sane (call : Call) (reply : AcquireReply) : (call.resume reply).Sane := by
  unfold Call.resume
  dsimp only
  split
  · cases reply <;> simp [Call.Sane]
  · simp [Call.Sane]

theorem Call.resume_acquired {call : Call} {expiresAt : Nat} (hsane : call.Sane)
    (hflight : call.inFlight ≠ none) : (call.resume (.acquired expiresAt)).Over := by
  unfold Call.resume
  dsimp only
  split
  · simp [Call.Over]
  · next hphase =>
    rcases hsane hflight with hawaiting | ⟨error, hfailed⟩
    · exact absurd hawaiting hphase
    · simp [Call.Over, hfailed]

theorem CallsOrdered.store (hs : CallsOrdered s) (store : CapacityStore) :
    CallsOrdered { s with store := store } := ⟨hs.sane, hs.ended, hs.once⟩

/-- A call that changes without running a script that grants it a lease. -/
theorem CallsOrdered.setCall (hs : CallsOrdered s) {state : Call} (hsane : state.Sane)
    (hover : (s.calls call).Over → state.Over) : CallsOrdered (s.setCall call state) := by
  refine ⟨fun other => ?_, fun grant hgrant => ?_, hs.once⟩
  · simp only [CapacitySystem.setCall, Function.update_apply]
    split
    · exact hsane
    · exact hs.sane other
  · have hbefore := hs.ended grant hgrant
    simp only [CapacitySystem.setCall, Function.update_apply]
    split
    · next hcall => exact hover (hcall ▸ hbefore)
    · exact hbefore

theorem Effect.calls {punctual : Prop} (h : Effect cfg requests punctual s t)
    (hs : CallsOrdered s) : CallsOrdered t := by
  cases h with
  | goes call hsane hover => exact hs.setCall (hsane (hs.sane call)) hover
  | removeWaiter call => exact hs.store _
  | release call => exact { hs with }
  | snapshot providerId => exact hs.store _
  | renew call now =>
    unfold CapacitySystem.runRenew
    dsimp only
    split
    · exact { hs with }
    refine (hs.store _).setCall ?_ fun hover => ?_
    · have hsane := hs.sane call
      split
      · next hleased => exact fun hflight => absurd (hsane hflight) (by simp [hleased])
      · exact hsane
    · split
      · exact ⟨hover.1, by simp⟩
      · exact hover
  | @run call now hflight =>
    have hrunning : (s.calls call).inFlight ≠ none := by simp [hflight]
    -- A call that is over has nothing in flight.
    have hnew : ∀ grant ∈ s.acquired, grant.call ≠ call := fun grant hgrant hsame =>
      hrunning (hsame ▸ (hs.ended grant hgrant).1)
    have heffect := run_effect cfg requests s call now
    generalize s.runAcquire cfg requests call now = t at heffect ⊢
    cases heffect with
    | @refused store reply =>
      exact (hs.store store).setCall (Call.resume_sane _ reply) fun hover => absurd hover.1 hrunning
    | @granted rate expiresAt hcount =>
      have hresumed : CallsOrdered (s.setCall call ((s.calls call).resume (.acquired expiresAt))) :=
        hs.setCall (Call.resume_sane _ _) fun hover => absurd hover.1 hrunning
      refine ⟨hresumed.sane, fun grant hgrant => ?_, ?_⟩
      · rcases List.mem_cons.mp hgrant with rfl | hgrant
        · dsimp only
          rw [Function.update_self]
          exact Call.resume_acquired (hs.sane call) hrunning
        · exact hresumed.ended grant hgrant
      · refine List.nodup_cons.mpr ⟨fun hmem => ?_, hs.once⟩
        obtain ⟨grant, hgrant, hsame⟩ := List.mem_map.mp hmem
        exact hnew grant hgrant hsame

/-! ## 4. Counters -/

/-- The times of the acquisitions of a provider, newest first. -/
def CapacitySystem.times (s : CapacitySystem) (p : ProviderId) : List Nat :=
  (s.acquired.filter fun grant => grant.providerId = p).map Acquisition.time

/-- The counter of every provider with a policy counts its acquisitions. -/
def RequestsCounted (cfg : CapacitySettings) (s : CapacitySystem) : Prop :=
  ∀ p limit, cfg.rateLimit p = some limit →
    WindowCounted limit.windowMs limit.maxRequests (s.windows p) (s.times p)
      (Hash.hget s.store.rate p) s.clock

theorem RequestsCounted.run (hs : RequestsCounted cfg s) :
    RequestsCounted cfg (s.runAcquire cfg requests call now) := by
  have heffect := run_effect cfg requests s call now
  generalize s.runAcquire cfg requests call now = t at heffect ⊢
  intro p limit hlimit
  have hp := hs p limit hlimit
  cases heffect with
  | refused _ _ hrate =>
    dsimp only
    rw [hrate]
    exact hp
  | @granted rate expiresAt hcount =>
    by_cases hsame : p = (requests call).providerId
    · subst hsame
      rcases hcount with ⟨hnone, -⟩ | ⟨_, hlimit', hcount⟩
      · simp [hnone] at hlimit
      cases hlimit.symm.trans hlimit'
      have hcounted := countRequest_counted hcount hp (Nat.le_refl _)
      simp only [CapacitySystem.times, CapacityStore.putLease, CapacityStore.removeWaiter,
        hlimit, Option.isSome_some, true_and, decide_true, List.filter_cons_of_pos,
        List.map_cons] at hcounted ⊢
      by_cases hover : windowOver s.store.rate s.clock (requests call).providerId = true
      · rw [if_pos hover] at hcounted ⊢
        rw [Function.update_self]
        exact hcounted
      · rw [if_neg hover] at hcounted ⊢
        exact hcounted
    · have hkept : Hash.hget rate p = Hash.hget s.store.rate p := by
        rcases hcount with ⟨-, rfl⟩ | ⟨_, -, hcount⟩
        · rfl
        · exact countRequest_others hcount hsame
      have hother : ¬(requests call).providerId = p := fun heq => hsame heq.symm
      simp only [CapacitySystem.times, CapacityStore.putLease, CapacityStore.removeWaiter,
        hother, decide_false, Bool.false_eq_true, not_false_iff, List.filter_cons_of_neg]
      rw [hkept]
      split
      · rw [Function.update_of_ne hsame]
        exact hp
      · exact hp

/-- A renewal either fails, or prolongs a lease that is in both sets. -/
theorem runRenew_cases (cfg : CapacitySettings) (requests : CallId → AcquireRequest)
    (s : CapacitySystem) (call : CallId) (now : Nat) :
    (∃ state, s.runRenew cfg requests call now = s.setCall call state) ∨
    ∃ expiresAt, s.runRenew cfg requests call now =
      { s with
        store := s.store.putLease (requests call).providerId call expiresAt
        leases := s.leases.hset call ⟨(requests call).providerId, expiresAt⟩ } := by
  unfold CapacitySystem.runRenew
  dsimp only
  rcases renew_cases s.store (requests call).providerId call now
    ((requests call).safeLeaseTtlMs cfg) with heq | ⟨-, heq⟩
  · rw [heq]
    exact .inl ⟨_, rfl⟩
  · have httl := safeLeaseTtlMs_min cfg (requests call)
    rw [heq, if_pos (by dsimp only; omega)]
    exact .inr ⟨_, rfl⟩

theorem Effect.counted {punctual : Prop} (h : Effect cfg requests punctual s t)
    (hs : RequestsCounted cfg s) : RequestsCounted cfg t := by
  cases h with
  | goes call => exact hs
  | run => exact hs.run
  | removeWaiter call => exact hs
  | release call => exact hs
  | snapshot providerId => cases providerId <;> exact hs
  | renew call now =>
    rcases runRenew_cases cfg requests s call now with ⟨state, heq⟩ | ⟨expiresAt, heq⟩
    · rw [heq]
      exact hs
    · rw [heq]
      exact hs

/-! ## 5. Leases -/

/-- Every lease that was granted and has not expired is in both sets of the store, under
the provider of its call. -/
def Held (requests : CallId → AcquireRequest) (s : CapacitySystem) : Prop :=
  ∀ call lease, s.leases.hget call = some lease → s.clock < lease.expiresAt →
    lease.providerId = (requests call).providerId ∧
      Holds s.store (requests call).providerId call lease.expiresAt

/-- The lease of the call is granted or prolonged. -/
theorem Held.putLease (hs : Held requests s) (rate : Keyspace ProviderId Nat) (call : CallId)
    (expiresAt : Nat) :
    Held requests { s with
      store := ({ s.store with rate := rate } : CapacityStore).putLease (requests call).providerId
        call expiresAt
      leases := s.leases.hset call ⟨(requests call).providerId, expiresAt⟩ } := by
  intro other lease hlease hlive
  dsimp only at hlease hlive ⊢
  rw [Hash.hget_hset] at hlease
  split at hlease
  · next hsame =>
    subst hsame
    cases hlease
    exact ⟨rfl, holds_putLease _ _ _ _⟩
  · next hother =>
    obtain ⟨hprovider, hholds⟩ := hs other lease hlease hlive
    have hrated : Holds { s.store with rate := rate } (requests other).providerId other
      lease.expiresAt := hholds
    exact ⟨hprovider, hrated.putLease hother⟩

theorem Held.run (hs : Held requests s) (hnow : now ≤ s.clock) :
    Held requests (s.runAcquire cfg requests call now) := by
  have heffect := run_effect cfg requests s call now
  generalize s.runAcquire cfg requests call now = t at heffect ⊢
  -- What has not expired by the clock of the store survives the purge.
  have hpurged : Held requests { s with store := s.store.purge (requests call).providerId now } := by
    intro other lease hlease hlive
    obtain ⟨hprovider, hholds⟩ := hs other lease hlease hlive
    exact ⟨hprovider, hholds.purge (Nat.lt_of_le_of_lt hnow hlive)⟩
  cases heffect with
  | @granted rate expiresAt hcount => exact hpurged.putLease rate call expiresAt
  | refused hactive hactiveOf hrate =>
    intro other lease hlease hlive
    have hbefore := hpurged other lease hlease hlive
    simp only [Holds] at hbefore ⊢
    rw [hactive, hactiveOf]
    exact hbefore

theorem Effect.held {punctual : Prop} (h : Effect cfg requests punctual s t)
    (hs : Held requests s) (hpunctual : punctual) : Held requests t := by
  cases h with
  | goes call => exact hs
  | run hflight hnow => exact hs.run (hnow hpunctual)
  | removeWaiter call => exact hs
  | release call =>
    intro other lease hlease hlive
    simp only [Hash.hget_hdel, Option.ite_none_left_eq_some] at hlease
    obtain ⟨hprovider, hholds⟩ := hs other lease hlease.2 hlive
    exact ⟨hprovider, hholds.release hlease.1⟩
  | snapshot providerId hnow =>
    intro other lease hlease hlive
    obtain ⟨hprovider, hholds⟩ := hs other lease hlease hlive
    exact ⟨hprovider, hholds.snapshot (Nat.lt_of_le_of_lt (hnow hpunctual) hlive) providerId⟩
  | renew call now =>
    rcases runRenew_cases cfg requests s call now with ⟨state, heq⟩ | ⟨expiresAt, heq⟩
    · rw [heq]
      exact hs
    · rw [heq]
      exact hs.putLease s.store.rate call expiresAt

/-! ## 6. Bounds -/

/-- The call has been granted a lease of the provider that has neither expired nor been
released. -/
def CapacitySystem.Leased (s : CapacitySystem) (call : CallId) (p : ProviderId) : Prop :=
  ∃ lease, s.leases.hget call = some lease ∧ lease.providerId = p ∧ s.clock < lease.expiresAt

theorem reach_ordered (h : (capacitySystem cfg requests).Reach Machine.Anything s) :
    Capped cfg (fun call => (requests call).providerId) s.store ∧ CallsOrdered s ∧
      RequestsCounted cfg s := by
  refine h.invariant (P := fun s => Capped cfg (fun call => (requests call).providerId) s.store ∧
    CallsOrdered s ∧ RequestsCounted cfg s) ?_ ?_
  · rintro s rfl
    refine ⟨⟨Nat.zero_le _, fun _ => Nat.zero_le _, Nat.zero_le _, fun _ => Nat.zero_le _, ?_⟩,
      ⟨?_, ?_, ?_⟩, fun p limit _ => windowCounted_empty _ _ _⟩
    all_goals simp [Call.Sane]
  · rintro s i t ⟨hcapped, hcalls, hcounted⟩ - hstep
    obtain ⟨hclock, heffect⟩ := step_effect hstep
    have hwaited : RequestsCounted cfg { s with clock := i.2 } := fun p limit hlimit =>
      (hcounted p limit hlimit).wait hclock
    exact ⟨heffect.capped hcapped, heffect.calls { hcalls with }, heffect.counted hwaited⟩

theorem reach_held (h : (capacitySystem cfg requests).Reach Punctual s) : Held requests s := by
  refine h.invariant ?_ ?_
  · rintro s rfl call lease hlease
    simp at hlease
  · intro s i t hheld hpunctual hstep
    obtain ⟨hclock, heffect⟩ := step_effect hstep
    have hwaited : Held requests { s with clock := i.2 } := fun call lease hlease hlive =>
      hheld call lease hlease (Nat.lt_of_le_of_lt hclock hlive)
    exact heffect.held hwaited hpunctual

/-- In every run, whatever the interleaving and the clocks of the callers: the sets of
leases and of waiters, which hold everything that has not expired, are within their limits;
a renewal succeeds only for a lease in both sets; and of the acquisitions of a provider,
each of another call, every one is counted in one window of its policy, with at most
`maxRequests` of them in each window and as many in the running one as the counter says.
When no clock of a caller is ahead, the limits hold for the leases that callers were granted
as well. -/
theorem capacity_bounds (h : (capacitySystem cfg requests).Reach Machine.Anything s) :
    (s.store.active.zcard ≤ cfg.globalActiveLimit ∧
      ∀ p, (s.store.activeOf p).zcard ≤ cfg.perProviderActiveLimit) ∧
    (s.store.waiters.zcard ≤ cfg.globalQueuedLimit ∧
      ∀ p, (s.store.waitersOf p).zcard ≤ cfg.perProviderQueuedLimit) ∧
    (∀ p call now leaseTtlMs, (renewScript s.store p call now leaseTtlMs).2 ≠ 0 →
      call ∈ s.store.active ∧ call ∈ s.store.activeOf p) ∧
    ((s.acquired.map Acquisition.call).Nodup ∧
      ∀ p limit, cfg.rateLimit p = some limit →
        ((s.windows p).Pairwise fun newer older => older + limit.windowMs ≤ newer) ∧
        (∀ grant ∈ s.acquired, grant.providerId = p →
          ∃ w ∈ s.windows p, w ≤ grant.time ∧ grant.time < w + limit.windowMs) ∧
        (∀ w ∈ s.windows p, inWindow limit.windowMs (s.times p) w ≤ limit.maxRequests) ∧
        ∀ counter, Hash.hget s.store.rate p = some counter →
          ∃ w, (s.windows p).head? = some w ∧ counter.expiresAt = w + limit.windowMs ∧
            counter.value = inWindow limit.windowMs (s.times p) w) ∧
    ((capacitySystem cfg requests).Reach Punctual s →
      ∀ calls : List CallId, calls.Nodup →
        ((∀ call ∈ calls, ∃ p, s.Leased call p) → calls.length ≤ cfg.globalActiveLimit) ∧
        ∀ p, (∀ call ∈ calls, s.Leased call p) →
          calls.length ≤ cfg.perProviderActiveLimit) := by
  obtain ⟨hcapped, hcalls, hcounted⟩ := reach_ordered h
  refine ⟨⟨hcapped.active, hcapped.activeOf⟩, ⟨hcapped.waiters, hcapped.waitersOf⟩, ?_,
    ⟨hcalls.once, fun p limit hlimit => ?_⟩, fun hpunctual calls hnodup => ⟨?_, fun p => ?_⟩⟩
  · intro p call now leaseTtlMs hrenewed
    rcases renew_cases s.store p call now leaseTtlMs with heq | ⟨hmem, -⟩
    · simp [heq] at hrenewed
    · exact hmem
  · have hp := hcounted p limit hlimit
    refine ⟨hp.disjoint, fun grant hgrant hprovider => hp.covered grant.time ?_, hp.bounded, ?_⟩
    · exact List.mem_map_of_mem (List.mem_filter.mpr ⟨hgrant, by simp [hprovider]⟩)
    · intro counter hcounter
      obtain ⟨w, older, hwindows, hcurrent⟩ := hp.current counter hcounter
      exact ⟨w, by simp [hwindows], hcurrent.ends, hcurrent.counts⟩
  · intro hleased
    refine Nat.le_trans (Hash.length_le_hlen hnodup fun call hcall => ?_) hcapped.active
    obtain ⟨_, lease, hlease, -, hlive⟩ := hleased call hcall
    exact Hash.mem_of_hget (reach_held hpunctual call lease hlease hlive).2.1
  · intro hleased
    refine Nat.le_trans (Hash.length_le_hlen hnodup fun call hcall => ?_) (hcapped.activeOf p)
    obtain ⟨lease, hlease, rfl, hlive⟩ := hleased call hcall
    obtain ⟨hprovider, hholds⟩ := reach_held hpunctual call lease hlease hlive
    rw [hprovider]
    exact Hash.mem_of_hget hholds.2

/-- One lease at a time and two requests a second, of provider `a`: while the first call
holds the lease the second waits and the third finds the queue full; after the release the
second is granted the lease, and the fourth is refused until the window is over. -/
def boundedRun : List (CapacityEvent × Nat) :=
  [(.start 0, 10), (.send 0 10, 10), (.run 0, 10), (.start 1, 20), (.send 1 20, 20), (.run 1, 21),
    (.start 2, 22), (.send 2 22, 22), (.run 2, 23), (.renew 0 30, 30), (.release 0, 40),
    (.releaseLease 0, 41), (.send 1 50, 50), (.run 1, 51), (.release 1, 60), (.releaseLease 1, 60),
    (.start 3, 70), (.send 3 70, 70), (.run 3, 70), (.start 4, 1010), (.send 4 1010, 1010),
    (.run 4, 1011)]

def boundedSettings : CapacitySettings :=
  { globalActiveLimit := 1
    perProviderActiveLimit := 1
    globalQueuedLimit := 1
    perProviderQueuedLimit := 1
    accountRateLimits := Hash.hset ∅ "*" ⟨2, 1000, by decide, by decide⟩ }

theorem capacity_bounds_run : ∃ s,
    (capacitySystem boundedSettings fun _ => { providerId := "a" }).Reach Machine.Anything s ∧
      s.acquired.map Acquisition.time = [1011, 51, 10] ∧ s.windows "a" = [1011, 10] ∧
      (s.calls 2).phase = .failed .capacityExceeded ∧
      (s.calls 3).phase = .failed (.rateLimited 940) ∧
      s.store.active.zcard ≤ 1 ∧
      ∀ w ∈ s.windows "a", inWindow 1000 (s.times "a") w ≤ 2 := by
  have hrun : ((capacitySystem boundedSettings fun _ => { providerId := "a" }).exec
      Machine.Anything {} boundedRun).map (fun s => (s.acquired.map Acquisition.time,
        s.windows "a", (s.calls 2).phase, (s.calls 3).phase)) =
      some ([1011, 51, 10], [1011, 10], .failed .capacityExceeded,
        .failed (.rateLimited 940)) := by decide +kernel
  obtain ⟨s, hs, hlast⟩ := Machine.Reach.of_exec_map boundedRun rfl hrun
  simp only [Prod.mk.injEq] at hlast
  obtain ⟨htimes, hwindows, hsecond, hthird⟩ := hlast
  obtain ⟨⟨hactive, -⟩, -, -, ⟨-, hrate⟩, -⟩ := capacity_bounds hs
  have hpolicy : boundedSettings.rateLimit "a" = some ⟨2, 1000, by decide, by decide⟩ := by decide
  obtain ⟨-, -, hbounded, -⟩ := hrate "a" _ hpolicy
  exact ⟨s, hs, htimes, hwindows, hsecond, hthird, hactive, hbounded⟩

end SmartStay.Capacity
