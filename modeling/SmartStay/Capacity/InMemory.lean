import SmartStay.Lib.Hash
import SmartStay.Lib.Loop
import SmartStay.Lib.Run
import SmartStay.Lib.Text

/-!
# The capacity coordinator in memory

`server/providers/common/inMemoryProviderCapacityCoordinator.js` bounds the operations that
run at once, in all and for each provider. An operation that cannot start waits in one
queue for all providers.

1. The state of the module, permits and waiters.
2. Grants, releases and the drain loop.
3. `acquireProviderOperationCapacity`, and the machine of its events.
4. `Counted`: the counters, the order of the grants and of the queue.
5. The drain loop keeps `Counted` and leaves nobody waiting who could start.
6. `capacity_coordinated`.
-/

namespace SmartStay.Capacity.InMemory

/-! ## 1. State -/

abbrev ProviderId := String
abbrev SignalId := Nat

/-- The limits that the environment sets. -/
structure Limits where
  maxProviderConcurrentOperations : Nat := 8
  maxProviderConcurrentOperationsPerProvider : Nat := 8
  maxProviderQueuedOperations : Nat := 64
  maxProviderQueuedOperationsPerProvider : Nat := 32
deriving DecidableEq, Repr

/-- An entry of `providerOperationQueue`; `number` counts the calls in their order. -/
structure Waiter where
  number : Nat
  providerId : ProviderId
  methodName : String
  signal : SignalId
deriving DecidableEq, Repr

/-- A release that `createCapacityRelease` made for the call `number`. -/
structure Permit where
  number : Nat
  providerId : ProviderId
  released : Bool := false
deriving DecidableEq, Repr

/-- The variables of the module, the releases it handed out (the newest first) and the
signals that are aborted. Two ghosts: the number of calls so far, and the calls whose
release returned `true`. -/
structure Coordinator where
  activeProviderOperationCount : Nat := 0
  activeProviderOperationCounts : Hash ProviderId Nat := ∅
  providerOperationQueue : List Waiter := []
  permits : List Permit := []
  abortedSignals : List SignalId := []
  calls : Nat := 0
  returned : List Nat := []
deriving DecidableEq

/-! ## 2. Grants, releases and the drain loop -/

namespace Coordinator

/-- `getActiveProviderOperationCount`. -/
def getActiveProviderOperationCount (s : Coordinator) (providerId : ProviderId) : Nat :=
  (s.activeProviderOperationCounts.hget providerId).getD 0

/-- `canStartProviderOperation`. -/
def canStartProviderOperation (limits : Limits) (s : Coordinator) (providerId : ProviderId) : Bool :=
  decide (s.activeProviderOperationCount < limits.maxProviderConcurrentOperations) &&
    decide (s.getActiveProviderOperationCount providerId <
      limits.maxProviderConcurrentOperationsPerProvider)

/-- `grantProviderOperationCapacity`, and the branch of a call that can start at once. -/
def grant (s : Coordinator) (number : Nat) (providerId : ProviderId) : Coordinator :=
  { s with
    activeProviderOperationCount := s.activeProviderOperationCount + 1
    activeProviderOperationCounts := s.activeProviderOperationCounts.hset providerId
      (s.getActiveProviderOperationCount providerId + 1)
    permits := { number := number, providerId := providerId } :: s.permits }

/-- The condition of the loop of `drainProviderOperationQueue`. -/
def drains (limits : Limits) (s : Coordinator) : Bool :=
  decide (s.activeProviderOperationCount < limits.maxProviderConcurrentOperations) &&
    !s.providerOperationQueue.isEmpty

/-- One round of the loop: the first waiter that can start leaves the queue. -/
def drainRound (limits : Limits) (s : Coordinator) : Option Coordinator :=
  let starts := fun waiter : Waiter => s.canStartProviderOperation limits waiter.providerId
  (s.providerOperationQueue.find? starts).map fun waiter =>
    let s : Coordinator :=
      { s with providerOperationQueue := s.providerOperationQueue.eraseP starts }
    if waiter.signal ∈ s.abortedSignals then s else s.grant waiter.number waiter.providerId

/-- `drainProviderOperationQueue`. -/
def drainProviderOperationQueue (limits : Limits) (s : Coordinator) : Coordinator :=
  (whileLoop (drains limits) (drainRound limits) (s.providerOperationQueue.length + 1) s).getD s

/-- `released = true` in the closure of the call `number`. -/
def markReleased (number : Nat) (permit : Permit) : Permit :=
  if permit.number = number then { permit with released := true } else permit

/-- The release of the call `number`: `true` for the first time, `false` after that. -/
def release (limits : Limits) (s : Coordinator) (number : Nat) : Coordinator × Bool :=
  match s.permits.find? fun permit => permit.number == number && !permit.released with
  | none => (s, false)
  | some permit =>
    let providerCount := s.getActiveProviderOperationCount permit.providerId - 1
    let s : Coordinator :=
      { s with
        activeProviderOperationCount := s.activeProviderOperationCount - 1
        activeProviderOperationCounts :=
          if 0 < providerCount then
            s.activeProviderOperationCounts.hset permit.providerId providerCount
          else s.activeProviderOperationCounts.hdel permit.providerId
        permits := s.permits.map (markReleased number)
        returned := number :: s.returned }
    (s.drainProviderOperationQueue limits, true)

/-- The abort listener of the waiter `number`. -/
def abortListener (s : Coordinator) (number : Nat) : Coordinator :=
  { s with providerOperationQueue := s.providerOperationQueue.filter (·.number != number) }

end Coordinator

/-! ## 3. Calls -/

/-- The error of `createProviderOperationCapacityError`. -/
structure ProviderOperationCapacityError where
  message : String
  name : String := "ProviderOperationCapacityError"
  code : String := "PROVIDER_CAPACITY_EXCEEDED"
  status : Nat := 503
  providerId : ProviderId
  methodName : String
  retryable : Bool := true
  retryAfterMs : Nat := 250
deriving DecidableEq, Repr

def createProviderOperationCapacityError (providerId : ProviderId) (methodName : String) :
    ProviderOperationCapacityError :=
  { message := "Provider operation capacity is full for \"" ++ providerId ++ "\"."
    providerId := providerId
    methodName := methodName }

/-- How a call of `acquireProviderOperationCapacity` ends or waits. -/
inductive AcquireOutcome
  | invalid (message : String)
  | aborted
  | granted
  | rejected (error : ProviderOperationCapacityError)
  | queued
deriving DecidableEq, Repr

open Coordinator

/-- `acquireProviderOperationCapacity`. -/
def acquireProviderOperationCapacity (limits : Limits) (s : Coordinator) (providerId : String)
    (methodName : String) (signal : SignalId) : Coordinator × AcquireOutcome :=
  let normalizedProviderId := JsText.trim providerId
  let normalizedMethodName := JsText.trim methodName
  if normalizedProviderId = "" then (s, .invalid "A valid providerId is required.")
  else if normalizedMethodName = "" then
    (s, .invalid "A valid provider operation name is required.")
  else if signal ∈ s.abortedSignals then (s, .aborted)
  else
    let number := s.calls
    let s : Coordinator := { s with calls := s.calls + 1 }
    if s.canStartProviderOperation limits normalizedProviderId then
      (s.grant number normalizedProviderId, .granted)
    else
      let queuedForProvider :=
        (s.providerOperationQueue.filter (·.providerId == normalizedProviderId)).length
      if limits.maxProviderQueuedOperations ≤ s.providerOperationQueue.length ∨
          limits.maxProviderQueuedOperationsPerProvider ≤ queuedForProvider then
        (s, .rejected
          (createProviderOperationCapacityError normalizedProviderId normalizedMethodName))
      else
        let waiter : Waiter :=
          { number := number, providerId := normalizedProviderId
            methodName := normalizedMethodName, signal := signal }
        let s : Coordinator :=
          { s with providerOperationQueue := s.providerOperationQueue ++ [waiter] }
        (s.drainProviderOperationQueue limits, .queued)

/-- What happens to the coordinator. A signal is aborted first, and the listeners of its
waiters run one after the other, with anything in between. -/
inductive CapacityEvent
  | acquire (providerId methodName : String) (signal : SignalId)
  | release (number : Nat)
  | abort (signal : SignalId)
  | abortListener (number : Nat)
deriving DecidableEq

/-- The coordinator under any sequence of events. -/
def coordinator (limits : Limits) : Machine Coordinator CapacityEvent where
  init s := s = {}
  step s
    | .acquire providerId methodName signal =>
      some (acquireProviderOperationCapacity limits s providerId methodName signal).1
    | .release number => some (s.release limits number).1
    | .abort signal => some { s with abortedSignals := signal :: s.abortedSignals }
    | .abortListener number =>
      if s.providerOperationQueue.any fun waiter =>
          waiter.number == number && s.abortedSignals.contains waiter.signal then
        some (s.abortListener number)
      else none

/-! ## 4. The invariant -/

/-- The permits that were granted and not released, for the providers that `among` picks. -/
def Coordinator.unreleased (s : Coordinator) (among : ProviderId → Bool) : Nat :=
  s.permits.countP fun permit => !permit.released && among permit.providerId

/-- The counters count the permits that are out, within the limits; and for each provider
the calls were granted in the order of their numbers, those that wait coming after. -/
structure Counted (limits : Limits) (s : Coordinator) : Prop where
  total : s.activeProviderOperationCount = s.unreleased fun _ => true
  perProvider : ∀ p, s.getActiveProviderOperationCount p = s.unreleased (· == p)
  totalLimit : s.activeProviderOperationCount ≤ limits.maxProviderConcurrentOperations
  providerLimit : ∀ p, s.getActiveProviderOperationCount p ≤
    limits.maxProviderConcurrentOperationsPerProvider
  waiting : ∀ waiter ∈ s.providerOperationQueue, waiter.number < s.calls
  granted : ∀ permit ∈ s.permits, permit.number < s.calls
  queueOrder : s.providerOperationQueue.Pairwise (·.number < ·.number)
  numbers : (s.permits.map Permit.number).Nodup
  behind : ∀ waiter ∈ s.providerOperationQueue, ∀ permit ∈ s.permits,
    permit.number ≠ waiter.number ∧
      (permit.providerId = waiter.providerId → permit.number < waiter.number)
  grantOrder : s.permits.Pairwise fun newer older =>
    older.providerId = newer.providerId → older.number < newer.number
  returned : s.returned.Nodup ∧
    ∀ number ∈ s.returned, ∃ permit ∈ s.permits, permit.number = number ∧ permit.released = true

/-- Nobody waits who could start. -/
def Conserving (limits : Limits) (s : Coordinator) : Prop :=
  ∀ waiter ∈ s.providerOperationQueue,
    s.canStartProviderOperation limits waiter.providerId = false

variable {limits : Limits} {s t : Coordinator} {number : Nat} {providerId : ProviderId}

theorem canStart_iff : s.canStartProviderOperation limits providerId = true ↔
    s.activeProviderOperationCount < limits.maxProviderConcurrentOperations ∧
      s.getActiveProviderOperationCount providerId <
        limits.maxProviderConcurrentOperationsPerProvider := by
  simp [canStartProviderOperation]

theorem getActive_hset (counts : Hash ProviderId Nat) (n : Nat) (p : ProviderId) :
    ((counts.hset providerId n).hget p).getD 0 =
      if p = providerId then n else (counts.hget p).getD 0 := by
  rw [Hash.hget_hset]
  split <;> rfl

theorem getActive_grant (s : Coordinator) (number : Nat) (providerId p : ProviderId) :
    (s.grant number providerId).getActiveProviderOperationCount p =
      s.getActiveProviderOperationCount p + if providerId = p then 1 else 0 := by
  simp only [getActiveProviderOperationCount, grant, getActive_hset]
  by_cases hp : p = providerId
  · simp [hp]
  · simp [hp, Ne.symm hp]

theorem unreleased_grant (s : Coordinator) (number : Nat) (providerId : ProviderId)
    (among : ProviderId → Bool) :
    (s.grant number providerId).unreleased among =
      s.unreleased among + if among providerId then 1 else 0 := by
  simp [Coordinator.unreleased, grant, List.countP_cons]

/-- A grant to a call that is next for its provider. -/
theorem Counted.grant (h : Counted limits s)
    (hstart : s.canStartProviderOperation limits providerId = true) (hnumber : number < s.calls)
    (hpermits : ∀ permit ∈ s.permits, permit.number ≠ number ∧
      (permit.providerId = providerId → permit.number < number))
    (hqueue : ∀ waiter ∈ s.providerOperationQueue, number ≠ waiter.number ∧
      (providerId = waiter.providerId → number < waiter.number)) :
    Counted limits (s.grant number providerId) := by
  obtain ⟨htotal, hprovider⟩ := canStart_iff.mp hstart
  refine
    { total := ?_, perProvider := ?_, totalLimit := htotal, providerLimit := ?_
      waiting := h.waiting, granted := ?_, queueOrder := h.queueOrder, numbers := ?_
      behind := ?_, grantOrder := ?_, returned := ?_ }
  · rw [unreleased_grant, ← h.total]
    rfl
  · intro p
    rw [getActive_grant, unreleased_grant, h.perProvider]
    simp
  · intro p
    rw [getActive_grant]
    split
    · next hp =>
      subst hp
      exact hprovider
    · exact h.providerLimit p
  · intro permit hpermit
    rcases List.mem_cons.mp hpermit with rfl | hpermit
    · exact hnumber
    · exact h.granted permit hpermit
  · change (number :: s.permits.map Permit.number).Nodup
    refine List.nodup_cons.mpr ⟨fun hmem => ?_, h.numbers⟩
    obtain ⟨permit, hpermit, hsame⟩ := List.mem_map.mp hmem
    exact (hpermits permit hpermit).1 hsame
  · intro waiter hwaiter permit hpermit
    rcases List.mem_cons.mp hpermit with rfl | hpermit
    · exact hqueue waiter hwaiter
    · exact h.behind waiter hwaiter permit hpermit
  · refine List.pairwise_cons.mpr ⟨fun permit hpermit => ?_, h.grantOrder⟩
    exact (hpermits permit hpermit).2
  · refine ⟨h.returned.1, fun n hn => ?_⟩
    obtain ⟨permit, hpermit, hreleased⟩ := h.returned.2 n hn
    exact ⟨permit, List.mem_cons_of_mem _ hpermit, hreleased⟩

/-- Waiters leave the queue. -/
theorem Counted.leave (h : Counted limits s) {queue : List Waiter}
    (hsub : queue.Sublist s.providerOperationQueue) :
    Counted limits { s with providerOperationQueue := queue } :=
  { total := h.total, perProvider := h.perProvider, totalLimit := h.totalLimit
    providerLimit := h.providerLimit
    waiting := fun waiter hwaiter => h.waiting waiter (hsub.subset hwaiter)
    granted := h.granted
    queueOrder := h.queueOrder.sublist hsub
    numbers := h.numbers
    behind := fun waiter hwaiter => h.behind waiter (hsub.subset hwaiter)
    grantOrder := h.grantOrder
    returned := h.returned }

/-! ## 5. The drain loop -/

/-- A round takes the first waiter that can start out of the queue. -/
theorem drainRound_cases (hround : s.drainRound limits = some t) :
    ∃ before waiter after, s.providerOperationQueue = before ++ waiter :: after ∧
      (∀ earlier ∈ before, s.canStartProviderOperation limits earlier.providerId = false) ∧
      s.canStartProviderOperation limits waiter.providerId = true ∧
      (t = { s with providerOperationQueue := before ++ after } ∨
        t = ({ s with providerOperationQueue := before ++ after } : Coordinator).grant
          waiter.number waiter.providerId) := by
  obtain ⟨waiter, hfound, rfl⟩ := Option.map_eq_some_iff.mp hround
  obtain ⟨hstart, before, after, hqueue, hbefore⟩ := List.find?_eq_some_iff_append.mp hfound
  have herase : s.providerOperationQueue.eraseP
      (fun waiter => s.canStartProviderOperation limits waiter.providerId) = before ++ after := by
    rw [hqueue, List.eraseP_append_right _ (by simpa using hbefore)]
    exact congrArg (before ++ ·) (List.eraseP_cons_of_pos hstart)
  refine ⟨before, waiter, after, hqueue, by simpa using hbefore, hstart, ?_⟩
  dsimp only
  rw [herase]
  split
  · exact .inl rfl
  · exact .inr rfl

theorem Counted.drainRound (h : Counted limits s) (hround : s.drainRound limits = some t) :
    Counted limits t := by
  obtain ⟨before, waiter, after, hqueue, hbefore, hstart, ht⟩ := drainRound_cases hround
  have hmem : waiter ∈ s.providerOperationQueue := by simp [hqueue]
  have hleft : Counted limits { s with providerOperationQueue := before ++ after } := by
    refine h.leave ?_
    rw [hqueue]
    exact (List.sublist_cons_self waiter after).append_left before
  rcases ht with rfl | rfl
  · exact hleft
  · have horder := h.queueOrder
    rw [hqueue, List.pairwise_append, List.pairwise_cons] at horder
    obtain ⟨-, ⟨hafter, -⟩, hacross⟩ := horder
    refine hleft.grant hstart (h.waiting waiter hmem) (h.behind waiter hmem) fun other hother => ?_
    rcases List.mem_append.mp hother with hother | hother
    · -- Whoever comes earlier is with another provider, or could have started.
      have hlt := hacross other hother waiter List.mem_cons_self
      refine ⟨by omega, fun hsame => ?_⟩
      rw [hsame, hbefore other hother] at hstart
      cases hstart
    · have hlt := hafter other hother
      exact ⟨by omega, fun _ => hlt⟩

theorem drain_ends (s : Coordinator) :
    whileLoop (drains limits) (drainRound limits) (s.providerOperationQueue.length + 1) s ≠
      .running := by
  refine whileLoop_ends (m := fun s => s.providerOperationQueue.length) (fun s t _ hround => ?_)
    (Nat.lt_succ_self _)
  obtain ⟨before, waiter, after, hqueue, -, -, ht⟩ := drainRound_cases hround
  rw [hqueue]
  rcases ht with rfl | rfl <;> simp [grant]

theorem Counted.drain (h : Counted limits s) :
    Counted limits (s.drainProviderOperationQueue limits) :=
  (whileLoop_all (fun _ _ hs hround => hs.drainRound hround) h _).getD (drain_ends s)

/-- After the loop nobody waits who could start. -/
theorem drain_conserving (s : Coordinator) :
    Conserving limits (s.drainProviderOperationQueue limits) := by
  have hexit : (s.drainProviderOperationQueue limits).drainRound limits = none ∨
      (s.drainProviderOperationQueue limits).drains limits = false :=
    (whileLoop_exit (drains limits) (drainRound limits) _ s).getD (drain_ends s)
  generalize s.drainProviderOperationQueue limits = s' at hexit
  intro waiter hwaiter
  rcases hexit with hnone | hdone
  · have hfound := Option.map_eq_none_iff.mp hnone
    simpa using List.find?_eq_none.mp hfound waiter hwaiter
  · have hbusy : ¬ s'.activeProviderOperationCount < limits.maxProviderConcurrentOperations := by
      intro hfree
      have hqueue : s'.providerOperationQueue ≠ [] := List.ne_nil_of_mem hwaiter
      simp [drains, hfree, hqueue] at hdone
    rw [← Bool.not_eq_true, canStart_iff]
    exact fun h => hbusy h.1

/-! ## 6. Events -/

/-- The permits that are out after a release: one less for its provider. -/
theorem countP_markReleased {permits : List Permit} {permit : Permit}
    (hnumbers : (permits.map Permit.number).Nodup) (hmem : permit ∈ permits)
    (hlive : permit.released = false) (among : ProviderId → Bool) :
    (permits.map (markReleased permit.number)).countP (fun p => !p.released && among p.providerId) +
        (if among permit.providerId then 1 else 0) =
      permits.countP fun p => !p.released && among p.providerId := by
  induction permits with
  | nil => cases hmem
  | cons p permits ih =>
    rw [List.map_cons, List.nodup_cons] at hnumbers
    rw [List.map_cons, List.countP_cons, List.countP_cons]
    by_cases hp : p.number = permit.number
    · -- The other permits have other numbers.
      have hsame : p = permit := by
        rcases List.mem_cons.mp hmem with rfl | hmem
        · rfl
        · exact absurd (hp ▸ List.mem_map_of_mem hmem) hnumbers.1
      have hrest : permits.map (markReleased permit.number) = permits := by
        refine (List.map_congr_left fun p' hp' => ?_).trans (List.map_id _)
        refine if_neg fun hnumber => hnumbers.1 ?_
        rw [hp, ← hnumber]
        exact List.mem_map_of_mem hp'
      subst hsame
      rw [hrest, markReleased, if_pos rfl]
      simp [hlive]
    · have hother : permit ∈ permits := by
        rcases List.mem_cons.mp hmem with rfl | hmem
        · exact absurd rfl hp
        · exact hmem
      have hrest := ih hnumbers.2 hother
      rw [markReleased, if_neg hp]
      omega

theorem markReleased_number (number : Nat) (permit : Permit) :
    (markReleased number permit).number = permit.number ∧
      (markReleased number permit).providerId = permit.providerId := by
  unfold markReleased
  split <;> exact ⟨rfl, rfl⟩

/-- The counts after a release, which leaves `n` permits of its provider. -/
theorem getActive_release (counts : Hash ProviderId Nat) {n : Nat}
    (hn : n = (counts.hget providerId).getD 0 - 1) (p : ProviderId) :
    ((if 0 < n then counts.hset providerId n else counts.hdel providerId).hget p).getD 0 =
      (counts.hget p).getD 0 - if providerId = p then 1 else 0 := by
  by_cases hp : p = providerId
  · subst hp
    split
    · simpa using hn
    · next hzero =>
      rw [Hash.hget_hdel_self, if_pos rfl, ← hn]
      exact (Nat.eq_zero_of_not_pos hzero).symm
  · rw [if_neg (Ne.symm hp)]
    split
    · rw [getActive_hset, if_neg hp, Nat.sub_zero]
    · rw [Hash.hget_hdel, if_neg hp, Nat.sub_zero]

theorem Counted.release (h : Counted limits s) (number : Nat) :
    Counted limits (s.release limits number).1 := by
  unfold Coordinator.release
  split
  · exact h
  next permit hfound =>
  have hmem := List.mem_of_find?_eq_some hfound
  obtain ⟨hnumber, hlive⟩ : permit.number = number ∧ permit.released = false := by
    simpa using List.find?_some hfound
  subst hnumber
  have hcount := countP_markReleased h.numbers hmem hlive
  have hsame : ∀ p ∈ s.permits.map (markReleased permit.number), ∃ p' ∈ s.permits,
      p.number = p'.number ∧ p.providerId = p'.providerId := by
    intro p hp
    obtain ⟨p', hp', rfl⟩ := List.mem_map.mp hp
    exact ⟨p', hp', markReleased_number _ _⟩
  refine Counted.drain
    { total := ?_, perProvider := ?_, totalLimit := ?_, providerLimit := ?_, waiting := h.waiting
      granted := ?_, queueOrder := h.queueOrder, numbers := ?_, behind := ?_, grantOrder := ?_
      returned := ⟨?_, ?_⟩ }
  · have hout := hcount fun _ => true
    have htotal := h.total
    simp only [Coordinator.unreleased] at htotal ⊢
    simp only [if_true] at hout
    omega
  · intro p
    have hout := hcount (· == p)
    have hprovider := h.perProvider p
    refine (getActive_release s.activeProviderOperationCounts rfl p).trans ?_
    simp only [Coordinator.unreleased, beq_iff_eq, getActiveProviderOperationCount] at *
    omega
  · have hlimit := h.totalLimit
    dsimp only
    omega
  · intro p
    have hlimit := h.providerLimit p
    refine Nat.le_trans (Nat.le_of_eq (getActive_release s.activeProviderOperationCounts rfl p)) ?_
    exact Nat.le_trans (Nat.sub_le _ _) hlimit
  · intro p hp
    obtain ⟨p', hp', hn, -⟩ := hsame p hp
    rw [hn]
    exact h.granted p' hp'
  · have hnumbers : (s.permits.map (markReleased permit.number)).map Permit.number =
        s.permits.map Permit.number := by
      rw [List.map_map]
      exact List.map_congr_left fun p _ => (markReleased_number _ p).1
    rw [hnumbers]
    exact h.numbers
  · intro waiter hwaiter p hp
    obtain ⟨p', hp', hn, hid⟩ := hsame p hp
    rw [hn, hid]
    exact h.behind waiter hwaiter p' hp'
  · refine List.pairwise_map.mpr (h.grantOrder.imp fun {p p'} hlt => ?_)
    rw [(markReleased_number _ p).1, (markReleased_number _ p).2, (markReleased_number _ p').1,
      (markReleased_number _ p').2]
    exact hlt
  · refine List.nodup_cons.mpr ⟨fun hreturned => ?_, h.returned.1⟩
    -- A call that returned its permit does not hold it.
    obtain ⟨p, hp, hn, hreleased⟩ := h.returned.2 _ hreturned
    rw [List.inj_on_of_nodup_map h.numbers hp hmem hn, hlive] at hreleased
    cases hreleased
  · intro n hn
    rcases List.mem_cons.mp hn with rfl | hn
    · refine ⟨_, List.mem_map_of_mem hmem, ?_⟩
      simp [markReleased]
    · obtain ⟨p, hp, rfl, hreleased⟩ := h.returned.2 n hn
      refine ⟨_, List.mem_map_of_mem hp, (markReleased_number _ p).1, ?_⟩
      unfold markReleased
      split
      · rfl
      · exact hreleased

/-- A call takes the next number. -/
theorem Counted.call (h : Counted limits s) : Counted limits { s with calls := s.calls + 1 } :=
  { total := h.total, perProvider := h.perProvider, totalLimit := h.totalLimit
    providerLimit := h.providerLimit
    waiting := fun waiter hwaiter => Nat.lt_succ_of_lt (h.waiting waiter hwaiter)
    granted := fun permit hpermit => Nat.lt_succ_of_lt (h.granted permit hpermit)
    queueOrder := h.queueOrder, numbers := h.numbers, behind := h.behind
    grantOrder := h.grantOrder, returned := h.returned }

/-- The call joins the queue at its end. -/
theorem Counted.join (h : Counted limits s) {waiter : Waiter} (hnumber : waiter.number = s.calls) :
    Counted limits
      { s with
        calls := s.calls + 1
        providerOperationQueue := s.providerOperationQueue ++ [waiter] } := by
  have hcall := h.call
  refine
    { total := h.total, perProvider := h.perProvider, totalLimit := h.totalLimit
      providerLimit := h.providerLimit, waiting := ?_, granted := hcall.granted, queueOrder := ?_
      numbers := h.numbers, behind := ?_, grantOrder := h.grantOrder, returned := h.returned }
  · intro other hother
    rcases List.mem_append.mp hother with hother | hother
    · exact hcall.waiting other hother
    · rw [List.mem_singleton.mp hother, hnumber]
      exact Nat.lt_succ_self _
  · refine List.pairwise_append.mpr ⟨h.queueOrder, List.pairwise_singleton _ _, ?_⟩
    intro other hother last hlast
    rw [List.mem_singleton.mp hlast, hnumber]
    exact h.waiting other hother
  · intro other hother permit hpermit
    rcases List.mem_append.mp hother with hother | hother
    · exact h.behind other hother permit hpermit
    · have hlt := h.granted permit hpermit
      rw [List.mem_singleton.mp hother, hnumber]
      exact ⟨by omega, fun _ => hlt⟩

theorem canStart_of_grant {p : ProviderId}
    (h : (s.grant number providerId).canStartProviderOperation limits p = true) :
    s.canStartProviderOperation limits p = true := by
  rw [canStart_iff, getActive_grant] at h
  rw [canStart_iff]
  have htotal : (s.grant number providerId).activeProviderOperationCount =
      s.activeProviderOperationCount + 1 := rfl
  omega

theorem acquire_keeps (h : Counted limits s) (hconserving : Conserving limits s)
    (provider methodName : String) (signal : SignalId) :
    let s' := (acquireProviderOperationCapacity limits s provider methodName signal).1
    Counted limits s' ∧ Conserving limits s' := by
  unfold acquireProviderOperationCapacity
  dsimp only
  split
  · exact ⟨h, hconserving⟩
  split
  · exact ⟨h, hconserving⟩
  split
  · exact ⟨h, hconserving⟩
  split
  · next hstart =>
    refine ⟨h.call.grant hstart (Nat.lt_succ_self _) (fun permit hpermit => ?_)
      (fun waiter hwaiter => ?_), fun waiter hwaiter => ?_⟩
    · have hlt := h.granted permit hpermit
      exact ⟨Nat.ne_of_lt hlt, fun _ => hlt⟩
    · have hlt := h.waiting waiter hwaiter
      refine ⟨Nat.ne_of_gt hlt, fun hsame => ?_⟩
      -- Nobody of this provider waits, because it could start.
      have hwaits := hconserving waiter hwaiter
      rw [← hsame] at hwaits
      exact Bool.noConfusion (hwaits.symm.trans hstart)
    · rw [← Bool.not_eq_true]
      intro hfree
      have hbefore := canStart_of_grant hfree
      have hwaits := hconserving waiter hwaiter
      exact Bool.noConfusion (hwaits.symm.trans hbefore)
  split
  · exact ⟨h.call, hconserving⟩
  · exact ⟨(h.join rfl).drain, drain_conserving _⟩

theorem step_keeps {event : CapacityEvent} (h : Counted limits s)
    (hconserving : Conserving limits s) (hstep : (coordinator limits).step s event = some t) :
    Counted limits t ∧ Conserving limits t := by
  cases event with
  | acquire provider methodName signal =>
    cases hstep
    exact acquire_keeps h hconserving provider methodName signal
  | release number =>
    cases hstep
    refine ⟨h.release number, ?_⟩
    unfold Coordinator.release
    split
    · exact hconserving
    · exact drain_conserving _
  | abort signal =>
    cases hstep
    exact ⟨{ h with }, hconserving⟩
  | abortListener number =>
    simp only [coordinator, Option.ite_none_right_eq_some, Option.some.injEq] at hstep
    obtain ⟨-, rfl⟩ := hstep
    exact ⟨h.leave List.filter_sublist,
      fun waiter hwaiter => hconserving waiter (List.mem_filter.mp hwaiter).1⟩

/-- In every run: the counters are the numbers of permits that are out and stay within the
limits; no permit is given back twice; the calls of a provider are granted in the order of
their numbers, and those that wait come after them in that order; and whoever waits does so
because its limit or the limit of all is reached. -/
theorem capacity_coordinated (h : (coordinator limits).Reach Machine.Anything s) :
    (s.activeProviderOperationCount = (s.permits.filter (!·.released)).length ∧
      s.activeProviderOperationCount ≤ limits.maxProviderConcurrentOperations) ∧
    (∀ providerId, s.getActiveProviderOperationCount providerId =
        (s.permits.filter fun permit => !permit.released && permit.providerId == providerId).length ∧
      s.getActiveProviderOperationCount providerId ≤
        limits.maxProviderConcurrentOperationsPerProvider) ∧
    s.returned.Nodup ∧
    (s.permits.Pairwise fun newer older =>
      older.providerId = newer.providerId → older.number < newer.number) ∧
    (s.providerOperationQueue.Pairwise (·.number < ·.number) ∧
      ∀ waiter ∈ s.providerOperationQueue, ∀ permit ∈ s.permits,
        permit.providerId = waiter.providerId → permit.number < waiter.number) ∧
    (∀ waiter ∈ s.providerOperationQueue,
      s.activeProviderOperationCount = limits.maxProviderConcurrentOperations ∨
        s.getActiveProviderOperationCount waiter.providerId =
          limits.maxProviderConcurrentOperationsPerProvider) := by
  have hs : Counted limits s ∧ Conserving limits s := by
    refine h.invariant (P := fun s => Counted limits s ∧ Conserving limits s) ?_ ?_
    · rintro s rfl
      refine ⟨⟨rfl, fun _ => rfl, Nat.zero_le _, fun _ => Nat.zero_le _, ?_, ?_, ?_, ?_, ?_, ?_, ?_⟩,
        ?_⟩
      all_goals simp [Conserving]
    · rintro s event t ⟨hs, hconserving⟩ - hstep
      exact step_keeps hs hconserving hstep
  obtain ⟨hs, hconserving⟩ := hs
  refine ⟨⟨?_, hs.totalLimit⟩, fun p => ⟨?_, hs.providerLimit p⟩, hs.returned.1, hs.grantOrder,
    ⟨hs.queueOrder, fun waiter hwaiter permit hpermit => (hs.behind waiter hwaiter permit hpermit).2⟩,
    fun waiter hwaiter => ?_⟩
  · rw [hs.total, Coordinator.unreleased, List.countP_eq_length_filter]
    simp
  · rw [hs.perProvider, Coordinator.unreleased, List.countP_eq_length_filter]
  · have hwaits := hconserving waiter hwaiter
    rw [← Bool.not_eq_true, canStart_iff] at hwaits
    have htotal := hs.totalLimit
    have hprovider := hs.providerLimit waiter.providerId
    omega

/-- Two at once and one for each provider: of three calls of one provider the second is
aborted while it waits, and the third is granted when the first is released, twice. -/
def abortedRun : List CapacityEvent :=
  [.acquire "a" "searchHotels" 0, .acquire "a" "searchHotels" 1, .acquire " a " "searchHotels" 2,
    .acquire "b" "searchHotels" 3, .acquire "c" "searchHotels" 4, .abort 1, .abortListener 1,
    .release 0, .release 0]

theorem capacity_coordinated_aborted :
    let limits : Limits :=
      { maxProviderConcurrentOperations := 2, maxProviderConcurrentOperationsPerProvider := 1 }
    ∃ s, (coordinator limits).Reach Machine.Anything s ∧
      s.permits.map Permit.number = [2, 3, 0] ∧
      s.providerOperationQueue.map Waiter.number = [4] ∧ s.returned.Nodup ∧
      ∀ waiter ∈ s.providerOperationQueue,
        s.activeProviderOperationCount = limits.maxProviderConcurrentOperations ∨
          s.getActiveProviderOperationCount waiter.providerId =
            limits.maxProviderConcurrentOperationsPerProvider := by
  intro limits
  have hrun : ((coordinator limits).exec Machine.Anything {} abortedRun).map (fun s =>
      (s.permits.map Permit.number, s.providerOperationQueue.map Waiter.number)) =
      some ([2, 3, 0], [4]) := by decide +kernel
  obtain ⟨s, hs, hlast⟩ := Machine.Reach.of_exec_map abortedRun rfl hrun
  obtain ⟨hpermits, hqueue⟩ := Prod.mk.inj hlast
  obtain ⟨-, -, hreturned, -, -, hconserving⟩ := capacity_coordinated hs
  exact ⟨s, hs, hpermits, hqueue, hreturned, hconserving⟩

end SmartStay.Capacity.InMemory
