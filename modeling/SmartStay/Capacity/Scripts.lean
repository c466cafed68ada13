import SmartStay.Lib.FixedWindow

/-!
# The scripts of the shared capacity coordinator

`server/state/valkey/valkeyProviderCapacityCoordinator.js` keeps the leases and the waiters
of all processes in sorted sets by the time they expire, one pair for all providers and one
pair for each, and the requests of each provider in a counter. This module embeds its five
Lua scripts.

1. Settings and the keys.
2. The scripts.
3. `Capped`: no set is longer than its limit; every script keeps it.
4. `Holds`: the entries of one lease; `WindowCounted` under `countRequest`.

Each call draws its lease token and its waiter token with `randomUUID`; the number of the
call stands for both. The keys of different providers differ. A script takes the time `now`
that its caller read; the server's own clock `time` runs the times to live.
-/

namespace SmartStay.Capacity

open SortedSet

/-! ## 1. Settings and keys -/

abbrev ProviderId := String
abbrev CallId := Nat

/-- A policy that `parseProviderAccountRateLimits` accepts. -/
structure RateLimit where
  maxRequests : Nat
  windowMs : Nat
  maxRequests_pos : 0 < maxRequests
  windowMs_pos : 0 < windowMs
deriving DecidableEq, Repr

/-- The settings of the coordinator, after their normalisation; a lease lasts 100 ms at
least. -/
structure CapacitySettings where
  globalActiveLimit : Nat := 8
  perProviderActiveLimit : Nat := 8
  globalQueuedLimit : Nat := 64
  perProviderQueuedLimit : Nat := 32
  leaseTtlMs : Nat := 40000
  accountRateLimits : Hash ProviderId RateLimit := ∅
  accountRateLimitsRequired : Bool := false
  leaseTtlMs_min : 100 ≤ leaseTtlMs := by decide

/-- The policy of `resolveAccountRateLimit`. -/
def CapacitySettings.rateLimit (cfg : CapacitySettings) (providerId : ProviderId) :
    Option RateLimit :=
  cfg.accountRateLimits.hget providerId <|> cfg.accountRateLimits.hget "*"

/-- `resolveAccountRateLimit`, or the message of its exception. -/
def CapacitySettings.resolveAccountRateLimit (cfg : CapacitySettings) (providerId : ProviderId) :
    Except String (Option RateLimit) :=
  if (cfg.rateLimit providerId).isNone && cfg.accountRateLimitsRequired then
    .error ("No account rate limit is configured for provider \"" ++ providerId ++ "\".")
  else .ok (cfg.rateLimit providerId)

/-- The keys: `active` and `waiters` are those of all providers (`KEYS[1]`, `KEYS[3]` of the
acquire script), `activeOf`, `waitersOf` and `rate` those of one (`KEYS[2]`, `KEYS[4]`,
`KEYS[5]`). -/
structure CapacityStore where
  active : SortedSet CallId := ∅
  activeOf : ProviderId → SortedSet CallId := fun _ => ∅
  waiters : SortedSet CallId := ∅
  waitersOf : ProviderId → SortedSet CallId := fun _ => ∅
  rate : Keyspace ProviderId Nat := ∅

namespace CapacityStore

/-- `ZREMRANGEBYSCORE -inf now` on the four sets. -/
def purge (st : CapacityStore) (providerId : ProviderId) (now : Nat) : CapacityStore :=
  { st with
    active := st.active.zremRangeByScore now
    activeOf := Function.update st.activeOf providerId
      ((st.activeOf providerId).zremRangeByScore now)
    waiters := st.waiters.zremRangeByScore now
    waitersOf := Function.update st.waitersOf providerId
      ((st.waitersOf providerId).zremRangeByScore now) }

/-- `ZADD` of a lease to both sets. -/
def putLease (st : CapacityStore) (providerId : ProviderId) (call : CallId) (expiresAt : Nat) :
    CapacityStore :=
  { st with
    active := st.active.zadd expiresAt call
    activeOf := Function.update st.activeOf providerId
      ((st.activeOf providerId).zadd expiresAt call) }

/-- `ZADD` of a waiter to both sets. -/
def putWaiter (st : CapacityStore) (providerId : ProviderId) (call : CallId) (expiresAt : Nat) :
    CapacityStore :=
  { st with
    waiters := st.waiters.zadd expiresAt call
    waitersOf := Function.update st.waitersOf providerId
      ((st.waitersOf providerId).zadd expiresAt call) }

/-- `ZREM` of a waiter from both sets, which is `REMOVE_WAITER_SCRIPT`. -/
def removeWaiter (st : CapacityStore) (providerId : ProviderId) (call : CallId) : CapacityStore :=
  { st with
    waiters := st.waiters.zrem call
    waitersOf := Function.update st.waitersOf providerId ((st.waitersOf providerId).zrem call) }

end CapacityStore

/-! ## 2. Scripts -/

/-- The reply of `ACQUIRE_SCRIPT`. -/
inductive AcquireReply
  | acquired (expiresAt : Nat)
  | rateLimited (retryAfterMs : Nat)
  | queueFull
  | waiting
deriving DecidableEq, Repr

/-- No window of the provider is running: `ttl <= 0`. -/
def windowOver (rate : Keyspace ProviderId Nat) (time : Nat) (providerId : ProviderId) : Bool :=
  (rate.pttl time providerId).getD 0 == 0

/-- The part of `ACQUIRE_SCRIPT` for a provider with a policy: the counter after one more
request, or the time to wait. -/
def countRequest (limit : RateLimit) (rate : Keyspace ProviderId Nat) (time : Nat)
    (providerId : ProviderId) : Except Nat (Keyspace ProviderId Nat) :=
  let current :=
    if windowOver rate time providerId then 0 else (rate.get time providerId).getD 0
  if limit.maxRequests ≤ current then .error (max 1 ((rate.pttl time providerId).getD 0))
  else if current = 0 then .ok (rate.setPx time limit.windowMs providerId 1)
  else .ok (rate.incr providerId)

/-- `ACQUIRE_SCRIPT`; `rate_max` is 0 for a provider without a policy. -/
def acquireScript (cfg : CapacitySettings) (st : CapacityStore) (providerId : ProviderId)
    (call : CallId) (now leaseTtlMs time : Nat) : CapacityStore × AcquireReply :=
  let st := st.purge providerId now
  let expiresAt := now + leaseTtlMs
  if st.active.zcard < cfg.globalActiveLimit ∧
      (st.activeOf providerId).zcard < cfg.perProviderActiveLimit then
    let counted :=
      match cfg.rateLimit providerId with
      | some limit => countRequest limit st.rate time providerId
      | none => .ok st.rate
    match counted with
    | .error retryAfterMs => (st.removeWaiter providerId call, .rateLimited retryAfterMs)
    | .ok rate =>
      ((({ st with rate := rate } : CapacityStore).putLease providerId call expiresAt).removeWaiter
        providerId call, .acquired expiresAt)
  else if st.waiters.zscore call = none ∧ (cfg.globalQueuedLimit ≤ st.waiters.zcard ∨
      cfg.perProviderQueuedLimit ≤ (st.waitersOf providerId).zcard) then
    (st, .queueFull)
  else (st.putWaiter providerId call expiresAt, .waiting)

/-- `RENEW_SCRIPT`; the reply is the new expiry, or 0. -/
def renewScript (st : CapacityStore) (providerId : ProviderId) (call : CallId)
    (now leaseTtlMs : Nat) : CapacityStore × Nat :=
  if st.active.zscore call = none ∨ (st.activeOf providerId).zscore call = none then (st, 0)
  else (st.putLease providerId call (now + leaseTtlMs), now + leaseTtlMs)

/-- `RELEASE_SCRIPT`; the reply says whether the lease was in both sets. -/
def releaseScript (st : CapacityStore) (providerId : ProviderId) (call : CallId) :
    CapacityStore × Bool :=
  ({ st with
      active := st.active.zrem call
      activeOf := Function.update st.activeOf providerId ((st.activeOf providerId).zrem call) },
    (st.active.zscore call).isSome && ((st.activeOf providerId).zscore call).isSome)

/-- The counts of `SNAPSHOT_SCRIPT`. -/
structure CapacitySnapshot where
  active : Nat
  queued : Nat
  activeByProvider : Option Nat := none
  queuedByProvider : Option Nat := none
deriving DecidableEq, Repr

/-- `SNAPSHOT_SCRIPT`, for all providers or with the counts of one. -/
def snapshotScript (st : CapacityStore) (providerId : Option ProviderId) (now : Nat) :
    CapacityStore × CapacitySnapshot :=
  match providerId with
  | none =>
    let st :=
      { st with
        active := st.active.zremRangeByScore now, waiters := st.waiters.zremRangeByScore now }
    (st, { active := st.active.zcard, queued := st.waiters.zcard })
  | some providerId =>
    let st := st.purge providerId now
    (st,
      { active := st.active.zcard
        queued := st.waiters.zcard
        activeByProvider := some (st.activeOf providerId).zcard
        queuedByProvider := some (st.waitersOf providerId).zcard })

/-- What `ACQUIRE_SCRIPT` does: it grants a lease and counts the request, or it leaves the
leases that have not expired and the counters as they are. -/
inductive AcquireCases (cfg : CapacitySettings) (st : CapacityStore) (providerId : ProviderId)
    (call : CallId) (now leaseTtlMs time : Nat) : CapacityStore → AcquireReply → Prop
  | granted {rate : Keyspace ProviderId Nat} :
      cfg.rateLimit providerId = none ∧ rate = st.rate ∨
        (∃ limit, cfg.rateLimit providerId = some limit ∧
          countRequest limit st.rate time providerId = .ok rate) →
      AcquireCases cfg st providerId call now leaseTtlMs time
        ((({ st.purge providerId now with rate := rate } : CapacityStore).putLease providerId call
          (now + leaseTtlMs)).removeWaiter providerId call)
        (.acquired (now + leaseTtlMs))
  | refused {st' : CapacityStore} {reply : AcquireReply} :
      (∀ expiresAt, reply ≠ .acquired expiresAt) →
      st'.active = (st.purge providerId now).active →
      st'.activeOf = (st.purge providerId now).activeOf → st'.rate = st.rate →
      AcquireCases cfg st providerId call now leaseTtlMs time st' reply

theorem acquire_cases (cfg : CapacitySettings) (st : CapacityStore) (providerId : ProviderId)
    (call : CallId) (now leaseTtlMs time : Nat) :
    AcquireCases cfg st providerId call now leaseTtlMs time
      (acquireScript cfg st providerId call now leaseTtlMs time).1
      (acquireScript cfg st providerId call now leaseTtlMs time).2 := by
  unfold acquireScript
  dsimp only
  split
  · split
    · exact .refused (by simp) rfl rfl rfl
    · next rate hcounted =>
      refine .granted ?_
      split at hcounted
      · next limit hlimit => exact .inr ⟨limit, hlimit, hcounted⟩
      · next hlimit =>
        cases hcounted
        exact .inl ⟨hlimit, rfl⟩
  split
  · exact .refused (by simp) rfl rfl rfl
  · exact .refused (by simp) rfl rfl rfl

/-! ## 3. The limits -/

/-- No set is longer than its limit, and a waiter of all is one of its provider as well. -/
structure Capped (cfg : CapacitySettings) (providerOf : CallId → ProviderId)
    (st : CapacityStore) : Prop where
  active : st.active.zcard ≤ cfg.globalActiveLimit
  activeOf : ∀ p, (st.activeOf p).zcard ≤ cfg.perProviderActiveLimit
  waiters : st.waiters.zcard ≤ cfg.globalQueuedLimit
  waitersOf : ∀ p, (st.waitersOf p).zcard ≤ cfg.perProviderQueuedLimit
  paired : ∀ call score, st.waiters.zscore call = some score →
    (st.waitersOf (providerOf call)).zscore call = some score

variable {cfg : CapacitySettings} {providerOf : CallId → ProviderId} {st : CapacityStore}
  {providerId : ProviderId} {call : CallId} {now leaseTtlMs time : Nat}

theorem zcard_update_le {f : ProviderId → SortedSet CallId} {z : SortedSet CallId} {n : Nat}
    (hf : ∀ p, (f p).zcard ≤ n) (hz : z.zcard ≤ n) (p : ProviderId) :
    (Function.update f providerId z p).zcard ≤ n := by
  rw [Function.update_apply]
  split
  · exact hz
  · exact hf p

theorem Capped.purge (h : Capped cfg providerOf st) (providerId : ProviderId) (now : Nat) :
    Capped cfg providerOf (st.purge providerId now) := by
  refine ⟨?_, ?_, ?_, ?_, fun other score hscore => ?_⟩
  · exact Nat.le_trans (zcard_zremRangeByScore_le _ _) h.active
  · exact zcard_update_le h.activeOf
      (Nat.le_trans (zcard_zremRangeByScore_le _ _) (h.activeOf providerId))
  · exact Nat.le_trans (zcard_zremRangeByScore_le _ _) h.waiters
  · exact zcard_update_le h.waitersOf
      (Nat.le_trans (zcard_zremRangeByScore_le _ _) (h.waitersOf providerId))
  · -- A waiter that survives in the set of all survives in that of its provider.
    obtain ⟨hscore, hlive⟩ := zscore_zremRangeByScore.mp hscore
    have hpaired := h.paired other score hscore
    change (Function.update st.waitersOf providerId _ (providerOf other)).zscore other = _
    rw [Function.update_apply]
    split
    · next hprovider =>
      rw [hprovider] at hpaired
      exact zscore_zremRangeByScore.mpr ⟨hpaired, hlive⟩
    · exact hpaired

/-- A lease is added below both limits, or prolonged in both sets. -/
theorem Capped.putLease (h : Capped cfg providerOf st) {expiresAt : Nat}
    (hfits : st.active.zcard < cfg.globalActiveLimit ∧
        (st.activeOf providerId).zcard < cfg.perProviderActiveLimit ∨
      call ∈ st.active ∧ call ∈ st.activeOf providerId) :
    Capped cfg providerOf (st.putLease providerId call expiresAt) := by
  refine { h with active := ?_, activeOf := zcard_update_le h.activeOf ?_ }
  · rcases hfits with ⟨hfits, -⟩ | ⟨hmem, -⟩
    · exact Nat.le_trans (Hash.hlen_hset_le _ _ _) hfits
    · exact Nat.le_trans (Nat.le_of_eq (Hash.hlen_hset_of_mem hmem)) h.active
  · rcases hfits with ⟨-, hfits⟩ | ⟨-, hmem⟩
    · exact Nat.le_trans (Hash.hlen_hset_le _ _ _) hfits
    · exact Nat.le_trans (Nat.le_of_eq (Hash.hlen_hset_of_mem hmem)) (h.activeOf providerId)

/-- A waiter is added below both limits, or waits on. -/
theorem Capped.putWaiter (h : Capped cfg providerOf st) {expiresAt : Nat}
    (hprovider : providerOf call = providerId)
    (hfits : st.waiters.zcard < cfg.globalQueuedLimit ∧
        (st.waitersOf providerId).zcard < cfg.perProviderQueuedLimit ∨ call ∈ st.waiters) :
    Capped cfg providerOf (st.putWaiter providerId call expiresAt) := by
  refine
    { h with waiters := ?_, waitersOf := zcard_update_le h.waitersOf ?_, paired := ?_ }
  · rcases hfits with ⟨hfits, -⟩ | hmem
    · exact Nat.le_trans (Hash.hlen_hset_le _ _ _) hfits
    · exact Nat.le_trans (Nat.le_of_eq (Hash.hlen_hset_of_mem hmem)) h.waiters
  · rcases hfits with ⟨-, hfits⟩ | hmem
    · exact Nat.le_trans (Hash.hlen_hset_le _ _ _) hfits
    · obtain ⟨score, hscore⟩ := Hash.mem_iff_hget.mp hmem
      have hpaired := h.paired call score hscore
      rw [hprovider] at hpaired
      exact Nat.le_trans (Nat.le_of_eq (Hash.hlen_hset_of_mem (Hash.mem_of_hget hpaired)))
        (h.waitersOf providerId)
  · intro other score hscore
    simp only [CapacityStore.putWaiter, zscore, zadd, Hash.hget_hset] at hscore ⊢
    rw [Function.update_apply]
    by_cases hother : other = call
    · subst hother
      rw [if_pos rfl] at hscore
      rw [if_pos hprovider, Hash.hget_hset_self]
      exact hscore
    · rw [if_neg hother] at hscore
      have hpaired := h.paired other score hscore
      split
      · next hsame =>
        rw [Hash.hget_hset, if_neg hother, ← hsame]
        exact hpaired
      · exact hpaired

theorem Capped.removeWaiter (h : Capped cfg providerOf st) (providerId : ProviderId)
    (call : CallId) : Capped cfg providerOf (st.removeWaiter providerId call) := by
  refine
    { h with
      waiters := Nat.le_trans (Hash.hlen_hdel_le _ _) h.waiters
      waitersOf := zcard_update_le h.waitersOf
        (Nat.le_trans (Hash.hlen_hdel_le _ _) (h.waitersOf providerId))
      paired := ?_ }
  intro other score hscore
  simp only [CapacityStore.removeWaiter, zscore, zrem, Hash.hget_hdel,
    Option.ite_none_left_eq_some] at hscore ⊢
  obtain ⟨hother, hscore⟩ := hscore
  have hpaired := h.paired other score hscore
  rw [Function.update_apply]
  split
  · next hsame =>
    rw [Hash.hget_hdel, if_neg hother, ← hsame]
    exact hpaired
  · exact hpaired

theorem Capped.acquire (h : Capped cfg providerOf st) (hprovider : providerOf call = providerId) :
    Capped cfg providerOf (acquireScript cfg st providerId call now leaseTtlMs time).1 := by
  have hpurged := h.purge providerId now
  unfold acquireScript
  dsimp only
  generalize st.purge providerId now = st at hpurged ⊢
  split
  · next hfits =>
    split
    · exact hpurged.removeWaiter providerId call
    · next rate _ =>
      have hrated : Capped cfg providerOf { st with rate := rate } := { hpurged with }
      exact (hrated.putLease (.inl hfits)).removeWaiter providerId call
  split
  · exact hpurged
  · next hwaits =>
    refine hpurged.putWaiter hprovider ?_
    by_cases hmem : call ∈ st.waiters
    · exact .inr hmem
    · rw [not_and_or, not_or] at hwaits
      rcases hwaits with hwaits | hwaits
      · exact absurd (Hash.notMem_iff_hget.mp hmem) hwaits
      · exact .inl ⟨Nat.lt_of_not_le hwaits.1, Nat.lt_of_not_le hwaits.2⟩

/-- A renewal succeeds only for a lease in both sets. -/
theorem renew_cases (st : CapacityStore) (providerId : ProviderId) (call : CallId)
    (now leaseTtlMs : Nat) :
    renewScript st providerId call now leaseTtlMs = (st, 0) ∨
    (call ∈ st.active ∧ call ∈ st.activeOf providerId) ∧
      renewScript st providerId call now leaseTtlMs =
        (st.putLease providerId call (now + leaseTtlMs), now + leaseTtlMs) := by
  unfold renewScript
  split
  · exact .inl rfl
  · next hboth =>
    rw [not_or] at hboth
    refine .inr ⟨⟨?_, ?_⟩, rfl⟩
    · exact by_contra fun hmem => hboth.1 (Hash.notMem_iff_hget.mp hmem)
    · exact by_contra fun hmem => hboth.2 (Hash.notMem_iff_hget.mp hmem)

theorem Capped.renew (h : Capped cfg providerOf st) :
    Capped cfg providerOf (renewScript st providerId call now leaseTtlMs).1 := by
  rcases renew_cases st providerId call now leaseTtlMs with heq | ⟨hmem, heq⟩
  · rw [heq]
    exact h
  · rw [heq]
    exact h.putLease (.inr hmem)

theorem Capped.release (h : Capped cfg providerOf st) :
    Capped cfg providerOf (releaseScript st providerId call).1 :=
  { h with
    active := Nat.le_trans (Hash.hlen_hdel_le _ _) h.active
    activeOf := zcard_update_le h.activeOf
      (Nat.le_trans (Hash.hlen_hdel_le _ _) (h.activeOf providerId)) }

theorem Capped.snapshot (h : Capped cfg providerOf st) (providerId : Option ProviderId) :
    Capped cfg providerOf (snapshotScript st providerId now).1 := by
  cases providerId with
  | some providerId => exact h.purge providerId now
  | none =>
    refine
      { h with
        active := Nat.le_trans (zcard_zremRangeByScore_le _ _) h.active
        waiters := Nat.le_trans (zcard_zremRangeByScore_le _ _) h.waiters
        paired := fun other score hscore => ?_ }
    exact h.paired other score (zscore_zremRangeByScore.mp hscore).1

/-! ## 4. One lease and one counter -/

/-- The lease of the call is in both sets, up to the same time. -/
def Holds (st : CapacityStore) (providerId : ProviderId) (call : CallId) (expiresAt : Nat) : Prop :=
  st.active.zscore call = some expiresAt ∧ (st.activeOf providerId).zscore call = some expiresAt

variable {other : ProviderId} {holder : CallId} {expiresAt expiresAt' : Nat}

theorem Holds.purge (h : Holds st providerId call expiresAt) (hlive : now < expiresAt) :
    Holds (st.purge other now) providerId call expiresAt := by
  refine ⟨zscore_zremRangeByScore.mpr ⟨h.1, hlive⟩, ?_⟩
  change (Function.update st.activeOf other _ providerId).zscore call = _
  rw [Function.update_apply]
  split
  · next hsame =>
    subst hsame
    exact zscore_zremRangeByScore.mpr ⟨h.2, hlive⟩
  · exact h.2

theorem holds_putLease (st : CapacityStore) (providerId : ProviderId) (call : CallId)
    (expiresAt : Nat) : Holds (st.putLease providerId call expiresAt) providerId call expiresAt := by
  simp [Holds, CapacityStore.putLease]

theorem Holds.putLease (h : Holds st providerId call expiresAt) (hne : call ≠ holder) :
    Holds (st.putLease other holder expiresAt') providerId call expiresAt := by
  simp only [Holds, CapacityStore.putLease, zscore, zadd, Hash.hget_hset, if_neg hne,
    Function.update_apply]
  refine ⟨h.1, ?_⟩
  split
  · next hsame =>
    subst hsame
    rw [Hash.hget_hset, if_neg hne]
    exact h.2
  · exact h.2

theorem Holds.release (h : Holds st providerId call expiresAt) (hne : call ≠ holder) :
    Holds (releaseScript st other holder).1 providerId call expiresAt := by
  simp only [Holds, releaseScript, zscore, zrem, Hash.hget_hdel, if_neg hne, Function.update_apply]
  refine ⟨h.1, ?_⟩
  split
  · next hsame =>
    subst hsame
    rw [Hash.hget_hdel, if_neg hne]
    exact h.2
  · exact h.2

theorem Holds.snapshot (h : Holds st providerId call expiresAt) (hlive : now < expiresAt)
    (all : Option ProviderId) : Holds (snapshotScript st all now).1 providerId call expiresAt := by
  cases all with
  | some other => exact h.purge hlive
  | none => exact ⟨zscore_zremRangeByScore.mpr ⟨h.1, hlive⟩, h.2⟩

open FixedWindow

variable {limit : RateLimit} {rate rate' : Keyspace ProviderId Nat} {windows times : List Nat}
  {clock : Nat}

theorem windowOver_iff : windowOver rate time providerId = true ↔
    ∀ v, Hash.hget rate providerId = some v → v.expiresAt ≤ time := by
  unfold windowOver Keyspace.pttl
  cases hget : Hash.hget rate providerId with
  | none => simp
  | some v =>
    simp only [Option.bind_some, beq_iff_eq, Option.some.injEq, forall_eq']
    split
    · rw [Option.getD_some]
      omega
    · rw [Option.getD_none]
      omega

/-- A request that is counted opens a window when none is running, and is one more in the
running one otherwise. -/
theorem countRequest_counted (hcount : countRequest limit rate time providerId = .ok rate')
    (h : WindowCounted limit.windowMs limit.maxRequests windows times
      (Hash.hget rate providerId) clock) (hclock : clock ≤ time) :
    WindowCounted limit.windowMs limit.maxRequests
      (if windowOver rate time providerId then time :: windows else windows) (time :: times)
      (Hash.hget rate' providerId) time := by
  unfold countRequest at hcount
  dsimp only at hcount
  by_cases hover : windowOver rate time providerId = true
  · rw [if_pos hover, if_neg (Nat.not_le_of_lt limit.maxRequests_pos), if_pos rfl] at hcount
    cases hcount
    rw [if_pos hover, Keyspace.setPx, Hash.hget_hset_self]
    exact h.opens hclock (windowOver_iff.mp hover) limit.maxRequests_pos limit.windowMs_pos
  · have hrunning := hover
    rw [windowOver_iff] at hrunning
    push Not at hrunning
    obtain ⟨v, hv, hlive⟩ := hrunning
    obtain ⟨w, older, -, -, -, hpositive⟩ := h.current v hv
    have hget : rate.get time providerId = some v.value := by
      simp [Keyspace.get, hv, Nat.le_of_lt hlive]
    rw [if_neg hover, hget, Option.getD_some] at hcount
    split at hcount
    · cases hcount
    next hbelow =>
    rw [if_neg (Nat.ne_of_gt hpositive)] at hcount
    cases hcount
    rw [if_neg hover, Keyspace.incr, hv]
    dsimp only
    rw [Hash.hget_hset_self]
    rw [hv] at h
    exact h.count hclock hlive (Nat.lt_of_not_le hbelow)

/-- The counters of the other providers stay as they are. -/
theorem countRequest_others (hcount : countRequest limit rate time providerId = .ok rate')
    (hne : other ≠ providerId) : Hash.hget rate' other = Hash.hget rate other := by
  unfold countRequest at hcount
  dsimp only at hcount
  generalize (if windowOver rate time providerId then 0 else (rate.get time providerId).getD 0) =
    current at hcount
  split at hcount
  · cases hcount
  split at hcount
  · cases hcount
    rw [Keyspace.setPx, Hash.hget_hset, if_neg hne]
  · cases hcount
    unfold Keyspace.incr
    split
    · rw [Hash.hget_hset, if_neg hne]
    · rfl

end SmartStay.Capacity
