import SmartStay.Session.Compatibility.Writes

/-!
# Leases and saves in both stores

1. A lease is given out, renewed and released.
2. A session is saved.
3. `operation_agrees`: every operation on which the stores do not part.
-/

namespace SmartStay.Session.Compatibility

open InMemory Shared

variable {ρ : Type}

variable {s : Pair ρ} {now : Nat} {ids : Ids}
variable {cfg : PairSettings ρ} {m : Memory ρ} {name : Ids} {session : SearchSession ρ}
  {envelope : Envelope ρ} {lockToken : String}

/-! ## 1. The continuation lease -/

/-- A lease that both stores have just given out, under a new token. -/
theorem acquired_agrees (h : Agree s) (hswept : Swept s.clock s.memory m)
    (hfound : Found s name session envelope) (htoken : lockToken ≠ "") (hfresh : lockToken ∉ s.grants)
    {fence : Nat} (hpos : 0 < fence) (hsafe : (fence : Int) ≤ maxSafeInteger)
    {lease : LeaseContext} (hlease : lease.lockToken = lockToken) {fences : Keyspace SearchId Nat}
    {total : Nat} {session' : SearchSession ρ}
    (hsession : session' =
      { session with
        isContinuing := true, continuationLock := some lockToken
        continuationLockExpiresAt := some (s.clock + continuationLockTtlMs)
        continuationFencingNumber := .value fence
        lastError := none
        updatedAt := s.clock, expiresAt := s.clock + searchSessionTtlMs }) :
    Agrees s s.names
      ({ m with
          sessions := m.sessions.hset name.memory session'
          continuationFencingNumber := fence },
        .ok (.acquired lockToken fence (some session')))
      (commitWrite
        (reap { s.shared with
          leases := s.shared.leases.setPx s.clock cfg.continuationLeaseTtlMs name.shared
            ⟨lockToken, lease.fencingNumber⟩
          fences := fences } s.clock).2 name.shared name.shared
        (writeArgs cfg.toStoreSettings s.clock envelope (.mutate (.assign (lockUpdates
          cfg.toStoreSettings lockToken lease.fencingNumber s.clock)) (some lease) none)) total,
      .ok (.acquired lockToken lease.fencingNumber (some (nextSession cfg.toStoreSettings s.clock
        envelope.session (.mutate (.assign (lockUpdates cfg.toStoreSettings lockToken
          lease.fencingNumber s.clock)) (some lease) none))))) := by
  have hsame : SameSession s.names session' (nextSession cfg.toStoreSettings s.clock envelope.session
      (.mutate (.assign (lockUpdates cfg.toStoreSettings lockToken lease.fencingNumber s.clock))
        (some lease) none)) := by
    obtain ⟨searchId, createdAt, number, hname, hcurrent⟩ := sameSession_iff.mp hfound.same
    rw [hsession]
    refine sameSession_iff.mpr ⟨searchId, createdAt, .value lease.fencingNumber, hname, ?_⟩
    simp only [nextSession, Mutation.candidate, hcurrent, lockUpdates, cfg.sessionTtl_same,
      cfg.leaseTtl_same]
    rfl
  refine ⟨?_, .acquired lockToken fence lease.fencingNumber hsame⟩
  -- The new token is in no lease that there is.
  have hgrants : ∀ token grant, s.grants.hget token = some grant →
      (s.grants.hset lockToken ⟨fence, lease.fencingNumber⟩).hget token = some grant := by
    intro token grant hgrant
    rw [Hash.hget_hset, if_neg, hgrant]
    rintro rfl
    exact hfresh (Hash.mem_of_hget hgrant)
  refine (h.grant hgrants).written hswept hfound.named rfl rfl ?_ ?_ ?_ hfound.searchId' hsame ?_
  · rw [hsession]
    exact congrArg (s.clock + ·) cfg.sessionTtl_same.symm
  · intro searchId hne
    rw [Keyspace.setPx, Hash.hget_hset, if_neg hne]
  · rw [hsession]
    exact hfound.searchId
  · have hheld : memoryLease s.clock session' =
        some (lockToken, fence, s.clock + continuationLockTtlMs) := by
      rw [hsession, memoryLease_eq_some]
      exact ⟨rfl, rfl, htoken, rfl, Nat.lt_add_of_pos_right (by decide), rfl, hpos, hsafe⟩
    have hends : s.clock < s.clock + continuationLockTtlMs := Nat.lt_add_of_pos_right (by decide)
    rw [commitWrite_keep rfl, hheld, Keyspace.setPx, Hash.hget_hset_self, cfg.leaseTtl_same]
    rw [sharedLease_live hends]
    exact .held (Hash.hget_hset_self _ _ _)

theorem tryAcquire_agrees (h : Agree s)
    (hi : Agreeing cfg s (.tryAcquire ids lockToken, s.clock)) :
    Agrees s s.names (s.memoryReply cfg s.clock (.tryAcquire ids lockToken))
      (s.sharedReply cfg s.clock (.tryAcquire ids lockToken)) := by
  obtain ⟨⟨⟨hids, htoken, hfresh⟩, hcapacity⟩, hoff, hfree⟩ := hi
  simp only [Pair.memoryReply, Pair.sharedReply, Memory.tryAcquireSearchContinuation]
    at hcapacity ⊢
  rcases h.focus hids hoff with hmissing | ⟨session, envelope, hfound⟩
  · obtain ⟨error, error', hmemory, hshared, halike⟩ :=
      hmissing.require (swept _ _) cfg.processGeneration
    simp only [hmemory, Shared.tryAcquireSearchContinuation, hshared]
    exact .read h (swept _ _) rfl (.rejected halike)
  obtain ⟨hmemory, hshared⟩ := hfound.require h (swept _ _) cfg.processGeneration
  have hget := hfound.get
  simp only at hget
  simp only [hmemory] at hcapacity ⊢
  rcases hfound.lease_cases with ⟨hnone, hnone'⟩ | ⟨held, fence, fence', expiresAt, hheld, hheld', -⟩
  · have hidle := memoryLease_eq_none.mp hnone
    simp only at hnone'
    obtain ⟨hnumber, hstored, hcurrent, hcounter, hcurrent'⟩ := hfree envelope hget hnone'
    have hcurrent' := hcurrent' session hfound.sessionAt
    obtain ⟨-, hne, -, hne', -⟩ := h.valid _ hfound.named
    simp only at hstored hne'
    have hsafe : ((max (envelope.session.continuationFencingNumber.get?.getD 0)
        ((s.shared.fences.get s.clock (JsText.trim ids.shared)).getD 0) : Nat) : Int) <
        maxSafeInteger := by omega
    rw [if_neg (Bool.eq_false_iff.mp hidle)] at hcapacity ⊢
    rcases tryAcquire_write cfg.toStoreSettings h.indexed hfound.shared hfound.live hshared
      hne' hnone' hnumber htoken hsafe with
      ⟨st', error, herror, hacquired⟩ | ⟨fences, total, lease, hlease, hacquired⟩
    · rw [hacquired] at hcapacity
      rw [withinCapacity_right hcapacity] at herror
      cases herror
    · rw [hacquired]
      exact acquired_agrees h (swept _ _) hfound htoken hfresh (by omega)
        (show ((max s.memory.continuationFencingNumber
          (session.continuationFencingNumber.get?.getD 0) + 1 : Nat) : Int) ≤ _ by omega) hlease rfl
  · have hactive : hasActiveContinuationLease session s.clock = true := by
      rw [← Bool.not_eq_false, ← memoryLease_eq_none, hheld]
      simp
    simp only at hheld'
    simp only [hactive, if_true, Shared.tryAcquireSearchContinuation, hshared, acquireLease, hget,
      hheld', Option.isSome_some]
    exact .read h (swept _ _) rfl (.lease false (.some hfound.same))

/-- A caller owns the lease in memory exactly when it owns the one of the shared store, which
may take the fencing number from elsewhere when the caller gives none. -/
theorem Found.owns (hfound : Found s name session envelope) {fences : Fences (Option Int)}
    (hfences : SameFences? s lockToken fences)
    (hnumbered : fences.memory = none → ∀ lease ∈ memoryLease s.clock session, lease.1 ≠ lockToken)
    {number : Option Int} (hnumber : fences.shared.isSome = true → number = fences.shared) :
    Memory.ownsLease session lockToken fences.memory s.clock = true ↔
      ∃ lease, getLeaseContext lockToken (number.getD 0) = some lease ∧
        s.shared.leases.get s.clock name.shared = some ⟨lease.lockToken, lease.fencingNumber⟩ := by
  obtain ⟨hgiven, hsome, hnumbers⟩ := hfences
  simp only at hsome
  rcases hfound.lease_cases with ⟨hnone, hnone'⟩ | ⟨held, fence, fence', expiresAt, hheld, hheld', hgrant⟩
  · rw [Memory.ownsLease, memoryLease_eq_none.mp hnone, hnone']
    simp
  have hactive : hasActiveContinuationLease session s.clock = true := by
    rw [← Bool.not_eq_false, ← memoryLease_eq_none, hheld]
    simp
  obtain ⟨-, hlock, hne, -, -, hfence, hpos, hsafe⟩ := memoryLease_eq_some.mp hheld
  by_cases htoken : held = lockToken
  · subst htoken
    cases hmemory : fences.memory with
    | none => exact absurd rfl (hnumbered hmemory _ hheld)
    | some n =>
      rw [hmemory] at hgiven hsome hnumbers
      rw [hnumber hgiven.symm, hheld']
      have hboth : (fence : Int) = n ↔ (fence' : Int) = fences.shared.getD 0 := hnumbers _ hgrant
      simp only [Memory.ownsLease, hlock, hactive, Memory.hasMatchingFence, hfence, Option.any_some, Bool.and_eq_true,
        bne_iff_ne, ne_eq, hne, not_false_eq_true, beq_self_eq_true, decide_eq_true_eq, true_and,
        Option.some.injEq, Lease.mk.injEq]
      constructor
      · intro hequal
        have hcontext : (getLeaseContext held n).isSome = true := by
          obtain ⟨lease, hlease, -⟩ := getLeaseContext_of_pos hne hpos hsafe
          rw [← hequal, hlease]
          rfl
        obtain ⟨lease, hlease⟩ := Option.isSome_iff_exists.mp (hsome ▸ hcontext : (getLeaseContext held (fences.shared.getD 0)).isSome = true)
        obtain ⟨htoken, hvalue⟩ := getLeaseContext_eq_some hlease
        refine ⟨lease, hlease, htoken.symm, ?_⟩
        have hequal' := hboth.mp hequal
        rw [← hvalue] at hequal'
        exact Int.ofNat_inj.mp hequal'
      · rintro ⟨lease, hlease, -, rfl⟩
        exact hboth.mpr (getLeaseContext_eq_some hlease).2
  · have hforeign : Memory.ownsLease session lockToken fences.memory s.clock = false := by
      simp [Memory.ownsLease, hlock, htoken]
    rw [hforeign, hheld']
    refine iff_of_false Bool.false_ne_true ?_
    rintro ⟨lease, hlease, hkey⟩
    cases hkey
    exact htoken (getLeaseContext_eq_some hlease).1

/-- A renewal or a release in the shared store: it is written under the lease, or refused
without it. -/
theorem Found.perform_owned (hfound : Found s name session envelope) (h : Agree s)
    {op : Operation ρ} {lease : LeaseContext}
    (hop : op = .renew lease ∨ ∃ updates, op = .release lease updates)
    {r : Except StoreError (Reply ρ)}
    (hcapacity : WithinCapacity r
      (SmartStay.Session.Shared.perform cfg.toStoreSettings s.shared name.shared op s.clock).2) :
    (s.shared.leases.get s.clock name.shared = some ⟨lease.lockToken, lease.fencingNumber⟩ ∧
      ∃ total, SmartStay.Session.Shared.perform cfg.toStoreSettings s.shared name.shared op s.clock =
        (commitWrite (reap s.shared s.clock).2 name.shared name.shared
          (writeArgs cfg.toStoreSettings s.clock envelope op) total,
        .ok (.result (.lease true
          (some (nextSession cfg.toStoreSettings s.clock envelope.session op)))))) ∨
    (s.shared.leases.get s.clock name.shared ≠ some ⟨lease.lockToken, lease.fencingNumber⟩ ∧
      SmartStay.Session.Shared.perform cfg.toStoreSettings s.shared name.shared op s.clock =
        ((reap s.shared s.clock).2, .ok (.result (.lease false (some envelope.session))))) := by
  have hcases : PerformCases cfg.toStoreSettings s.shared name.shared op envelope s.clock
      (SmartStay.Session.Shared.perform cfg.toStoreSettings s.shared name.shared op s.clock) := by
    rcases hop with rfl | ⟨updates, rfl⟩ <;> exact hfound.perform h rfl
  have hmode : modeOutcome cfg.nullText (reap s.shared s.clock).2 name.shared
      (writeArgs cfg.toStoreSettings s.clock envelope op) =
      leaseRefusal s.shared.leases name.shared s.clock (some lease) := by
    rw [← reap_leases s.shared s.clock]
    rcases hop with rfl | ⟨updates, rfl⟩ <;> exact modeOutcome_owned rfl rfl rfl
  generalize SmartStay.Session.Shared.perform cfg.toStoreSettings s.shared name.shared op s.clock = q
    at hcases hcapacity ⊢
  by_cases hown : s.shared.leases.get s.clock name.shared =
      some ⟨lease.lockToken, lease.fencingNumber⟩
  · rw [leaseRefusal, if_pos hown] at hmode
    refine .inl ⟨hown, ?_⟩
    cases hcases with
    | capacity herror =>
      rw [withinCapacity_right hcapacity] at herror
      cases herror
    | refused hoccurred =>
      rw [hmode] at hoccurred
      cases hoccurred
    | written _ => rcases hop with rfl | ⟨updates, rfl⟩ <;> exact ⟨_, rfl⟩
  · rw [leaseRefusal, if_neg hown] at hmode
    refine .inr ⟨hown, ?_⟩
    cases hcases with
    | capacity herror =>
      rw [withinCapacity_right hcapacity] at herror
      cases herror
    | refused hoccurred =>
      rw [hmode] at hoccurred
      cases hoccurred
      rcases hop with rfl | ⟨updates, rfl⟩ <;> rfl
    | written hallowed =>
      rw [hmode] at hallowed
      cases hallowed

theorem renew_agrees (h : Agree s) {fences : Fences (Option Int)}
    (hi : Agreeing cfg s (.renew ids lockToken fences, s.clock)) :
    Agrees s s.names (s.memoryReply cfg s.clock (.renew ids lockToken fences))
      (s.sharedReply cfg s.clock (.renew ids lockToken fences)) := by
  obtain ⟨⟨⟨hids, hfences⟩, hcapacity⟩, hoff, hnumbered⟩ := hi
  simp only [Pair.memoryReply, Pair.sharedReply, Memory.renewSearchContinuation,
    Shared.renewSearchContinuation] at hcapacity ⊢
  rcases h.focus hids hoff with hmissing | ⟨session, envelope, hfound⟩
  · have hgone := hmissing.swept (swept _ _)
    have hnone := hmissing.shared
    simp only at hgone hnone
    simp only [hgone, hmissing.read]
    split
    · exact .read h (swept _ _) rfl (.lease false .none)
    split
    · exact .read h (swept _ _) rfl (.lease false .none)
    · rw [(perform_none hnone).2.1]
      exact .read h (swept _ _) rfl (.lease false .none)
  have hstored := hfound.swept (swept _ _)
  simp only at hstored
  have howns := hfound.owns hfences (fun hnone => hnumbered hnone session hfound.sessionAt) fun _ => rfl
  simp only [hstored, hfound.read h, if_neg (h.valid _ hfound.named).2.2.2.1] at hcapacity ⊢
  cases hlease : getLeaseContext lockToken (fences.shared.getD 0) with
  | none =>
    have hforeign : Memory.ownsLease session lockToken fences.memory s.clock = false := by
      rw [Bool.eq_false_iff, ne_eq, howns, hlease]
      simp
    simp only [hforeign]
    exact .read h (swept _ _) rfl (.lease false (.some hfound.same))
  | some lease =>
    simp only [hlease] at hcapacity ⊢
    have hperform := hfound.perform_owned h (.inl rfl) hcapacity
    simp only at hperform
    rcases hperform with ⟨hown, total, hwritten⟩ | ⟨hforeign, hrefused⟩
    · have hmine : Memory.ownsLease session lockToken fences.memory s.clock = true :=
        howns.mpr ⟨lease, hlease, hown⟩
      rw [if_pos hmine, hwritten]
      rcases hfound.lease_cases with ⟨-, hfree⟩ | ⟨held, fence, fence', expiresAt, hheld, hheld', hgrant⟩
      · rw [hown] at hfree
        cases hfree
      rw [hown] at hheld'
      cases hheld'
      obtain ⟨-, hlock, hne, -, -, hfence, hpos, hsafe⟩ := memoryLease_eq_some.mp hheld
      have hsame : SameSession s.names
          { session with
            isContinuing := true
            continuationLockExpiresAt := some (s.clock + continuationLockTtlMs)
            updatedAt := s.clock, expiresAt := s.clock + searchSessionTtlMs }
          (nextSession cfg.toStoreSettings s.clock envelope.session (.renew lease)) := by
        obtain ⟨searchId, createdAt, number, hname, hcurrent⟩ := sameSession_iff.mp hfound.same
        refine sameSession_iff.mpr ⟨searchId, createdAt, .value lease.fencingNumber, hname, ?_⟩
        simp only [nextSession, hcurrent, hlock, cfg.sessionTtl_same, cfg.leaseTtl_same]
      refine .written h (swept _ _) hfound rfl rfl rfl hsame ?_ rfl (.lease true (.some hsame))
      have hends : s.clock < s.clock + continuationLockTtlMs := Nat.lt_add_of_pos_right (by decide)
      have hrenewed : memoryLease s.clock
          { session with
            isContinuing := true
            continuationLockExpiresAt := some (s.clock + continuationLockTtlMs)
            updatedAt := s.clock, expiresAt := s.clock + searchSessionTtlMs } =
          some (lease.lockToken, fence, s.clock + continuationLockTtlMs) :=
        memoryLease_eq_some.mpr ⟨rfl, hlock, hne, rfl, hends, hfence, hpos, hsafe⟩
      have hkey : Hash.hget (commitWrite (reap s.shared s.clock).2 (JsText.trim ids.shared)
          (JsText.trim ids.shared) (writeArgs cfg.toStoreSettings s.clock envelope (.renew lease))
          total).leases (JsText.trim ids.shared) =
          some ⟨⟨lease.lockToken, lease.fencingNumber⟩, s.clock + continuationLockTtlMs⟩ := by
        rw [← cfg.leaseTtl_same]
        exact commitWrite_renew rfl rfl hown
      rw [hrenewed, hkey, sharedLease_live hends]
      exact .held hgrant
    · have hforeign' : ¬Memory.ownsLease session lockToken fences.memory s.clock = true := by
        rw [howns, hlease]
        rintro ⟨lease', heq, hheld⟩
        cases heq
        exact hforeign hheld
      rw [if_neg hforeign', hrefused]
      exact .refused h (swept _ _) rfl (.lease false (.some hfound.same))

theorem release_agrees (h : Agree s) {updates : SessionUpdates ρ} {fences : Fences (Option Int)}
    (hi : Agreeing cfg s (.release ids lockToken updates fences, s.clock)) :
    Agrees s s.names (s.memoryReply cfg s.clock (.release ids lockToken updates fences))
      (s.sharedReply cfg s.clock (.release ids lockToken updates fences)) := by
  obtain ⟨⟨⟨hids, hfences⟩, hcapacity⟩, hoff, hnumbered⟩ := hi
  simp only [Pair.memoryReply, Pair.sharedReply, Memory.releaseSearchContinuation,
    Memory.readSearchSession, Shared.releaseSearchContinuation] at hcapacity ⊢
  generalize hnumber : (fences.shared <|>
    updates.continuationFencingNumber.join.map Int.ofNat) = number at hcapacity ⊢
  rcases h.focus hids hoff with hmissing | ⟨session, envelope, hfound⟩
  · have hgone := hmissing.swept (swept _ _)
    have hnone := hmissing.shared
    simp only at hgone hnone
    simp only [hgone, hmissing.read, ite_self]
    split
    · exact .read h (swept _ _) rfl (.lease false .none)
    split
    · exact .read h (swept _ _) rfl (.lease false .none)
    · rw [(perform_none hnone).2.2]
      exact .read h (swept _ _) rfl (.lease false .none)
  obtain ⟨-, hne, -, hne', -⟩ := h.valid _ hfound.named
  have hstored := hfound.swept (swept _ _)
  simp only at hne hne' hstored
  have hgiven : fences.shared.isSome = true → number = fences.shared := by
    intro hsome
    obtain ⟨n, hn⟩ := Option.isSome_iff_exists.mp hsome
    rw [← hnumber, hn]
    rfl
  have howns := hfound.owns hfences (fun hnone => hnumbered hnone session hfound.sessionAt) hgiven
  simp only [hstored, hfound.read h, if_neg hne', hne, false_or] at hcapacity ⊢
  cases hlease : getLeaseContext lockToken (number.getD 0) with
  | none =>
    have hforeign : Memory.ownsLease session lockToken fences.memory s.clock = false := by
      rw [Bool.eq_false_iff, ne_eq, howns, hlease]
      simp
    simp only [hforeign, Bool.false_eq_true, if_false, ite_self]
    exact .read h (swept _ _) rfl (.lease false (.some hfound.same))
  | some lease =>
    have htoken : lockToken ≠ "" := (getLeaseContext_eq_some hlease).1 ▸ lease.token_nonempty
    simp only [hlease, if_neg htoken] at hcapacity ⊢
    have hperform := hfound.perform_owned h (.inr ⟨updates, rfl⟩) hcapacity
    simp only at hperform
    rcases hperform with ⟨hown, total, hwritten⟩ | ⟨hforeign, hrefused⟩
    · have hmine : Memory.ownsLease session lockToken fences.memory s.clock = true :=
        howns.mpr ⟨lease, hlease, hown⟩
      rw [if_pos hmine, hwritten]
      have hsame : SameSession s.names
          { session.assign updates with
            isContinuing := false, continuationLock := none, continuationLockExpiresAt := none
            updatedAt := s.clock, expiresAt := s.clock + searchSessionTtlMs }
          (nextSession cfg.toStoreSettings s.clock envelope.session (.release lease updates)) := by
        obtain ⟨searchId, createdAt, number, hname, hassigned⟩ :=
          sameSession_iff.mp (hfound.same.assign updates)
        refine sameSession_iff.mpr ⟨searchId, createdAt, .value lease.fencingNumber, hname, ?_⟩
        simp only [nextSession, hassigned, cfg.sessionTtl_same]
      refine .written h (swept _ _) hfound rfl rfl rfl hsame ?_ rfl (.lease true (.some hsame))
      rw [commitWrite_delete rfl, memoryLease_eq_none.mpr rfl]
      exact .none
    · have hforeign' : ¬Memory.ownsLease session lockToken fences.memory s.clock = true := by
        rw [howns, hlease]
        rintro ⟨lease', heq, hheld⟩
        cases heq
        exact hforeign hheld
      rw [if_neg hforeign', hrefused]
      exact .refused h (swept _ _) rfl (.lease false (.some hfound.same))

/-! ## 2. Saves -/

/-- The ids of a saved session are known, or new; both stores come to the same ones. -/
theorem savedIds_cases {fresh : Ids} {input : SessionInput ρ}
    (hargs : SameArguments s (.save input ids fresh))
    (hok : Agreeable cfg s now (.save input ids fresh)) :
    (savedIds ids fresh ∈ s.names ∨ NewIds s (savedIds ids fresh)) ∧
      (savedIds ids fresh).shared =
        (if JsText.trim ids.shared = "" then fresh.shared else JsText.trim ids.shared) ∧
      (JsText.trim ids.shared = "" → NewIds s (savedIds ids fresh)) ∧
      ¬(JsText.trim ids.shared ≠ "" ∧ isSearchSessionId (JsText.trim ids.shared) = false) := by
  obtain ⟨hids, hfresh⟩ := hargs
  unfold savedIds
  rcases hok.1 with rfl | ⟨htrim, hne, htrim', hne', hpattern⟩
  · have hblank : JsText.trim "" = "" := rfl
    have hnew := hfresh hblank
    rw [if_pos rfl, if_pos hblank, hblank]
    exact ⟨.inr hnew, rfl, fun _ => hnew, by simp⟩
  · have hname : ids ∈ s.names ∨ NewIds s ids := by
      rcases hids with hname | ⟨heq, hunknown⟩
      · rw [htrim, htrim'] at hname
        exact .inl hname
      · refine .inr ⟨fun name hname => ?_, htrim, hne, htrim', hne', hpattern⟩
        have hother := hunknown name hname
        rw [htrim] at hother
        exact ⟨hother.1, heq ▸ hother.2⟩
    rw [if_neg hne, htrim', if_neg hne', hpattern]
    exact ⟨hname, rfl, fun hblank => absurd hblank hne', by simp⟩

theorem Agree.savedName (h : Agree s) {name : Ids} (hname : name ∈ s.names ∨ NewIds s name) :
    Agree { s with names := if name ∈ s.names then s.names else name :: s.names } ∧
      name ∈ if name ∈ s.names then s.names else name :: s.names := by
  by_cases hknown : name ∈ s.names
  · simp only [if_pos hknown]
    exact ⟨h, hknown⟩
  · simp only [if_neg hknown]
    exact ⟨h.name (hname.resolve_left hknown), List.mem_cons_self⟩

theorem save_agrees (h : Agree s) {input : SessionInput ρ} {fresh : Ids}
    (hi : Agreeing cfg s (.save input ids fresh, s.clock)) :
    Agrees s (namesAfter s.names (.save input ids fresh)
        (s.memoryReply cfg s.clock (.save input ids fresh)).2)
      (s.memoryReply cfg s.clock (.save input ids fresh))
      (s.sharedReply cfg s.clock (.save input ids fresh)) := by
  obtain ⟨⟨hargs, hcapacity⟩, hok⟩ := hi
  obtain ⟨hname, hshared, hdrawn, hvalid⟩ := savedIds_cases hargs hok
  obtain ⟨-, hoff, hfree, hunexpired, hidle⟩ := hok
  have hmemory : (savedIds ids fresh).memory =
      if ids.memory = "" then fresh.memory else ids.memory := by
    unfold savedIds
    split <;> rfl
  simp only [Pair.memoryReply, Pair.sharedReply, Memory.saveSearchSession,
    Shared.saveSearchSession, if_neg hvalid, ← hmemory] at hcapacity ⊢
  obtain ⟨hagree, hmem⟩ := h.savedName hname
  split at hcapacity
  · have herror := withinCapacity_left hcapacity
    cases herror
  next hroom =>
  simp only [if_neg hroom, namesAfter]
  generalize savedIds ids fresh = name at *
  have hexisting : ∃ existing : Option (Envelope ρ),
      existing = none ∧ s.shared.sessions.get s.clock name.shared = none ∧
        s.shared.tombstones.get s.clock name.shared = none ∨
      JsText.trim ids.shared ≠ "" ∧ ∃ current expiresAt, existing = some current ∧
        Hash.hget s.shared.sessions name.shared = some ⟨current, expiresAt⟩ ∧ s.clock < expiresAt := by
    cases hcurrent : s.shared.sessions.get s.clock name.shared with
    | none => exact ⟨none, .inl ⟨rfl, rfl, hunexpired.resolve_left (by simp [hcurrent])⟩⟩
    | some current =>
      obtain ⟨expiresAt, hstored, hends⟩ := Keyspace.get_eq_some.mp hcurrent
      refine ⟨some current, .inr ⟨fun hblank => ?_, current, expiresAt, rfl, hstored, ?_⟩⟩
      · obtain ⟨other, hother, heq⟩ := h.sharedNamed _ (.inl (Option.isSome_iff_exists.mpr ⟨_, hstored⟩))
        exact ((hdrawn hblank).1 other hother).2 heq
      · have hne := hoff.1
        rw [hstored] at hne
        have hne : expiresAt ≠ s.clock := fun heq => hne (congrArg some heq)
        omega
  obtain ⟨existing, hexisting⟩ := hexisting
  rcases saveAttempts_write cfg.toStoreSettings { input with searchId := ids.shared } [] h.indexed
      hshared hexisting hfree with ⟨st', error, herror, hsaved⟩ | hsaved
  · rw [hsaved] at hcapacity
    rw [withinCapacity_right hcapacity] at herror
    cases herror
  · rw [hsaved]
    have hsame : SameSession (if name ∈ s.names then s.names else name :: s.names)
        (SessionInput.saved { input with searchId := ids.memory } name.memory
          (input.createdAt.getD s.clock) s.clock searchSessionTtlMs
          (Memory.savedFence input.continuationFencingNumber))
        (buildSavedSession cfg.toStoreSettings { input with searchId := ids.shared } name.shared
          (existing.map Envelope.session) s.clock) := by
      refine ⟨hmem, ?_⟩
      simp only [buildSavedSession, SessionInput.saved, cfg.sessionTtl_same]
    have hunleased : sharedLease s.clock (Hash.hget s.shared.leases name.shared) = none := by
      have hnone : s.shared.leases.get s.clock name.shared = none := hfree
      rwa [leases_get hoff.2, Option.map_eq_none_iff] at hnone
    refine ⟨?_, .session (.some hsame)⟩
    refine hagree.written (swept _ _) hmem rfl rfl ?_ (fun _ _ => rfl) rfl rfl ?_ ?_
    · exact congrArg (s.clock + ·) cfg.sessionTtl_same.symm
    · exact hsame
    · rw [commitWrite_keep rfl]
      change LeaseAgree s.grants _ (sharedLease s.clock (Hash.hget s.shared.leases name.shared))
      rw [hunleased, memoryLease_eq_none.mpr]
      · exact .none
      · exact hidle

/-! ## 3. Every operation -/

/-- Every agreeable operation, at the time of the clock. -/
theorem operation_agrees (h : Agree s) {op : StoreOp ρ} (hi : Agreeing cfg s (op, s.clock)) :
    Agrees s (namesAfter s.names op (s.memoryReply cfg s.clock op).2)
      (s.memoryReply cfg s.clock op) (s.sharedReply cfg s.clock op) := by
  cases op with
  | save input ids fresh => exact save_agrees h hi
  | update ids updates lockToken fences execution => exact update_agrees h hi
  | append ids hotels lockToken fences execution => exact append_agrees h hi
  | claim ids execution => exact claim_agrees h hi
  | updateInitial ids updates execution => exact updateInitial_agrees h hi
  | tryAcquire ids lockToken => exact tryAcquire_agrees h hi
  | renew ids lockToken fences => exact renew_agrees h hi
  | release ids lockToken updates fences => exact release_agrees h hi
  | get ids => exact get_agrees h hi.1.1 hi.2

end SmartStay.Session.Compatibility
