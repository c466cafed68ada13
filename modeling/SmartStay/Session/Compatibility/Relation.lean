import SmartStay.Session.Compatibility.Model

/-!
# The relation of the two session stores

1. `Agree`: the sessions and the leases of both stores, as far as they have not ended.
2. Leases at a later time.
3. `Agree` under time, the removal of expired sessions, new names, new grants and a write.
4. `Missing`, `Found`: what both stores know of one id.
-/

namespace SmartStay.Session.Compatibility

open InMemory Shared

variable {ρ : Type}

/-! ## 1. The relation -/

/-- The lease key of the shared store at a time, when it is not in its last millisecond. -/
def sharedLease (now : Nat) (lease : Option (Volatile Lease)) : Option (String × Nat × Nat) :=
  lease.bind fun v =>
    if now < v.expiresAt then some (v.value.token, v.value.fencingNumber, v.expiresAt) else none

/-- Both stores hold no lease, or the same one under the fencing numbers it was granted with. -/
inductive LeaseAgree (grants : Hash String (Fences Nat)) :
    Option (String × Nat × Nat) → Option (String × Nat × Nat) → Prop
  | none : LeaseAgree grants none none
  | held {lockToken : String} {fence fence' expiresAt : Nat} :
      grants.hget lockToken = some ⟨fence, fence'⟩ →
      LeaseAgree grants (some (lockToken, fence, expiresAt)) (some (lockToken, fence', expiresAt))

/-- A session in memory and the key of the shared store that it corresponds to. -/
structure Corresponds (name : Ids) (session : SearchSession ρ)
    (key : Option (Volatile (Envelope ρ))) : Prop where
  named : session.searchId = name.memory
  stored : ∃ envelope, key = some ⟨envelope, session.expiresAt⟩ ∧
    envelope.session.searchId = name.shared ∧
    { session with
      searchId := envelope.session.searchId
      createdAt := envelope.session.createdAt
      continuationFencingNumber := envelope.session.continuationFencingNumber } = envelope.session

/-- The stores agree at the time of the clock, on everything that has not ended by then. -/
structure Agree (s : Pair ρ) : Prop where
  injective : ∀ name ∈ s.names, ∀ other ∈ s.names,
    name.memory = other.memory ↔ name.shared = other.shared
  valid : ∀ name ∈ s.names, JsText.trim name.memory = name.memory ∧ name.memory ≠ "" ∧
    JsText.trim name.shared = name.shared ∧ name.shared ≠ "" ∧ isSearchSessionId name.shared = true
  indexed : Indexed s.shared
  memoryNamed : ∀ searchId ∈ s.memory.sessions, ∃ name ∈ s.names, name.memory = searchId
  sharedNamed : ∀ searchId, (Hash.hget s.shared.sessions searchId).isSome ∨
    (Hash.hget s.shared.tombstones searchId).isSome → ∃ name ∈ s.names, name.shared = searchId
  sessions : ∀ name ∈ s.names, ∀ session, s.memory.sessions.hget name.memory = some session →
    Corresponds name session (Hash.hget s.shared.sessions name.shared)
  present : ∀ name ∈ s.names, ∀ v, Hash.hget s.shared.sessions name.shared = some v →
    s.clock < v.expiresAt → name.memory ∈ s.memory.sessions
  leases : ∀ name ∈ s.names, ∀ session, s.memory.sessions.hget name.memory = some session →
    s.clock < session.expiresAt →
    LeaseAgree s.grants (memoryLease s.clock session)
      (sharedLease s.clock (Hash.hget s.shared.leases name.shared))

variable {cfg : PairSettings ρ} {s : Pair ρ} {now : Nat} {ids : Ids}

theorem agree_empty : Agree ({} : Pair ρ) := by
  refine ⟨?_, ?_, ⟨fun _ => Iff.rfl, ?_⟩, ?_, ?_, ?_, ?_, ?_⟩
  all_goals simp [StoreState.empty]

/-! ## 2. Leases at a later time -/

theorem hasActive_iff {session : SearchSession ρ} :
    hasActiveContinuationLease session now = true ↔ ∃ lockToken fence expiresAt,
      session.isContinuing = true ∧ session.continuationLock = some lockToken ∧ lockToken ≠ "" ∧
        session.continuationLockExpiresAt = some expiresAt ∧ now < expiresAt ∧
        session.continuationFencingNumber.get? = some fence ∧ 0 < fence ∧
        (fence : Int) ≤ maxSafeInteger := by
  unfold hasActiveContinuationLease
  cases session.continuationLock <;> cases session.continuationLockExpiresAt <;>
    cases session.continuationFencingNumber.get? <;> simp [and_assoc]

/-- The fields of a session that carries the lease `(lockToken, fence, expiresAt)`. -/
theorem memoryLease_eq_some {session : SearchSession ρ} {lockToken : String}
    {fence expiresAt : Nat} :
    memoryLease now session = some (lockToken, fence, expiresAt) ↔
      session.isContinuing = true ∧ session.continuationLock = some lockToken ∧ lockToken ≠ "" ∧
        session.continuationLockExpiresAt = some expiresAt ∧ now < expiresAt ∧
        session.continuationFencingNumber.get? = some fence ∧ 0 < fence ∧
        (fence : Int) ≤ maxSafeInteger := by
  unfold memoryLease
  constructor
  · intro h
    split at h
    · next hactive =>
      obtain ⟨lockToken', fence', expiresAt', hfields⟩ := hasActive_iff.mp hactive
      obtain ⟨hcontinuing, hlock, hne, hends, hlive, hfence, hpos, hsafe⟩ := hfields
      rw [hlock, hends, hfence] at h
      simp only [Option.some.injEq, Prod.mk.injEq] at h
      obtain ⟨rfl, rfl, rfl⟩ := h
      exact ⟨hcontinuing, hlock, hne, hends, hlive, hfence, hpos, hsafe⟩
    · cases h
  · intro hfields
    rw [if_pos (hasActive_iff.mpr ⟨lockToken, fence, expiresAt, hfields⟩)]
    obtain ⟨-, hlock, -, hends, -, hfence, -, -⟩ := hfields
    rw [hlock, hends, hfence]

theorem memoryLease_eq_none {session : SearchSession ρ} :
    memoryLease now session = none ↔ hasActiveContinuationLease session now = false := by
  constructor
  · intro hnone
    by_contra hactive
    obtain ⟨lockToken, fence, expiresAt, hfields⟩ :=
      hasActive_iff.mp (Bool.not_eq_false _ ▸ hactive)
    rw [memoryLease_eq_some.mpr hfields] at hnone
    cases hnone
  · intro hidle
    rw [memoryLease, hidle]
    rfl

theorem memoryLease_later {session : SearchSession ρ} {later : Nat} (hlater : now ≤ later) :
    memoryLease later session =
      (memoryLease now session).filter fun lease => decide (later < lease.2.2) := by
  refine Option.ext fun ⟨lockToken, fence, expiresAt⟩ => ?_
  rw [Option.filter_eq_some_iff, memoryLease_eq_some, memoryLease_eq_some, decide_eq_true_eq]
  constructor
  · rintro ⟨hcontinuing, hlock, hne, hends, hlive, hfence⟩
    exact ⟨⟨hcontinuing, hlock, hne, hends, by omega, hfence⟩, hlive⟩
  · rintro ⟨⟨hcontinuing, hlock, hne, hends, -, hfence⟩, hlive⟩
    exact ⟨hcontinuing, hlock, hne, hends, hlive, hfence⟩

theorem sharedLease_live {v : Volatile Lease} (hlive : now < v.expiresAt) :
    sharedLease now (some v) = some (v.value.token, v.value.fencingNumber, v.expiresAt) :=
  if_pos hlive

theorem sharedLease_later {lease : Option (Volatile Lease)} {later : Nat} (hlater : now ≤ later) :
    sharedLease later lease =
      (sharedLease now lease).filter fun lease => decide (later < lease.2.2) := by
  cases lease with
  | none => rfl
  | some v =>
    by_cases hlive : later < v.expiresAt
    · have hlive' : now < v.expiresAt := by omega
      simp [sharedLease, Option.filter_some, hlive, hlive']
    · by_cases hlive' : now < v.expiresAt <;>
        simp [sharedLease, Option.filter_some, hlive, hlive']

namespace LeaseAgree

variable {grants grants' : Hash String (Fences Nat)} {lease lease' : Option (String × Nat × Nat)}

theorem filter (h : LeaseAgree grants lease lease') (later : Nat) :
    LeaseAgree grants (lease.filter fun lease => decide (later < lease.2.2))
      (lease'.filter fun lease => decide (later < lease.2.2)) := by
  cases h with
  | none => exact .none
  | @held lockToken fence fence' expiresAt hgrant =>
    by_cases hlive : later < expiresAt
    · rw [Option.filter_some_pos (by simpa using hlive), Option.filter_some_pos (by simpa using hlive)]
      exact .held hgrant
    · rw [Option.filter_some_neg (by simpa using hlive), Option.filter_some_neg (by simpa using hlive)]
      exact .none

theorem mono (h : LeaseAgree grants lease lease')
    (hgrants : ∀ lockToken grant, grants.hget lockToken = some grant →
      grants'.hget lockToken = some grant) : LeaseAgree grants' lease lease' := by
  cases h with
  | none => exact .none
  | held hgrant => exact .held (hgrants _ _ hgrant)

end LeaseAgree

/-! ## 3. What keeps the relation -/

/-- The sessions of `m'` are those of `m` whose time is not over. -/
def Swept (now : Nat) (m m' : Memory ρ) : Prop :=
  ∀ searchId, m'.sessions.hget searchId =
    (m.sessions.hget searchId).filter fun session => decide (now < session.expiresAt)

theorem swept (m : Memory ρ) (now : Nat) : Swept now m (m.removeExpiredSessions now) :=
  m.hget_removeExpiredSessions now

theorem Swept.again {m m' : Memory ρ} (h : Swept now m m') :
    Swept now m (m'.removeExpiredSessions now) := by
  intro searchId
  rw [Memory.hget_removeExpiredSessions, h searchId, Option.filter_filter]
  simp

theorem Swept.hget {m m' : Memory ρ} (h : Swept now m m') {searchId : SearchId}
    {session : SearchSession ρ} : m'.sessions.hget searchId = some session ↔
      m.sessions.hget searchId = some session ∧ now < session.expiresAt := by
  rw [h searchId, Option.filter_eq_some_iff, decide_eq_true_eq]

namespace Agree

theorem later (h : Agree s) (hnow : s.clock ≤ now) : Agree { s with clock := now } := by
  refine { h with present := ?_, leases := ?_ }
  · intro name hname v hstored hlive
    exact h.present name hname v hstored (Nat.lt_of_le_of_lt hnow hlive)
  · intro name hname session hstored hlive
    have hlease := (h.leases name hname session hstored (Nat.lt_of_le_of_lt hnow hlive)).filter now
    rwa [← memoryLease_later hnow, ← sharedLease_later hnow] at hlease

theorem sweep (h : Agree s) {m : Memory ρ} (hswept : Swept s.clock s.memory m) :
    Agree { s with memory := m } := by
  have hkept : ∀ {searchId session}, m.sessions.hget searchId = some session →
      s.memory.sessions.hget searchId = some session := fun hstored => (hswept.hget.mp hstored).1
  refine { h with memoryNamed := ?_, sessions := ?_, present := ?_, leases := ?_ }
  · intro searchId hmem
    obtain ⟨session, hstored⟩ := Hash.mem_iff_hget.mp hmem
    exact h.memoryNamed searchId (Hash.mem_of_hget (hkept hstored))
  · exact fun name hname session hstored => h.sessions name hname session (hkept hstored)
  · intro name hname v hstored hlive
    obtain ⟨session, hsession⟩ := Hash.mem_iff_hget.mp (h.present name hname v hstored hlive)
    obtain ⟨envelope, hkey, -⟩ := (h.sessions name hname session hsession).stored
    rw [hstored] at hkey
    cases hkey
    exact Hash.mem_of_hget (hswept.hget.mpr ⟨hsession, hlive⟩)
  · exact fun name hname session hstored => h.leases name hname session (hkept hstored)

/-- When no session in memory is past its time, the shared store can remove its own. -/
theorem reapShared (h : Agree s)
    (hlive : ∀ searchId session, s.memory.sessions.hget searchId = some session →
      s.clock < session.expiresAt) : Agree { s with shared := (reap s.shared s.clock).2 } := by
  have hkept : ∀ {searchId v}, Hash.hget (reap s.shared s.clock).2.sessions searchId = some v →
      Hash.hget s.shared.sessions searchId = some v := fun hstored => reap_vanish _ _ _ _ hstored
  refine
    { h with
      indexed := h.indexed.reap s.clock
      sharedNamed := ?_
      sessions := ?_
      present := ?_
      leases := ?_ }
  · rintro searchId (hsession | htombstone)
    · obtain ⟨v, hstored⟩ := Option.isSome_iff_exists.mp hsession
      exact h.sharedNamed searchId (.inl (Option.isSome_iff_exists.mpr ⟨v, hkept hstored⟩))
    · rw [reap_state] at htombstone
      exact h.sharedNamed searchId (.inr htombstone)
  · intro name hname session hstored
    obtain ⟨hnamed, envelope, hkey, hsame⟩ := h.sessions name hname session hstored
    exact ⟨hnamed, envelope, reap_keeps h.indexed hkey (hlive _ _ hstored), hsame⟩
  · exact fun name hname v hstored => h.present name hname v (hkept hstored)
  · intro name hname session hstored hends
    rw [reap_state]
    exact h.leases name hname session hstored hends

/-- New grants of fresh tokens leave the leases as they are. -/
theorem grant (h : Agree s) {grants : Hash String (Fences Nat)}
    (hgrants : ∀ lockToken grant, s.grants.hget lockToken = some grant →
      grants.hget lockToken = some grant) : Agree { s with grants := grants } :=
  { h with
    leases := fun name hname session hstored hends =>
      (h.leases name hname session hstored hends).mono hgrants }

/-- A new name for ids that neither store knows. -/
theorem name (h : Agree s) {name : Ids} (hnew : NewIds s name) :
    Agree { s with names := name :: s.names } := by
  obtain ⟨hfresh, hvalid⟩ := hnew
  have hmemory : s.memory.sessions.hget name.memory = none := by
    rw [← Hash.notMem_iff_hget]
    intro hmem
    obtain ⟨other, hother, heq⟩ := h.memoryNamed _ hmem
    exact (hfresh other hother).1 heq
  have hshared : Hash.hget s.shared.sessions name.shared = none := by
    by_contra hstored
    obtain ⟨other, hother, heq⟩ := h.sharedNamed _ (.inl (Option.isSome_iff_ne_none.mpr hstored))
    exact (hfresh other hother).2 heq
  refine ⟨?_, ?_, h.indexed, ?_, ?_, ?_, ?_, ?_⟩
  · simp only [List.forall_mem_cons, true_and]
    refine ⟨fun other hother => ?_, fun other hother => ⟨?_, h.injective other hother⟩⟩
    · have hne := hfresh other hother
      exact ⟨fun heq => absurd heq.symm hne.1, fun heq => absurd heq.symm hne.2⟩
    · have hne := hfresh other hother
      exact ⟨fun heq => absurd heq hne.1, fun heq => absurd heq hne.2⟩
  · exact List.forall_mem_cons.mpr ⟨hvalid, h.valid⟩
  · intro searchId hmem
    obtain ⟨other, hother, heq⟩ := h.memoryNamed searchId hmem
    exact ⟨other, List.mem_cons_of_mem _ hother, heq⟩
  · intro searchId hknown
    obtain ⟨other, hother, heq⟩ := h.sharedNamed searchId hknown
    exact ⟨other, List.mem_cons_of_mem _ hother, heq⟩
  · refine List.forall_mem_cons.mpr ⟨fun session hstored => ?_, h.sessions⟩
    rw [hmemory] at hstored
    cases hstored
  · refine List.forall_mem_cons.mpr ⟨fun v hstored => ?_, h.present⟩
    rw [hshared] at hstored
    cases hstored
  · refine List.forall_mem_cons.mpr ⟨fun session hstored => ?_, h.leases⟩
    rw [hmemory] at hstored
    cases hstored

/-- Both stores write a session under one name. -/
theorem put (h : Agree s) {name : Ids} (hname : name ∈ s.names) {m : Memory ρ} {st : StoreState ρ}
    {session : SearchSession ρ} {envelope : Envelope ρ}
    (hmemory : m.sessions = s.memory.sessions.hset name.memory session)
    (hshared : ∀ searchId, Hash.hget st.sessions searchId =
      if searchId = name.shared then some ⟨envelope, session.expiresAt⟩
      else Hash.hget s.shared.sessions searchId)
    (hleases : ∀ searchId, searchId ≠ name.shared →
      Hash.hget st.leases searchId = Hash.hget s.shared.leases searchId)
    (htombstones : ∀ searchId, (Hash.hget st.tombstones searchId).isSome →
      searchId = name.shared ∨ (Hash.hget s.shared.tombstones searchId).isSome)
    (hindexed : Indexed st) (hnamed : session.searchId = name.memory)
    (hnamed' : envelope.session.searchId = name.shared)
    (hsame : SameSession s.names session envelope.session)
    (hlease : LeaseAgree s.grants (memoryLease s.clock session)
      (sharedLease s.clock (Hash.hget st.leases name.shared))) :
    Agree { s with memory := m, shared := st } := by
  -- Another name differs in both ids.
  have hother : ∀ other ∈ s.names, other.memory ≠ name.memory → other.shared ≠ name.shared :=
    fun other hmem hne heq => hne ((h.injective other hmem name hname).mpr heq)
  have hstored : ∀ other ∈ s.names, other.memory = name.memory → other = name := by
    rintro ⟨a, b⟩ hmem rfl
    have hb : b = name.shared := (h.injective _ hmem name hname).mp rfl
    rw [hb]
  refine ⟨h.injective, h.valid, hindexed, ?_, ?_, ?_, ?_, ?_⟩
  · intro searchId hmem
    rw [hmemory, Hash.mem_hset] at hmem
    rcases hmem with rfl | hmem
    · exact ⟨name, hname, rfl⟩
    · exact h.memoryNamed searchId hmem
  · intro searchId hknown
    by_cases heq : searchId = name.shared
    · exact ⟨name, hname, heq.symm⟩
    · refine h.sharedNamed searchId (hknown.imp (fun hsession => ?_) fun htombstone => ?_)
      · rwa [hshared, if_neg heq] at hsession
      · exact (htombstones searchId htombstone).resolve_left heq
  · intro other hmem session' hsession
    rw [hmemory, Hash.hget_hset] at hsession
    by_cases heq : other.memory = name.memory
    · rw [if_pos heq] at hsession
      cases hsession
      rw [hstored other hmem heq, hshared, if_pos rfl]
      exact ⟨hnamed, envelope, rfl, hnamed', hsame.2⟩
    · rw [if_neg heq] at hsession
      rw [hshared, if_neg (hother other hmem heq)]
      exact h.sessions other hmem session' hsession
  · intro other hmem v hsession hends
    rw [hmemory, Hash.mem_hset]
    by_cases heq : other.memory = name.memory
    · exact .inl heq
    · rw [hshared, if_neg (hother other hmem heq)] at hsession
      exact .inr (h.present other hmem v hsession hends)
  · intro other hmem session' hsession hends
    rw [hmemory, Hash.hget_hset] at hsession
    by_cases heq : other.memory = name.memory
    · rw [if_pos heq] at hsession
      cases hsession
      rw [hstored other hmem heq]
      exact hlease
    · rw [if_neg heq] at hsession
      rw [hleases _ (hother other hmem heq)]
      exact h.leases other hmem session' hsession hends

end Agree

/-! ## 4. One id in both stores -/

/-- Both stores have the session of a name. -/
structure Found (s : Pair ρ) (name : Ids) (session : SearchSession ρ) (envelope : Envelope ρ) :
    Prop where
  named : name ∈ s.names
  memory : s.memory.sessions.hget name.memory = some session
  live : s.clock < session.expiresAt
  shared : Hash.hget s.shared.sessions name.shared = some ⟨envelope, session.expiresAt⟩
  searchId : session.searchId = name.memory
  searchId' : envelope.session.searchId = name.shared
  same : SameSession s.names session envelope.session
  lease : LeaseAgree s.grants (memoryLease s.clock session)
    (sharedLease s.clock (Hash.hget s.shared.leases name.shared))
  key : s.shared.leases.get s.clock name.shared =
    (sharedLease s.clock (Hash.hget s.shared.leases name.shared)).map fun lease =>
      ⟨lease.1, lease.2.1⟩

/-- Neither store has it. -/
structure Missing (s : Pair ρ) (name : Ids) : Prop where
  memory : ∀ session, s.memory.sessions.hget name.memory = some session →
    session.expiresAt ≤ s.clock
  shared : s.shared.sessions.get s.clock name.shared = none
  empty : name.memory = "" ↔ name.shared = ""

/-- What `GET` reads is the lease that has not ended, off the millisecond in which it ends. -/
theorem leases_get {leases : Keyspace SearchId Lease} {searchId : SearchId}
    (hoff : (Hash.hget leases searchId).map Volatile.expiresAt ≠ some now) :
    leases.get now searchId =
      (sharedLease now (Hash.hget leases searchId)).map fun lease => ⟨lease.1, lease.2.1⟩ := by
  unfold Keyspace.get sharedLease
  cases hstored : Hash.hget leases searchId with
  | none => rfl
  | some v =>
    rw [hstored] at hoff
    have hne : v.expiresAt ≠ now := fun heq => hoff (congrArg some heq)
    by_cases hlive : now < v.expiresAt
    · simp [hlive, Nat.le_of_lt hlive]
    · have hends : ¬now ≤ v.expiresAt := by omega
      simp [hlive, hends]

/-- A session key that is absent or has ended reads as absent. -/
theorem sessions_get_none {sessions : Keyspace SearchId (Envelope ρ)} {searchId : SearchId}
    (hends : ∀ v, Hash.hget sessions searchId = some v → v.expiresAt < now) :
    sessions.get now searchId = none := by
  by_contra hlive
  obtain ⟨envelope, hlive⟩ := Option.ne_none_iff_exists'.mp hlive
  obtain ⟨expiresAt, hstored, hle⟩ := Keyspace.get_eq_some.mp hlive
  have hlt := hends _ hstored
  simp only at hlt
  omega

theorem Agree.focus_name (h : Agree s) {name : Ids} (hname : name ∈ s.names)
    (hoff : OffTick s name.shared s.clock) :
    Missing s name ∨ ∃ session envelope, Found s name session envelope := by
  obtain ⟨-, hne, -, hne', -⟩ := h.valid name hname
  have hempty : name.memory = "" ↔ name.shared = "" := iff_of_false hne hne'
  by_cases hlive : ∃ session, s.memory.sessions.hget name.memory = some session ∧
      s.clock < session.expiresAt
  · obtain ⟨session, hmemory, hlive⟩ := hlive
    obtain ⟨hid, envelope, hshared, hid', hsame⟩ := h.sessions name hname session hmemory
    refine .inr ⟨session, envelope, hname, hmemory, hlive, hshared, hid, hid', ⟨?_, hsame⟩,
      h.leases name hname session hmemory hlive, leases_get hoff.2⟩
    rw [hid, hid']
    exact hname
  · refine .inl ⟨fun session hmemory => ?_, sessions_get_none fun v hshared => ?_, hempty⟩
    · by_contra hends
      exact hlive ⟨session, hmemory, by omega⟩
    · have hends : ¬s.clock < v.expiresAt := by
        intro hlive'
        obtain ⟨session, hmemory⟩ := Hash.mem_iff_hget.mp (h.present name hname v hshared hlive')
        obtain ⟨-, envelope, hshared', -⟩ := h.sessions name hname session hmemory
        rw [hshared] at hshared'
        cases hshared'
        exact hlive ⟨session, hmemory, hlive'⟩
      have hne := hoff.1
      rw [hshared] at hne
      have hne : v.expiresAt ≠ s.clock := fun heq => hne (congrArg some heq)
      omega

theorem Agree.focus (h : Agree s) (hids : SameIds s ids)
    (hoff : OffTick s (JsText.trim ids.shared) s.clock) :
    Missing s ⟨JsText.trim ids.memory, JsText.trim ids.shared⟩ ∨
      ∃ session envelope,
        Found s ⟨JsText.trim ids.memory, JsText.trim ids.shared⟩ session envelope := by
  rcases hids with hname | ⟨heq, hunknown⟩
  · exact h.focus_name hname hoff
  · rw [← heq]
    refine .inl ⟨fun session hmemory => ?_, sessions_get_none fun v hshared => ?_, Iff.rfl⟩
    · obtain ⟨name, hname, hsame⟩ := h.memoryNamed _ (Hash.mem_of_hget hmemory)
      exact absurd hsame (hunknown name hname).1
    · obtain ⟨name, hname, hsame⟩ := h.sharedNamed _ (.inl (Option.isSome_iff_exists.mpr ⟨v, hshared⟩))
      exact absurd hsame (hunknown name hname).2

namespace Missing

variable {name : Ids}

theorem swept (hmissing : Missing s name) {m : Memory ρ} (hswept : Swept s.clock s.memory m) :
    m.sessions.hget name.memory = none := by
  by_contra hstored
  obtain ⟨session, hstored⟩ := Option.ne_none_iff_exists'.mp hstored
  obtain ⟨hmemory, hlive⟩ := hswept.hget.mp hstored
  have hends := hmissing.memory session hmemory
  omega

/-- Both stores find nothing to act on, and say so in errors of the same kind. -/
theorem require (hmissing : Missing s ⟨JsText.trim ids.memory, JsText.trim ids.shared⟩)
    {m : Memory ρ} (hswept : Swept s.clock s.memory m) (generation : String) :
    ∃ error error', m.requireSearchSession generation ids.memory = .error error ∧
      Shared.requireSearchSession s.shared ids.shared s.clock = .error error' ∧
        AlikeError error error' := by
  have hgone := hmissing.swept hswept
  have hempty : JsText.trim ids.memory = "" ↔ JsText.trim ids.shared = "" := hmissing.empty
  by_cases hblank : JsText.trim ids.memory = ""
  · refine ⟨searchIdRequired, searchIdRequired, ?_, ?_, .same _⟩
    · simp only [Memory.requireSearchSession, hgone, Memory.getSearchSessionState, if_pos hblank,
        SearchSessionState.error]
    · simp only [Shared.requireSearchSession, getLocalSearchSessionState, if_pos (hempty.mp hblank),
        SearchSessionState.error]
  · have hmemory : ∃ error ∈ [sessionExpired, sessionNotFound],
        m.requireSearchSession generation ids.memory = .error error := by
      have habsent : JsText.trim ids.memory ∉ m.sessions := Hash.notMem_iff_hget.mpr hgone
      simp only [Memory.requireSearchSession, hgone, Memory.getSearchSessionState, if_neg hblank,
        if_neg habsent]
      split
      · exact ⟨sessionExpired, by simp, rfl⟩
      split
      · exact ⟨sessionExpired, by simp, rfl⟩
      · exact ⟨sessionNotFound, by simp, rfl⟩
    have hshared : ∃ error ∈ [sessionExpired, sessionNotFound],
        Shared.requireSearchSession s.shared ids.shared s.clock = .error error := by
      simp only [Shared.requireSearchSession, getLocalSearchSessionState,
        if_neg (fun hblank' => hblank (hempty.mpr hblank')), hmissing.shared]
      split
      · next state hstate =>
        split at hstate
        · cases hstate
        split at hstate
        · cases hstate
          exact ⟨sessionExpired, by simp, rfl⟩
        · cases hstate
          exact ⟨sessionNotFound, by simp, rfl⟩
      · split
        · exact ⟨sessionExpired, by simp, rfl⟩
        · exact ⟨sessionNotFound, by simp, rfl⟩
    obtain ⟨error, hkind, hmemory⟩ := hmemory
    obtain ⟨error', hkind', hshared⟩ := hshared
    exact ⟨error, error', hmemory, hshared, .gone hkind hkind'⟩

/-- The shared store shows no session either way. -/
theorem read (hmissing : Missing s ⟨JsText.trim ids.memory, JsText.trim ids.shared⟩) :
    Shared.readSearchSession s.shared ids.shared s.clock = none := by
  unfold Shared.readSearchSession
  split
  · rfl
  · rw [hmissing.shared]
    rfl

end Missing

namespace Found

variable {name : Ids} {session : SearchSession ρ} {envelope : Envelope ρ}

theorem swept (hfound : Found s name session envelope) {m : Memory ρ}
    (hswept : Swept s.clock s.memory m) : m.sessions.hget name.memory = some session :=
  hswept.hget.mpr ⟨hfound.memory, hfound.live⟩

theorem get (hfound : Found s name session envelope) :
    s.shared.sessions.get s.clock name.shared = some envelope :=
  Keyspace.get_eq_some.mpr ⟨session.expiresAt, hfound.shared, Nat.le_of_lt hfound.live⟩

theorem require (h : Agree s)
    (hfound : Found s ⟨JsText.trim ids.memory, JsText.trim ids.shared⟩ session envelope)
    {m : Memory ρ} (hswept : Swept s.clock s.memory m) (generation : String) :
    m.requireSearchSession generation ids.memory = .ok session ∧
      Shared.requireSearchSession s.shared ids.shared s.clock = .ok envelope.session := by
  obtain ⟨-, hne, -, hne', hpattern⟩ := h.valid _ hfound.named
  simp only at hne hne' hpattern
  have hstored := hfound.swept hswept
  constructor
  · simp only at hstored
    simp only [Memory.requireSearchSession, hstored, Memory.getSearchSessionState, if_neg hne,
      if_pos (Hash.mem_of_hget hstored)]
  · have hget := hfound.get
    simp only at hget
    simp only [Shared.requireSearchSession, getLocalSearchSessionState, if_neg hne', if_pos hpattern,
      hget]

theorem read (h : Agree s)
    (hfound : Found s ⟨JsText.trim ids.memory, JsText.trim ids.shared⟩ session envelope) :
    Shared.readSearchSession s.shared ids.shared s.clock = some envelope.session := by
  obtain ⟨-, -, -, hne', hpattern⟩ := h.valid _ hfound.named
  simp only at hne' hpattern
  have hget := hfound.get
  simp only at hget
  simp only [Shared.readSearchSession, getLocalSearchSessionState, if_neg hne', if_pos hpattern, hget,
    Option.map_some]

/-- The two sides of a lease: none, or one token under the two numbers it was granted with. -/
theorem lease_cases (hfound : Found s name session envelope) :
    (memoryLease s.clock session = none ∧ s.shared.leases.get s.clock name.shared = none) ∨
    ∃ lockToken fence fence' expiresAt,
      memoryLease s.clock session = some (lockToken, fence, expiresAt) ∧
      s.shared.leases.get s.clock name.shared = some ⟨lockToken, fence'⟩ ∧
      s.grants.hget lockToken = some ⟨fence, fence'⟩ := by
  have hlease := hfound.lease
  rw [hfound.key]
  generalize memoryLease s.clock session = lease at hlease ⊢
  generalize sharedLease s.clock (Hash.hget s.shared.leases name.shared) = lease' at hlease ⊢
  cases hlease with
  | none => exact .inl ⟨rfl, rfl⟩
  | held hgrant => exact .inr ⟨_, _, _, _, rfl, rfl, hgrant⟩

/-- Both stores refuse a write for the same reason. -/
theorem write_refused (hfound : Found s name session envelope) {lockToken : String}
    {fences : Fences Int} (hfences : SameFences s lockToken fences) :
    assertContinuationWriteAllowed session (getLeaseContext lockToken fences.memory) s.clock =
      (leaseRefusal s.shared.leases name.shared s.clock
        (getLeaseContext lockToken fences.shared)).map writeFailure := by
  obtain ⟨hsome, hnumbers⟩ := hfences
  rcases hfound.lease_cases with ⟨hnone, hnone'⟩ | ⟨held, fence, fence', expiresAt, hheld, hheld', hgrant⟩
  · have hidle := memoryLease_eq_none.mp hnone
    cases hmemory : getLeaseContext lockToken fences.memory <;>
      cases hshared : getLeaseContext lockToken fences.shared <;>
      simp_all [assertContinuationWriteAllowed, leaseRefusal]
  · obtain ⟨hcontinuing, hlock, hne, hends, hlive, hfence, hpos, hsafe⟩ := memoryLease_eq_some.mp hheld
    have hactive : hasActiveContinuationLease session s.clock = true :=
      hasActive_iff.mpr ⟨held, fence, expiresAt, hcontinuing, hlock, hne, hends, hlive, hfence, hpos,
        hsafe⟩
    cases hmemory : getLeaseContext lockToken fences.memory with
    | none =>
      cases hshared : getLeaseContext lockToken fences.shared with
      | none => simp [assertContinuationWriteAllowed, leaseRefusal, hactive, hheld']
      | some lease => simp [hmemory, hshared] at hsome
    | some lease =>
      cases hshared : getLeaseContext lockToken fences.shared with
      | none => simp [hmemory, hshared] at hsome
      | some lease' =>
        obtain ⟨htoken, hnumber⟩ := getLeaseContext_eq_some hmemory
        obtain ⟨htoken', hnumber'⟩ := getLeaseContext_eq_some hshared
        simp only [assertContinuationWriteAllowed, leaseRefusal, hactive, hheld', hlock, hfence, htoken,
          htoken', Bool.true_eq_false, false_or, ne_eq, Option.some.injEq, Lease.mk.injEq]
        by_cases hsame : held = lockToken
        · -- The numbers of one grant are asked for together.
          have hboth : fence = lease.fencingNumber ↔ fence' = lease'.fencingNumber := by
            have hasked := hnumbers _ (hsame ▸ hgrant)
            rwa [← hnumber, ← hnumber', Int.ofNat_inj, Int.ofNat_inj] at hasked
          by_cases hown : fence = lease.fencingNumber
          · simp [hsame, hown, hboth.mp hown]
          · have hown' : fence' ≠ lease'.fencingNumber := fun heq => hown (hboth.mpr heq)
            simp [hsame, hown, hown']
        · simp [hsame]

end Found

end SmartStay.Session.Compatibility
