import SmartStay.Session.Atomic

/-!
# Ownership of the initial search

A worker claims the initial search of a session under the admission token and fence of its
attempt; its later updates are written in the lock mode `initial-owned`. Any number of
calls interleave, and each of them works on a snapshot.

1. The log: claims, owned updates, and `InitialSearchFenced`.
2. What the calls may write (`Operation.Allowed`), and what they write.
3. What the guards of the write script say about the replaced session.
4. `Guarded`: the stored session against the log.
5. `initial_search_fenced`: in every run.
-/

namespace SmartStay.Session

variable {ρ : Type}

/-! ## 1. The log -/

/-- `Number(session.initialSearchFencingNumber) || 0`. -/
def initialFence (session : SearchSession ρ) : Nat :=
  session.initialSearchFencingNumber.get?.getD 0

/-- The initial stage is complete or failed. -/
def initialTerminal (session : SearchSession ρ) : Prop :=
  session.initialSearchStage = .value .complete ∨ session.initialSearchStage = .value .failed

/-- The execution of a committed claim. -/
def Commit.claim? (c : Commit ρ) : Option InitialSearchExecution :=
  match c.operation with
  | .claim execution => some execution
  | .mutate _ _ _ | .renew _ | .release _ _ => none

/-- The execution of a committed owned update. -/
def Commit.owned? (c : Commit ρ) : Option InitialSearchExecution :=
  match c.operation with
  | .mutate _ _ execution => execution
  | .claim _ | .renew _ | .release _ _ => none

/-- The claim of the session `k` that was committed last. -/
def latestClaim (k : SearchId) : List (Commit ρ) → Option InitialSearchExecution
  | [] => none
  | c :: older => if c.searchId = k ∧ c.claim?.isSome then c.claim? else latestClaim k older

/-- The fencing discipline of a log, newest commit first. -/
structure InitialSearchFenced (commits : List (Commit ρ)) : Prop where
  /-- The claims of a session carry increasing fences. -/
  claims : commits.Pairwise fun newer older => newer.searchId = older.searchId →
    ∀ x y, newer.claim? = some x → older.claim? = some y → y.fencingNumber < x.fencingNumber
  /-- An owned update carries the token and the fence of the claim in force. -/
  owned : ∀ newer u older, commits = newer ++ u :: older → ∀ x, u.owned? = some x →
    latestClaim u.searchId older = some x
  /-- After a claim, no owned update carries a smaller fence, or its fence with another
  token. -/
  stale : commits.Pairwise fun newer older => newer.searchId = older.searchId →
    ∀ x y, newer.owned? = some x → older.claim? = some y →
      y.fencingNumber ≤ x.fencingNumber ∧
        (y.fencingNumber = x.fencingNumber → y.executionToken = x.executionToken)
  /-- After the stage is complete or failed, no claim and no owned update. -/
  closed : commits.Pairwise fun newer older => newer.searchId = older.searchId →
    initialTerminal older.after.session → newer.operation.execution? = none

theorem execution?_some {c : Commit ρ} {x : InitialSearchExecution}
    (h : c.operation.execution? = some x) : c.claim? = some x ∨ c.owned? = some x := by
  obtain ⟨k, op, before, after⟩ := c
  cases op with
  | claim y => exact .inl h
  | mutate m lease y => exact .inr h
  | renew lease => cases h
  | release lease updates => cases h

theorem claim?_some {c : Commit ρ} {x : InitialSearchExecution} (h : c.claim? = some x) :
    c.operation = .claim x := by
  obtain ⟨k, op, before, after⟩ := c
  cases op with
  | claim y => exact congrArg Operation.claim (Option.some.inj h)
  | mutate _ _ _ | renew _ | release _ _ => cases h

theorem owned?_some {c : Commit ρ} {x : InitialSearchExecution} (h : c.owned? = some x) :
    ∃ mutation lease, c.operation = .mutate mutation lease (some x) := by
  obtain ⟨k, op, before, after⟩ := c
  cases op with
  | mutate m lease y => exact ⟨m, lease, congrArg (Operation.mutate m lease) h⟩
  | claim _ | renew _ | release _ _ => cases h

theorem latestClaim_cons_none {c : Commit ρ} (h : c.claim? = none) (k : SearchId)
    (older : List (Commit ρ)) : latestClaim k (c :: older) = latestClaim k older := by
  simp [latestClaim, h]

theorem latestClaim_cons_other {c : Commit ρ} {k : SearchId} (h : c.searchId ≠ k)
    (older : List (Commit ρ)) : latestClaim k (c :: older) = latestClaim k older := by
  simp [latestClaim, h]

/-- While claims increase, the last one carries the largest fence, and no other claim
carries it. -/
theorem latestClaim_largest {commits : List (Commit ρ)}
    (hclaims : commits.Pairwise fun newer older => newer.searchId = older.searchId →
      ∀ x y, newer.claim? = some x → older.claim? = some y → y.fencingNumber < x.fencingNumber)
    {k : SearchId} {x y : InitialSearchExecution} (hx : latestClaim k commits = some x)
    {c : Commit ρ} (hc : c ∈ commits) (hk : c.searchId = k) (hy : c.claim? = some y) :
    y.fencingNumber < x.fencingNumber ∨ y = x := by
  induction commits with
  | nil => cases hc
  | cons head older ih =>
    obtain ⟨hhead, hrest⟩ := List.pairwise_cons.mp hclaims
    by_cases hlast : head.searchId = k ∧ head.claim?.isSome
    · rw [latestClaim, if_pos hlast] at hx
      rcases List.mem_cons.mp hc with rfl | hc
      · exact .inr (Option.some.inj (hy.symm.trans hx))
      · exact .inl (hhead c hc (hlast.1.trans hk.symm) x y hx hy)
    · rw [latestClaim, if_neg hlast] at hx
      rcases List.mem_cons.mp hc with rfl | hc
      · exact absurd ⟨hk, by rw [hy]; rfl⟩ hlast
      · exact ih hrest hx hc

/-- One more commit. -/
theorem InitialSearchFenced.cons {c : Commit ρ} {older : List (Commit ρ)}
    (h : InitialSearchFenced older)
    (hclaim : ∀ x, c.claim? = some x → ∀ c' ∈ older, c.searchId = c'.searchId →
      ∀ y, c'.claim? = some y → y.fencingNumber < x.fencingNumber)
    (howned : ∀ x, c.owned? = some x → latestClaim c.searchId older = some x)
    (hclosed : ∀ c' ∈ older, c.searchId = c'.searchId → initialTerminal c'.after.session →
      c.operation.execution? = none) : InitialSearchFenced (c :: older) := by
  constructor
  case claims =>
    exact List.pairwise_cons.mpr
      ⟨fun c' hc' hk x y hx hy => hclaim x hx c' hc' hk y hy, h.claims⟩
  case owned =>
    intro newer u older' heq x hx
    cases newer with
    | nil =>
      cases heq
      exact howned x hx
    | cons head newer =>
      cases heq
      exact h.owned newer u older' rfl x hx
  case stale =>
    refine List.pairwise_cons.mpr ⟨fun c' hc' hk x y hx hy => ?_, h.stale⟩
    rcases latestClaim_largest h.claims (howned x hx) hc' hk.symm hy with hlt | rfl
    · exact ⟨Nat.le_of_lt hlt, fun heq => absurd heq (Nat.ne_of_lt hlt)⟩
    · exact ⟨Nat.le_refl _, fun _ => rfl⟩
  case closed => exact List.pairwise_cons.mpr ⟨hclosed, h.closed⟩

/-! ## 2. What the calls write -/

/-- The updates set none of the `initialSearch*` fields. -/
def SessionUpdates.SetsNoInitial (updates : SessionUpdates ρ) : Prop :=
  updates.initialSearchStage = none ∧ updates.initialSearchExecutionToken = none ∧
    updates.initialSearchFencingNumber = none

def Mutation.SetsNoInitial : Mutation ρ → Prop
  | .assign updates => updates.SetsNoInitial
  | .lock _ | .appendHotels _ => True

/-- The mutation of `updateInitialSearchExecution`, whose callers set a stage and give up
the token, and never set a fence. -/
def Mutation.OwnedInitial : Mutation ρ → Prop
  | .assign updates => ∃ given : SessionUpdates ρ, updates = initialSearchUpdates given ∧
      given.initialSearchFencingNumber = none ∧
      (given.initialSearchExecutionToken = none ∨ given.initialSearchExecutionToken = some none)
  | .lock _ | .appendHotels _ => True

/-- An operation of the store as its callers issue it. No admission token is the text that
Lua gives the null value. -/
def Operation.Allowed (nullText : String) : Operation ρ → Prop
  | .claim execution => execution.executionToken ≠ nullText
  | .mutate mutation _ none => mutation.SetsNoInitial
  | .mutate mutation _ (some execution) =>
    execution.executionToken ≠ nullText ∧ mutation.OwnedInitial
  | .renew _ => True
  | .release _ updates => updates.SetsNoInitial

theorem assign_setsNoInitial {updates : SessionUpdates ρ} (h : updates.SetsNoInitial)
    (session : SearchSession ρ) :
    (session.assign updates).initialSearchStage = session.initialSearchStage ∧
    (session.assign updates).initialSearchExecutionToken = session.initialSearchExecutionToken ∧
    (session.assign updates).initialSearchFencingNumber = session.initialSearchFencingNumber := by
  obtain ⟨hstage, htoken, hfence⟩ := h
  simp [SearchSession.assign, hstage, htoken, hfence]

theorem candidate_setsNoInitial {mutation : Mutation ρ} (h : mutation.SetsNoInitial)
    (leaseExpiresAt : Nat) (session : SearchSession ρ) :
    (mutation.candidate leaseExpiresAt session).SetsNoInitial := by
  cases mutation with
  | assign updates => exact h
  | lock lease => exact ⟨rfl, rfl, rfl⟩
  | appendHotels hotels => exact ⟨rfl, rfl, rfl⟩

variable {cfg : StoreSettings ρ}

/-- An operation without an execution leaves the `initialSearch*` fields alone. -/
theorem nextSession_ordinary (cfg : StoreSettings ρ) {nullText : String} {op : Operation ρ}
    (h : op.Allowed nullText)
    (hnone : op.execution? = none) (now : Nat) (session : SearchSession ρ) :
    (nextSession cfg now session op).initialSearchStage = session.initialSearchStage ∧
    (nextSession cfg now session op).initialSearchExecutionToken =
      session.initialSearchExecutionToken ∧
    (nextSession cfg now session op).initialSearchFencingNumber =
      session.initialSearchFencingNumber := by
  cases op with
  | claim x => cases hnone
  | mutate mutation lease execution =>
    cases execution with
    | none => exact assign_setsNoInitial (candidate_setsNoInitial h _ session) session
    | some x => cases hnone
  | renew lease => exact ⟨rfl, rfl, rfl⟩
  | release lease updates => exact assign_setsNoInitial h session

/-- An owned update keeps the fence, keeps or gives up the token, and gives it up with a
terminal stage. -/
theorem nextSession_owned {mutation : Mutation ρ} (h : mutation.OwnedInitial)
    (lease : Option LeaseContext) (x : InitialSearchExecution) (now : Nat)
    (session : SearchSession ρ) :
    (nextSession cfg now session (.mutate mutation lease (some x))).initialSearchFencingNumber =
      session.initialSearchFencingNumber ∧
    ((nextSession cfg now session (.mutate mutation lease (some x))).initialSearchExecutionToken =
        .null ∨
      (nextSession cfg now session (.mutate mutation lease (some x))).initialSearchExecutionToken =
          session.initialSearchExecutionToken ∧
        (initialTerminal (nextSession cfg now session (.mutate mutation lease (some x))) →
          initialTerminal session)) := by
  cases mutation with
  | lock lease => exact ⟨rfl, .inr ⟨rfl, id⟩⟩
  | appendHotels hotels => exact ⟨rfl, .inr ⟨rfl, id⟩⟩
  | assign updates =>
    obtain ⟨given, rfl, hfence, htoken⟩ := h
    simp only [nextSession, Mutation.candidate, initialTerminal, SearchSession.assign,
      initialSearchUpdates]
    by_cases hterm : given.initialSearchStage.any InitialSearchStage.isTerminal = true
    · simp [hterm, hfence, JsonField.ofOption]
    · simp only [hterm]
      refine ⟨by simp [hfence], ?_⟩
      rcases htoken with htoken | htoken
      · refine .inr ⟨by simp [htoken], fun ht => ?_⟩
        cases hstage : given.initialSearchStage with
        | none => simpa [hstage] using ht
        | some stage => cases stage <;> simp [hstage, InitialSearchStage.isTerminal] at hterm ht
      · exact .inl (by simp [htoken, JsonField.ofOption])

/-! ## 3. The guards -/

variable {s t : System ρ}

section Guards
variable {call : SessionCall ρ} {current : Envelope ρ} {now : Nat}

theorem decoded_current {st : StoreState ρ} {k : SearchId} {op : Operation ρ}
    (hcur : st.sessions.get now k = some current) :
    decoded st k (writeArgs cfg now current op) = some current := by
  have hrev : (writeArgs cfg now current op).expectedRevision ≠ -1 := by
    simp only [writeArgs]
    omega
  rw [decoded, if_neg hrev]
  exact hcur

/-- A committed claim replaces a session whose stage is open and whose fence is smaller. -/
theorem Committed.claim_guard (h : Committed cfg s t call current now)
    (hcur : (reap s.store now).2.sessions.get now call.searchId = some current)
    {x : InitialSearchExecution} (hop : call.operation = .claim x) :
    ¬ initialTerminal current.session ∧ initialFence current.session < x.fencingNumber := by
  obtain ⟨e, fence, hdec, hcomplete, hfailed, hfence, hlt⟩ :=
    h.passes.claim (by simp [writeArgs, hop, Operation.lockMode])
  rw [decoded_current hcur] at hdec
  cases hdec
  refine ⟨fun ht => ht.elim hcomplete hfailed, ?_⟩
  have hx : (writeArgs cfg now current call.operation).initialFencingNumber = x.fencingNumber := by
    simp [writeArgs, hop, Operation.execution?]
  have hcurrent : initialFence current.session ≤ fence := by
    unfold initialFence
    cases hfield : current.session.initialSearchFencingNumber with
    | value n =>
      rw [hfield] at hfence
      cases hfence
      exact Nat.le_refl _
    | absent | null => exact Nat.zero_le _
  omega

/-- A committed owned update replaces a session that holds its token and its fence. -/
theorem Committed.owned_guard (h : Committed cfg s t call current now)
    (hcur : (reap s.store now).2.sessions.get now call.searchId = some current)
    {mutation : Mutation ρ} {lease : Option LeaseContext} {x : InitialSearchExecution}
    (hop : call.operation = .mutate mutation lease (some x))
    (hnull : x.executionToken ≠ cfg.nullText) :
    current.session.initialSearchExecutionToken = .value x.executionToken ∧
      current.session.initialSearchFencingNumber = .value x.fencingNumber := by
  obtain ⟨e, hdec, htoken, hfence⟩ :=
    h.passes.initialOwned (by simp [writeArgs, hop, Operation.lockMode])
  rw [decoded_current hcur] at hdec
  cases hdec
  have hargs : (writeArgs cfg now current call.operation).initialExecutionToken =
      x.executionToken ∧
      (writeArgs cfg now current call.operation).initialFencingNumber = x.fencingNumber := by
    simp [writeArgs, hop, Operation.execution?]
  rw [hargs.1] at htoken
  rw [hargs.2] at hfence
  constructor
  · cases hfield : current.session.initialSearchExecutionToken with
    | value token =>
      rw [hfield] at htoken
      exact congrArg JsonField.value htoken
    | absent =>
      rw [hfield] at htoken
      exact absurd htoken.symm x.token_nonempty
    | null =>
      rw [hfield] at htoken
      exact absurd htoken.symm hnull
  · cases hfield : current.session.initialSearchFencingNumber with
    | value n =>
      rw [hfield] at hfence
      exact congrArg JsonField.value (Option.some.inj hfence)
    | absent =>
      rw [hfield] at hfence
      exact absurd (Option.some.inj hfence) (Nat.ne_of_lt x.fence_pos)
    | null =>
      rw [hfield] at hfence
      cases hfence

end Guards

/-- What a commit of an allowed operation does to the initial search. -/
structure LawfulCommit (c : Commit ρ) : Prop where
  claim : ∀ x, c.claim? = some x → ¬ initialTerminal c.before.session ∧
    initialFence c.before.session < x.fencingNumber ∧
    ¬ initialTerminal c.after.session ∧
    c.after.session.initialSearchExecutionToken = .value x.executionToken ∧
    c.after.session.initialSearchFencingNumber = .value x.fencingNumber
  owned : ∀ x, c.owned? = some x →
    c.before.session.initialSearchExecutionToken = .value x.executionToken ∧
    c.before.session.initialSearchFencingNumber = .value x.fencingNumber
  keep : c.claim? = none →
    c.after.session.initialSearchFencingNumber = c.before.session.initialSearchFencingNumber ∧
    (c.after.session.initialSearchExecutionToken = .null ∨
      c.after.session.initialSearchExecutionToken = c.before.session.initialSearchExecutionToken ∧
        (initialTerminal c.after.session → initialTerminal c.before.session))
  ordinary : c.operation.execution? = none → initialTerminal c.before.session →
    initialTerminal c.after.session

theorem LawfulCommit.fence_le {c : Commit ρ} (h : LawfulCommit c) :
    initialFence c.before.session ≤ initialFence c.after.session := by
  cases hcl : c.claim? with
  | some x =>
    obtain ⟨-, hlt, -, -, hset⟩ := h.claim x hcl
    have hval : initialFence c.after.session = x.fencingNumber := by
      simp [initialFence, hset, JsonField.get?]
    omega
  | none => exact Nat.le_of_eq (congrArg (fun f => (JsonField.get? f).getD 0) (h.keep hcl).1.symm)

theorem Committed.lawful {call : SessionCall ρ} {current : Envelope ρ} {now : Nat}
    (h : Committed cfg s t call current now)
    (hcur : (reap s.store now).2.sessions.get now call.searchId = some current)
    (hallowed : call.operation.Allowed cfg.nullText) :
    LawfulCommit ⟨call.searchId, call.operation, current,
      nextEnvelope cfg now current call.operation⟩ := by
  constructor
  case claim =>
    intro x hx
    have hop : call.operation = .claim x := claim?_some hx
    obtain ⟨hopen, hlt⟩ := h.claim_guard hcur hop
    refine ⟨hopen, hlt, ?_⟩
    simp [nextEnvelope, nextSession, hop, initialTerminal]
  case owned =>
    intro x hx
    obtain ⟨mutation, lease, hop : call.operation = .mutate mutation lease (some x)⟩ :=
      owned?_some hx
    rw [hop] at hallowed
    exact h.owned_guard hcur hop hallowed.1
  case keep =>
    intro hnone
    simp only [nextEnvelope]
    -- Without an execution nothing changes; an owned update gives up the token at most.
    by_cases hex : call.operation.execution? = none
    · obtain ⟨hstage, htoken, hfence⟩ := nextSession_ordinary cfg hallowed hex now current.session
      exact ⟨hfence, .inr ⟨htoken, fun ht => by rwa [initialTerminal, hstage] at ht⟩⟩
    · cases hop : call.operation with
      | claim x => simp [Commit.claim?, hop] at hnone
      | renew lease => exact absurd (by rw [hop]; rfl) hex
      | release lease updates => exact absurd (by rw [hop]; rfl) hex
      | mutate mutation lease execution =>
        rw [hop] at hallowed hex
        cases execution with
        | none => exact absurd rfl hex
        | some x => exact nextSession_owned hallowed.2 lease x now current.session
  case ordinary =>
    intro hnone ht
    obtain ⟨hstage, -, -⟩ := nextSession_ordinary cfg hallowed hnone now current.session
    rwa [initialTerminal, nextEnvelope, hstage]

/-! ## 4. The stored session against the log -/

/-- The stored session knows the last claim and whether its stage is closed. -/
structure Guarded (s : System ρ) : Prop where
  log : InitialSearchFenced s.commits
  fences : ∀ k v, Hash.hget s.store.sessions k = some v → ∀ c ∈ s.commits, c.searchId = k →
    ∀ x, c.claim? = some x → x.fencingNumber ≤ initialFence v.value.session
  token : ∀ k v, Hash.hget s.store.sessions k = some v →
    ∀ token, v.value.session.initialSearchExecutionToken = .value token →
      ¬ initialTerminal v.value.session ∧
      ∃ x, latestClaim k s.commits = some x ∧ x.executionToken = token ∧
        v.value.session.initialSearchFencingNumber = .value x.fencingNumber
  closed : ∀ k v, Hash.hget s.store.sessions k = some v → ∀ c ∈ s.commits, c.searchId = k →
    initialTerminal c.after.session → initialTerminal v.value.session

/-- Every call in flight is allowed. -/
def CallsAllowed (cfg : StoreSettings ρ) (s : System ρ) : Prop :=
  ∀ c call, s.calls.hget c = some call → call.operation.Allowed cfg.nullText

/-- The calls that start are allowed. -/
def StartsAllowed (cfg : StoreSettings ρ) (_ : System ρ) : Event ρ → Prop
  | .start _ _ operation => operation.Allowed cfg.nullText
  | .command _ _ _ | .script _ => True

theorem CallsAllowed.step {ev : Event ρ} (h : CallsAllowed cfg s) (hok : StartsAllowed cfg s ev)
    (hs : Session.step cfg s ev = some t) : CallsAllowed cfg t := by
  intro c call hcall
  rcases step_calls hs hcall with hold | ⟨k, op, rfl, rfl⟩ | ⟨_, _, call₀, r, rfl, hcall₀, -, -, rfl⟩
  · exact h c call hold
  · exact hok
  · exact h c call₀ hcall₀

/-- Sessions vanish at most: the log and the sessions that are left are as before. -/
theorem Guarded.vanish (h : Guarded s) (hcommits : t.commits = s.commits)
    (hvanish : Vanish s.store t.store) : Guarded t := by
  constructor
  case log => exact hcommits ▸ h.log
  case fences => exact fun k v hv => hcommits ▸ h.fences k v (hvanish k v hv)
  case token => exact fun k v hv => hcommits ▸ h.token k v (hvanish k v hv)
  case closed => exact fun k v hv => hcommits ▸ h.closed k v (hvanish k v hv)

/-- A claim or an owned update finds the stage open. -/
theorem Guarded.stage_open (h : Guarded s) {c : Commit ρ} (hlawful : LawfulCommit c)
    {expiresAt : Nat}
    (hbefore : Hash.hget s.store.sessions c.searchId = some ⟨c.before, expiresAt⟩)
    (hne : c.operation.execution? ≠ none) : ¬ initialTerminal c.before.session := by
  obtain ⟨x, hx⟩ := Option.ne_none_iff_exists'.mp hne
  rcases execution?_some hx with hcl | how
  · exact (hlawful.claim x hcl).1
  · exact (h.token _ _ hbefore _ (hlawful.owned x how).1).1

/-- One lawful commit. -/
theorem Guarded.commit (h : Guarded s) {c : Commit ρ} (hlawful : LawfulCommit c)
    {expiresAt expiresAt' : Nat}
    (hbefore : Hash.hget s.store.sessions c.searchId = some ⟨c.before, expiresAt⟩)
    (hafter : Hash.hget t.store.sessions c.searchId = some ⟨c.after, expiresAt'⟩)
    (hothers : ∀ k v, k ≠ c.searchId → Hash.hget t.store.sessions k = some v →
      Hash.hget s.store.sessions k = some v)
    (hcommits : t.commits = c :: s.commits) : Guarded t := by
  have hsession : ∀ k v, Hash.hget t.store.sessions k = some v →
      (k = c.searchId ∧ v = ⟨c.after, expiresAt'⟩) ∨
        (c.searchId ≠ k ∧ Hash.hget s.store.sessions k = some v) := by
    intro k v hv
    by_cases hk : k = c.searchId
    · subst hk
      exact .inl ⟨rfl, Option.some.inj (hv.symm.trans hafter)⟩
    · exact .inr ⟨fun e => hk e.symm, hothers k v hk hv⟩
  have hopen : c.operation.execution? ≠ none → ¬ initialTerminal c.before.session :=
    h.stage_open hlawful hbefore
  constructor
  case log =>
    rw [hcommits]
    refine h.log.cons (fun x hx c' hc' hk y hy => ?_) (fun x hx => ?_) fun c' hc' hk hterm => ?_
    · exact Nat.lt_of_le_of_lt (h.fences _ _ hbefore c' hc' hk.symm y hy) (hlawful.claim x hx).2.1
    · obtain ⟨htoken, hset⟩ := hlawful.owned x hx
      obtain ⟨-, z, hz, hztoken, hzfence⟩ := h.token _ _ hbefore _ htoken
      have hzx : z = x := by
        obtain ⟨ztoken, zfence, _, _⟩ := z
        obtain ⟨xtoken, xfence, _, _⟩ := x
        cases hztoken
        cases hset.symm.trans hzfence
        rfl
      exact hzx ▸ hz
    · by_contra hne
      exact hopen hne (h.closed _ _ hbefore c' hc' hk.symm hterm)
  case fences =>
    intro k v hv c' hc' hk x hx
    rw [hcommits] at hc'
    rcases hsession k v hv with ⟨rfl, rfl⟩ | ⟨hne, hv⟩
    · rcases List.mem_cons.mp hc' with rfl | hc'
      · obtain ⟨-, -, -, -, hset⟩ := hlawful.claim x hx
        simp [initialFence, hset, JsonField.get?]
      · exact Nat.le_trans (h.fences _ _ hbefore c' hc' hk x hx) hlawful.fence_le
    · rcases List.mem_cons.mp hc' with rfl | hc'
      · exact absurd hk hne
      · exact h.fences k v hv c' hc' hk x hx
  case token =>
    intro k v hv token htoken
    rw [hcommits]
    rcases hsession k v hv with ⟨rfl, rfl⟩ | ⟨hne, hv⟩
    · cases hcl : c.claim? with
      | some x =>
        obtain ⟨-, -, hafterOpen, hset, hsetFence⟩ := hlawful.claim x hcl
        refine ⟨hafterOpen, x, ?_, ?_, hsetFence⟩
        · simp [latestClaim, hcl]
        · exact JsonField.value.inj (hset.symm.trans htoken)
      | none =>
        rw [latestClaim_cons_none hcl]
        obtain ⟨hsame, hnull | ⟨hkept, hback⟩⟩ := hlawful.keep hcl
        · rw [hnull] at htoken
          cases htoken
        · obtain ⟨hbeforeOpen, x, hx, hxtoken, hxfence⟩ :=
            h.token _ _ hbefore token (hkept.symm.trans htoken)
          exact ⟨fun ht => hbeforeOpen (hback ht), x, hx, hxtoken, hsame.trans hxfence⟩
    · rw [latestClaim_cons_other hne]
      exact h.token k v hv token htoken
  case closed =>
    intro k v hv c' hc' hk hterm
    rw [hcommits] at hc'
    rcases hsession k v hv with ⟨rfl, rfl⟩ | ⟨hne, hv⟩
    · rcases List.mem_cons.mp hc' with rfl | hc'
      · exact hterm
      · have hbeforeTerm := h.closed _ _ hbefore c' hc' hk hterm
        by_cases hex : c.operation.execution? = none
        · exact hlawful.ordinary hex hbeforeTerm
        · exact absurd hbeforeTerm (hopen hex)
    · rcases List.mem_cons.mp hc' with rfl | hc'
      · exact absurd hk hne
      · exact h.closed k v hv c' hc' hk hterm

theorem Guarded.step {ev : Event ρ} (h : Guarded s) (hfresh : Fresh s) (hcalls : CallsAllowed cfg s)
    (hs : Session.step cfg s ev = some t) : Guarded t := by
  rcases step_cases hs with ⟨hcommits, hvanish⟩ | ⟨c, fate, now, call, attempt, current, -, -, hcall,
    hphase, hcommit⟩
  · exact h.vanish hcommits hvanish
  · obtain ⟨hlive, expiresAt, hstored⟩ := hcommit.current hfresh hcall hphase
    exact h.commit (hcommit.lawful hlive (hcalls c call hcall)) hstored hcommit.hget_self
      (fun k v hk hv => hcommit.hget_other hk hv) hcommit.commits

/-! ## 5. Every run -/

/-- The sessions hold no execution token, as `createQueuedHotelSearch` saves them. -/
def Unclaimed (st : StoreState ρ) : Prop :=
  ∀ k v, Hash.hget st.sessions k = some v →
    v.value.session.initialSearchExecutionToken.get? = none

/-- What holds in every state of a run. -/
structure Owned (cfg : StoreSettings ρ) (s : System ρ) : Prop where
  fresh : Fresh s
  calls : CallsAllowed cfg s
  guarded : Guarded s

theorem Owned.init (h : (system cfg Unclaimed).init s) : Owned cfg s := by
  refine ⟨.init h, fun c call hcall => ?_, ?_⟩
  · rw [h.2.1] at hcall
    simp at hcall
  · obtain ⟨hstart, -, hcommits⟩ := h
    constructor
    case log =>
      rw [hcommits]
      exact ⟨.nil, fun newer u older heq => by simp at heq, .nil, .nil⟩
    case fences => simp [hcommits]
    case token =>
      intro k v hv token htoken
      have hnone := hstart k v hv
      rw [htoken] at hnone
      cases hnone
    case closed => simp [hcommits]

theorem Owned.step {ev : Event ρ} (h : Owned cfg s) (hok : StartsAllowed cfg s ev)
    (hs : (system cfg Unclaimed).step s ev = some t) : Owned cfg t :=
  ⟨h.fresh.step hs, h.calls.step hok hs, h.guarded.step h.fresh h.calls hs⟩

/-- Once the initial stage of a stored session is complete or failed, it is so in every
later state that has the session. -/
theorem Owned.terminal_step {ev : Event ρ} (h : Owned cfg s) (hs : Session.step cfg s ev = some t)
    {k : SearchId}
    (hterm : ∀ v, Hash.hget s.store.sessions k = some v → initialTerminal v.value.session)
    {v : Volatile (Envelope ρ)} (hv : Hash.hget t.store.sessions k = some v) :
    initialTerminal v.value.session := by
  rcases step_cases hs with ⟨-, hvanish⟩ | ⟨c, fate, now, call, attempt, current, -, -, hcall, hphase,
    hcommit⟩
  · exact hterm v (hvanish k v hv)
  · by_cases hk : k = call.searchId
    · subst hk
      obtain ⟨hlive, expiresAt, hstored⟩ := hcommit.current h.fresh hcall hphase
      have hlawful := hcommit.lawful hlive (h.calls c call hcall)
      have hbefore : initialTerminal current.session := hterm _ hstored
      rw [hcommit.hget_self] at hv
      cases hv
      refine hlawful.ordinary ?_ hbefore
      by_contra hne
      exact h.guarded.stage_open hlawful hstored hne hbefore
    · exact hterm v (hcommit.hget_other hk hv)

/-- A session of the later state was there before, with a fence that is not larger. -/
def FenceGrows (s t : System ρ) : Prop :=
  ∀ k v', Hash.hget t.store.sessions k = some v' → ∃ v, Hash.hget s.store.sessions k = some v ∧
    initialFence v.value.session ≤ initialFence v'.value.session

theorem Owned.fenceGrows {ev : Event ρ} (h : Owned cfg s)
    (hs : (system cfg Unclaimed).step s ev = some t) : FenceGrows s t := by
  intro k v' hv'
  rcases step_cases hs with ⟨-, hvanish⟩ | ⟨c, fate, now, call, attempt, current, -, -, hcall, hphase,
    hcommit⟩
  · exact ⟨v', hvanish k v' hv', Nat.le_refl _⟩
  · by_cases hk : k = call.searchId
    · subst hk
      obtain ⟨hlive, expiresAt, hstored⟩ := hcommit.current h.fresh hcall hphase
      rw [hcommit.hget_self] at hv'
      cases hv'
      exact ⟨_, hstored, (hcommit.lawful hlive (h.calls c call hcall)).fence_le⟩
    · exact ⟨v', hcommit.hget_other hk hv', Nat.le_refl _⟩

/-- For every run of any number of interleaved calls, and every later state `t` of it: no
stored fence decreases, and the commits obey the fencing discipline. -/
theorem initial_search_fenced (cfg : StoreSettings ρ) {s t : System ρ}
    (hs : (system cfg Unclaimed).Reach (StartsAllowed cfg) s)
    (hst : (system cfg Unclaimed).Steps (StartsAllowed cfg) s t) :
    (∀ k v v', Hash.hget s.store.sessions k = some v → Hash.hget t.store.sessions k = some v' →
      initialFence v.value.session ≤ initialFence v'.value.session) ∧
    InitialSearchFenced t.commits := by
  have howned : ∀ {u}, (system cfg Unclaimed).Reach (StartsAllowed cfg) u → Owned cfg u := fun h =>
    h.invariant (fun _ h0 => Owned.init h0) fun _ _ _ hu hok hstep => hu.step hok hstep
  have hgrows : FenceGrows s t := by
    refine hst.relation (howned hs) (fun _ _ _ hu hok hstep => hu.step hok hstep) ?_ ?_
      fun _ _ _ hu _ hstep => hu.fenceGrows hstep
    · exact fun s k v hv => ⟨v, hv, Nat.le_refl _⟩
    · intro s t u hst htu k v hv
      obtain ⟨v', hv', hle'⟩ := htu k v hv
      obtain ⟨v'', hv'', hle''⟩ := hst k v' hv'
      exact ⟨v'', hv'', Nat.le_trans hle'' hle'⟩
  refine ⟨fun k v v' hv hv' => ?_, (howned (hs.steps hst)).guarded.log⟩
  obtain ⟨w, hw, hle⟩ := hgrows k v' hv'
  rw [hv] at hw
  cases hw
  exact hle

/-- Settings with the defaults of the store; every envelope counts as 400 bytes. -/
def sampleSettings : StoreSettings Unit where
  sessionTtlMs := 1800000
  tombstoneLifetimeMs := 3600000
  continuationLeaseTtlMs := 300000
  maxSessions := 500
  maxSessionBytes := 1048576
  aggregateSessionBytes := 67108864
  casRetries := 12
  byteLength _ := 400
  nullText := "userdata: NULL"
  sessionTtl_pos := defaultSessionTtl_pos
  tombstoneLifetime_pos := defaultTombstoneTtl_pos
  continuationLeaseTtl_pos := defaultLeaseTtl_pos

/-- The id of the session of `queuedStore`. -/
def sampleSearchId : SearchId := "ss2.0b6c9d1e-52f7-4a38-8c1d-7e9f3a5b2c40"

/-- A store with one session as `createQueuedHotelSearch` saves it at 0. -/
def queuedStore : StoreState Unit :=
  commitWrite .empty sampleSearchId sampleSearchId
    { sampleWrite 0 (-1) 1 with
      serialized :=
        { revision := 1
          session :=
            { searchId := sampleSearchId, createdAt := 0, updatedAt := 0, expiresAt := 1800000
              status := .queued, retryable := true, retryAfterMs := some 2000
              initialSearchStage := .value .queued, initialSearchExecutionToken := .null
              initialSearchFencingNumber := .value 0, rest := () } } } 0

/-- The attempt with the fence `f` of one admission. -/
def sampleExecution (f : Nat) (h : 0 < f) : InitialSearchExecution :=
  ⟨"6d1f8a20-3c4b-4e7a-9b52-0f8e6c7d1a35", f, by decide, h⟩

/-- Two attempts claim; the first one still tries to mark the search for a retry, and the
second one completes it. -/
def redeliveredRun : List (Event Unit) :=
  [.start 1 sampleSearchId (.claim (sampleExecution 1 Nat.one_pos)),
    .command 1 .answered 10, .command 1 .answered 10,
    .start 2 sampleSearchId (.claim (sampleExecution 2 Nat.two_pos)),
    .command 2 .answered 20, .command 2 .answered 20,
    .start 3 sampleSearchId (updateInitialSearchExecution
      { initialSearchStage := some .retrying, status := some .queued }
      (sampleExecution 1 Nat.one_pos)),
    .command 3 .answered 30, .command 3 .answered 30,
    .start 4 sampleSearchId (updateInitialSearchExecution
      { initialSearchStage := some .complete, status := some .completed }
      (sampleExecution 2 Nat.two_pos)),
    .command 4 .answered 40, .command 4 .answered 40]

theorem initial_search_fenced_redelivered : ∃ t : System Unit,
    t.commits.map (fun c => (c.claim?.map InitialSearchExecution.fencingNumber,
      c.owned?.map InitialSearchExecution.fencingNumber)) =
        [(none, some 2), (some 2, none), (some 1, none)] ∧
    InitialSearchFenced t.commits := by
  have hrun : ((system sampleSettings Unclaimed).exec Machine.Anything ⟨0, queuedStore, ∅, []⟩
      redeliveredRun).map (fun s => s.commits.map fun c =>
        (c.claim?.map InitialSearchExecution.fencingNumber,
          c.owned?.map InitialSearchExecution.fencingNumber)) =
      some [(none, some 2), (some 2, none), (some 1, none)] := by decide +kernel
  obtain ⟨t, ht, hview⟩ := Option.map_eq_some_iff.mp hrun
  have hinit : (system sampleSettings Unclaimed).init ⟨0, queuedStore, ∅, []⟩ := by
    refine ⟨fun k v hv => ?_, rfl, rfl⟩
    simp only [queuedStore, commitWrite, Keyspace.setPx, Hash.hget_hset] at hv
    split at hv
    · cases hv
      rfl
    · simp [StoreState.empty] at hv
  have hsteps : (system sampleSettings Unclaimed).Steps (StartsAllowed sampleSettings)
      ⟨0, queuedStore, ∅, []⟩ t := by
    refine Machine.Steps.of_exec_all .refl (fun i hi s => ?_) ht
    simp only [redeliveredRun, List.mem_cons, List.not_mem_nil, or_false] at hi
    have hclaim : ∀ f h, (Operation.claim (ρ := Unit) (sampleExecution f h)).Allowed
        sampleSettings.nullText := fun f h => by simp [Operation.Allowed, sampleExecution, sampleSettings]
    rcases hi with rfl | rfl | rfl | rfl | rfl | rfl | rfl | rfl | rfl | rfl | rfl | rfl
    · exact hclaim 1 _
    · trivial
    · trivial
    · exact hclaim 2 _
    · trivial
    · trivial
    · exact ⟨hclaim 1 (by decide), _, rfl, rfl, .inl rfl⟩
    · trivial
    · trivial
    · exact ⟨hclaim 2 (by decide), _, rfl, rfl, .inl rfl⟩
    · trivial
    · trivial
  exact ⟨t, hview, (initial_search_fenced sampleSettings (.init hinit) hsteps).2⟩

end SmartStay.Session
