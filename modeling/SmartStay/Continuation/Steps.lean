import SmartStay.Continuation.ContinueSearch

/-!
# One step of the continuation system

1. `SameSessions`: the changes of the base that no session sees.
2. `Moved`, `step_moved`: what one step can be. `proceed_cases`: what a decision makes of
   the system.
-/

namespace SmartStay.Continuation

open Session

variable {cfg : StoreSettings ProviderFields} {s t : System} {e : Event}

/-! ## 1. The base -/

/-- The sessions, the calls and the commits are the same; clock and leases may differ. -/
structure SameSessions (b b' : Session.System ProviderFields) : Prop where
  sessions : b'.store.sessions = b.store.sessions
  calls : b'.calls = b.calls
  commits : b'.commits = b.commits

/-- What a decision starts in the base. -/
def startCall (base : Session.System ProviderFields) (c : CallId) (searchId : SearchId)
    (operation : Operation ProviderFields) : Session.System ProviderFields :=
  { base with calls := base.calls.hset c ⟨searchId, operation, .read 0⟩ }

theorem step_start {base base' : Session.System ProviderFields} {c : CallId}
    {searchId : SearchId} {operation : Operation ProviderFields}
    (h : Session.step cfg base (.start c searchId operation) = some base') :
    c ∉ base.calls ∧ base' = startCall base c searchId operation := by
  simp only [Session.step, Option.ite_none_left_eq_some, Option.some.injEq] at h
  exact ⟨h.1, h.2.symm⟩

theorem step_startCall (cfg : StoreSettings ProviderFields)
    {base : Session.System ProviderFields} {c : CallId} (hnew : c ∉ base.calls)
    (searchId : SearchId) (operation : Operation ProviderFields) :
    Session.step cfg base (.start c searchId operation) =
      some (startCall base c searchId operation) := by
  rw [Session.step, if_neg hnew]
  rfl

/-! ## 2. Steps -/

/-- The call `id` decides on `next` in this event. -/
inductive Decided (cfg : StoreSettings ProviderFields) (s : System) (id : ClientId)
    (call : ContinueCall) : Event → Next → Prop
  | turn (fate : Fate) (now : Nat) (lockToken : String) (c : CallId)
      (st : StoreState ProviderFields) (next : Next) :
      turn cfg s.base call fate now lockToken = some (st, next) →
      Decided cfg s id call (.turn id fate now lockToken c) next
  | settled (held : Held) (runnable : List ProviderId) (outcomes : List ProviderOutcome)
      (c : CallId) : call.point = .providers held runnable → outcomes.length = runnable.length →
      Decided cfg s id call (.settled id outcomes c)
        (.store (.renew held.lease) (.assertAfter held (runnable.zip outcomes)))

/-- What one step can be. -/
inductive Moved (cfg : StoreSettings ProviderFields) (s : System) : Event → System → Prop
  | worker (c : CallId) (searchId : SearchId) (execution : InitialSearchExecution)
      (update : WorkerUpdate) (base : Session.System ProviderFields) :
      execution.executionToken ≠ cfg.nullText →
      Session.step cfg s.base (.start c searchId (update.operation execution)) = some base →
      Moved cfg s (.worker c searchId execution update) { s with base := base }
  | command (c : CallId) (fate : Fate) (now : Nat) (base : Session.System ProviderFields) :
      Session.step cfg s.base (.command c fate now) = some base →
      Moved cfg s (.command c fate now) { s with base := base }
  | script (e : Event) (call : ScriptCall ProviderFields)
      (base : Session.System ProviderFields) :
      Session.step cfg s.base (.script call) = some base → Moved cfg s e { s with base := base }
  | enter (id : ClientId) (searchId : SearchId) : id ∉ s.clients →
      Moved cfg s (.enter id searchId)
        { s with clients := s.clients.hset id ⟨searchId, .enter⟩ }
  | decided (e : Event) (id : ClientId) (call : ContinueCall) (c : CallId) (next : Next)
      (base : Session.System ProviderFields) (t : System) : s.clients.hget id = some call →
      Decided cfg s id call e next → SameSessions s.base base →
      s.proceed cfg base id call c next = some t → Moved cfg s e t

theorem releaseLeaseOnly_sessions (st : StoreState ProviderFields) (searchId : SearchId)
    (now : Nat) (token : String) (fence : Nat) :
    (releaseLeaseOnly st searchId now token fence).1.sessions = st.sessions := by
  obtain ⟨leases, hst⟩ := releaseLeaseOnly_frame st searchId now token fence
  rw [hst]

theorem acquireLease_sessions (st : StoreState ProviderFields) (searchId : SearchId)
    (now : Nat) (token : String) (leaseTtl fenceTtl : Nat) :
    (acquireLease st searchId now token leaseTtl fenceTtl).1.sessions = st.sessions := by
  obtain ⟨leases, fences, hst⟩ := acquireLease_frame st searchId now token leaseTtl fenceTtl
  rw [hst]

/-- A turn changes leases and fences at most. -/
theorem turn_sessions {call : ContinueCall} {fate : Fate} {now : Nat} {lockToken : String}
    {r : StoreState ProviderFields × Next}
    (h : turn cfg s.base call fate now lockToken = some r) :
    r.1.sessions = s.base.store.sessions := by
  have hkeep : ∀ st : StoreState ProviderFields, st.sessions = s.base.store.sessions →
      (fate.effect s.base.store st).sessions = s.base.store.sessions := fun st hst =>
    fate.effect_of (P := fun st : StoreState ProviderFields =>
      st.sessions = s.base.store.sessions) rfl fun _ => hst
  unfold turn at h
  dsimp only at h
  split at h
  · cases h; rfl
  · cases h; rfl
  · obtain ⟨next, -, rfl⟩ := Option.map_eq_some_iff.mp h
    exact hkeep _ (acquireLease_sessions _ _ _ _ _ _)
  · cases h; rfl
  · cases h
    exact hkeep _ (releaseLeaseOnly_sessions _ _ _ _ _)
  · cases h; rfl
  · split at h
    · cases h; rfl
    · cases h; rfl
    · cases h
  all_goals cases h

theorem step_moved (h : step cfg s e = some t) : Moved cfg s e t := by
  cases e with
  | worker c searchId execution update =>
    simp only [step, Option.ite_none_left_eq_some, Option.map_eq_some_iff] at h
    obtain ⟨htoken, base, hbase, rfl⟩ := h
    exact .worker c searchId execution update base htoken hbase
  | command c fate now =>
    obtain ⟨base, hbase, rfl⟩ := Option.map_eq_some_iff.mp h
    exact .command c fate now base hbase
  | stats now =>
    obtain ⟨base, hbase, rfl⟩ := Option.map_eq_some_iff.mp h
    exact .script _ _ base hbase
  | clear searchId =>
    obtain ⟨base, hbase, rfl⟩ := Option.map_eq_some_iff.mp h
    exact .script _ _ base hbase
  | enter id searchId =>
    simp only [step, Option.ite_none_left_eq_some] at h
    obtain ⟨hnew, h⟩ := h
    cases h
    exact .enter id searchId hnew
  | turn id fate now lockToken c =>
    simp only [step, Option.ite_none_left_eq_some, Option.bind_eq_some_iff] at h
    obtain ⟨-, call, hcall, ⟨st, next⟩, hturn, hproceed⟩ := h
    exact .decided _ id call c next { s.base with clock := now, store := st } t hcall
      (.turn fate now lockToken c st next hturn) ⟨turn_sessions hturn, rfl, rfl⟩ hproceed
  | settled id outcomes c =>
    simp only [step, Option.bind_eq_some_iff] at h
    obtain ⟨call, hcall, h⟩ := h
    split at h
    · next held runnable hpoint =>
      simp only [Option.ite_none_right_eq_some] at h
      exact .decided _ id call c _ s.base t hcall (.settled held runnable outcomes c hpoint h.1)
        ⟨rfl, rfl, rfl⟩ h.2
    · cases h

/-- What a decision makes of the system. -/
theorem proceed_cases {base : Session.System ProviderFields} {id : ClientId}
    {call : ContinueCall} {c : CallId} {next : Next}
    (h : s.proceed cfg base id call c next = some t) :
    (∃ point, next = .goto point ∧
      t = ⟨base, s.clients.hset id { call with point := point }⟩) ∨
    ∃ operation task, next = .store operation task ∧ c ∉ base.calls ∧
      t = ⟨startCall base c call.searchId operation,
        s.clients.hset id { call with point := .await c task }⟩ := by
  cases next with
  | goto point =>
    cases h
    exact .inl ⟨point, rfl, rfl⟩
  | store operation task =>
    obtain ⟨base', hbase, rfl⟩ := Option.map_eq_some_iff.mp h
    obtain ⟨hnew, rfl⟩ := step_start hbase
    exact .inr ⟨operation, task, rfl, hnew, rfl⟩

end SmartStay.Continuation
