import SmartStay.Continuation.Steps

/-!
# The status of a search whose initial stage is open

While the initial stage of a queued search is neither complete nor failed, the search must
not be `Completed`. The workers keep to that; `continueHotelSearch` does when the session
it reads on entry is past its initial stage, which is then so for good.

1. `Ordinary`: no decision of a call touches the initial search.
2. `Over`: the initial stage of a session is over, `Owned.over_step`: it stays over.
3. `Staged`, `completed_after_initial`: in every run whose calls enter over-stage sessions.
4. `completed_before_initial`: a call that enters a queued session stores and returns
   `Completed`.
-/

namespace SmartStay.Continuation

open Session

variable {cfg : StoreSettings ProviderFields} {s t : System} {e : Event} {now : Nat}

/-! ## 1. Ordinary operations -/

/-- The operation belongs to no execution of the initial search and sets none of its
fields. -/
def Ordinary (nullText : String) (operation : Operation ProviderFields) : Prop :=
  operation.execution? = none ∧ operation.Allowed nullText

/-- The store call that a decision starts is ordinary. -/
def Next.Ordinary (nullText : String) : Next → Prop
  | .goto _ => True
  | .store operation _ => Continuation.Ordinary nullText operation

variable {nullText : String}

theorem abortWith_ordinary (lease : LeaseContext) (error : ThrownError) :
    (abortWith lease error).Ordinary nullText := ⟨rfl, rfl, rfl, rfl⟩

theorem beforeLock_ordinary (executions : List ProviderExecution) (session : Option StaySession)
    (now : Nat) : (beforeLock executions session now).Ordinary nullText := by
  unfold beforeLock
  dsimp only
  split
  · split
    · trivial
    · exact ⟨rfl, rfl, rfl, rfl⟩
  · split
    · exact ⟨rfl, rfl, rfl, rfl⟩
    · trivial

theorem afterEnter_ordinary (session : StaySession) (now : Nat) :
    (afterEnter session now).Ordinary nullText := by
  unfold afterEnter
  dsimp only
  split
  · trivial
  · split
    · split
      · trivial
      · exact ⟨rfl, rfl, rfl, rfl⟩
    · exact beforeLock_ordinary _ _ _

theorem afterLock_ordinary (lease : LeaseContext) (session : Option StaySession) (now : Nat) :
    (afterLock lease session now).Ordinary nullText := by
  unfold afterLock
  dsimp only
  split
  · exact abortWith_ordinary _ _
  · exact ⟨rfl, rfl, rfl, rfl⟩

theorem afterApplied_ordinary (held : Held) (applied : Except String (List ProviderExecution))
    (results : Results) (now : Nat) :
    (afterApplied held applied results now).Ordinary nullText := by
  unfold afterApplied
  split
  · exact abortWith_ordinary _ _
  · exact ⟨rfl, rfl, rfl, rfl⟩

theorem nextResult_ordinary (held : Held) (results : Results) (now : Nat) :
    (nextResult held results now).Ordinary nullText := by
  unfold nextResult
  split
  · unfold releaseHeld
    dsimp only
    split
    · exact abortWith_ordinary _ _
    · exact ⟨rfl, rfl, rfl, rfl⟩
  · exact afterApplied_ordinary _ _ _ _
  · exact afterApplied_ordinary _ _ _ _
  · exact afterApplied_ordinary _ _ _ _
  · exact ⟨rfl, trivial⟩
  · exact abortWith_ordinary _ _

theorem afterReread_ordinary (held : Held) (currency : Option String) (results : Results)
    (session : StaySession) (now : Nat) :
    (afterReread held currency results session now).Ordinary nullText := by
  unfold afterReread
  dsimp only
  split
  · split
    · exact afterApplied_ordinary _ _ _ _
    · exact ⟨rfl, rfl, rfl, rfl⟩
  · exact afterApplied_ordinary _ _ _ _

theorem afterReturn_ordinary (task : Task) (result : Result ProviderFields) (now : Nat) :
    (afterReturn task result now).Ordinary nullText := by
  cases task with
  | recover executions => exact beforeLock_ordinary _ _ _
  | finish outcome => trivial
  | wait retryAfterMs => trivial
  | lock lease => exact afterLock_ordinary _ _ _
  | begin held runnable => exact ⟨rfl, trivial⟩
  | assertBefore held runnable =>
    simp only [afterReturn]
    split
    · trivial
    · exact abortWith_ordinary _ _
  | assertAfter held results =>
    simp only [afterReturn]
    split
    · exact nextResult_ordinary _ _ _
    · exact abortWith_ordinary _ _
  | append held providerId page results =>
    simp only [afterReturn, afterAppend]
    split
    · exact abortWith_ordinary _ _
    · trivial
  | currency held results => exact afterApplied_ordinary _ _ _ _
  | apply held results => exact nextResult_ordinary _ _ _
  | release held outcome =>
    simp only [afterReturn]
    split
    · trivial
    · exact abortWith_ordinary _ _
  | abort error => trivial

theorem afterThrow_ordinary (task : Task) (error : StoreError) :
    (afterThrow task error).Ordinary nullText := by
  cases task <;> trivial

theorem turn_ordinary {base : Session.System ProviderFields} {call : ContinueCall} {fate : Fate}
    {lockToken : String} {r : StoreState ProviderFields × Next}
    (h : turn cfg base call fate now lockToken = some r) : r.2.Ordinary nullText := by
  have hreply : ∀ next failed : Next, next.Ordinary nullText → failed.Ordinary nullText →
      (fate.reply next failed).Ordinary nullText := fun next failed hnext hfailed =>
    fate.reply_of (P := fun next : Next => next.Ordinary nullText) hnext hfailed
  unfold turn at h
  dsimp only at h
  split at h
  · cases h
    refine hreply _ _ ?_ trivial
    split
    · exact afterEnter_ordinary _ _
    · trivial
  · cases h
    refine hreply _ _ ?_ trivial
    split <;> trivial
  · obtain ⟨next, hnext, rfl⟩ := Option.map_eq_some_iff.mp h
    refine hreply _ _ ?_ trivial
    unfold afterLockScript at hnext
    split at hnext
    · cases hnext; trivial
    · cases hnext; trivial
    · cases hnext; trivial
    · obtain ⟨lease, -, rfl⟩ := Option.map_eq_some_iff.mp hnext
      exact ⟨rfl, trivial⟩
  · cases h
    refine hreply _ _ ?_ trivial
    split <;> trivial
  · cases h
    exact hreply _ _ trivial trivial
  · cases h
    refine hreply _ _ ?_ (abortWith_ordinary _ _)
    split
    · exact afterReread_ordinary _ _ _ _ _
    · exact abortWith_ordinary _ _
  · split at h
    · cases h
      exact afterReturn_ordinary _ _ _
    · cases h
      exact afterThrow_ordinary _ _
    · cases h
  all_goals cases h

/-- No decision of a call touches the initial search. -/
theorem Decided.ordinary {id : ClientId} {call : ContinueCall} {next : Next}
    (h : Decided cfg s id call e next) (nullText : String) : next.Ordinary nullText := by
  cases h with
  | turn fate now lockToken c st next hturn => exact turn_ordinary hturn
  | settled held runnable outcomes c hpoint hlen => exact ⟨rfl, trivial⟩

/-! ## 2. Sessions past their initial stage -/

instance (session : StaySession) : Decidable (initialTerminal session) :=
  inferInstanceAs (Decidable (session.initialSearchStage = .value .complete ∨
    session.initialSearchStage = .value .failed))

/-- The initial stage of the stored session is over, if there is one. -/
def Over (base : Session.System ProviderFields) (searchId : SearchId) : Prop :=
  ∀ v, Hash.hget base.store.sessions searchId = some v → initialTerminal v.value.session

theorem SameSessions.over {b b' : Session.System ProviderFields} (h : SameSessions b b')
    {searchId : SearchId} (hover : Over b searchId) : Over b' searchId :=
  fun v hv => hover v (h.sessions ▸ hv)

theorem SameSessions.owned {b b' : Session.System ProviderFields} (h : SameSessions b b')
    (howned : Owned cfg b) : Owned cfg b' where
  fresh c call attempt current hcall hphase e expiresAt hv :=
    howned.fresh c call attempt current (h.calls ▸ hcall) hphase e expiresAt (h.sessions ▸ hv)
  calls c call hcall := howned.calls c call (h.calls ▸ hcall)
  guarded := howned.guarded.vanish h.commits fun _ _ hv => h.sessions ▸ hv

theorem startCall_owned {base : Session.System ProviderFields} {c : CallId}
    {searchId : SearchId} {operation : Operation ProviderFields} (h : Owned cfg base)
    (hallowed : operation.Allowed cfg.nullText) (hnew : c ∉ base.calls) :
    Owned cfg (startCall base c searchId operation) := by
  have hok : StartsAllowed cfg base (.start c searchId operation) := hallowed
  exact h.step hok (step_startCall cfg hnew searchId operation)

theorem WorkerUpdate.allowed (update : WorkerUpdate) (execution : InitialSearchExecution)
    (htoken : execution.executionToken ≠ nullText) :
    (update.operation execution).Allowed nullText := by
  cases update with
  | claim => exact htoken
  | persist session => exact ⟨htoken, _, rfl, rfl, .inr rfl⟩
  | retry retryAfterMs => exact ⟨htoken, _, rfl, rfl, .inl rfl⟩
  | failed retryable retryAfterMs => exact ⟨htoken, _, rfl, rfl, .inr rfl⟩

/-- Every step keeps the ownership of the initial search. -/
theorem step_owned (h : Owned cfg s.base) (hst : step cfg s e = some t) : Owned cfg t.base := by
  cases step_moved hst with
  | worker c searchId execution update base htoken hs =>
    have hok : StartsAllowed cfg s.base (.start c searchId (update.operation execution)) :=
      update.allowed execution htoken
    exact h.step hok hs
  | command c fate now base hs =>
    have hok : StartsAllowed cfg s.base (.command c fate now) := trivial
    exact h.step hok hs
  | script e call base hs =>
    have hok : StartsAllowed cfg s.base (.script call) := trivial
    exact h.step hok hs
  | enter id searchId hnew => exact h
  | decided e id call c next base t hcall hdecided hsame hproceed =>
    rcases proceed_cases hproceed with ⟨point, rfl, rfl⟩ | ⟨operation, task, rfl, hnew, rfl⟩
    · exact hsame.owned h
    · exact startCall_owned (hsame.owned h) (hdecided.ordinary cfg.nullText).2 hnew

/-- What a step of the base makes of a session past its initial stage. -/
theorem over_step (h : Owned cfg s.base) {ev : Session.Event ProviderFields}
    {base : Session.System ProviderFields} (hs : Session.step cfg s.base ev = some base)
    {searchId : SearchId} (hover : Over s.base searchId) : Over base searchId :=
  fun _ hv => h.terminal_step hs hover hv

/-- A worker writes the status `Completed` with the stage `complete` at most. -/
theorem WorkerUpdate.completed (update : WorkerUpdate) (execution : InitialSearchExecution)
    (session : StaySession)
    (h : (nextSession cfg now session (update.operation execution)).status = .completed) :
    initialTerminal (nextSession cfg now session (update.operation execution)) := by
  cases update with
  | claim => cases h
  | persist update => exact .inl rfl
  | retry retryAfterMs => cases h
  | failed retryable retryAfterMs => exact .inr rfl

/-! ## 3. Every run -/

def Point.isEnter : Point → Bool
  | .enter => true
  | .lockRead | .lockScript _ | .lockMissing | .lockUndo _ _ | .providers _ _ | .reread _ _ _
  | .await _ _ | .returned _ | .threw _ => false

/-- A call reads on entry a session whose initial stage is over. -/
def EntersOver (s : System) : Event → Prop
  | .turn id .answered now _ _ => ∀ call, s.clients.hget id = some call →
    call.point.isEnter = true →
    match requireSearchSession s.base.store call.searchId now with
    | .ok session => initialTerminal session
    | .error _ => True
  | .turn _ .lost _ _ _ | .turn _ .unanswered _ _ _ | .worker _ _ _ _ | .command _ _ _ | .stats _
  | .clear _ | .enter _ _ | .settled _ _ _ => True

/-- Sessions as the queue saves them: in some initial stage, with no execution token, and
`Completed` only after the stage. -/
structure QueuedSessions (st : StoreState ProviderFields) : Prop where
  unclaimed : Unclaimed st
  staged : ∀ k v, Hash.hget st.sessions k = some v →
    ∃ stage, v.value.session.initialSearchStage = .value stage
  completed : ∀ k v, Hash.hget st.sessions k = some v → v.value.session.status = .completed →
    initialTerminal v.value.session

/-- What holds in every state of a run. -/
structure Staged (cfg : StoreSettings ProviderFields) (s : System) : Prop where
  owned : Owned cfg s.base
  calls : ∀ c call, s.base.calls.hget c = some call →
    (∃ execution update, call.operation = WorkerUpdate.operation execution update) ∨
    call.operation.execution? = none ∧ Over s.base call.searchId
  clients : ∀ id call, s.clients.hget id = some call →
    call.point = .enter ∨ (∃ error, call.point = .threw error) ∨ Over s.base call.searchId
  completed : ∀ k v, Hash.hget s.base.store.sessions k = some v →
    v.value.session.status = .completed → initialTerminal v.value.session

/-- The sessions after a step of the base. -/
theorem Staged.base_step (h : Staged cfg s) {ev : Session.Event ProviderFields}
    {base : Session.System ProviderFields} (hs : Session.step cfg s.base ev = some base)
    {k : SearchId} {v : Volatile (Envelope ProviderFields)}
    (hv : Hash.hget base.store.sessions k = some v) (hstatus : v.value.session.status = .completed) :
    initialTerminal v.value.session := by
  rcases Session.step_cases hs with ⟨-, hvanish⟩ | ⟨c, fate, now, call, attempt, current, -, -, hcall, hphase,
    hcommit⟩
  · exact h.completed k v (hvanish k v hv) hstatus
  · by_cases hk : k = call.searchId
    · rcases h.calls c call hcall with ⟨execution, update, hop⟩ | ⟨-, hover⟩
      · subst hk
        rw [hcommit.hget_self] at hv
        cases hv
        simp only [nextEnvelope, hop] at hstatus ⊢
        exact update.completed execution current.session hstatus
      · exact over_step h.owned hs (hk ▸ hover) v hv
    · exact h.completed k v (hcommit.hget_other hk hv) hstatus

/-- A step of the base alone. -/
theorem Staged.step_base (h : Staged cfg s) {ev : Session.Event ProviderFields}
    {base : Session.System ProviderFields} (hs : Session.step cfg s.base ev = some base)
    (howned : Owned cfg base)
    (hstart : ∀ c k op, ev = .start c k op → ∃ execution update,
      op = WorkerUpdate.operation execution update) :
    Staged cfg { s with base := base } where
  owned := howned
  calls c call hcall := by
    rcases step_calls hs hcall with hold | ⟨k, op, hev, rfl⟩ | ⟨fate, now, call₀, r, -, hcall₀, -, -,
      rfl⟩
    · rcases h.calls c call hold with hworker | ⟨hnone, hover⟩
      · exact .inl hworker
      · exact .inr ⟨hnone, over_step h.owned hs hover⟩
    · exact .inl (hstart c k op hev)
    · rcases h.calls c call₀ hcall₀ with hworker | ⟨hnone, hover⟩
      · exact .inl hworker
      · exact .inr ⟨hnone, over_step h.owned hs hover⟩
  clients id call hcall := by
    rcases h.clients id call hcall with henter | hthrew | hover
    · exact .inl henter
    · exact .inr (.inl hthrew)
    · exact .inr (.inr (over_step h.owned hs hover))
  completed k v hv hstatus := h.base_step hs hv hstatus

/-- A call that decides is past its entry, or has just read a session whose stage is over,
or ends with an exception. -/
theorem Staged.decided (h : Staged cfg s) {id : ClientId} {call : ContinueCall} {next : Next}
    (hcall : s.clients.hget id = some call) (hdecided : Decided cfg s id call e next)
    (hok : EntersOver s e) :
    (∃ error, next = .goto (.threw error)) ∨ Over s.base call.searchId := by
  rcases h.clients id call hcall with henter | ⟨error, hthrew⟩ | hover
  · cases hdecided with
    | settled held runnable outcomes c hpoint hlen =>
      rw [henter] at hpoint
      cases hpoint
    | turn fate now lockToken c st next hturn =>
      simp only [turn, henter, Option.some.injEq, Prod.mk.injEq] at hturn
      obtain ⟨-, rfl⟩ := hturn
      cases fate with
      | lost | unanswered => exact .inl ⟨_, rfl⟩
      | answered =>
        have hentered := hok call hcall (by rw [henter]; rfl)
        simp only [Fate.reply]
        unfold requireSearchSession at hentered ⊢
        cases hread : s.base.store.sessions.get now call.searchId with
        | none =>
          refine .inl ?_
          dsimp only
          split
          · next heq => split at heq <;> cases heq
          · exact ⟨_, rfl⟩
        | some envelope =>
          rw [hread] at hentered
          obtain ⟨expiresAt, hstored, -⟩ := Keyspace.get_eq_some.mp hread
          refine .inr fun v hv => ?_
          rw [hstored] at hv
          cases hv
          exact hentered
  · cases hdecided with
    | settled held runnable outcomes c hpoint hlen =>
      rw [hthrew] at hpoint
      cases hpoint
    | turn fate now lockToken c st next hturn => simp [turn, hthrew] at hturn
  · exact .inr hover

theorem Staged.step (h : Staged cfg s) (hok : EntersOver s e)
    (hst : Continuation.step cfg s e = some t) : Staged cfg t := by
  have howned : Owned cfg t.base := step_owned h.owned hst
  cases step_moved hst with
  | worker c searchId execution update base htoken hs =>
    refine h.step_base hs howned fun _ _ _ hev => ?_
    cases hev
    exact ⟨execution, update, rfl⟩
  | command c fate now base hs => exact h.step_base hs howned (by simp)
  | script e call base hs => exact h.step_base hs howned (by simp)
  | enter id searchId hnew =>
    refine ⟨h.owned, h.calls, fun id' call hcall => ?_, h.completed⟩
    simp only [Hash.hget_hset] at hcall
    split at hcall
    · cases hcall
      exact .inl rfl
    · exact h.clients id' call hcall
  | decided e id call c next base t hcall hdecided hsame hproceed =>
    have hcompleted : ∀ k v, Hash.hget base.store.sessions k = some v →
        v.value.session.status = .completed → initialTerminal v.value.session :=
      fun k v hv => h.completed k v (hsame.sessions ▸ hv)
    have hcalls : ∀ c' call', base.calls.hget c' = some call' →
        (∃ execution update, call'.operation = WorkerUpdate.operation execution update) ∨
        call'.operation.execution? = none ∧ Over base call'.searchId := by
      intro c' call' hcall'
      rcases h.calls c' call' (hsame.calls ▸ hcall') with hworker | ⟨hnone, hover⟩
      · exact .inl hworker
      · exact .inr ⟨hnone, hsame.over hover⟩
    have hclients : ∀ point, (point = .enter ∨ (∃ error, point = .threw error) ∨
        Over base call.searchId) → ∀ id' call',
        (s.clients.hset id { call with point := point }).hget id' = some call' →
        call'.point = .enter ∨ (∃ error, call'.point = .threw error) ∨
          Over base call'.searchId := by
      intro point hpoint id' call' hcall'
      rw [Hash.hget_hset] at hcall'
      split at hcall'
      · cases hcall'
        exact hpoint
      · rcases h.clients id' call' hcall' with henter | hthrew | hover
        · exact .inl henter
        · exact .inr (.inl hthrew)
        · exact .inr (.inr (hsame.over hover))
    rcases proceed_cases hproceed with ⟨point, rfl, rfl⟩ | ⟨operation, task, rfl, hnew, rfl⟩
    · refine ⟨howned, hcalls, hclients point ?_, hcompleted⟩
      rcases h.decided hcall hdecided hok with ⟨error, heq⟩ | hover
      · cases heq
        exact .inr (.inl ⟨error, rfl⟩)
      · exact .inr (.inr (hsame.over hover))
    · obtain ⟨hnone, -⟩ := hdecided.ordinary cfg.nullText
      rcases h.decided hcall hdecided hok with ⟨error, heq⟩ | hover
      · cases heq
      refine ⟨howned, fun c' call' hcall' => ?_, hclients _ (.inr (.inr (hsame.over hover))),
        hcompleted⟩
      simp only [startCall, Hash.hget_hset] at hcall'
      split at hcall'
      · cases hcall'
        exact .inr ⟨hnone, hsame.over hover⟩
      · exact hcalls c' call' hcall'

theorem Staged.init (h : (system cfg QueuedSessions).init s) : Staged cfg s := by
  obtain ⟨⟨hstart, hcalls, hcommits⟩, hclients⟩ := h
  refine ⟨.init ⟨hstart.unclaimed, hcalls, hcommits⟩, fun c call hcall => ?_,
    fun id call hcall => ?_, hstart.completed⟩
  · rw [hcalls] at hcall
    simp at hcall
  · rw [hclients] at hcall
    simp at hcall

/-- In every run whose calls read on entry a session past its initial stage, no stored
session is `Completed` before the end of its stage, and no call returns `Completed` for
one. -/
theorem completed_after_initial (cfg : StoreSettings ProviderFields) {s : System}
    (h : (system cfg QueuedSessions).Reach EntersOver s) :
    (∀ k v, Hash.hget s.base.store.sessions k = some v → v.value.session.status = .completed →
      initialTerminal v.value.session) ∧
    ∀ id call response, s.clients.hget id = some call → call.point = .returned response →
      response.status = .completed → Over s.base call.searchId := by
  have hstaged : Staged cfg s :=
    h.invariant (fun _ h0 => .init h0) fun _ _ _ hs hok hst => hs.step hok hst
  refine ⟨hstaged.completed, fun id call response hcall hpoint _ => ?_⟩
  rcases hstaged.clients id call hcall with henter | ⟨error, hthrew⟩ | hover
  · rw [henter] at hpoint
    cases hpoint
  · rw [hthrew] at hpoint
    cases hpoint
  · exact hover

instance (s : System) (e : Event) : Decidable (EntersOver s e) :=
  match e with
  | .turn id .answered now lockToken c =>
    have : ∀ call : ContinueCall, Decidable (call.point.isEnter = true →
        match requireSearchSession s.base.store call.searchId now with
        | .ok session => initialTerminal session
        | .error _ => True) := fun call => by
      cases requireSearchSession s.base.store call.searchId now <;> infer_instance
    inferInstanceAs (Decidable (∀ call, s.clients.hget id = some call →
      call.point.isEnter = true →
        match requireSearchSession s.base.store call.searchId now with
        | .ok session => initialTerminal session
        | .error _ => True))
  | .turn _ .lost _ _ _ | .turn _ .unanswered _ _ _ | .worker _ _ _ _ | .command _ _ _ | .stats _
  | .clear _ | .enter _ _ | .settled _ _ _ => .isTrue trivial

/-- A search as `createQueuedHotelSearch` saves it. -/
def queuedSession : StaySession :=
  { searchId := sampleSearchId, createdAt := 0, updatedAt := 0, expiresAt := 1800000
    status := .queued, retryable := true, retryAfterMs := some 2000
    initialSearchStage := .value .queued, initialSearchExecutionToken := .null
    initialSearchFencingNumber := .value 0, rest := {} }

theorem queuedSession_start : QueuedSessions (savedStore queuedSession) := by
  have hone : ∀ k v, Hash.hget (savedStore queuedSession).sessions k = some v →
      v.value.session = queuedSession := by
    intro k v hv
    simp only [savedStore, Keyspace.setPx, Hash.hget_hset] at hv
    split at hv
    · cases hv
      rfl
    · simp at hv
  refine ⟨fun k v hv => ?_, fun k v hv => ?_, fun k v hv hstatus => ?_⟩
  · rw [hone k v hv]
    rfl
  · rw [hone k v hv]
    exact ⟨.queued, rfl⟩
  · rw [hone k v hv] at hstatus
    cases hstatus

/-- The system that starts with the queued search. -/
def queuedSystem : System := ⟨⟨0, savedStore queuedSession, ∅, []⟩, ∅⟩

theorem queuedSystem_init : (system sampleSettings QueuedSessions).init queuedSystem :=
  ⟨⟨queuedSession_start, rfl, rfl⟩, rfl⟩

/-- A worker claims the search and saves it without results; a call then continues it. -/
def emptySearchRun : List Event :=
  [.worker 1 sampleSearchId (sampleExecution 1 Nat.one_pos) .claim,
    .command 1 .answered 10, .command 1 .answered 10,
    .worker 2 sampleSearchId (sampleExecution 1 Nat.one_pos) (.persist
      { status := some .completed, searchIncomplete := some false, totalHotels := some 0 }),
    .command 2 .answered 20, .command 2 .answered 20,
    .enter 1 sampleSearchId, .turn 1 .answered 30 "" 3,
    .command 3 .answered 31, .command 3 .answered 32, .turn 1 .answered 33 "" 4]

/-- The status and the stage of the sample session, and the status that call 1 returns. -/
def sampleView (s : System) :
    Option (SearchStatus × JsonField InitialSearchStage) × Option SearchStatus :=
  ((Hash.hget s.base.store.sessions sampleSearchId).map fun v =>
      (v.value.session.status, v.value.session.initialSearchStage),
    (s.clients.hget 1).bind fun call =>
      match call.point with
      | .returned response => some response.status
      | _ => none)

theorem completed_after_initial_empty : ∃ s : System,
    sampleView s = (some (.completed, .value .complete), some .completed) ∧
    ∀ k v, Hash.hget s.base.store.sessions k = some v → v.value.session.status = .completed →
      initialTerminal v.value.session := by
  have hrun : ((system sampleSettings QueuedSessions).exec EntersOver queuedSystem
      emptySearchRun).map sampleView =
        some (some (.completed, .value .complete), some .completed) := by decide +kernel
  obtain ⟨s, hs, hview⟩ := Machine.Reach.of_exec_map emptySearchRun queuedSystem_init hrun
  exact ⟨s, hview, (completed_after_initial sampleSettings hs).1⟩

/-! ## 4. A queued search that is reported complete -/

/-- A call continues the search before any worker has claimed it. -/
def earlyRun : List Event :=
  [.enter 1 sampleSearchId, .turn 1 .answered 10 "" 1,
    .command 1 .answered 11, .command 1 .answered 12, .turn 1 .answered 13 "" 2]

/-- The stored session is `Completed` in the stage `queued`, and so is the response. -/
theorem completed_before_initial : ∃ s : System,
    (system sampleSettings QueuedSessions).Reach Machine.Anything s ∧
    sampleView s = (some (.completed, .value .queued), some .completed) := by
  have hrun : ((system sampleSettings QueuedSessions).exec Machine.Anything queuedSystem
      earlyRun).map sampleView =
        some (some (.completed, .value .queued), some .completed) := by decide +kernel
  exact Machine.Reach.of_exec_map earlyRun queuedSystem_init hrun

end SmartStay.Continuation
