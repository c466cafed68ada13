import SmartStay.Continuation.InitialStage

/-!
# Providers left in the state `running`

A call writes that its providers run before it calls them. This module follows those
writes over every run: which of them leave a session whose lease is released with a
running provider, which no later call may begin or recover.

1. The executions of a session, and `Unstranded`.
2. What the store calls of `continueHotelSearch` do to it.
3. The decisions: `Next.Sound`, one lemma for each.
4. `ReleasesSettled`, the condition on a run, and `Settled`, what every step keeps.
5. `released_settled`: in every run under the condition.
6. `released_running`: a failed renewal strands a provider for good.
-/

namespace SmartStay.Continuation

open Session

variable {cfg : StoreSettings ProviderFields} {s t : System} {e : Event} {now : Nat}
  {session : StaySession}

/-! ## 1. Stranded sessions -/

/-- The executions that a session stores. -/
def executionsOf (session : StaySession) : List ProviderExecution :=
  session.rest.providerExecutions.getD []

/-- The executions that a call goes on with once it has read the session. -/
def entryExecutions (session : StaySession) (now : Nat) : List ProviderExecution :=
  if session.isContinuing then
    recoverStaleProviderExecutions (normalizeSessionProviderExecutions session now)
  else normalizeSessionProviderExecutions session now

/-- No provider runs in a session that is not continuing. -/
def Unstranded (session : StaySession) : Prop :=
  session.isContinuing = false → RunningIn [] (executionsOf session)

theorem normalizeSession_running (h : RunningIn [] (executionsOf session)) (now : Nat) :
    RunningIn [] (normalizeSessionProviderExecutions session now) := by
  unfold executionsOf at h
  unfold normalizeSessionProviderExecutions
  cases hstored : session.rest.providerExecutions with
  | some executions =>
    cases executions with
    | cons execution executions =>
      rw [hstored] at h
      exact h.normalize
    | nil =>
      cases session.rest.providerId with
      | none => exact fun _ he => nomatch he
      | some providerId => exact create_running _ _
  | none =>
    cases session.rest.providerId with
    | none => exact fun _ he => nomatch he
    | some providerId => exact create_running _ _

theorem normalizeSession_continuable {execution : ProviderExecution}
    (h : execution ∈ normalizeSessionProviderExecutions session now) : Continuable execution := by
  have hcreated : ∀ descriptors, execution ∈ createProviderExecutionStates now descriptors →
      Continuable execution := by
    intro descriptors he
    rcases mem_foldl_setExecution _ _ he with he | he
    · cases he
    · obtain ⟨descriptor, -, rfl⟩ := List.mem_map.mp he
      exact create_continuable now descriptor
  unfold normalizeSessionProviderExecutions at h
  split at h
  · obtain ⟨execution', -, rfl⟩ := mem_normalize h
    exact normalize_continuable execution'
  all_goals
    split at h
    · cases h
    · exact hcreated _ h

theorem Unstranded.entry (h : Unstranded session) (now : Nat) :
    RunningIn [] (entryExecutions session now) := by
  unfold entryExecutions
  cases hcontinuing : session.isContinuing with
  | true => exact recover_running _
  | false => exact normalizeSession_running (h hcontinuing) now

/-- In an unstranded session, a provider that is not done can begin in the next call, when
its delay is over. -/
theorem Unstranded.beginnable (h : Unstranded session) {execution : ProviderExecution}
    (he : execution ∈ entryExecutions session now) :
    execution.state = .completed ∨ execution.state = .terminalFailure ∨
      ∀ now, execution.nextAttemptAt.getD 0 ≤ now →
        isProviderExecutionRunnable execution now = true := by
  have hidle : execution.state ≠ .running := fun hrun => nomatch h.entry now execution he hrun
  refine Continuable.beginnable ?_ hidle
  unfold entryExecutions at he
  split at he
  · exact recover_continuable he
  · exact normalizeSession_continuable he

/-! ## 2. Store calls -/

/-- The operation strands no session. -/
def KeepsUnstranded (cfg : StoreSettings ProviderFields) (operation : Operation ProviderFields) :
    Prop :=
  ∀ now session, Unstranded session → Unstranded (nextSession cfg now session operation)

/-- The operation leaves the executions alone. -/
def LeavesExecutions (cfg : StoreSettings ProviderFields)
    (operation : Operation ProviderFields) : Prop :=
  ∀ now session, executionsOf (nextSession cfg now session operation) = executionsOf session

/-- A session that is written as continuing is not stranded. -/
theorem keeps_of_continuing {operation : Operation ProviderFields}
    (h : ∀ now session, (nextSession cfg now session operation).isContinuing = true) :
    KeepsUnstranded cfg operation := by
  intro now session _ hcontinuing
  rw [h] at hcontinuing
  cases hcontinuing

theorem keeps_of_running {operation : Operation ProviderFields}
    (h : ∀ now session, RunningIn [] (executionsOf (nextSession cfg now session operation))) :
    KeepsUnstranded cfg operation := fun now session _ _ => h now session

/-- An update of other fields. -/
theorem keeps_of_leaves {operation : Operation ProviderFields}
    (hcontinuing : ∀ now session,
      (nextSession cfg now session operation).isContinuing = session.isContinuing)
    (h : LeavesExecutions cfg operation) : KeepsUnstranded cfg operation := by
  intro now session hsession hreleased
  rw [hcontinuing] at hreleased
  rw [h]
  exact hsession hreleased

theorem lock_keeps (lease : LeaseContext) : KeepsUnstranded cfg (lockSearchContinuation lease) :=
  keeps_of_continuing fun _ _ => rfl

/-! ## 3. Decisions -/

/-- The executions a call holds run for no provider but those it still has to settle. -/
def Task.Sound : Task → Prop
  | .recover executions => RunningIn [] executions
  | .begin held runnable | .assertBefore held runnable => RunningIn runnable held.executions
  | .assertAfter held results | .currency held results | .apply held results =>
    RunningIn (results.map Prod.fst) held.executions
  | .append held providerId _ results =>
    RunningIn (providerId :: results.map Prod.fst) held.executions
  | .finish _ | .wait _ | .lock _ | .release _ _ | .abort _ => True

/-- The store call that a task awaits: only the catch block and the lock take the stored
executions as they are. -/
def Task.Fits (cfg : StoreSettings ProviderFields) (operation : Operation ProviderFields) :
    Task → Prop
  | .abort _ => LeavesExecutions cfg operation
  | .lock lease => operation = lockSearchContinuation lease
  | .recover _ | .finish _ | .wait _ | .begin _ _ | .assertBefore _ _ | .assertAfter _ _
  | .append _ _ _ _ | .currency _ _ | .apply _ _ | .release _ _ => KeepsUnstranded cfg operation

/-- The same for a call that awaits no store call. -/
def Point.Sound : Point → Prop
  | .providers held runnable => RunningIn runnable held.executions
  | .reread held _ results => RunningIn (results.map Prod.fst) held.executions
  | .await _ _ => False
  | .enter | .lockRead | .lockScript _ | .lockMissing | .lockUndo _ _ | .returned _
  | .threw _ => True

def Next.Sound (cfg : StoreSettings ProviderFields) : Next → Prop
  | .goto point => point.Sound
  | .store operation task => task.Sound ∧ task.Fits cfg operation

theorem abortWith_sound (lease : LeaseContext) (error : ThrownError) :
    (abortWith lease error).Sound cfg := ⟨trivial, fun _ _ => rfl⟩

theorem withSnapshot_ok {applied : Except String (List ProviderExecution)}
    {session : Option StaySession} {executions : List ProviderExecution}
    {snapshot : LegacySnapshot}
    (h : withSnapshot applied session now = .ok (executions, snapshot)) :
    applied = .ok executions := by
  cases applied with
  | error message => cases h
  | ok executions' =>
    simp only [withSnapshot, Except.bind] at h
    cases hsnapshot : getLegacyProviderSnapshot executions' session now with
    | error message =>
      rw [hsnapshot] at h
      cases h
    | ok snapshot' =>
      rw [hsnapshot] at h
      cases h
      rfl

theorem beginAll_running {ids : List ProviderId} : ∀ {runnable : List ProviderId}
    {executions executions' : List ProviderExecution}, RunningIn ids executions →
    beginAll executions now runnable = .ok executions' → RunningIn (ids ++ runnable) executions'
  | [], executions, executions', h, hok => by
    cases hok
    rwa [List.append_nil]
  | providerId :: runnable, executions, executions', h, hok => by
    cases hbegun : beginProviderExecutionAttempt executions providerId now with
    | error message => simp [beginAll, hbegun, Except.bind] at hok
    | ok begun =>
      simp only [beginAll, hbegun, Except.bind] at hok
      refine (beginAll_running (h.begin hbegun) hok).mono fun id hid => ?_
      simp only [List.mem_append, List.mem_cons] at hid ⊢
      rcases hid with (rfl | hid) | hid
      · exact .inr (.inl rfl)
      · exact .inl hid
      · exact .inr (.inr hid)

theorem beforeLock_sound {executions : List ProviderExecution} (h : RunningIn [] executions)
    (session : Option StaySession) (now : Nat) : (beforeLock executions session now).Sound cfg := by
  unfold beforeLock
  dsimp only
  split
  · split
    · trivial
    · exact ⟨trivial, keeps_of_running fun _ _ => h⟩
  · split
    · exact ⟨trivial, keeps_of_running fun _ _ => h⟩
    · trivial

theorem afterEnter_sound (h : Unstranded session) (now : Nat) :
    (afterEnter session now).Sound cfg := by
  have hentry := h.entry now
  unfold entryExecutions at hentry
  unfold afterEnter
  dsimp only
  split
  · trivial
  · split
    · split
      · trivial
      · exact ⟨hentry, keeps_of_running fun _ _ => hentry⟩
    · exact beforeLock_sound hentry _ _

/-- The executions that a call begins with under the lease. -/
theorem locked_running : ∀ {session : Option StaySession},
    (∀ locked, session = some locked → RunningIn [] (executionsOf locked)) →
    RunningIn [] (match session with
      | some session => normalizeSessionProviderExecutions session now
      | none => [])
  | some locked, h => normalizeSession_running (h locked rfl) now
  | none, _ => fun _ he => nomatch he

theorem afterLock_sound (lease : LeaseContext) {session : Option StaySession}
    (h : ∀ locked, session = some locked → RunningIn [] (executionsOf locked)) (now : Nat) :
    (afterLock lease session now).Sound cfg := by
  unfold afterLock
  dsimp only
  split
  · exact abortWith_sound _ _
  · next hok =>
    exact ⟨beginAll_running (locked_running h) (withSnapshot_ok hok),
      keeps_of_continuing fun _ _ => rfl⟩

theorem afterApplied_sound {held : Held} {applied : Except String (List ProviderExecution)}
    {results : Results}
    (h : ∀ executions, applied = .ok executions →
      RunningIn (results.map Prod.fst) executions) (now : Nat) :
    (afterApplied held applied results now).Sound cfg := by
  unfold afterApplied
  split
  · exact abortWith_sound _ _
  · next hok => exact ⟨h _ (withSnapshot_ok hok), keeps_of_continuing fun _ _ => rfl⟩

theorem nextResult_sound {held : Held} {results : Results}
    (h : RunningIn (results.map Prod.fst) held.executions) (now : Nat) :
    (nextResult held results now).Sound cfg := by
  unfold nextResult
  split
  · unfold releaseHeld
    dsimp only
    split
    · exact abortWith_sound _ _
    · exact ⟨trivial, keeps_of_running fun _ _ => h⟩
  · exact afterApplied_sound (fun _ hok => h.failure hok) now
  · exact afterApplied_sound (fun _ hok => h.success hok) now
  · exact afterApplied_sound (fun _ hok => h.failure hok) now
  · exact ⟨h, keeps_of_leaves (fun _ _ => rfl) fun _ _ => rfl⟩
  · exact abortWith_sound _ _

theorem afterReread_sound {held : Held} {results : Results}
    (h : RunningIn (results.map Prod.fst) held.executions) (currency : Option String)
    (session : StaySession) (now : Nat) :
    (afterReread held currency results session now).Sound cfg := by
  have hsame : ∀ executions, Except.ok (ε := String) held.executions = .ok executions →
      RunningIn (results.map Prod.fst) executions := by
    rintro _ ⟨⟩
    exact h
  unfold afterReread
  dsimp only
  split
  · split
    · exact afterApplied_sound hsame now
    · exact ⟨h, keeps_of_leaves (fun _ _ => rfl) fun _ _ => rfl⟩
  · exact afterApplied_sound hsame now

theorem afterReturn_sound {task : Task} (h : task.Sound) {result : Result ProviderFields}
    (hlocked : ∀ lease, task = .lock lease → ∀ locked, resultSession result = some locked →
      RunningIn [] (executionsOf locked)) (now : Nat) :
    (afterReturn task result now).Sound cfg := by
  cases task with
  | recover executions => exact beforeLock_sound h _ _
  | finish outcome => trivial
  | wait retryAfterMs => trivial
  | lock lease => exact afterLock_sound lease (hlocked lease rfl) now
  | begin held runnable => exact ⟨h, keeps_of_continuing fun _ _ => rfl⟩
  | assertBefore held runnable =>
    simp only [afterReturn]
    split
    · exact h
    · exact abortWith_sound _ _
  | assertAfter held results =>
    simp only [afterReturn]
    split
    · exact nextResult_sound h now
    · exact abortWith_sound _ _
  | append held providerId page results =>
    simp only [afterReturn, afterAppend]
    split
    · exact abortWith_sound _ _
    · next hok => exact h.success hok
  | currency held results =>
    refine afterApplied_sound ?_ now
    rintro _ ⟨⟩
    exact h
  | apply held results =>
    have hheld : RunningIn (results.map Prod.fst)
        ({ held with session := resultSession result } : Held).executions := h
    exact nextResult_sound hheld now
  | release held outcome =>
    simp only [afterReturn]
    split
    · trivial
    · exact abortWith_sound _ _
  | abort error => trivial

theorem afterThrow_sound (task : Task) (error : StoreError) :
    (afterThrow task error).Sound cfg := by
  cases task with
  | recover _ | finish _ | wait _ | abort _ | lock _ => trivial
  | begin held _ | assertBefore held _ | assertAfter held _ | append held _ _ _
  | currency held _ | apply held _ | release held _ => exact abortWith_sound held.lease _

/-! ## 4. Every step -/

/-- No stored session is stranded. -/
def UnstrandedSessions (st : StoreState ProviderFields) : Prop :=
  ∀ k v, Hash.hget st.sessions k = some v → Unstranded v.value.session

/-- A locking call stands before one of its commands, or has failed, or has returned a
session in which no provider runs. -/
def LockPhase : Phase ProviderFields → Prop
  | .read _ | .write _ _ | .threw _ => True
  | .returned result => ∀ locked, resultSession result = some locked →
    RunningIn [] (executionsOf locked)
  | .require _ | .reread => False

/-- A call awaits the store call `c` with the task. -/
structure Awaits (base : Session.System ProviderFields) (c : CallId) (task : Task) : Prop where
  sound : task.Sound
  lock : ∀ lease, task = .lock lease → ∃ call, base.calls.hget c = some call ∧
    call.operation = lockSearchContinuation lease ∧ LockPhase call.phase

theorem requireSearchSession_stored {st : StoreState ProviderFields} {searchId : SearchId}
    (h : requireSearchSession st searchId now = .ok session) :
    ∃ v, Hash.hget st.sessions searchId = some v ∧ v.value.session = session := by
  unfold requireSearchSession at h
  split at h
  · next envelope hread =>
    cases h
    obtain ⟨expiresAt, hstored, -⟩ := Keyspace.get_eq_some.mp hread
    exact ⟨_, hstored, rfl⟩
  · split at h <;> cases h

theorem turn_sound {base : Session.System ProviderFields} {call : ContinueCall} {fate : Fate}
    {lockToken : String} {r : StoreState ProviderFields × Next}
    (h : turn cfg base call fate now lockToken = some r) (hstored : UnstrandedSessions base.store)
    (hpoint : call.point.Sound ∨ ∃ c task, call.point = .await c task ∧ Awaits base c task) :
    r.2.Sound cfg := by
  have hreply : ∀ next failed : Next, next.Sound cfg → failed.Sound cfg →
      (fate.reply next failed).Sound cfg := fun next failed hnext hfailed =>
    fate.reply_of (P := fun next : Next => next.Sound cfg) hnext hfailed
  unfold turn at h
  dsimp only at h
  split at h
  · cases h
    refine hreply _ _ ?_ trivial
    split
    · next hread =>
      obtain ⟨v, hv, rfl⟩ := requireSearchSession_stored hread
      exact afterEnter_sound (hstored _ v hv) now
    · trivial
  · cases h
    refine hreply _ _ ?_ trivial
    split <;> trivial
  · obtain ⟨next, hnext, rfl⟩ := Option.map_eq_some_iff.mp h
    refine hreply _ _ ?_ trivial
    unfold afterLockScript at hnext
    split at hnext
    · cases hnext; trivial
    · cases hnext; trivial
    · cases hnext; trivial
    · obtain ⟨lease, -, rfl⟩ := Option.map_eq_some_iff.mp hnext
      exact ⟨trivial, rfl⟩
  · cases h
    refine hreply _ _ ?_ trivial
    split <;> trivial
  · cases h
    exact hreply _ _ trivial trivial
  · next held currency results hreread =>
    have hheld : RunningIn (results.map Prod.fst) held.executions := by
      rcases hpoint with hsound | ⟨c, task, hawait, -⟩
      · rwa [hreread] at hsound
      · rw [hreread] at hawait
        cases hawait
    cases h
    refine hreply _ _ ?_ (abortWith_sound _ _)
    split
    · exact afterReread_sound hheld _ _ now
    · exact abortWith_sound _ _
  · next c task hawait =>
    have hawaits : Awaits base c task := by
      rcases hpoint with hsound | ⟨c', task', hawait', hawaits⟩
      · rw [hawait] at hsound
        exact hsound.elim
      · rw [hawait] at hawait'
        cases hawait'
        exact hawaits
    split at h
    · next result hphase =>
      cases h
      refine afterReturn_sound hawaits.sound (fun lease hlock locked hresult => ?_) now
      obtain ⟨storeCall, hcall, -, hlocked⟩ := hawaits.lock lease hlock
      obtain ⟨storeCall', hcall', hreturned⟩ := Option.map_eq_some_iff.mp hphase
      rw [hcall] at hcall'
      cases hcall'
      rw [hreturned] at hlocked
      exact hlocked locked hresult
    · cases h
      exact afterThrow_sound _ _
    · cases h
  all_goals cases h

/-- What a call decides on is sound. -/
theorem Decided.sound {id : ClientId} {call : ContinueCall} {next : Next}
    (h : Decided cfg s id call e next) (hstored : UnstrandedSessions s.base.store)
    (hpoint : call.point.Sound ∨ ∃ c task, call.point = .await c task ∧ Awaits s.base c task) :
    next.Sound cfg := by
  cases h with
  | turn fate now lockToken c st next hturn => exact turn_sound hturn hstored hpoint
  | settled held runnable outcomes c hproviders hlen =>
    have hheld : RunningIn runnable held.executions := by
      rcases hpoint with hsound | ⟨c', task, hawait, -⟩
      · rwa [hproviders] at hsound
      · rw [hproviders] at hawait
        cases hawait
    refine ⟨?_, keeps_of_continuing fun _ _ => rfl⟩
    change RunningIn ((runnable.zip outcomes).map Prod.fst) held.executions
    rwa [List.map_fst_zip (Nat.le_of_eq hlen.symm)]

/-- The session that the next command of the store call `c` replaces, if that is a write
that passes its checks. -/
def replaced (cfg : StoreSettings ProviderFields) (base : Session.System ProviderFields)
    (c : CallId) (now : Nat) : Option StaySession :=
  (base.calls.hget c).bind fun call =>
    match call.phase with
    | .write _ current =>
      if cfg.byteLength (nextEnvelope cfg now current call.operation) ≤ cfg.maxSessionBytes ∧
          WritePasses cfg.nullText (reap base.store now).2 call.searchId call.searchId
            (writeArgs cfg now current call.operation) (reap base.store now).1 then
        some current.session
      else none
    | .read _ | .require _ | .reread | .returned _ | .threw _ => none

/-- The command of `c` takes over the stored executions as they are: it releases the lease
in the catch block, or it locks the session that its caller then goes on with. -/
def Point.takesOver (c : CallId) (fate : Fate) : Point → Bool
  | .await c' (.abort _) => c' == c && fate != .lost
  | .await c' (.lock _) => c' == c && fate == .answered
  | .await _ _ | .enter | .lockRead | .lockScript _ | .lockMissing | .lockUndo _ _
  | .providers _ _ | .reread _ _ _ | .returned _ | .threw _ => false

/-- No release of the catch block and no lock replaces a session with a running provider. -/
def ReleasesSettled (cfg : StoreSettings ProviderFields) (s : System) : Event → Prop
  | .command c fate now => ∀ id call, s.clients.hget id = some call →
    call.point.takesOver c fate = true → ∀ session, replaced cfg s.base c now = some session →
      RunningIn [] (executionsOf session)
  | .worker _ _ _ _ | .stats _ | .clear _ | .enter _ _ | .turn _ _ _ _ _ | .settled _ _ _ => True

theorem replaced_of_committed {call : SessionCall ProviderFields}
    {current : Envelope ProviderFields} {base : Session.System ProviderFields} {c : CallId}
    {attempt : Nat} (h : Committed cfg s.base base call current now)
    (hcall : s.base.calls.hget c = some call) (hphase : call.phase = .write attempt current) :
    replaced cfg s.base c now = some current.session := by
  simp only [replaced, hcall, Option.bind_some, hphase]
  rw [if_pos ⟨h.bounded, h.passes⟩]

/-- The call has ended. -/
def Ended : Phase ProviderFields → Prop
  | .returned _ | .threw _ => True
  | .read _ | .write _ _ | .require _ | .reread => False

/-- What holds in every state of a run. -/
structure Settled (cfg : StoreSettings ProviderFields) (s : System) : Prop where
  owned : Owned cfg s.base
  ended : ∀ k, Over s.base k
  stored : UnstrandedSessions s.base.store
  calls : ∀ c call, s.base.calls.hget c = some call → call.operation.execution? ≠ none ∨
    KeepsUnstranded cfg call.operation ∨
    LeavesExecutions cfg call.operation ∧ (Ended call.phase ∨ ∃ id client error,
      s.clients.hget id = some client ∧ client.point = .await c (.abort error))
  clients : ∀ id call, s.clients.hget id = some call → call.point.Sound ∨
    ∃ c task, call.point = .await c task ∧ Awaits s.base c task

/-- A decision of a call that awaits a store call finds it ended. -/
theorem Decided.ended {id : ClientId} {call : ContinueCall} {next : Next} {c : CallId}
    {task : Task} (h : Decided cfg s id call e next) (hawait : call.point = .await c task)
    {storeCall : SessionCall ProviderFields} (hcall : s.base.calls.hget c = some storeCall) :
    Ended storeCall.phase := by
  cases h with
  | settled held runnable outcomes c hproviders hlen =>
    rw [hawait] at hproviders
    cases hproviders
  | turn fate now lockToken c' st next hturn =>
    simp only [Continuation.turn, hawait, hcall, Option.map_some] at hturn
    cases hphase : storeCall.phase with
    | returned result => trivial
    | threw error => trivial
    | read _ | write _ _ | require _ | reread => simp [hphase] at hturn

theorem commandEffect_ended {st : StoreState ProviderFields} {call : SessionCall ProviderFields}
    {fate : Fate} (h : Ended call.phase) : commandEffect cfg st call fate now = none := by
  cases hphase : call.phase with
  | returned result => simp [commandEffect, hphase]
  | threw error => simp [commandEffect, hphase]
  | read _ | write _ _ | require _ | reread =>
    rw [hphase] at h
    exact h.elim

/-- The phase of a locking call after a command. -/
theorem lockPhase_command {st : StoreState ProviderFields} {call : SessionCall ProviderFields}
    {fate : Fate} {lease : LeaseContext}
    {r : StoreState ProviderFields × Phase ProviderFields × List (Commit ProviderFields)}
    (h : commandEffect cfg st call fate now = some r) (hlock : LockPhase call.phase)
    (hop : call.operation = lockSearchContinuation lease)
    (hsettled : fate = .answered → ∀ attempt current, call.phase = .write attempt current →
      cfg.byteLength (nextEnvelope cfg now current call.operation) ≤ cfg.maxSessionBytes →
      WritePasses cfg.nullText (reap st now).2 call.searchId call.searchId
        (writeArgs cfg now current call.operation) (reap st now).1 →
      RunningIn [] (executionsOf current.session)) : LockPhase r.2.1 := by
  cases hphase : call.phase with
  | read attempt =>
    simp only [commandEffect, hphase, Option.some.injEq] at h
    subst h
    refine fate.reply_of (P := LockPhase) ?_ trivial
    rw [hop]
    cases st.sessions.get now call.searchId with
    | none => exact fun _ hnone => by cases hnone
    | some envelope => trivial
  | write attempt current =>
    simp only [commandEffect, hphase, Option.some.injEq, writeEffect] at h
    split at h
    · subst h
      trivial
    next hsize =>
    subst h
    cases fate with
    | lost | unanswered => trivial
    | answered =>
      simp only [Fate.reply]
      rcases sessionWrite_cases cfg.nullText call.searchId call.searchId st
          (writeArgs cfg now current call.operation) with ⟨hpass, hw⟩ | ⟨-, outcome, hw, hne⟩
      · rw [hw]
        rintro locked hlocked
        rw [hop] at hlocked
        cases hlocked
        exact hsettled rfl attempt current hphase (Nat.not_lt.mp hsize) hpass
      · rw [hw, hop]
        cases outcome with
        | ok n => exact absurd rfl (hne n)
        | missing => exact fun _ hnone => by cases hnone
        | conflict revision =>
          simp only [afterWrite]
          split <;> trivial
        | _ => trivial
  | require terminal =>
    rw [hphase] at hlock
    exact hlock.elim
  | reread =>
    rw [hphase] at hlock
    exact hlock.elim
  | returned result => simp [commandEffect, hphase] at h
  | threw error => simp [commandEffect, hphase] at h

/-- A step of the base strands no session. -/
theorem Settled.base_step (h : Settled cfg s) {ev : Session.Event ProviderFields}
    {base : Session.System ProviderFields} (hs : Session.step cfg s.base ev = some base)
    (hok : ∀ c fate now, ev = .command c fate now → ReleasesSettled cfg s (.command c fate now)) :
    UnstrandedSessions base.store := by
  intro k v hv
  rcases Session.step_cases hs with ⟨-, hvanish⟩ | ⟨c, fate, now, call, attempt, current, hev, hsent, hcall,
    hphase, hcommit⟩
  · exact h.stored k v (hvanish k v hv)
  by_cases hk : k = call.searchId
  · subst hk
    obtain ⟨hlive, expiresAt, hbefore⟩ := hcommit.current h.owned.fresh hcall hphase
    have hcurrent : Unstranded current.session := h.stored _ _ hbefore
    rw [hcommit.hget_self] at hv
    cases hv
    rcases h.calls c call hcall with hworker | hkeeps | ⟨hleaves, hended | ⟨id, client, error,
      hclient, hawait⟩⟩
    · -- No worker writes over a session past its initial stage.
      have hlawful := hcommit.lawful hlive (h.owned.calls c call hcall)
      exact absurd (h.ended _ _ hbefore) (h.owned.guarded.stage_open hlawful hbefore hworker)
    · exact hkeeps now current.session hcurrent
    · rw [hphase] at hended
      exact hended.elim
    · -- The release of the catch block.
      have htakes : client.point.takesOver c fate = true := by
        simp [hawait, Point.takesOver, hsent]
      have hrunning := hok c fate now hev id client hclient htakes _
        (replaced_of_committed hcommit hcall hphase)
      intro _
      rwa [← hleaves now current.session] at hrunning
  · exact h.stored k v (hcommit.hget_other hk hv)

/-- A step of the base alone. -/
theorem Settled.step_base (h : Settled cfg s) {ev : Session.Event ProviderFields}
    {base : Session.System ProviderFields} (hs : Session.step cfg s.base ev = some base)
    (howned : Owned cfg base)
    (hok : ∀ c fate now, ev = .command c fate now → ReleasesSettled cfg s (.command c fate now))
    (hstart : ∀ c k op, ev = .start c k op → op.execution? ≠ none) :
    Settled cfg { s with base := base } where
  owned := howned
  ended k := over_step h.owned hs (h.ended k)
  stored := h.base_step hs hok
  calls c call hcall := by
    rcases step_calls hs hcall with hold | ⟨k, op, hev, rfl⟩ | ⟨fate, now, call₀, r, -, hcall₀, he, -,
      rfl⟩
    · exact h.calls c call hold
    · exact .inl (hstart c k op hev)
    · rcases h.calls c call₀ hcall₀ with hworker | hkeeps | ⟨hleaves, hended | hawait⟩
      · exact .inl hworker
      · exact .inr (.inl hkeeps)
      · rw [commandEffect_ended hended] at he
        cases he
      · exact .inr (.inr ⟨hleaves, .inr hawait⟩)
  clients id call hcall := by
    rcases h.clients id call hcall with hsound | ⟨c, task, hawait, hawaits⟩
    · exact .inl hsound
    refine .inr ⟨c, task, hawait, hawaits.sound, fun lease htask => ?_⟩
    obtain ⟨storeCall, hstore, hop, hphase⟩ := hawaits.lock lease htask
    rcases step_call hs hstore with hsame | ⟨fate, now, r, hev, he, hafter⟩
    · exact ⟨storeCall, hsame, hop, hphase⟩
    · refine ⟨_, hafter, hop, lockPhase_command he hphase hop ?_⟩
      -- The lock is answered: the session it replaces is the one it returns.
      rintro rfl attempt current hwrite hbounded hpass
      have htakes : call.point.takesOver c .answered = true := by
        simp [hawait, htask, Point.takesOver]
      refine hok c .answered now hev id call hcall htakes current.session ?_
      simp only [replaced, hstore, Option.bind_some, hwrite]
      rw [if_pos ⟨hbounded, hpass⟩]

/-- A step of the calls alone: a decision over a base with the same sessions and calls. -/
theorem Settled.decided (h : Settled cfg s) {id : ClientId} {call : ContinueCall} {c : CallId}
    {next : Next} {base : Session.System ProviderFields} (hcall : s.clients.hget id = some call)
    (hdecided : Decided cfg s id call e next) (hsame : SameSessions s.base base)
    (howned : Owned cfg t.base) (hproceed : s.proceed cfg base id call c next = some t) :
    Settled cfg t := by
  have hover : ∀ k, Over base k := fun k => hsame.over (h.ended k)
  have hstored : UnstrandedSessions base.store := fun k v hv => h.stored k v (hsame.sessions ▸ hv)
  have hnext : next.Sound cfg := hdecided.sound h.stored (h.clients id call hcall)
  -- What the catch block of a call awaits is over when the call goes on.
  have hcalls : ∀ point c' storeCall, base.calls.hget c' = some storeCall →
      storeCall.operation.execution? ≠ none ∨ KeepsUnstranded cfg storeCall.operation ∨
      LeavesExecutions cfg storeCall.operation ∧ (Ended storeCall.phase ∨ ∃ id' client error,
        (s.clients.hset id { call with point := point }).hget id' = some client ∧
          client.point = .await c' (.abort error)) := by
    intro point c' storeCall hstore
    rw [hsame.calls] at hstore
    rcases h.calls c' storeCall hstore with hworker | hkeeps | ⟨hleaves, hended | ⟨id', client, error,
      hclient, hawait⟩⟩
    · exact .inl hworker
    · exact .inr (.inl hkeeps)
    · exact .inr (.inr ⟨hleaves, .inl hended⟩)
    · by_cases hid : id' = id
      · subst hid
        rw [hcall] at hclient
        cases hclient
        exact .inr (.inr ⟨hleaves, .inl (hdecided.ended hawait hstore)⟩)
      · refine .inr (.inr ⟨hleaves, .inr ⟨id', client, error, ?_, hawait⟩⟩)
        rw [Hash.hget_hset, if_neg hid, hclient]
  rcases proceed_cases hproceed with ⟨point, rfl, rfl⟩ | ⟨operation, task, rfl, hnew, rfl⟩
  · refine ⟨howned, hover, hstored, hcalls point, fun id' client hclient => ?_⟩
    rw [Hash.hget_hset] at hclient
    split at hclient
    · cases hclient
      exact .inl hnext
    · rcases h.clients id' client hclient with hsound | ⟨c', task, hawait, hawaits⟩
      · exact .inl hsound
      · exact .inr ⟨c', task, hawait, hawaits.sound, hsame.calls ▸ hawaits.lock⟩
  · obtain ⟨hsound, hfits⟩ := hnext
    refine ⟨howned, hover, hstored, fun c' storeCall hstore => ?_, fun id' client hclient => ?_⟩
    · simp only [startCall, Hash.hget_hset] at hstore
      split at hstore
      · next heq =>
        cases hstore
        cases task with
        | abort error =>
          exact .inr (.inr ⟨hfits, .inr ⟨id, _, error, Hash.hget_hset_self _ _ _, by rw [heq]⟩⟩)
        | lock lease =>
          obtain rfl : operation = lockSearchContinuation lease := hfits
          exact .inr (.inl (lock_keeps lease))
        | recover _ | finish _ | wait _ | begin _ _ | assertBefore _ _ | assertAfter _ _
        | append _ _ _ _ | currency _ _ | apply _ _ | release _ _ => exact .inr (.inl hfits)
      · exact hcalls _ c' storeCall hstore
    · rw [Hash.hget_hset] at hclient
      split at hclient
      · cases hclient
        refine .inr ⟨c, task, rfl, hsound, ?_⟩
        rintro lease rfl
        exact ⟨_, Hash.hget_hset_self _ _ _, hfits, trivial⟩
      · rcases h.clients id' client hclient with hsound' | ⟨c', task', hawait, hawaits⟩
        · exact .inl hsound'
        · refine .inr ⟨c', task', hawait, hawaits.sound, fun lease htask => ?_⟩
          obtain ⟨storeCall, hstore, hlock⟩ := hawaits.lock lease htask
          rw [← hsame.calls] at hstore
          refine ⟨storeCall, ?_, hlock⟩
          rw [startCall, Hash.hget_hset, if_neg, hstore]
          rintro rfl
          exact hnew (Hash.mem_of_hget hstore)

theorem Settled.step (h : Settled cfg s) (hok : ReleasesSettled cfg s e)
    (hst : Continuation.step cfg s e = some t) : Settled cfg t := by
  have howned : Owned cfg t.base := step_owned h.owned hst
  cases step_moved hst with
  | worker c searchId execution update base htoken hs =>
    refine h.step_base hs howned (by simp) fun _ _ _ hev => ?_
    cases hev
    cases update <;> simp [WorkerUpdate.operation, updateInitialSearchExecution,
      Operation.execution?]
  | command c fate now base hs =>
    refine h.step_base hs howned (fun _ _ _ hev => ?_) (by simp)
    cases hev
    exact hok
  | script e call base hs => exact h.step_base hs howned (by simp) (by simp)
  | enter id searchId hnew =>
    refine ⟨h.owned, h.ended, h.stored, fun c call hcall => ?_, fun id' call hcall => ?_⟩
    · rcases h.calls c call hcall with hworker | hkeeps | ⟨hleaves, hended | ⟨id', client, error,
        hclient, hawait⟩⟩
      · exact .inl hworker
      · exact .inr (.inl hkeeps)
      · exact .inr (.inr ⟨hleaves, .inl hended⟩)
      · refine .inr (.inr ⟨hleaves, .inr ⟨id', client, error, ?_, hawait⟩⟩)
        rw [Hash.hget_hset, if_neg, hclient]
        rintro rfl
        exact hnew (Hash.mem_of_hget hclient)
    · rw [Hash.hget_hset] at hcall
      split at hcall
      · cases hcall
        exact .inl trivial
      · exact h.clients id' call hcall
  | decided e id call c next base t hcall hdecided hsame hproceed =>
    exact h.decided hcall hdecided hsame howned hproceed

/-! ## 5. Every run -/

/-- Sessions past their initial search, none of them stranded. -/
structure SearchedSessions (st : StoreState ProviderFields) : Prop where
  unclaimed : Unclaimed st
  ended : ∀ k v, Hash.hget st.sessions k = some v → initialTerminal v.value.session
  stored : UnstrandedSessions st

theorem Settled.init (h : (system cfg SearchedSessions).init s) : Settled cfg s := by
  obtain ⟨⟨hstart, hcalls, hcommits⟩, hclients⟩ := h
  refine ⟨.init ⟨hstart.unclaimed, hcalls, hcommits⟩, hstart.ended, hstart.stored,
    fun c call hcall => ?_, fun id call hcall => ?_⟩
  · rw [hcalls] at hcall
    simp at hcall
  · rw [hclients] at hcall
    simp at hcall

/-- In every run whose catch blocks and locks replace no session with a running provider:
no provider runs in a session whose lease is released, and in the executions that a next
call goes on with, every provider that is not done can begin when its delay is over. -/
theorem released_settled (cfg : StoreSettings ProviderFields) {s : System}
    (h : (system cfg SearchedSessions).Reach (ReleasesSettled cfg) s) :
    ∀ k v, Hash.hget s.base.store.sessions k = some v →
      (v.value.session.isContinuing = false →
        ∀ execution ∈ executionsOf v.value.session, execution.state ≠ .running) ∧
      ∀ now, ∀ execution ∈ entryExecutions v.value.session now,
        execution.state = .completed ∨ execution.state = .terminalFailure ∨
          ∀ now', execution.nextAttemptAt.getD 0 ≤ now' →
            isProviderExecutionRunnable execution now' = true := by
  have hsettled : Settled cfg s :=
    h.invariant (fun _ h0 => .init h0) fun _ _ _ hs hok hst => hs.step hok hst
  intro k v hv
  have hsession : Unstranded v.value.session := hsettled.stored k v hv
  refine ⟨fun hreleased execution he hrun => ?_, fun _ _ he => hsession.beginnable he⟩
  exact nomatch hsession hreleased execution he hrun

instance (executions : List ProviderExecution) (ids : List ProviderId) :
    Decidable (RunningIn ids executions) :=
  inferInstanceAs (Decidable (∀ execution ∈ executions, _ → _))

instance (s : System) (e : Event) : Decidable (ReleasesSettled cfg s e) :=
  match e with
  | .command c fate now =>
    inferInstanceAs (Decidable (∀ id call, s.clients.hget id = some call →
      call.point.takesOver c fate = true → ∀ session, replaced cfg s.base c now = some session →
        RunningIn [] (executionsOf session)))
  | .worker _ _ _ _ | .stats _ | .clear _ | .enter _ _ | .turn _ _ _ _ _ | .settled _ _ _ =>
    .isTrue trivial

/-- The provider `liteapi`. -/
def liteapi : ProviderId := ⟨"liteapi", by decide +kernel, by decide⟩

/-- A search whose initial stage is complete, with one more page of its provider. -/
def pagedSession : StaySession :=
  { searchId := sampleSearchId, createdAt := 0, updatedAt := 0, expiresAt := 1800000
    continuationFencingNumber := .value 7
    initialSearchStage := .value .complete, initialSearchExecutionToken := .null
    initialSearchFencingNumber := .value 1
    rest :=
      { providerId := some liteapi
        providerExecutions := some (createProviderExecutionStates 0
          [{ providerId := liteapi, supportsContinuation := true
             continuation := some ⟨liteapi, "2"⟩ }]) } }

theorem pagedSession_start : SearchedSessions (savedStore pagedSession) := by
  have hone : ∀ k v, Hash.hget (savedStore pagedSession).sessions k = some v →
      v.value.session = pagedSession := by
    intro k v hv
    simp only [savedStore, Keyspace.setPx, Hash.hget_hset] at hv
    split at hv
    · cases hv
      rfl
    · simp at hv
  refine ⟨fun k v hv => ?_, fun k v hv => ?_, fun k v hv _ => ?_⟩
  · rw [hone k v hv]
    rfl
  · rw [hone k v hv]
    exact .inl rfl
  · rw [hone k v hv]
    exact create_running _ _

/-- The system that starts with that search. -/
def pagedSystem : System := ⟨⟨0, savedStore pagedSession, ∅, []⟩, ∅⟩

theorem pagedSystem_init : (system sampleSettings SearchedSessions).init pagedSystem :=
  ⟨⟨pagedSession_start, rfl, rfl⟩, rfl⟩

/-- A call takes the lease, writes that its provider runs, and renews the lease. -/
def beginRun : List Event :=
  [.enter 1 sampleSearchId, .turn 1 .answered 10 "" 0, .turn 1 .answered 11 "" 0,
    .turn 1 .answered 12 "lock-1" 1, .command 1 .answered 13, .command 1 .answered 14,
    .turn 1 .answered 15 "" 2, .command 2 .answered 16, .command 2 .answered 17,
    .turn 1 .answered 18 "" 3]

/-- The call gets an empty last page, and releases the lease. -/
def pageRun : List Event :=
  beginRun ++
    [.command 3 .answered 19, .command 3 .answered 20, .turn 1 .answered 21 "" 4,
      .settled 1 [.noResults none] 4, .command 4 .answered 22, .command 4 .answered 23,
      .turn 1 .answered 24 "" 5, .command 5 .answered 25, .command 5 .answered 26,
      .turn 1 .answered 27 "" 6, .command 6 .answered 28, .command 6 .answered 29,
      .turn 1 .answered 30 "" 7]

/-- Whether the sample session is continuing, and the states of its executions. -/
def sampleStates (s : System) : Option (Bool × List ExecutionState) :=
  (Hash.hget s.base.store.sessions sampleSearchId).map fun v =>
    (v.value.session.isContinuing,
      (executionsOf v.value.session).map ProviderExecution.state)

theorem released_settled_page : ∃ s : System, sampleStates s = some (false, [.completed]) ∧
    ∀ k v, Hash.hget s.base.store.sessions k = some v →
      (v.value.session.isContinuing = false →
        ∀ execution ∈ executionsOf v.value.session, execution.state ≠ .running) ∧
      ∀ now, ∀ execution ∈ entryExecutions v.value.session now,
        execution.state = .completed ∨ execution.state = .terminalFailure ∨
          ∀ now', execution.nextAttemptAt.getD 0 ≤ now' →
            isProviderExecutionRunnable execution now' = true := by
  have hrun : ((system sampleSettings SearchedSessions).exec (ReleasesSettled sampleSettings)
      pagedSystem pageRun).map sampleStates = some (some (false, [.completed])) := by
    decide +kernel
  obtain ⟨s, hs, hstates⟩ := Machine.Reach.of_exec_map pageRun pagedSystem_init hrun
  exact ⟨s, hstates, released_settled sampleSettings hs⟩

/-! ## 6. A stranded provider -/

/-- The renewal after the first write fails: the catch block releases the lease. -/
def lostRenewalRun : List Event :=
  beginRun ++
    [.command 3 .lost 19, .turn 1 .answered 20 "" 4, .command 4 .answered 21,
      .command 4 .answered 22, .turn 1 .answered 23 "" 5]

/-- The one execution of the sample session when its lease is released. -/
def sampleReleased (s : System) : Option ProviderExecution :=
  (Hash.hget s.base.store.sessions sampleSearchId).bind fun v =>
    if v.value.session.isContinuing then none else (executionsOf v.value.session).head?

/-- The execution of `pagedSession` as the call has begun it. -/
def strandedExecution : ProviderExecution :=
  { createProviderExecutionState 0
      { providerId := liteapi, supportsContinuation := true
        continuation := some ⟨liteapi, "2"⟩ } with
    state := .running, attemptCount := 1, attemptsForCursor := 1, lastAttemptAt := some 15
    completedAt := some 0, nextAttemptAt := some 0 }

/-- The lease is released with a running provider, which no later call can begin. -/
theorem released_running : ∃ s : System,
    (system sampleSettings SearchedSessions).Reach Machine.Anything s ∧
    sampleReleased s = some strandedExecution ∧ strandedExecution.state = .running ∧
    ∀ now, isProviderExecutionRunnable strandedExecution now = false := by
  have hrun : ((system sampleSettings SearchedSessions).exec Machine.Anything pagedSystem
      lostRenewalRun).map sampleReleased = some (some strandedExecution) := by decide +kernel
  obtain ⟨s, hs, hreleased⟩ := Machine.Reach.of_exec_map lostRenewalRun pagedSystem_init hrun
  exact ⟨s, hs, hreleased, rfl, fun _ => rfl⟩

end SmartStay.Continuation
