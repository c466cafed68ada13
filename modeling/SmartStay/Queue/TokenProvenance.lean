import SmartStay.Queue.AdmitSearch

/-!
# Where admission tokens come from

What one script can do to the tokens of the records, and from it which tokens the
runs of the system can see.

1. `Carries`: the tokens and fences after a script, in terms of those before it; one
   lemma per script.
2. `commandEffect_carries`: the same for one command of an `admitSearch` call.
3. `Tokens`: a call that is still to reserve is the only holder of its token.
-/

namespace SmartStay.Queue

open AdmissionState

/-! ## 1. Tokens across one script -/

/-- Every record after the script carries the token it carried before it, under a
fence that did not go down, unless the script put it there (`new`). -/
def Carries (new : JobId → AdmissionToken → Prop) (st st' : AdmissionState) : Prop :=
  ∀ j r', st'.records.hget j = some r' → new j r'.admissionToken ∨
    ∃ r, st.records.hget j = some r ∧ r.admissionToken = r'.admissionToken ∧
      st.currentFence j ≤ st'.currentFence j

section Carries

variable {new new' : JobId → AdmissionToken → Prop} {st st' st'' : AdmissionState}

theorem Carries.refl (st : AdmissionState) : Carries new st st :=
  fun _ r hr => .inr ⟨r, hr, rfl, Nat.le_refl _⟩

theorem Carries.mono (h : Carries new st st') (hsub : ∀ j t, new j t → new' j t) :
    Carries new' st st' :=
  fun j r' hr => (h j r' hr).imp_left (hsub j _)

theorem Carries.trans (h : Carries new st st') (h' : Carries new st' st'') :
    Carries new st st'' := by
  intro j r'' hr''
  rcases h' j r'' hr'' with hn | ⟨r', hr', ht', hf'⟩
  · exact .inl hn
  · rcases h j r' hr' with hn | ⟨r, hr, ht, hf⟩
    · exact .inl (ht' ▸ hn)
    · exact .inr ⟨r, hr, ht.trans ht', Nat.le_trans hf hf'⟩

theorem carries_reap (st : AdmissionState) (now : Nat) : Carries new st (st.reap now) := by
  intro j r hr
  simp only [reap, Hash.hget_hdelAll] at hr
  split at hr
  · cases hr
  · next hj => exact .inr ⟨r, hr, rfl, by simp [currentFence, reap, Hash.hget_hdelAll, hj]⟩

theorem carries_dropRecord (st : AdmissionState) (j : JobId) :
    Carries new st (st.dropRecord j) := by
  intro k r hr
  simp only [dropRecord, Hash.hget_hdel] at hr
  split at hr
  · cases hr
  · next hk => exact .inr ⟨r, hr, rfl, by simp [currentFence, dropRecord, Hash.hget_hdel, hk]⟩

/-- Writing a record back under the same token. -/
theorem carries_rewrite {j : JobId} {r r' : AdmissionRecord} (hr : st.records.hget j = some r)
    (ht : r.admissionToken = r'.admissionToken) : Carries new st (st.putRecord j r') := by
  intro k s hs
  simp only [putRecord, Hash.hget_hset] at hs
  split at hs
  · next hk =>
    subst hk
    cases hs
    exact .inr ⟨r, hr, ht, Nat.le_refl _⟩
  · exact .inr ⟨s, hs, rfl, Nat.le_refl _⟩

/-- Writing a record under a new token, whatever becomes of its own fence. -/
theorem carries_putNew {j : JobId} {r' : AdmissionRecord} (hn : new j r'.admissionToken)
    (fences : Hash JobId Nat)
    (hf : ∀ k, k ≠ j → fences.hget k = st.fences.hget k) :
    Carries new st { st.putRecord j r' with fences := fences } := by
  intro k s hs
  simp only [putRecord, Hash.hget_hset] at hs
  split at hs
  · next hk =>
    subst hk
    cases hs
    exact .inl hn
  · next hk => exact .inr ⟨s, hs, rfl, by simp [currentFence, hf k hk]⟩

theorem carries_raiseFence (st : AdmissionState) (j : JobId) :
    Carries new st { st with fences := st.fences.hset j (st.currentFence j + 1) } := by
  intro k r hr
  refine .inr ⟨r, hr, rfl, ?_⟩
  by_cases hk : k = j
  · subst hk
    simp [currentFence]
  · simp [currentFence, Hash.hget_hset, hk]

end Carries

theorem reserve_carries (st : AdmissionState) (j : JobId) (sid : SearchId) (token : AdmissionToken)
    (now leaseMs max : Nat) (fp : Fingerprint) :
    Carries (fun k t => k = j ∧ t = token) st
      (reserveAdmission st j sid token now leaseMs max fp).1 := by
  refine (carries_reap st now).trans ?_
  simp only [reserveAdmission]
  split
  · next r hr =>
    split
    · exact .refl _
    · exact carries_rewrite hr rfl
  · split
    · exact .refl _
    · exact carries_putNew ⟨rfl, rfl⟩ _ fun _ _ => rfl

theorem begin_carries {new : JobId → AdmissionToken → Prop} (st : AdmissionState) (j : JobId)
    (token : AdmissionToken) (now leaseMs : Nat) :
    Carries new st (beginExecution st j token now leaseMs).1 := by
  simp only [beginExecution]
  split
  · exact .refl _
  · next r hr =>
    split
    · exact .refl _
    · exact (carries_raiseFence st j).trans (carries_rewrite hr rfl)

theorem renew_carries {new : JobId → AdmissionToken → Prop} (st : AdmissionState) (j : JobId)
    (token : AdmissionToken) (fence : Int) (now leaseMs : Nat) :
    Carries new st (renewAdmission st j token fence now leaseMs).1 := by
  simp only [renewAdmission]
  split
  · exact .refl _
  · next r hr =>
    split
    · exact .refl _
    split
    · exact .refl _
    · exact carries_rewrite hr rfl

theorem release_carries {new : JobId → AdmissionToken → Prop} (st : AdmissionState) (j : JobId)
    (token : AdmissionToken) (fence : Int) :
    Carries new st (releaseAdmission st j token fence).1 := by
  simp only [releaseAdmission]
  split
  · exact .refl _
  split
  · exact .refl _
  split
  · exact .refl _
  · exact carries_dropRecord st j

/-- The guards of the adoption script: the record carries the token and fingerprint of
the caller and no fence is held. -/
def adoptable (st : AdmissionState) (jobId : JobId) (token : AdmissionToken)
    (payloadFingerprint : Fingerprint) : Bool :=
  (st.records.hget jobId).any fun record =>
    record.admissionToken == token && st.currentFence jobId == 0 &&
      record.payloadFingerprint == payloadFingerprint

theorem adopt_carries (st : AdmissionState) (j : JobId) (token : AdmissionToken) (sid : SearchId)
    (stored : AdmissionToken) (fp : Fingerprint) (now leaseMs : Nat) :
    Carries (fun k t => k = j ∧ t = stored ∧ adoptable st j token fp = true) st
      (adoptStoredReservation st j token sid stored fp now leaseMs).1 := by
  simp only [adoptStoredReservation]
  split
  · exact .refl _
  · next record hr =>
    split
    · exact .refl _
    · next htoken =>
      split
      · exact .refl _
      · next hfence =>
        split
        · exact .refl _
        · next hfp =>
          have hready : adoptable st j token fp = true := by
            rw [not_not] at htoken hfence hfp
            simp [adoptable, hr, htoken, hfence, hfp]
          refine carries_putNew ⟨rfl, rfl, hready⟩ _ fun k hk => ?_
          simp [putRecord, Hash.hget_hdel, hk]

theorem releaseTerminal_carries {new : JobId → AdmissionToken → Prop} (st : AdmissionState)
    (j : JobId) (token : AdmissionToken) :
    Carries new st (releaseTerminalReservation st j token).1 := by
  simp only [releaseTerminalReservation]
  split
  · exact .refl _
  split
  · exact .refl _
  · exact carries_dropRecord st j

/-- An `existing` reply names the token that the record carries. -/
theorem reserve_existing {st : AdmissionState} {j : JobId} {sid sid' : SearchId}
    {token t : AdmissionToken} {now leaseMs max : Nat} {fp : Fingerprint}
    (h : (reserveAdmission st j sid token now leaseMs max fp).2 = .existing sid' t) :
    ∃ r, (reserveAdmission st j sid token now leaseMs max fp).1.records.hget j = some r ∧
      r.admissionToken = t := by
  simp only [reserveAdmission] at h ⊢
  split at h
  · next r hr =>
    split at h
    · cases h
    · next hfp =>
      cases h
      exact ⟨{ r with expiresAt := now + leaseMs }, by simp [hfp, putRecord], rfl⟩
  · split at h <;> cases h

/-- A `created` reply names the token of the request. -/
theorem reserve_created {st : AdmissionState} {j : JobId} {sid sid' : SearchId}
    {token t : AdmissionToken} {now leaseMs max : Nat} {fp : Fingerprint}
    (h : (reserveAdmission st j sid token now leaseMs max fp).2 = .created sid' t) : t = token := by
  simp only [reserveAdmission] at h
  split at h
  · split at h <;> cases h
  · split at h
    · cases h
    · cases h
      rfl

/-! ## 2. Tokens across one command -/

/-- The tokens that a command of a call can put into its record: the token minted for
it when it reserves, the stored token when it adopts. -/
def Installs (st : AdmissionState) (call : Call) (fate : Fate) (j : JobId) (t : AdmissionToken) :
    Prop :=
  j = call.admission.jobId ∧
    ((call.phase = .reserve ∧ t = call.admission.requestedAdmissionToken) ∨
      ∃ reservation stored, call.phase = .adopt reservation stored ∧ fate ≠ .lost ∧
        t = stored.admissionToken ∧ adoptable st call.admission.jobId reservation.admissionToken
          call.admission.payloadFingerprint = true)

theorem effect_carries {new : JobId → AdmissionToken → Prop} {st st' : AdmissionState}
    (fate : Fate) (h : fate ≠ .lost → Carries new st st') : Carries new st (fate.effect st st') :=
  fate.effect_of (P := Carries new st) (.refl _) h

theorem commandEffect_carries {cfg : QueueConfig} {st : AdmissionState}
    {jobs : Hash JobId StoredJob} {call : Call} {fate : Fate} {now : Nat}
    {r : AdmissionState × Hash JobId StoredJob × Phase}
    (h : commandEffect cfg st jobs call fate now = some r) :
    Carries (Installs st call fate) st r.1 := by
  obtain ⟨admission, phase⟩ := call
  cases phase with
  | reserve =>
    cases h
    refine effect_carries fate fun _ => (reserve_carries _ _ _ _ _ _ _ _).mono ?_
    exact fun j t hn => ⟨hn.1, .inl ⟨rfl, hn.2⟩⟩
  | adopt reservation stored =>
    cases h
    refine effect_carries fate fun hf => (adopt_carries _ _ _ _ _ _ _ _).mono ?_
    exact fun j t hn => ⟨hn.1, .inr ⟨reservation, stored, rfl, hf, hn.2.1, hn.2.2⟩⟩
  | releaseTerminal reservation stored =>
    cases h
    exact effect_carries fate fun _ => releaseTerminal_carries _ _ _
  | cleanup reservation error =>
    cases h
    exact effect_carries fate fun _ => release_carries _ _ _ _
  | addJob _ => cases h; exact .refl _
  | getJob _ => cases h; exact .refl _
  | getState _ _ => cases h; exact .refl _
  | admitted _ => cases h
  | threw _ => cases h

/-! ## 3. Tokens of a run -/

/-- The reservation a call holds in a phase. -/
def Phase.reservation? : Phase → Option Reservation
  | .addJob r | .getJob r | .getState r _ | .adopt r _ | .releaseTerminal r _ | .cleanup r _ =>
    some r
  | .reserve | .admitted _ | .threw _ => none

/-- The stored ids a call works with in a phase. -/
def Phase.stored? : Phase → Option StoredIds
  | .getState _ st | .adopt _ st | .releaseTerminal _ st => some st
  | _ => none

/-- The token `t` has left the call it was minted for: no call that is still to
reserve holds it. -/
def Known (s : System) (t : AdmissionToken) : Prop :=
  t ∈ s.minted ∧ ∀ c call, s.calls.hget c = some call → call.phase = .reserve →
    call.admission.requestedAdmissionToken ≠ t

/-- Calls have different tokens, and every token that the stores, the reservations and
the begins mention is `Known`. -/
structure Tokens (s : System) : Prop where
  minted : ∀ c call, s.calls.hget c = some call →
    call.admission.requestedAdmissionToken ∈ s.minted
  distinct : ∀ c c' call call', s.calls.hget c = some call → s.calls.hget c' = some call' →
    call.admission.requestedAdmissionToken = call'.admission.requestedAdmissionToken → c = c'
  trimmed : ∀ t ∈ s.minted, JsText.trim t = t
  records : ∀ j r, s.admission.records.hget j = some r → Known s r.admissionToken
  jobs : ∀ j job, s.jobs.hget j = some job → Known s job.admissionToken
  reservations : ∀ c call r, s.calls.hget c = some call → call.phase.reservation? = some r →
    Known s r.admissionToken ∧
      (r.created = true → r.admissionToken = call.admission.requestedAdmissionToken)
  stored : ∀ c call st, s.calls.hget c = some call → call.phase.stored? = some st →
    Known s st.admissionToken
  begins : ∀ b ∈ s.begins, Known s b.admissionToken
  creators : ∀ c call r e, s.calls.hget c = some call → call.phase = .cleanup r e →
    r.created = true

/-- The phases that a decision of a call with the reservation `r` can lead to. -/
structure Continues (r : Reservation) (known : StoredIds → Prop) (next : Phase) : Prop where
  reserved : next ≠ .reserve
  reservation : ∀ r', next.reservation? = some r' → r' = r
  stored : ∀ st, next.stored? = some st → known st
  creator : ∀ r' e, next = .cleanup r' e → r'.created = true

theorem fail_continues (r : Reservation) (known : StoredIds → Prop) (e : SearchQueueError) :
    Continues r known (fail r e) := by
  unfold fail
  split
  · next hcreated => constructor <;> simp [Phase.reservation?, Phase.stored?, hcreated]
  · constructor <;> simp [Phase.reservation?, Phase.stored?]

theorem reply_continues {r : Reservation} {known : StoredIds → Prop} {next failed : Phase}
    (fate : Fate) (hn : Continues r known next) (hf : Continues r known failed) :
    Continues r known (fate.reply next failed) :=
  fate.reply_of hn hf

theorem afterGetJob_continues (cfg : QueueConfig) (admission : Admission) (r : Reservation)
    (job? : Option StoredJob) :
    Continues r (fun st => ∃ job, job? = some job ∧ st.admissionToken = JsText.trim job.admissionToken)
      (afterGetJob cfg admission r job?) := by
  cases job? with
  | none => exact fail_continues r _ _
  | some job =>
    simp only [afterGetJob]
    split
    · exact fail_continues r _ _
    split
    · exact fail_continues r _ _
    split
    · constructor <;> simp [Phase.reservation?, Phase.stored?]
    · constructor <;> simp [admittedPhase, Phase.reservation?, Phase.stored?]

theorem afterGetState_continues (cfg : QueueConfig) (r : Reservation) (stored : StoredIds)
    (state : JobState) : Continues r (· = stored) (afterGetState cfg r stored state) := by
  unfold afterGetState
  split
  · constructor <;> simp [Phase.reservation?, Phase.stored?]
  split
  · constructor <;> simp [Phase.reservation?, Phase.stored?]
  · exact fail_continues r _ _

theorem afterRetained_continues (cfg : QueueConfig) (admission : Admission) (r : Reservation)
    (stored : StoredIds) (done : Bool) :
    Continues r (· = stored) (afterRetained cfg admission r stored done) := by
  unfold afterRetained
  split
  · constructor <;> simp [admittedPhase, Phase.reservation?, Phase.stored?]
  · exact fail_continues r _ _

/-- What a command does to the phase of its call. -/
structure PhaseStep (st' : AdmissionState) (jobs : Hash JobId StoredJob) (call : Call)
    (next : Phase) : Prop where
  reserved : next ≠ .reserve
  reservation : ∀ r, next.reservation? = some r → call.phase.reservation? = some r ∨
    (r.created = true ∧ r.admissionToken = call.admission.requestedAdmissionToken) ∨
    (r.created = false ∧ ∃ record, st'.records.hget call.admission.jobId = some record ∧
      record.admissionToken = r.admissionToken)
  stored : ∀ st, next.stored? = some st → call.phase.stored? = some st ∨
    ∃ job, jobs.hget call.admission.jobId = some job ∧
      st.admissionToken = JsText.trim job.admissionToken
  creator : ∀ r e, next = .cleanup r e → r.created = true

theorem Continues.phaseStep {st' : AdmissionState} {jobs : Hash JobId StoredJob} {call : Call}
    {next : Phase} {r : Reservation} {known : StoredIds → Prop} (h : Continues r known next)
    (hr : call.phase.reservation? = some r)
    (hk : ∀ st, known st → call.phase.stored? = some st ∨
      ∃ job, jobs.hget call.admission.jobId = some job ∧
        st.admissionToken = JsText.trim job.admissionToken) :
    PhaseStep st' jobs call next :=
  ⟨h.reserved, fun r' hr' => .inl (h.reservation r' hr' ▸ hr), fun st hst => hk st (h.stored st hst),
    h.creator⟩

theorem commandEffect_phase {cfg : QueueConfig} {st : AdmissionState}
    {jobs : Hash JobId StoredJob} {call : Call} {fate : Fate} {now : Nat}
    {r : AdmissionState × Hash JobId StoredJob × Phase}
    (h : commandEffect cfg st jobs call fate now = some r) :
    PhaseStep r.1 jobs call r.2.2 := by
  obtain ⟨admission, phase⟩ := call
  cases phase with
  | reserve =>
    cases h
    cases fate with
    | answered =>
      simp only [Fate.reply, Fate.effect]
      cases hreply : (reserveAdmission st admission.jobId admission.searchId
          admission.requestedAdmissionToken now cfg.admissionLeaseMs cfg.maxAdmittedJobs
          admission.payloadFingerprint).2 with
      | conflict => constructor <;> simp [afterReserve, failEarly, Phase.reservation?, Phase.stored?]
      | full => constructor <;> simp [afterReserve, failEarly, Phase.reservation?, Phase.stored?]
      | existing sid t =>
        refine ⟨by simp [afterReserve], fun r hr => ?_, by simp [afterReserve, Phase.stored?],
          by simp [afterReserve]⟩
        simp only [afterReserve, Phase.reservation?, Option.some.injEq] at hr
        subst hr
        exact .inr (.inr ⟨rfl, reserve_existing hreply⟩)
      | created sid t =>
        refine ⟨by simp [afterReserve], fun r hr => ?_, by simp [afterReserve, Phase.stored?],
          by simp [afterReserve]⟩
        simp only [afterReserve, Phase.reservation?, Option.some.injEq] at hr
        subst hr
        exact .inr (.inl ⟨rfl, reserve_created hreply⟩)
    | lost => constructor <;> simp [Fate.reply, failEarly, Phase.reservation?, Phase.stored?]
    | unanswered => constructor <;> simp [Fate.reply, failEarly, Phase.reservation?, Phase.stored?]
  | addJob res =>
    cases h
    have hnext : Continues res (fun _ => False) (.getJob res) := by
      constructor <;> simp [Phase.reservation?, Phase.stored?]
    exact (reply_continues fate hnext (fail_continues _ _ _)).phaseStep rfl fun _ hf => hf.elim
  | getJob res =>
    cases h
    exact (reply_continues fate (afterGetJob_continues _ _ _ _) (fail_continues _ _ _)).phaseStep rfl
      fun st hst => .inr hst
  | getState res stored =>
    cases h
    exact (reply_continues fate (afterGetState_continues _ _ _ _) (fail_continues _ _ _)).phaseStep rfl
      fun st hst => .inl (congrArg some hst.symm)
  | adopt res stored =>
    cases h
    exact (reply_continues fate (afterRetained_continues _ _ _ _ _) (fail_continues _ _ _)).phaseStep
      rfl fun st hst => .inl (congrArg some hst.symm)
  | releaseTerminal res stored =>
    cases h
    exact (reply_continues fate (afterRetained_continues _ _ _ _ _) (fail_continues _ _ _)).phaseStep
      rfl fun st hst => .inl (congrArg some hst.symm)
  | cleanup res error =>
    cases h
    constructor <;> simp [Phase.reservation?, Phase.stored?]
  | admitted _ => cases h
  | threw _ => cases h

/-- A command stores a job only with the ids of its own reservation. -/
theorem commandEffect_jobs {cfg : QueueConfig} {st : AdmissionState}
    {jobs : Hash JobId StoredJob} {call : Call} {fate : Fate} {now : Nat}
    {r : AdmissionState × Hash JobId StoredJob × Phase}
    (h : commandEffect cfg st jobs call fate now = some r) {j : JobId} {job : StoredJob}
    (hj : r.2.1.hget j = some job) :
    jobs.hget j = some job ∨
      ∃ res, call.phase.reservation? = some res ∧ job.admissionToken = res.admissionToken := by
  obtain ⟨admission, phase⟩ := call
  cases phase with
  | addJob res =>
    cases h
    cases fate with
    | lost => exact .inl hj
    | answered | unanswered =>
      simp only [Fate.effect, addStoredJob] at hj
      split at hj
      · exact .inl hj
      · rw [Hash.hget_hset] at hj
        split at hj
        · cases hj
          exact .inr ⟨res, rfl, rfl⟩
        · exact .inl hj
  | reserve | getJob _ | getState _ _ | adopt _ _ | releaseTerminal _ _ | cleanup _ _ =>
    cases h
    exact .inl hj
  | admitted _ => cases h
  | threw _ => cases h

theorem checkAdmission_token {cfg : QueueConfig} {request : AdmissionRequest}
    {token : AdmissionToken} {admission : Admission}
    (h : checkAdmission cfg request token = .ok admission) :
    admission.requestedAdmissionToken = token := by
  simp only [checkAdmission] at h
  split at h
  · cases h
  split at h
  · cases h
  split at h
  · cases h
  cases hj : createSearchJobId cfg request.idempotencyKey with
  | error e => rw [hj] at h; cases h
  | ok j =>
    rw [hj] at h
    simp only [bind, Except.bind, pure, Except.pure] at h
    split at h
    · split at h
      · cases h
        rfl
      · cases h
    · cases h

/-- An `ok` reply: the record carries the token, and the fence is raised by one. -/
theorem begin_ok {st : AdmissionState} {j : JobId} {token : AdmissionToken} {now leaseMs f : Nat}
    {sid : SearchId} (h : (beginExecution st j token now leaseMs).2 = .ok f sid) :
    (∃ r, st.records.hget j = some r ∧ r.admissionToken = token) ∧ f = st.currentFence j + 1 ∧
      (beginExecution st j token now leaseMs).1.currentFence j = f := by
  simp only [beginExecution] at h ⊢
  split at h
  · cases h
  · next r hr =>
    split at h
    · cases h
    · next ht =>
      cases h
      refine ⟨⟨r, hr, not_not.mp ht⟩, rfl, ?_⟩
      simp [ht, putRecord, currentFence]

/-- What `beginEffect` does: the begins it adds are those of an `ok` reply. -/
theorem beginEffect_spec (cfg : QueueConfig) (st : AdmissionState) (attempt : Attempt)
    (fate : Fate) (now : Nat) :
    (beginEffect cfg st attempt fate now).1 = fate.effect st
        (beginExecution st attempt.jobId attempt.admissionToken now cfg.admissionLeaseMs).1 ∧
      ∀ b ∈ (beginEffect cfg st attempt fate now).2.2,
        (beginEffect cfg st attempt fate now).2.2 = [b] ∧ b.jobId = attempt.jobId ∧
        b.admissionToken = attempt.admissionToken ∧ fate ≠ .lost ∧
        ∃ sid, (beginExecution st attempt.jobId attempt.admissionToken now
          cfg.admissionLeaseMs).2 = .ok b.fencingNumber sid := by
  unfold beginEffect
  generalize beginExecution st attempt.jobId attempt.admissionToken now cfg.admissionLeaseMs = r
  obtain ⟨st', reply⟩ := r
  cases fate <;> cases reply <;> simp [Fate.effect]

/-- What a `command` step is. -/
theorem step_command {cfg : QueueConfig} {s s' : System} {c : CallId} {fate : Fate} {now : Nat}
    (h : step cfg s (.command c fate now) = some s') :
    s.clock ≤ now ∧ ∃ call, s.calls.hget c = some call ∧
      ∃ r, commandEffect cfg s.admission s.jobs call fate now = some r ∧
        s' = { s with
          clock := now, admission := r.1, jobs := r.2.1
          calls := s.calls.hset c { call with phase := r.2.2 } } := by
  simp only [step, Option.ite_none_left_eq_some, not_lt, Option.bind_eq_some_iff,
    Option.map_eq_some_iff] at h
  obtain ⟨hnow, call, hcall, r, he, rfl⟩ := h
  exact ⟨hnow, call, hcall, r, he, rfl⟩

/-- What a `begin` step is. -/
theorem step_begin {cfg : QueueConfig} {s s' : System} {a : AttemptId} {fate : Fate} {now : Nat}
    (h : step cfg s (.begin a fate now) = some s') :
    s.clock ≤ now ∧ ∃ attempt, s.attempts.hget a = some attempt ∧ attempt.fence = none ∧
      s' = { s with
        clock := now, admission := (beginEffect cfg s.admission attempt fate now).1
        attempts := s.attempts.hset a
          { attempt with fence := (beginEffect cfg s.admission attempt fate now).2.1 }
        begins := (beginEffect cfg s.admission attempt fate now).2.2 ++ s.begins } := by
  simp only [step, Option.ite_none_left_eq_some, not_lt, Option.bind_eq_some_iff, not_not] at h
  obtain ⟨hnow, attempt, hattempt, hfence, hs⟩ := h
  exact ⟨hnow, attempt, hattempt, hfence, (Option.some.inj hs).symm⟩

namespace Tokens

variable {s s' : System}

theorem empty : Tokens .empty := by
  constructor <;> simp [System.empty, AdmissionState.empty]

theorem known_congr (hc : s'.calls = s.calls) (hm : s'.minted = s.minted) {t : AdmissionToken} :
    Known s' t ↔ Known s t := by
  rw [Known, Known, hc, hm]

/-- A step that leaves the calls alone and brings no token into the records or jobs. -/
theorem frame (h : Tokens s) (hc : s'.calls = s.calls) (hm : s'.minted = s.minted)
    (ha : Carries (fun _ _ => False) s.admission s'.admission)
    (hj : ∀ j job, s'.jobs.hget j = some job →
      ∃ job', s.jobs.hget j = some job' ∧ job'.admissionToken = job.admissionToken)
    (hb : ∀ b ∈ s'.begins, Known s b.admissionToken) : Tokens s' := by
  constructor
  case minted => rw [hc, hm]; exact h.minted
  case distinct => rw [hc]; exact h.distinct
  case trimmed => rw [hm]; exact h.trimmed
  case records =>
    intro j r hr
    rcases ha j r hr with hf | ⟨r', hr', ht, -⟩
    · exact hf.elim
    · rw [known_congr hc hm, ← ht]
      exact h.records j r' hr'
  case jobs =>
    intro j job hjob
    obtain ⟨job', hjob', ht⟩ := hj j job hjob
    rw [known_congr hc hm, ← ht]
    exact h.jobs j job' hjob'
  case reservations =>
    intro c call r hcall hr
    rw [hc] at hcall
    rw [known_congr hc hm]
    exact h.reservations c call r hcall hr
  case stored =>
    intro c call st hcall hst
    rw [hc] at hcall
    rw [known_congr hc hm]
    exact h.stored c call st hcall hst
  case begins =>
    intro b hbm
    rw [known_congr hc hm]
    exact hb b hbm
  case creators => rw [hc]; exact h.creators

/-- A new call under a token that was never minted before. -/
theorem admitSearch (h : Tokens s) {c : CallId} {admission : Admission} {token : AdmissionToken}
    (htoken : admission.requestedAdmissionToken = token) (hnew : token ∉ s.minted)
    (htrim : JsText.trim token = token) :
    Tokens { s with
      calls := s.calls.hset c ⟨admission, .reserve⟩, minted := token :: s.minted } := by
  have hknown : ∀ t, Known s t → Known { s with
      calls := s.calls.hset c ⟨admission, .reserve⟩, minted := token :: s.minted } t := by
    intro t ⟨hm, hc⟩
    refine ⟨List.mem_cons_of_mem _ hm, fun c' call hcall hphase => ?_⟩
    simp only [Hash.hget_hset] at hcall
    split at hcall
    · cases hcall
      rw [htoken]
      exact fun e => hnew (e ▸ hm)
    · exact hc c' call hcall hphase
  constructor
  case minted =>
    intro c' call hcall
    simp only [Hash.hget_hset] at hcall
    split at hcall
    · cases hcall
      simp [htoken]
    · exact List.mem_cons_of_mem _ (h.minted c' call hcall)
  case distinct =>
    intro c₁ c₂ call₁ call₂ h₁ h₂ heq
    simp only [Hash.hget_hset] at h₁ h₂
    split at h₁ <;> split at h₂
    · next e₁ e₂ => rw [e₁, e₂]
    · cases h₁
      exact absurd (htoken ▸ heq ▸ h.minted c₂ call₂ h₂) hnew
    · cases h₂
      exact absurd (htoken ▸ heq ▸ h.minted c₁ call₁ h₁) hnew
    · exact h.distinct c₁ c₂ call₁ call₂ h₁ h₂ heq
  case trimmed =>
    intro t ht
    rcases List.mem_cons.mp ht with rfl | ht
    · exact htrim
    · exact h.trimmed t ht
  case records => exact fun j r hr => hknown _ (h.records j r hr)
  case jobs => exact fun j job hj => hknown _ (h.jobs j job hj)
  case reservations =>
    intro c' call r hcall hr
    simp only [Hash.hget_hset] at hcall
    split at hcall
    · cases hcall
      cases hr
    · exact ⟨hknown _ (h.reservations c' call r hcall hr).1, (h.reservations c' call r hcall hr).2⟩
  case stored =>
    intro c' call st hcall hst
    simp only [Hash.hget_hset] at hcall
    split at hcall
    · cases hcall
      cases hst
    · exact hknown _ (h.stored c' call st hcall hst)
  case begins => exact fun b hb => hknown _ (h.begins b hb)
  case creators =>
    intro c' call r e hcall hphase
    simp only [Hash.hget_hset] at hcall
    split at hcall
    · cases hcall
      cases hphase
    · exact h.creators c' call r e hcall hphase

/-- One command: the token of the call becomes known when it reserves, and everything
the command writes was known before. -/
theorem command (h : Tokens s) {cfg : QueueConfig} {c : CallId} {call : Call} {fate : Fate}
    {now : Nat} {r : AdmissionState × Hash JobId StoredJob × Phase}
    (hcall : s.calls.hget c = some call)
    (he : commandEffect cfg s.admission s.jobs call fate now = some r) :
    Tokens { s with
      clock := now, admission := r.1, jobs := r.2.1
      calls := s.calls.hset c { call with phase := r.2.2 } } := by
  have hphase := commandEffect_phase he
  have hcalls : ∀ {c' call'}, (s.calls.hset c { call with phase := r.2.2 }).hget c' = some call' →
      (c' = c ∧ call' = { call with phase := r.2.2 }) ∨ (c' ≠ c ∧ s.calls.hget c' = some call') := by
    intro c' call' h'
    rw [Hash.hget_hset] at h'
    split at h'
    · next e => exact .inl ⟨e, (Option.some.inj h').symm⟩
    · next e => exact .inr ⟨e, h'⟩
  generalize hs' : ({ s with
    clock := now, admission := r.1, jobs := r.2.1
    calls := s.calls.hset c { call with phase := r.2.2 } } : System) = s'
  have hknown : ∀ t, Known s t → Known s' t := by
    rintro t ⟨hm, hc⟩
    subst hs'
    refine ⟨hm, fun c' call' h' hp => ?_⟩
    rcases hcalls h' with ⟨-, rfl⟩ | ⟨-, h'⟩
    · exact absurd hp hphase.reserved
    · exact hc c' call' h' hp
  have hown : Known s' call.admission.requestedAdmissionToken := by
    subst hs'
    refine ⟨h.minted c call hcall, fun c' call' h' hp heq => ?_⟩
    rcases hcalls h' with ⟨-, rfl⟩ | ⟨hne, h'⟩
    · exact hphase.reserved hp
    · exact hne (h.distinct c' c call' call h' hcall heq)
  have hrecords : ∀ j record, r.1.records.hget j = some record → Known s' record.admissionToken := by
    intro j record hr
    rcases commandEffect_carries he j record hr with ⟨-, hnew⟩ | ⟨record', hr', ht, -⟩
    · rcases hnew with ⟨-, ht⟩ | ⟨res, stored, hadopt, -, ht, -⟩
      · exact ht ▸ hown
      · exact ht ▸ hknown _ (h.stored c call stored hcall (by rw [hadopt]; rfl))
    · exact ht ▸ hknown _ (h.records j record' hr')
  have hjobs : ∀ j job, r.2.1.hget j = some job → Known s' job.admissionToken := by
    intro j job hjob
    rcases commandEffect_jobs he hjob with hold | ⟨res, hres, ht⟩
    · exact hknown _ (h.jobs j job hold)
    · exact ht ▸ hknown _ (h.reservations c call res hcall hres).1
  subst hs'
  constructor
  case records => exact hrecords
  case jobs => exact hjobs
  case trimmed => exact h.trimmed
  case begins => exact fun b hb => hknown _ (h.begins b hb)
  case creators =>
    intro c' call' res e h' hp
    rcases hcalls h' with ⟨-, rfl⟩ | ⟨-, h'⟩
    · exact hphase.creator res e hp
    · exact h.creators c' call' res e h' hp
  case minted =>
    intro c' call' h'
    rcases hcalls h' with ⟨-, rfl⟩ | ⟨-, h'⟩
    · exact h.minted c call hcall
    · exact h.minted c' call' h'
  case distinct =>
    intro c₁ c₂ call₁ call₂ h₁ h₂ heq
    rcases hcalls h₁ with ⟨rfl, rfl⟩ | ⟨-, old₁⟩ <;> rcases hcalls h₂ with ⟨rfl, rfl⟩ | ⟨-, old₂⟩
    · rfl
    · exact h.distinct c₁ c₂ call call₂ hcall old₂ heq
    · exact h.distinct c₁ c₂ call₁ call old₁ hcall heq
    · exact h.distinct c₁ c₂ call₁ call₂ old₁ old₂ heq
  case reservations =>
    intro c' call' res h' hres
    rcases hcalls h' with ⟨rfl, rfl⟩ | ⟨-, h'⟩
    · rcases hphase.reservation res hres with hold | ⟨-, ht⟩ | ⟨hex, record, hr, ht⟩
      · have hk := h.reservations _ call res hcall hold
        exact ⟨hknown _ hk.1, hk.2⟩
      · exact ⟨ht ▸ hown, fun _ => ht⟩
      · exact ⟨ht ▸ hrecords _ record hr, fun hcr => absurd (hex ▸ hcr) (by decide)⟩
    · have hk := h.reservations c' call' res h' hres
      exact ⟨hknown _ hk.1, hk.2⟩
  case stored =>
    intro c' call' st h' hst
    rcases hcalls h' with ⟨rfl, rfl⟩ | ⟨-, h'⟩
    · rcases hphase.stored st hst with hold | ⟨job, hjob, ht⟩
      · exact hknown _ (h.stored _ call st hcall hold)
      · have hk := h.jobs _ job hjob
        rw [ht, h.trimmed _ hk.1]
        exact hknown _ hk
    · exact hknown _ (h.stored c' call' st h' hst)

/-- Every step keeps `Tokens`. -/
theorem step {cfg : QueueConfig} (h : Tokens s) {ev : Event}
    (hs : Queue.step cfg s ev = some s') : Tokens s' := by
  cases ev with
  | admitSearch c request token =>
    simp only [Queue.step] at hs
    split at hs
    · cases hs
    · next hg =>
      simp only [not_or, not_not] at hg
      split at hs
      · next admission hadm =>
        cases hs
        exact h.admitSearch (checkAdmission_token hadm) hg.2.1 hg.2.2
      · cases hs
  | command c fate now =>
    obtain ⟨-, call, hcall, r, he, rfl⟩ := step_command hs
    exact h.command hcall he
  | moveJob j state =>
    simp only [Queue.step, Option.map_eq_some_iff] at hs
    obtain ⟨job, hjob, rfl⟩ := hs
    refine h.frame rfl rfl (.refl _) (fun k job' hk => ?_) h.begins
    simp only [Hash.hget_hset] at hk
    split at hk
    · next e =>
      cases hk
      exact ⟨job, e ▸ hjob, rfl⟩
    · exact ⟨job', hk, rfl⟩
  | removeJob j =>
    simp only [Queue.step, Option.bind_eq_some_iff, Option.ite_none_right_eq_some] at hs
    obtain ⟨job, -, -, hs⟩ := hs
    cases hs
    refine h.frame rfl rfl (.refl _) (fun k job' hk => ?_) h.begins
    simp only [Hash.hget_hdel] at hk
    split at hk
    · cases hk
    · exact ⟨job', hk, rfl⟩
  | deliver a j =>
    simp only [Queue.step, Option.ite_none_left_eq_some, Option.bind_eq_some_iff] at hs
    obtain ⟨-, job, hjob, -, hs⟩ := hs
    cases hs
    refine h.frame rfl rfl (.refl _) (fun k job' hk => ?_) h.begins
    simp only [Hash.hget_hset] at hk
    split at hk
    · next e =>
      cases hk
      exact ⟨job, e ▸ hjob, rfl⟩
    · exact ⟨job', hk, rfl⟩
  | begin a fate now =>
    obtain ⟨-, attempt, -, -, rfl⟩ := step_begin hs
    have hspec := beginEffect_spec cfg s.admission attempt fate now
    refine h.frame rfl rfl ?_ (fun k job hk => ⟨job, hk, rfl⟩) fun b hb => ?_
    · rw [hspec.1]
      exact effect_carries fate fun _ => begin_carries _ _ _ _ _
    · rcases List.mem_append.mp hb with hb | hb
      · obtain ⟨-, -, htoken, -, sid, hok⟩ := hspec.2 b hb
        obtain ⟨⟨record, hr, ht⟩, -⟩ := begin_ok hok
        rw [htoken, ← ht]
        exact h.records _ record hr
      · exact h.begins b hb
  | renew a fate now =>
    simp only [Queue.step, Option.ite_none_left_eq_some, Option.bind_eq_some_iff,
      Option.map_eq_some_iff] at hs
    obtain ⟨-, attempt, -, fence, -, rfl⟩ := hs
    exact h.frame rfl rfl (effect_carries fate fun _ => renew_carries _ _ _ _ _ _)
      (fun k job hk => ⟨job, hk, rfl⟩) h.begins
  | release a fate =>
    simp only [Queue.step, Option.bind_eq_some_iff, Option.map_eq_some_iff] at hs
    obtain ⟨attempt, -, fence, -, rfl⟩ := hs
    exact h.frame rfl rfl (effect_carries fate fun _ => release_carries _ _ _ _)
      (fun k job hk => ⟨job, hk, rfl⟩) h.begins
  | snapshot now =>
    simp only [Queue.step, Option.ite_none_left_eq_some] at hs
    obtain ⟨-, hs⟩ := hs
    cases hs
    exact h.frame rfl rfl (carries_reap _ _) (fun k job hk => ⟨job, hk, rfl⟩) h.begins

/-- Every reachable state. -/
theorem reach {cfg : QueueConfig} {ok : System → Event → Prop} (h : (system cfg).Reach ok s) :
    Tokens s := by
  refine h.invariant (P := Tokens) (fun s h0 => ?_) fun s ev t hs _ hst => hs.step hst
  rw [show s = .empty from h0]
  exact .empty

end Tokens

end SmartStay.Queue
