import SmartStay.Queue.TokenProvenance

/-!
# Fencing of worker attempts

A begin replies with a fence one above the fence in the fence hash. The fence hash is
emptied with the record, so a fence can come back exactly when a token comes back
into a record after its first record is gone, and only an adoption brings one back.

1. `FencingUnique`, and `adoptsBegun`: the step that breaks it.
2. `Fenced`: the fences handed out increase and none is above the current one.
3. `fencing_unique`: in every run without an `adoptsBegun` step.
4. `fencing_not_unique`: a run with such a step hands out fence 1 twice.
-/

namespace SmartStay.Queue

open AdmissionState

/-! ## 1. The property and the step that breaks it -/

/-- Two begins for the same job under the same token that both returned. -/
def SameAdmission (b b' : Begin) : Prop :=
  b.answered = true ∧ b'.answered = true ∧ b.jobId = b'.jobId ∧
    b.admissionToken = b'.admissionToken

/-- No fence is returned twice, and the fence of an earlier begin renews and releases
nothing. -/
def FencingUnique (s : System) : Prop :=
  s.begins.Pairwise fun newer older => SameAdmission newer older →
    newer.fencingNumber ≠ older.fencingNumber ∧
    ∀ now leaseMs,
      renewAdmission s.admission older.jobId older.admissionToken older.fencingNumber now leaseMs =
        (s.admission, false) ∧
      releaseAdmission s.admission older.jobId older.admissionToken older.fencingNumber =
        (s.admission, false)

/-- The step adopts a stored token under which a begin has already returned a fence. -/
def adoptsBegun (s : System) : Event → Bool
  | .command c fate _ =>
    match s.calls.hget c with
    | some ⟨admission, .adopt reservation stored⟩ =>
      fate ≠ .lost &&
        adoptable s.admission admission.jobId reservation.admissionToken
          admission.payloadFingerprint &&
        s.begins.any fun b =>
          b.answered && b.jobId == admission.jobId && b.admissionToken == stored.admissionToken
    | _ => false
  | _ => false

/-! ## 2. Fences handed out -/

/-- The fences returned for one job and token increase, and while a record carries a
token its fence is at least every fence returned under it. -/
structure Fenced (s : System) : Prop where
  increasing : s.begins.Pairwise fun newer older => SameAdmission newer older →
    older.fencingNumber < newer.fencingNumber
  current : ∀ b ∈ s.begins, b.answered = true →
    ∀ r, s.admission.records.hget b.jobId = some r → r.admissionToken = b.admissionToken →
      b.fencingNumber ≤ s.admission.currentFence b.jobId

/-- `current` outlives every script that installs no begun token. -/
theorem Fenced.carried {s : System} (h : Fenced s) {new : JobId → AdmissionToken → Prop}
    {st' : AdmissionState} (hcar : Carries new s.admission st')
    (hnew : ∀ b ∈ s.begins, b.answered = true → ¬ new b.jobId b.admissionToken) :
    ∀ b ∈ s.begins, b.answered = true → ∀ r, st'.records.hget b.jobId = some r →
      r.admissionToken = b.admissionToken → b.fencingNumber ≤ st'.currentFence b.jobId := by
  intro b hb hans r hr ht
  rcases hcar b.jobId r hr with hn | ⟨r', hr', ht', hle⟩
  · exact absurd (ht ▸ hn) (hnew b hb hans)
  · exact Nat.le_trans (h.current b hb hans r' hr' (ht'.trans ht)) hle

theorem Fenced.frame {s s' : System} (h : Fenced s) (hb : s'.begins = s.begins)
    {new : JobId → AdmissionToken → Prop} (hcar : Carries new s.admission s'.admission)
    (hnew : ∀ b ∈ s.begins, b.answered = true → ¬ new b.jobId b.admissionToken) : Fenced s' :=
  ⟨hb ▸ h.increasing, hb ▸ h.carried hcar hnew⟩

/-- A script that installs no token at all. -/
theorem Fenced.still {s s' : System} (h : Fenced s) (hb : s'.begins = s.begins)
    (hcar : Carries (fun _ _ => False) s.admission s'.admission) : Fenced s' :=
  h.frame hb hcar fun _ _ _ hf => hf

/-- A command that adopts no begun token installs none: a token that is still to
reserve is held by its own call only. -/
theorem installs_not_begun {s : System} {c : CallId} {call : Call}
    {fate : Fate} {now : Nat} (htok : Tokens s) (hcall : s.calls.hget c = some call)
    (hok : adoptsBegun s (.command c fate now) = false) {b : Begin} (hb : b ∈ s.begins)
    (hans : b.answered = true) :
    ¬ Installs s.admission call fate b.jobId b.admissionToken := by
  rintro ⟨hj, ⟨hphase, ht⟩ | ⟨reservation, stored, hphase, hfate, ht, hready⟩⟩
  · exact (htok.begins b hb).2 c call hcall hphase ht.symm
  · obtain ⟨admission, phase⟩ := call
    subst hphase
    simp only [adoptsBegun, hcall, hready, Bool.and_true, Bool.and_eq_false_iff] at hok
    rcases hok with hok | hok
    · exact hfate (by simpa using hok)
    · have hmem := List.any_eq_false.mp hok b hb
      simp [hans, hj, ht] at hmem

/-- A begin raises the fence of its job above every fence returned before. -/
theorem Fenced.begin {cfg : QueueConfig} {s s' : System} (h : Fenced s) {attempt : Attempt}
    {fate : Fate} {now : Nat}
    (ha : s'.admission = (beginEffect cfg s.admission attempt fate now).1)
    (hb : s'.begins = (beginEffect cfg s.admission attempt fate now).2.2 ++ s.begins) :
    Fenced s' := by
  obtain ⟨hstate, hbegins⟩ := beginEffect_spec cfg s.admission attempt fate now
  have hcar : Carries (fun _ _ => False) s.admission s'.admission := by
    rw [ha, hstate]
    exact effect_carries fate fun _ => begin_carries _ _ _ _ _
  have hcur := h.carried hcar fun _ _ _ hf => hf
  cases hnew : (beginEffect cfg s.admission attempt fate now).2.2 with
  | nil =>
    rw [hnew, List.nil_append] at hb
    exact h.still hb hcar
  | cons b rest =>
    obtain ⟨hsingle, hj, htoken, hfate, sid, hok⟩ := hbegins b (hnew ▸ List.mem_cons_self)
    obtain ⟨⟨r, hr, ht⟩, hraise, hfence⟩ := begin_ok hok
    rw [hsingle, List.singleton_append] at hb
    have habove : s'.admission.currentFence b.jobId = b.fencingNumber := by
      rw [ha, hstate, hj, ← hfence, Fate.effect_of_ne_lost hfate]
    constructor
    · rw [hb, List.pairwise_cons]
      refine ⟨fun older hm hsame => ?_, h.increasing⟩
      obtain ⟨-, hans, hjob, htok⟩ := hsame
      have hle := h.current older hm hans r (by rw [← hjob, hj]; exact hr)
        (by rw [← htok, htoken, ht])
      rw [← hjob, hj] at hle
      omega
    · rw [hb]
      intro b' hm hans r' hr' ht'
      rcases List.mem_cons.mp hm with rfl | hm
      · exact Nat.le_of_eq habove.symm
      · exact hcur b' hm hans r' hr' ht'

theorem Fenced.step {cfg : QueueConfig} {s s' : System} {ev : Event} (h : Fenced s)
    (htok : Tokens s) (hok : adoptsBegun s ev = false) (hs : step cfg s ev = some s') :
    Fenced s' := by
  cases ev with
  | admitSearch c request token =>
    simp only [Queue.step] at hs
    split at hs
    · cases hs
    split at hs
    · cases hs
      exact h.still rfl (.refl _)
    · cases hs
  | command c fate now =>
    obtain ⟨-, call, hcall, r, he, rfl⟩ := step_command hs
    exact h.frame rfl (commandEffect_carries he) fun b hb hans =>
      installs_not_begun htok hcall hok hb hans
  | moveJob j state =>
    simp only [Queue.step, Option.map_eq_some_iff] at hs
    obtain ⟨job, -, rfl⟩ := hs
    exact h.still rfl (.refl _)
  | removeJob j =>
    simp only [Queue.step, Option.bind_eq_some_iff, Option.ite_none_right_eq_some] at hs
    obtain ⟨job, -, -, hs⟩ := hs
    cases hs
    exact h.still rfl (.refl _)
  | deliver a j =>
    simp only [Queue.step, Option.ite_none_left_eq_some, Option.bind_eq_some_iff] at hs
    obtain ⟨-, job, -, -, hs⟩ := hs
    cases hs
    exact h.still rfl (.refl _)
  | begin a fate now =>
    obtain ⟨-, attempt, -, -, rfl⟩ := step_begin hs
    exact h.begin rfl rfl
  | renew a fate now =>
    simp only [Queue.step, Option.ite_none_left_eq_some, Option.bind_eq_some_iff,
      Option.map_eq_some_iff] at hs
    obtain ⟨-, attempt, -, fence, -, rfl⟩ := hs
    exact h.still rfl (effect_carries fate fun _ => renew_carries _ _ _ _ _ _)
  | release a fate =>
    simp only [Queue.step, Option.bind_eq_some_iff, Option.map_eq_some_iff] at hs
    obtain ⟨attempt, -, fence, -, rfl⟩ := hs
    exact h.still rfl (effect_carries fate fun _ => release_carries _ _ _ _)
  | snapshot now =>
    simp only [Queue.step, Option.ite_none_left_eq_some] at hs
    obtain ⟨-, hs⟩ := hs
    cases hs
    exact h.still rfl (carries_reap _ _)

/-! ## 3. Runs that adopt no begun token -/

theorem fenced {cfg : QueueConfig} {s : System}
    (h : (system cfg).Reach (fun s ev => adoptsBegun s ev = false) s) : Fenced s := by
  suffices Tokens s ∧ Fenced s from this.2
  refine h.invariant (P := fun s => Tokens s ∧ Fenced s) (fun s h0 => ?_)
    fun s ev t hs hok hst => ⟨hs.1.step hst, hs.2.step hs.1 hok hst⟩
  rw [show s = .empty from h0]
  exact ⟨.empty, by simp [System.empty], by simp [System.empty]⟩

/-- The scripts refuse a fence below the current one. -/
theorem stale_fence {st : AdmissionState} {j : JobId} {token : AdmissionToken} {f : Nat}
    (h : ∀ r, st.records.hget j = some r → r.admissionToken = token → f < st.currentFence j)
    (now leaseMs : Nat) :
    renewAdmission st j token f now leaseMs = (st, false) ∧
      releaseAdmission st j token f = (st, false) := by
  unfold renewAdmission releaseAdmission
  cases hr : st.records.hget j with
  | none => exact ⟨rfl, rfl⟩
  | some r =>
    by_cases ht : r.admissionToken = token
    · have hne : (st.currentFence j : Int) ≠ f := by
        have := h r hr ht
        omega
      simp [ht, hne]
    · simp [ht]

/-- In every state of every run none of whose steps adopts a token under which a begin
has already returned a fence, no two begins for one job and token have returned the same
fence, and renewing or releasing with the fence of the earlier begin fails and leaves the
state unchanged. -/
theorem fencing_unique (cfg : QueueConfig) {s : System}
    (h : (system cfg).Reach (fun s ev => adoptsBegun s ev = false) s) : FencingUnique s := by
  obtain ⟨hincr, hcur⟩ := fenced h
  refine hincr.imp_of_mem fun {newer older} hnewer _ hlt hsame => ?_
  refine ⟨Nat.ne_of_gt (hlt hsame), fun now leaseMs => stale_fence (fun r hr ht => ?_) now leaseMs⟩
  have hle := hcur newer hnewer hsame.1 r (hsame.2.2.1 ▸ hr) (ht.trans hsame.2.2.2.symm)
  rw [hsame.2.2.1] at hle
  exact Nat.lt_of_lt_of_le (hlt hsame) hle

/-- A job is delivered twice while its admission lasts. -/
def redeliveredRun : List Event :=
  [.admitSearch 1 (sampleRequest "ss2.0b6c9d1e-52f7-4a38-8c1d-7e9f3a5b2c40")
      "6d1f8a20-3c4b-4e7a-9b52-0f8e6c7d1a35",
    .command 1 .answered 0, .command 1 .answered 0, .command 1 .answered 0,
    .deliver 1 sampleJobId, .begin 1 .answered 10,
    .deliver 2 sampleJobId, .begin 2 .answered 20]

theorem fencing_unique_redelivered : ∃ s,
    s.begins = [⟨sampleJobId, "6d1f8a20-3c4b-4e7a-9b52-0f8e6c7d1a35", 2, true⟩,
      ⟨sampleJobId, "6d1f8a20-3c4b-4e7a-9b52-0f8e6c7d1a35", 1, true⟩] ∧ FencingUnique s := by
  have hrun : ((system sampleConfig).exec (fun s ev => adoptsBegun s ev = false) .empty
      redeliveredRun).map System.begins = some
        [⟨sampleJobId, "6d1f8a20-3c4b-4e7a-9b52-0f8e6c7d1a35", 2, true⟩,
          ⟨sampleJobId, "6d1f8a20-3c4b-4e7a-9b52-0f8e6c7d1a35", 1, true⟩] := by decide +kernel
  obtain ⟨s, hs, hb⟩ := Machine.Reach.of_exec_map redeliveredRun rfl hrun
  exact ⟨s, hb, fencing_unique sampleConfig hs⟩

/-! ## 4. A run that adopts a begun token -/

/-- The first attempt has begun when the admission lease of its job runs out. A second
request for the same key reaps the admission, reserves under a new token, finds the job
still active and adopts its token; the next attempt begins. -/
def adoptedRun : List Event :=
  [.admitSearch 1 (sampleRequest "ss2.0b6c9d1e-52f7-4a38-8c1d-7e9f3a5b2c40")
      "6d1f8a20-3c4b-4e7a-9b52-0f8e6c7d1a35",
    .command 1 .answered 0, .command 1 .answered 0, .command 1 .answered 0,
    .deliver 1 sampleJobId, .begin 1 .answered 10,
    .admitSearch 2 (sampleRequest "ss2.b7a4e2d9-1f60-4c8b-a3e5-94d02c6f7b18")
      "f20c7b94-8e15-4d63-a7f8-25b9e1c04d76",
    .command 2 .answered 2000, .command 2 .answered 2000, .command 2 .answered 2000,
    .command 2 .answered 2000, .command 2 .answered 2000,
    .deliver 2 sampleJobId, .begin 2 .answered 2010]

/-- Both begins of `adoptedRun` return fence 1. -/
theorem fencing_not_unique : ∃ s, (system sampleConfig).Reach Machine.Anything s ∧
    s.begins = [⟨sampleJobId, "6d1f8a20-3c4b-4e7a-9b52-0f8e6c7d1a35", 1, true⟩,
      ⟨sampleJobId, "6d1f8a20-3c4b-4e7a-9b52-0f8e6c7d1a35", 1, true⟩] ∧ ¬ FencingUnique s := by
  have hrun : ((system sampleConfig).exec Machine.Anything .empty adoptedRun).map System.begins =
      some [⟨sampleJobId, "6d1f8a20-3c4b-4e7a-9b52-0f8e6c7d1a35", 1, true⟩,
        ⟨sampleJobId, "6d1f8a20-3c4b-4e7a-9b52-0f8e6c7d1a35", 1, true⟩] := by decide +kernel
  obtain ⟨s, hs, hb⟩ := Machine.Reach.of_exec_map adoptedRun rfl hrun
  refine ⟨s, hs, hb, fun h => ?_⟩
  rw [FencingUnique, hb, List.pairwise_cons] at h
  exact (h.1 _ List.mem_cons_self ⟨rfl, rfl, rfl, rfl⟩).1 rfl

end SmartStay.Queue
