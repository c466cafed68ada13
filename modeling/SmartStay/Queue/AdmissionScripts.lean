import SmartStay.Lib.Run
import SmartStay.Lib.SortedSet

/-!
# The admission scripts of the search queue

`server/queue/searchQueueAdmission.js` keeps the admitted searches in three keys:
the expiry sorted set, the record hash and the fence hash. Seven Lua scripts, each
atomic, are the only writers. This module embeds them and proves that the three
keys stay in step.

1. The records, the state and the parts the scripts share.
2. The scripts, in source order.
3. `Consistent`: what holds of the three keys; one lemma per part.
4. `admission_index_consistent`: `Consistent` in every reachable state.

Times are the milliseconds that `Date.now()` gives, as natural numbers.
-/

namespace SmartStay.Queue

abbrev JobId := String
abbrev SearchId := String
abbrev AdmissionToken := String
abbrev Fingerprint := String

/-! ## 1. State -/

/-- The JSON value of a field of the record hash. -/
structure AdmissionRecord where
  schemaVersion : Nat := 1
  searchId : SearchId
  admissionToken : AdmissionToken
  payloadFingerprint : Fingerprint
  admittedAt : Nat
  expiresAt : Nat
deriving DecidableEq, Repr

/-- The three `admissionKeys`: `expiry` (`KEYS[1]`), `records` (`KEYS[2]`) and
`fences` (`KEYS[3]`). -/
structure AdmissionState where
  expiry : SortedSet JobId
  records : Hash JobId AdmissionRecord
  fences : Hash JobId Nat
deriving DecidableEq

namespace AdmissionState

/-- No search is admitted. -/
def empty : AdmissionState := ⟨∅, ∅, ∅⟩

/-- `tonumber(redis.call('HGET', KEYS[3], job_id) or '0')`. -/
def currentFence (st : AdmissionState) (jobId : JobId) : Nat := (st.fences.hget jobId).getD 0

/-- The reaping loop over the members whose score is not in the future. -/
def reap (st : AdmissionState) (now : Nat) : AdmissionState :=
  { expiry := st.expiry.zremRangeByScore now
    records := st.records.hdelAll (st.expiry.zrangeByScore now)
    fences := st.fences.hdelAll (st.expiry.zrangeByScore now) }

/-- `HSET` of a record together with `ZADD` of its `expiresAt`. -/
def putRecord (st : AdmissionState) (jobId : JobId) (record : AdmissionRecord) : AdmissionState :=
  { st with
    records := st.records.hset jobId record
    expiry := st.expiry.zadd record.expiresAt jobId }

/-- `HDEL` of the record and of the fence together with `ZREM`. -/
def dropRecord (st : AdmissionState) (jobId : JobId) : AdmissionState :=
  { expiry := st.expiry.zrem jobId
    records := st.records.hdel jobId
    fences := st.fences.hdel jobId }

end AdmissionState

/-! ## 2. Scripts -/

/-- The reply of `RESERVE_ADMISSION_SCRIPT`. -/
inductive ReserveReply
  | conflict
  | existing (searchId : SearchId) (admissionToken : AdmissionToken)
  | full
  | created (searchId : SearchId) (admissionToken : AdmissionToken)
deriving DecidableEq, Repr

/-- The reply of `BEGIN_EXECUTION_SCRIPT`. -/
inductive BeginReply
  | missing
  | stale
  | ok (fencingNumber : Nat) (searchId : SearchId)
deriving DecidableEq, Repr

open AdmissionState

/-- `RESERVE_ADMISSION_SCRIPT`. -/
def reserveAdmission (st : AdmissionState) (jobId : JobId) (searchId : SearchId)
    (admissionToken : AdmissionToken) (now leaseMs maxAdmittedJobs : Nat)
    (payloadFingerprint : Fingerprint) : AdmissionState × ReserveReply :=
  let expiresAt := now + leaseMs
  let st := st.reap now
  match st.records.hget jobId with
  | some record =>
    if record.payloadFingerprint ≠ payloadFingerprint then (st, .conflict)
    else
      (st.putRecord jobId { record with expiresAt := expiresAt },
        .existing record.searchId record.admissionToken)
  | none =>
    if maxAdmittedJobs ≤ st.expiry.zcard then (st, .full)
    else
      (st.putRecord jobId
        { searchId := searchId, admissionToken := admissionToken,
          payloadFingerprint := payloadFingerprint, admittedAt := now, expiresAt := expiresAt },
        .created searchId admissionToken)

/-- `BEGIN_EXECUTION_SCRIPT`. -/
def beginExecution (st : AdmissionState) (jobId : JobId) (admissionToken : AdmissionToken)
    (now leaseMs : Nat) : AdmissionState × BeginReply :=
  match st.records.hget jobId with
  | none => (st, .missing)
  | some record =>
    if record.admissionToken ≠ admissionToken then (st, .stale)
    else
      let fencingNumber := st.currentFence jobId + 1
      let st := { st with fences := st.fences.hset jobId fencingNumber }
      (st.putRecord jobId { record with expiresAt := now + leaseMs },
        .ok fencingNumber record.searchId)

/-- `RENEW_ADMISSION_SCRIPT`. -/
def renewAdmission (st : AdmissionState) (jobId : JobId) (admissionToken : AdmissionToken)
    (expectedFence : Int) (now leaseMs : Nat) : AdmissionState × Bool :=
  match st.records.hget jobId with
  | none => (st, false)
  | some record =>
    if record.admissionToken ≠ admissionToken then (st, false)
    else if (st.currentFence jobId : Int) ≠ expectedFence then (st, false)
    else (st.putRecord jobId { record with expiresAt := now + leaseMs }, true)

/-- `RELEASE_ADMISSION_SCRIPT`. -/
def releaseAdmission (st : AdmissionState) (jobId : JobId) (admissionToken : AdmissionToken)
    (expectedFence : Int) : AdmissionState × Bool :=
  match st.records.hget jobId with
  | none => (st, false)
  | some record =>
    if record.admissionToken ≠ admissionToken then (st, false)
    else if (st.currentFence jobId : Int) ≠ expectedFence then (st, false)
    else (st.dropRecord jobId, true)

/-- `ADOPT_STORED_RESERVATION_SCRIPT`. -/
def adoptStoredReservation (st : AdmissionState) (jobId : JobId)
    (currentAdmissionToken : AdmissionToken) (storedSearchId : SearchId)
    (storedAdmissionToken : AdmissionToken) (payloadFingerprint : Fingerprint)
    (now leaseMs : Nat) : AdmissionState × Bool :=
  match st.records.hget jobId with
  | none => (st, false)
  | some record =>
    if record.admissionToken ≠ currentAdmissionToken then (st, false)
    else if st.currentFence jobId ≠ 0 then (st, false)
    else if record.payloadFingerprint ≠ payloadFingerprint then (st, false)
    else
      let st := st.putRecord jobId
        { record with
          searchId := storedSearchId, admissionToken := storedAdmissionToken,
          expiresAt := now + leaseMs }
      ({ st with fences := st.fences.hdel jobId }, true)

/-- `RELEASE_TERMINAL_RESERVATION_SCRIPT`. -/
def releaseTerminalReservation (st : AdmissionState) (jobId : JobId)
    (currentAdmissionToken : AdmissionToken) : AdmissionState × Bool :=
  match st.records.hget jobId with
  | none => (st, true)
  | some record =>
    if record.admissionToken ≠ currentAdmissionToken then (st, false)
    else (st.dropRecord jobId, true)

/-- `ADMISSION_SNAPSHOT_SCRIPT`. -/
def admissionSnapshot (st : AdmissionState) (now : Nat) : AdmissionState × Nat :=
  let st := st.reap now
  (st, st.expiry.zcard)

/-- One execution of a script, with its arguments in the order of `ARGV`. The
capacity `maxAdmittedJobs` is fixed for the whole deployment. -/
inductive ScriptCall
  | reserve (jobId : JobId) (searchId : SearchId) (admissionToken : AdmissionToken)
      (now leaseMs : Nat) (payloadFingerprint : Fingerprint)
  | begin (jobId : JobId) (admissionToken : AdmissionToken) (now leaseMs : Nat)
  | renew (jobId : JobId) (admissionToken : AdmissionToken) (expectedFence : Int)
      (now leaseMs : Nat)
  | release (jobId : JobId) (admissionToken : AdmissionToken) (expectedFence : Int)
  | adopt (jobId : JobId) (currentAdmissionToken : AdmissionToken) (storedSearchId : SearchId)
      (storedAdmissionToken : AdmissionToken) (payloadFingerprint : Fingerprint)
      (now leaseMs : Nat)
  | releaseTerminal (jobId : JobId) (currentAdmissionToken : AdmissionToken)
  | snapshot (now : Nat)
deriving DecidableEq, Repr

/-- The state after a script. -/
def ScriptCall.run (maxAdmittedJobs : Nat) (st : AdmissionState) : ScriptCall → AdmissionState
  | .reserve jobId searchId token now leaseMs fp =>
    (reserveAdmission st jobId searchId token now leaseMs maxAdmittedJobs fp).1
  | .begin jobId token now leaseMs => (beginExecution st jobId token now leaseMs).1
  | .renew jobId token fence now leaseMs => (renewAdmission st jobId token fence now leaseMs).1
  | .release jobId token fence => (releaseAdmission st jobId token fence).1
  | .adopt jobId token sid stored fp now leaseMs =>
    (adoptStoredReservation st jobId token sid stored fp now leaseMs).1
  | .releaseTerminal jobId token => (releaseTerminalReservation st jobId token).1
  | .snapshot now => (admissionSnapshot st now).1

/-- The time a script is called with, if it takes one. -/
def ScriptCall.now? : ScriptCall → Option Nat
  | .reserve _ _ _ now _ _ | .begin _ _ now _ | .renew _ _ _ now _ | .adopt _ _ _ _ _ now _
  | .snapshot now => some now
  | .release _ _ _ | .releaseTerminal _ _ => none

/-- Any sequence of script executions from the empty state, the times of which never
decrease. The first component of a state is the time of the last timed script. -/
def admissionScripts (maxAdmittedJobs : Nat) : Machine (Nat × AdmissionState) ScriptCall where
  init s := s = (0, .empty)
  step s call :=
    if s.1 ≤ call.now?.getD s.1 then
      some (call.now?.getD s.1, call.run maxAdmittedJobs s.2)
    else none

/-! ## 3. Consistency of the three keys -/

/-- The three keys are in step: the members of the expiry set are the fields of the
record hash, every fence belongs to a record, and scores are the stored `expiresAt`. -/
structure InStep (st : AdmissionState) : Prop where
  members : ∀ j, j ∈ st.expiry ↔ j ∈ st.records
  fences : ∀ j, j ∈ st.fences → j ∈ st.records
  scores : ∀ j r, st.records.hget j = some r → st.expiry.zscore j = some r.expiresAt

/-- `InStep` and the admission bound. -/
structure Consistent (maxAdmittedJobs : Nat) (st : AdmissionState) : Prop extends InStep st where
  capacity : st.expiry.zcard ≤ maxAdmittedJobs

theorem InStep.empty : InStep .empty :=
  ⟨fun j => Iff.rfl, fun j hj => absurd hj (AList.notMem_empty j), fun j r h => by simp [AdmissionState.empty] at h⟩

theorem InStep.reap {st : AdmissionState} (h : InStep st) (now : Nat) : InStep (st.reap now) := by
  refine ⟨fun j => ?_, fun j hj => ?_, fun j r hr => ?_⟩
  · simp [AdmissionState.reap, SortedSet.zremRangeByScore, h.members]
  · simp only [AdmissionState.reap, Hash.mem_hdelAll] at hj ⊢
    exact ⟨hj.1, h.fences j hj.2⟩
  · simp only [AdmissionState.reap, Hash.hget_hdelAll, SortedSet.zremRangeByScore,
      SortedSet.zscore] at hr ⊢
    split at hr
    · cases hr
    · next hj => rw [if_neg hj]; exact h.scores j r hr

theorem InStep.putRecord {st : AdmissionState} (h : InStep st) (j : JobId) (r : AdmissionRecord) :
    InStep (st.putRecord j r) := by
  refine ⟨fun k => ?_, fun k hk => ?_, fun k r' hr => ?_⟩
  · simp [AdmissionState.putRecord, h.members]
  · exact Hash.mem_hset.mpr (.inr (h.fences k hk))
  · simp only [AdmissionState.putRecord, Hash.hget_hset, SortedSet.zscore] at hr ⊢
    split at hr
    · next e => rw [if_pos e]; cases hr; rfl
    · next e => rw [if_neg e]; exact h.scores k r' hr

theorem InStep.dropRecord {st : AdmissionState} (h : InStep st) (j : JobId) :
    InStep (st.dropRecord j) := by
  refine ⟨fun k => ?_, fun k hk => ?_, fun k r hr => ?_⟩
  · simp [AdmissionState.dropRecord, h.members]
  · simp only [AdmissionState.dropRecord, Hash.mem_hdel] at hk ⊢
    exact ⟨hk.1, h.fences k hk.2⟩
  · simp only [AdmissionState.dropRecord, Hash.hget_hdel, SortedSet.zscore] at hr ⊢
    split at hr
    · cases hr
    · next e => rw [if_neg e]; exact h.scores k r hr

/-- Changing the fences keeps the three keys in step as long as every fence belongs
to a record. -/
theorem InStep.withFences {st : AdmissionState} (h : InStep st) {fences : Hash JobId Nat}
    (hf : ∀ j, j ∈ fences → j ∈ st.records) : InStep { st with fences := fences } :=
  ⟨h.members, hf, h.scores⟩

theorem Consistent.reap {max : Nat} {st : AdmissionState} (h : Consistent max st) (now : Nat) :
    Consistent max (st.reap now) :=
  ⟨h.toInStep.reap now,
    Nat.le_trans (Hash.hlen_le_of_subset fun _ hk => (Hash.mem_hdelAll.mp hk).2) h.capacity⟩

theorem Consistent.dropRecord {max : Nat} {st : AdmissionState} (h : Consistent max st)
    (j : JobId) : Consistent max (st.dropRecord j) :=
  ⟨h.toInStep.dropRecord j, Nat.le_trans (Hash.hlen_hdel_le _ j) h.capacity⟩

/-- Writing the record of an admitted job admits nothing new. -/
theorem Consistent.rewrite {max : Nat} {st : AdmissionState} (h : Consistent max st) {j : JobId}
    (hj : j ∈ st.records) (r : AdmissionRecord) : Consistent max (st.putRecord j r) := by
  refine ⟨h.toInStep.putRecord j r, ?_⟩
  have hlen : (st.putRecord j r).expiry.zcard = st.expiry.zcard :=
    Hash.hlen_hset_of_mem ((h.members j).mpr hj)
  exact hlen ▸ h.capacity

/-- Admitting a new job below the bound. -/
theorem Consistent.reserved {max : Nat} {st : AdmissionState} (h : Consistent max st) {j : JobId}
    (hj : st.records.hget j = none) (hmax : ¬ max ≤ st.expiry.zcard) (r : AdmissionRecord) :
    Consistent max (st.putRecord j r) := by
  refine ⟨h.toInStep.putRecord j r, ?_⟩
  have hnot : j ∉ st.expiry := fun hm =>
    Hash.notMem_iff_hget.mpr hj ((h.members j).mp hm)
  have hlen : (st.putRecord j r).expiry.zcard = st.expiry.zcard + 1 :=
    Hash.hlen_hset_of_notMem hnot
  omega

/-- Every script keeps the three keys consistent. -/
theorem Consistent.run {max : Nat} {st : AdmissionState} (h : Consistent max st)
    (call : ScriptCall) : Consistent max (call.run max st) := by
  cases call with
  | reserve j sid token now leaseMs fp =>
    simp only [ScriptCall.run, reserveAdmission]
    split
    · next record hr =>
      split
      · exact h.reap now
      · exact (h.reap now).rewrite (Hash.mem_of_hget hr) _
    · next hr =>
      split
      · exact h.reap now
      · next hmax => exact (h.reap now).reserved hr hmax _
  | begin j token now leaseMs =>
    simp only [ScriptCall.run, beginExecution]
    split
    · exact h
    · next record hr =>
      split
      · exact h
      · have hj := Hash.mem_of_hget hr
        have hf : InStep { st with fences := st.fences.hset j (st.currentFence j + 1) } :=
          h.toInStep.withFences fun k hk =>
            (Hash.mem_hset.mp hk).elim (fun e => e ▸ hj) (h.fences k)
        exact Consistent.rewrite ⟨hf, h.capacity⟩ hj _
  | renew j token fence now leaseMs =>
    simp only [ScriptCall.run, renewAdmission]
    split
    · exact h
    · next record hr =>
      split
      · exact h
      split
      · exact h
      · exact h.rewrite (Hash.mem_of_hget hr) _
  | release j token fence =>
    simp only [ScriptCall.run, releaseAdmission]
    split
    · exact h
    split
    · exact h
    split
    · exact h
    · exact h.dropRecord j
  | adopt j token sid stored fp now leaseMs =>
    simp only [ScriptCall.run, adoptStoredReservation]
    split
    · exact h
    · next record hr =>
      split
      · exact h
      split
      · exact h
      split
      · exact h
      · have hput := h.rewrite (Hash.mem_of_hget hr) { record with
          searchId := sid, admissionToken := stored, expiresAt := now + leaseMs }
        exact ⟨hput.toInStep.withFences fun k hk => hput.fences k (Hash.mem_hdel.mp hk).2,
          hput.capacity⟩
  | releaseTerminal j token =>
    simp only [ScriptCall.run, releaseTerminalReservation]
    split
    · exact h
    split
    · exact h
    · exact h.dropRecord j
  | snapshot now => exact h.reap now

/-! ## 4. Reachable states -/

theorem admissionScripts_consistent {max : Nat} {s : Nat × AdmissionState}
    (h : (admissionScripts max).Reach Machine.Anything s) : Consistent max s.2 := by
  refine h.invariant (P := fun s => Consistent max s.2) (fun s h0 => ?_)
    (fun s call t hs _ hst => ?_)
  · rw [show s = (0, .empty) from h0]
    exact ⟨.empty, Nat.zero_le _⟩
  · simp only [admissionScripts, Option.ite_none_right_eq_some, Option.some.injEq] at hst
    exact hst.2 ▸ hs.run call

/-- In every state that script executions at non-decreasing times reach from the empty
state, the members of the expiry set are exactly the fields of the record hash, every
field of the fence hash is one of the record hash, each stored `expiresAt` is the score
of its member, and at most `maxAdmittedJobs` searches are admitted. -/
theorem admission_index_consistent (maxAdmittedJobs : Nat) {s : Nat × AdmissionState}
    (h : (admissionScripts maxAdmittedJobs).Reach Machine.Anything s) :
    (∀ j, j ∈ s.2.expiry ↔ j ∈ s.2.records) ∧
    (∀ j, j ∈ s.2.fences → j ∈ s.2.records) ∧
    (∀ j r, s.2.records.hget j = some r → s.2.expiry.zscore j = some r.expiresAt) ∧
    s.2.expiry.zcard ≤ maxAdmittedJobs :=
  have hc := admissionScripts_consistent h
  ⟨hc.members, hc.fences, hc.scores, hc.capacity⟩

/-- A job is reserved, begun and reaped by the reservation of another one. -/
def reapedRun : List ScriptCall :=
  [.reserve "search-a" "ss2.1" "token-1" 100 50 "f1", .begin "search-a" "token-1" 110 50,
    .reserve "search-b" "ss2.2" "token-2" 200 50 "f2"]

/-- The state at the end of `reapedRun`. -/
def reapedState : AdmissionState :=
  (AdmissionState.empty.putRecord "search-b"
    { searchId := "ss2.2", admissionToken := "token-2", payloadFingerprint := "f2",
      admittedAt := 200, expiresAt := 250 })

theorem admission_index_consistent_reaped :
    (∀ j, j ∈ reapedState.expiry ↔ j ∈ reapedState.records) ∧
    (∀ j, j ∈ reapedState.fences → j ∈ reapedState.records) ∧
    (∀ j r, reapedState.records.hget j = some r → reapedState.expiry.zscore j = some r.expiresAt) ∧
    reapedState.expiry.zcard ≤ 1 :=
  admission_index_consistent 1 (s := (200, reapedState))
    (.of_exec reapedRun rfl (by decide))

end SmartStay.Queue
