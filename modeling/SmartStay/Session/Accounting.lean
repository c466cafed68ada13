import SmartStay.Session.Scripts

/-!
# Accounting of the session store

What the scripts do to the expiry index, the size hash and the stored total bytes.

1. `reap`: the three after the reaping loop, and the local total against the sum.
2. `Bounded`: index and sizes agree, sessions are indexed, count and bytes are bounded.
   Every script keeps it: `session_index_bounded`.
3. `Exact`: the stored total is the sum of the sizes. A write that drops a sized session
   and is then refused breaks it, and nothing else does: `write_exact_iff`,
   `session_bytes_exact`, `session_bytes_drift`.
-/

namespace SmartStay.Session

variable {ρ : Type}

/-! ## 1. Reaping -/

/-- What the reaping loop leaves. -/
theorem reapLoop_state (ks : List SearchId) (total : Nat) (st : StoreState ρ) :
    (reapLoop ks (total, st)).2 =
      { st with sizes := st.sizes.hdelAll ks, sessions := Hash.hdelAll st.sessions ks } := by
  induction ks generalizing total st with
  | nil => rfl
  | cons k ks ih => exact ih _ _

/-- The local total goes down by what leaves the size hash. -/
theorem reapLoop_total (ks : List SearchId) (total : Nat) (st : StoreState ρ)
    (h : st.sizes.hsum ≤ total) :
    (reapLoop ks (total, st)).1 + st.sizes.hsum = total + (st.sizes.hdelAll ks).hsum := by
  induction ks generalizing total st with
  | nil => rfl
  | cons k ks ih =>
    have hk := Hash.hsum_hdel st.sizes k
    have hdrop : (if (st.sizes.hget k).getD 0 > 0 then total - (st.sizes.hget k).getD 0 else total) =
        total - (st.sizes.hget k).getD 0 := by
      split <;> omega
    have hrest := ih (total - (st.sizes.hget k).getD 0)
      { st with sizes := st.sizes.hdel k, sessions := st.sessions.del k } (by
        change (st.sizes.hdel k).hsum ≤ _
        omega)
    rw [reapLoop, hdrop, Hash.hdelAll_cons]
    -- The loop goes on with the sizes without `k`, whose sum is smaller by the size of `k`.
    change _ + (st.sizes.hdel k).hsum = _ + ((st.sizes.hdel k).hdelAll ks).hsum at hrest
    omega

section Reap
variable (st : StoreState ρ) (now : Nat)

theorem reap_state : (reap st now).2 =
    { st with
      sizes := st.sizes.hdelAll (st.expiry.zrangeByScore now)
      sessions := Hash.hdelAll st.sessions (st.expiry.zrangeByScore now)
      expiry := st.expiry.zremRangeByScore now } := by
  simp only [reap, reapLoop_state]

@[simp] theorem reap_sizes :
    (reap st now).2.sizes = st.sizes.hdelAll (st.expiry.zrangeByScore now) := by
  rw [reap_state]

@[simp] theorem reap_expiry : (reap st now).2.expiry = st.expiry.zremRangeByScore now := by
  rw [reap_state]

@[simp] theorem reap_sessions :
    (reap st now).2.sessions = Hash.hdelAll st.sessions (st.expiry.zrangeByScore now) := by
  rw [reap_state]

@[simp] theorem reap_totalBytes : (reap st now).2.totalBytes = st.totalBytes := by
  rw [reap_state]

theorem reap_total {st : StoreState ρ} (h : st.sizes.hsum ≤ st.totalBytes) (now : Nat) :
    (reap st now).1 + st.sizes.hsum = st.totalBytes + (reap st now).2.sizes.hsum := by
  rw [reap_sizes]
  exact reapLoop_total _ _ _ h

end Reap

/-! ## 2. Index and bounds -/

/-- The members of the expiry index are the fields of the size hash, and every session
key expires at the score of its member. -/
structure Indexed (st : StoreState ρ) : Prop where
  members : ∀ k, k ∈ st.expiry ↔ k ∈ st.sizes
  scores : ∀ k v, Hash.hget st.sessions k = some v → st.expiry.zscore k = some v.expiresAt

/-- `Indexed`, the bound on the number of sessions and the bound on their bytes. -/
structure Bounded (maxCount aggregateBudget : Nat) (st : StoreState ρ) : Prop
    extends Indexed st where
  count : st.sizes.hlen ≤ maxCount
  sum : st.sizes.hsum ≤ st.totalBytes
  total : st.totalBytes ≤ aggregateBudget

variable {st : StoreState ρ}

theorem Indexed.live {k : SearchId} {now : Nat} {e : Envelope ρ} (h : Indexed st)
    (hk : st.sessions.get now k = some e) : k ∈ st.expiry := by
  obtain ⟨expiresAt, hv, -⟩ := Keyspace.get_eq_some.mp hk
  exact Hash.mem_of_hget (h.scores k _ hv)

theorem Indexed.reap (h : Indexed st) (now : Nat) : Indexed (reap st now).2 := by
  constructor
  · intro k
    simp [SortedSet.zremRangeByScore, h.members]
  · intro k v hv
    simp only [reap_sessions, reap_expiry, Hash.hget_hdelAll, SortedSet.zremRangeByScore,
      SortedSet.zscore] at hv ⊢
    split at hv
    · cases hv
    · next hk => rw [if_neg hk]; exact h.scores k v hv

theorem Bounded.reap {max budget : Nat} (h : Bounded max budget st) (now : Nat) :
    Bounded max budget (reap st now).2 := by
  have hle : (Session.reap st now).2.sizes.hsum ≤ st.sizes.hsum := by
    rw [reap_sizes]
    exact Hash.hsum_hdelAll_le _ _
  refine ⟨h.toIndexed.reap now, ?_, ?_, ?_⟩
  · rw [reap_sizes]
    exact Nat.le_trans (Hash.hlen_le_of_subset fun _ hk => (Hash.mem_hdelAll.mp hk).2) h.count
  · rw [reap_totalBytes]
    exact Nat.le_trans hle h.sum
  · rw [reap_totalBytes]
    exact h.total

theorem Indexed.commitWrite (h : Indexed st) (k : SearchId) (args : WriteArgs ρ) (total : Nat) :
    Indexed (commitWrite st k k args total) := by
  constructor
  · intro k'
    simp [Session.commitWrite, h.members]
  · intro k' v hv
    simp only [Session.commitWrite, Keyspace.setPx, Hash.hget_hset, SortedSet.zscore] at hv ⊢
    split at hv
    · next e => rw [if_pos e]; cases hv; rfl
    · next e => rw [if_neg e]; exact h.scores k' v hv

theorem Indexed.clearSession (h : Indexed st) (k : SearchId) : Indexed (clearSession st k) := by
  constructor
  · intro k'
    simp [Session.clearSession, h.members]
  · intro k' v hv
    simp only [Session.clearSession, Keyspace.del, Hash.hget_hdel, SortedSet.zscore] at hv ⊢
    split at hv
    · cases hv
    · next e => rw [if_neg e]; exact h.scores k' v hv

/-- A write that passes its guards keeps the bounds: a new session finds room, an updated
one is already counted. -/
theorem Bounded.commitWrite {max budget : Nat} (h : Bounded max budget st) {nullText : String}
    {k : SearchId} {args : WriteArgs ρ} {total : Nat} (hmax : args.maxCount = max)
    (hbudget : args.aggregateBudget = budget) (hsum : st.sizes.hsum ≤ total)
    (hpass : WritePasses nullText st k k args total) :
    Bounded max budget (commitWrite st k k args total) := by
  refine ⟨h.toIndexed.commitWrite k args total, ?_, ?_, hbudget ▸ hpass.budget⟩
  · change (st.sizes.hset k args.newBytes).hlen ≤ max
    by_cases hk : k ∈ st.sizes
    · rw [Hash.hlen_hset_of_mem hk]
      exact h.count
    · rw [Hash.hlen_hset_of_notMem hk]
      by_cases hrev : args.expectedRevision = -1
      · have hroom := (hpass.create hrev).2.2
        omega
      · obtain ⟨envelope, hlive, -⟩ := hpass.update hrev
        exact absurd ((h.members k).mp (h.toIndexed.live hlive)) hk
  · change (st.sizes.hset k args.newBytes).hsum ≤ nextTotal st k args total
    have hk := Hash.hsum_hdel st.sizes k
    rw [Hash.hsum_hset, nextTotal]
    omega

/-- The local total is never below the sum of the sizes that are left. -/
theorem Bounded.reap_total_le {max budget : Nat} (h : Bounded max budget st) (now : Nat) :
    (Session.reap st now).2.sizes.hsum ≤ (Session.reap st now).1 ∧
      (Session.reap st now).1 ≤ budget := by
  have htotal := reap_total h.sum now
  have hle : (Session.reap st now).2.sizes.hsum ≤ st.sizes.hsum := by
    rw [reap_sizes]
    exact Hash.hsum_hdelAll_le _ _
  have hsum := h.sum
  have hbudget := h.total
  omega

/-- The lease scripts leave sessions, index, sizes and total alone. -/
theorem acquireLease_frame (st : StoreState ρ) (k : SearchId) (now : Nat) (token : String)
    (leaseTtl fenceTtl : Nat) : ∃ leases fences,
    (acquireLease st k now token leaseTtl fenceTtl).1 =
      { st with leases := leases, fences := fences } := by
  unfold acquireLease
  split
  · exact ⟨_, _, rfl⟩
  split
  · exact ⟨_, _, rfl⟩
  split
  · exact ⟨_, _, rfl⟩
  · exact ⟨_, _, rfl⟩

theorem releaseLeaseOnly_frame (st : StoreState ρ) (k : SearchId) (now : Nat) (token : String)
    (fence : Nat) : ∃ leases,
    (releaseLeaseOnly st k now token fence).1 = { st with leases := leases } := by
  unfold releaseLeaseOnly
  split
  · exact ⟨_, rfl⟩
  split
  · exact ⟨_, rfl⟩
  · exact ⟨_, rfl⟩

/-- The script writes under the limits `maxCount` and `aggregateBudget`. -/
def UsesLimits (maxCount aggregateBudget : Nat) : ScriptCall ρ → Prop
  | .write _ args => args.maxCount = maxCount ∧ args.aggregateBudget = aggregateBudget
  | .clear _ | .stats _ | .acquire _ _ _ _ _ | .release _ _ _ _ => True

/-- Every script keeps the index and the bounds. -/
theorem Bounded.run {max budget : Nat} (h : Bounded max budget st) (nullText : String)
    {call : ScriptCall ρ} (hlimits : UsesLimits max budget call) :
    Bounded max budget (call.run nullText st) := by
  cases call with
  | write k args =>
    have hreap := h.reap args.now
    simp only [ScriptCall.run]
    rcases sessionWrite_cases nullText k k st args with ⟨hpass, hw⟩ | ⟨-, outcome, hw, -⟩
    · rw [hw]
      exact hreap.commitWrite hlimits.1 hlimits.2 (h.reap_total_le args.now).1 hpass
    · rw [hw]
      exact hreap
  | clear k =>
    have hk := Hash.hsum_hdel st.sizes k
    refine ⟨h.toIndexed.clearSession k, ?_, ?_, ?_⟩
    · exact Nat.le_trans (Hash.hlen_hdel_le _ _) h.count
    · change (st.sizes.hdel k).hsum ≤ st.totalBytes - (st.sizes.hget k).getD 0
      have := h.sum
      omega
    · exact Nat.le_trans (Nat.sub_le _ _) h.total
  | stats now =>
    obtain ⟨hsum, hbudget⟩ := h.reap_total_le now
    have hreap := h.reap now
    exact ⟨⟨hreap.members, hreap.scores⟩, hreap.count, hsum, hbudget⟩
  | acquire k now token leaseTtl fenceTtl =>
    obtain ⟨leases, fences, hst⟩ := acquireLease_frame st k now token leaseTtl fenceTtl
    rw [ScriptCall.run, hst]
    exact ⟨⟨h.members, h.scores⟩, h.count, h.sum, h.total⟩
  | release k now token fence =>
    obtain ⟨leases, hst⟩ := releaseLeaseOnly_frame st k now token fence
    rw [ScriptCall.run, hst]
    exact ⟨⟨h.members, h.scores⟩, h.count, h.sum, h.total⟩

theorem Bounded.empty (max budget : Nat) : Bounded max budget (.empty : StoreState ρ) :=
  ⟨⟨fun _ => Iff.rfl, fun k v hv => by simp [StoreState.empty] at hv⟩, Nat.zero_le _, Nat.le_refl _,
    Nat.zero_le _⟩

/-- What a step of the machine does. -/
theorem sessionScripts_step {nullText : String} {s t : Nat × StoreState ρ} {call : ScriptCall ρ}
    (h : (sessionScripts nullText).step s call = some t) :
    s.1 ≤ call.now?.getD s.1 ∧ t = (call.now?.getD s.1, call.run nullText s.2) := by
  simp only [sessionScripts, Option.ite_none_right_eq_some, Option.some.injEq] at h
  exact ⟨h.1, h.2.symm⟩

theorem sessionScripts_bounded {nullText : String} {max budget : Nat} {s : Nat × StoreState ρ}
    (h : (sessionScripts nullText).Reach (fun _ call => UsesLimits max budget call) s) :
    Bounded max budget s.2 := by
  refine h.invariant (P := fun s => Bounded max budget s.2) (fun s h0 => ?_)
    fun s call t hs hlimits hst => ?_
  · rw [show s = (0, .empty) from h0]
    exact .empty max budget
  · rw [(sessionScripts_step hst).2]
    exact hs.run nullText hlimits

/-- In every state that the scripts reach under fixed limits, the expiry index and the
size hash have the same keys, a session that is live at the time of the store is in both,
at most `maxCount` sessions are indexed, and their recorded sizes stay within the budget. -/
theorem session_index_bounded (nullText : String) (maxCount aggregateBudget : Nat)
    {s : Nat × StoreState ρ}
    (h : (sessionScripts nullText).Reach
      (fun _ call => UsesLimits maxCount aggregateBudget call) s) :
    (∀ k, k ∈ s.2.expiry ↔ k ∈ s.2.sizes) ∧
    (∀ k envelope, s.2.sessions.get s.1 k = some envelope → k ∈ s.2.expiry ∧ k ∈ s.2.sizes) ∧
    s.2.expiry.zcard ≤ maxCount ∧
    s.2.sizes.hsum ≤ aggregateBudget := by
  have hb := sessionScripts_bounded h
  refine ⟨hb.members, fun k envelope hlive => ?_, ?_, Nat.le_trans hb.sum hb.total⟩
  · have hk := hb.toIndexed.live hlive
    exact ⟨hk, (hb.members k).mp hk⟩
  · exact Nat.le_trans (Nat.le_of_eq (Hash.hlen_eq_of_mem_iff hb.members)) hb.count

/-- The settings of a new session write and of an update in a deployment with the
defaults of the store. -/
def sampleWrite (now : Nat) (expectedRevision : Int) (revision : Nat) : WriteArgs Unit where
  now := now
  sessionTtl := 1800000
  tombstoneTtl := 3600000
  serialized :=
    { revision := revision
      session :=
        { searchId := "ss2.0b6c9d1e-52f7-4a38-8c1d-7e9f3a5b2c40", createdAt := 0, updatedAt := now
          expiresAt := now + 1800000, rest := () } }
  newBytes := 400
  expectedRevision := expectedRevision
  maxCount := 500
  aggregateBudget := 67108864
  lockMode := .unlocked
  lockToken := ""
  fencingNumber := 0
  leaseAction := .keep
  leaseTtl := 300000
  initialExecutionToken := ""
  initialFencingNumber := 0
  sessionTtl_pos := defaultSessionTtl_pos
  tombstoneTtl_pos := defaultTombstoneTtl_pos
  leaseTtl_pos := defaultLeaseTtl_pos

instance (max budget : Nat) (call : ScriptCall ρ) : Decidable (UsesLimits max budget call) :=
  match call with
  | .write _ args =>
    inferInstanceAs (Decidable (args.maxCount = max ∧ args.aggregateBudget = budget))
  | .clear _ | .stats _ | .acquire _ _ _ _ _ | .release _ _ _ _ => .isTrue trivial

/-- A session is written, updated, and gone when the statistics are read. -/
def countedRun : List (ScriptCall Unit) :=
  [.write "ss2.0b6c9d1e-52f7-4a38-8c1d-7e9f3a5b2c40" (sampleWrite 0 (-1) 1),
    .write "ss2.0b6c9d1e-52f7-4a38-8c1d-7e9f3a5b2c40" (sampleWrite 10 1 2), .stats 1800011]

theorem session_index_bounded_counted : ∃ s : Nat × StoreState Unit,
    s.2.totalBytes = 0 ∧
    (∀ k, k ∈ s.2.expiry ↔ k ∈ s.2.sizes) ∧
    (∀ k envelope, s.2.sessions.get s.1 k = some envelope → k ∈ s.2.expiry ∧ k ∈ s.2.sizes) ∧
    s.2.expiry.zcard ≤ 500 ∧
    s.2.sizes.hsum ≤ 67108864 := by
  have hrun : ((sessionScripts "userdata: NULL").exec
      (fun _ call => UsesLimits 500 67108864 call) (0, .empty) countedRun).map
        (fun s => s.2.totalBytes) = some 0 := by decide +kernel
  obtain ⟨s, hs, htotal⟩ := Machine.Reach.of_exec_map countedRun rfl hrun
  exact ⟨s, htotal, session_index_bounded _ _ _ hs⟩

/-! ## 3. Exactness -/

/-- The stored total is the sum of the recorded sizes. -/
def Exact (st : StoreState ρ) : Prop := st.totalBytes = st.sizes.hsum

/-- An expired member of the index has a positive recorded size. -/
def DropsBytes (st : StoreState ρ) (now : Nat) : Prop :=
  ∃ k ∈ st.expiry.zrangeByScore now, 0 < (st.sizes.hget k).getD 0

/-- A write finds an expired session of positive recorded size and does not pass. -/
def RefusedDrop (nullText : String) (st : StoreState ρ) : ScriptCall ρ → Prop
  | .write k args => DropsBytes st args.now ∧
      ¬ WritePasses nullText (reap st args.now).2 k k args (reap st args.now).1
  | .clear _ | .stats _ | .acquire _ _ _ _ _ | .release _ _ _ _ => False

instance (st : StoreState ρ) (now : Nat) : Decidable (DropsBytes st now) :=
  inferInstanceAs (Decidable (∃ k ∈ st.expiry.zrangeByScore now, 0 < (st.sizes.hget k).getD 0))

instance (nullText : String) (st : StoreState ρ) (call : ScriptCall ρ) :
    Decidable (RefusedDrop nullText st call) :=
  match call with
  | .write _ _ => inferInstanceAs (Decidable (_ ∧ _))
  | .clear _ | .stats _ | .acquire _ _ _ _ _ | .release _ _ _ _ => .isFalse id

/-- After the reaping the local total is exact, the stored one only when no bytes went. -/
theorem Exact.reap (h : Exact st) (now : Nat) :
    (Session.reap st now).1 = (Session.reap st now).2.sizes.hsum ∧
      (Exact (Session.reap st now).2 ↔ ¬ DropsBytes st now) := by
  have htotal := reap_total (Nat.le_of_eq h.symm) now
  have hlocal : (Session.reap st now).1 = (Session.reap st now).2.sizes.hsum := by
    rw [Exact] at h
    omega
  refine ⟨hlocal, ?_⟩
  have hsame := Hash.hsum_hdelAll_eq_iff st.sizes (st.expiry.zrangeByScore now)
  rw [Exact, reap_totalBytes, h, reap_sizes, eq_comm, hsame, DropsBytes]
  simp [Nat.pos_iff_ne_zero]

/-- From an exact state, a write is exact after it unless it is refused after dropping
bytes. -/
theorem write_exact_iff (h : Exact st) (nullText : String) (k : SearchId) (args : WriteArgs ρ) :
    Exact (sessionWrite nullText st k k args).1 ↔ ¬ RefusedDrop nullText st (.write k args) := by
  obtain ⟨hlocal, hstored⟩ := h.reap args.now
  rcases sessionWrite_cases nullText k k st args with ⟨hpass, hw⟩ | ⟨hpass, outcome, hw, -⟩
  · have hk := Hash.hsum_hdel (reap st args.now).2.sizes k
    have hexact : Exact (commitWrite (reap st args.now).2 k k args (reap st args.now).1) := by
      change nextTotal _ _ _ _ = ((reap st args.now).2.sizes.hset k args.newBytes).hsum
      rw [Hash.hsum_hset, nextTotal]
      omega
    rw [hw]
    exact ⟨fun _ hdrop => hdrop.2 hpass, fun _ => hexact⟩
  · rw [hw]
    simp [RefusedDrop, hpass, hstored]

theorem Exact.run_iff (h : Exact st) (nullText : String) (call : ScriptCall ρ) :
    Exact (call.run nullText st) ↔ ¬ RefusedDrop nullText st call := by
  cases call with
  | write k args => exact write_exact_iff h nullText k args
  | clear k =>
    have hk := Hash.hsum_hdel st.sizes k
    have hexact : Exact (clearSession st k) := by
      change st.totalBytes - _ = (st.sizes.hdel k).hsum
      rw [Exact] at h
      omega
    exact ⟨fun _ hf => hf, fun _ => hexact⟩
  | stats now => exact ⟨fun _ hf => hf, fun _ => (h.reap now).1⟩
  | acquire k now token leaseTtl fenceTtl =>
    obtain ⟨leases, fences, hst⟩ := acquireLease_frame st k now token leaseTtl fenceTtl
    rw [ScriptCall.run, hst]
    exact ⟨fun _ hf => hf, fun _ => h⟩
  | release k now token fence =>
    obtain ⟨leases, hst⟩ := releaseLeaseOnly_frame st k now token fence
    rw [ScriptCall.run, hst]
    exact ⟨fun _ hf => hf, fun _ => h⟩

/-- In every run in which no write is refused after finding an expired session of positive
size, the stored total is the sum of the recorded sizes; and the next step keeps it so if
and only if it is not such a write. -/
theorem session_bytes_exact (nullText : String) {s : Nat × StoreState ρ}
    (h : (sessionScripts nullText).Reach (fun s call => ¬ RefusedDrop nullText s.2 call) s) :
    s.2.totalBytes = s.2.sizes.hsum ∧
    ∀ call t, (sessionScripts nullText).step s call = some t →
      (t.2.totalBytes = t.2.sizes.hsum ↔ ¬ RefusedDrop nullText s.2 call) := by
  have hexact : Exact s.2 := by
    refine h.invariant (P := fun s => Exact s.2) (fun s h0 => ?_) fun s call t hs hok hst => ?_
    · rw [show s = (0, .empty) from h0]
      rfl
    · rw [(sessionScripts_step hst).2]
      exact (Exact.run_iff hs nullText call).mpr hok
  refine ⟨hexact, fun call t hst => ?_⟩
  rw [(sessionScripts_step hst).2]
  exact hexact.run_iff nullText call

theorem session_bytes_exact_counted : ∃ s : Nat × StoreState Unit,
    s.1 = 1800011 ∧ s.2.totalBytes = s.2.sizes.hsum := by
  have hrun : ((sessionScripts "userdata: NULL").exec
      (fun s call => ¬ RefusedDrop "userdata: NULL" s.2 call) (0, .empty) countedRun).map Prod.fst =
        some 1800011 := by decide +kernel
  obtain ⟨s, hs, hclock⟩ := Machine.Reach.of_exec_map countedRun rfl hrun
  exact ⟨s, hclock, (session_bytes_exact _ hs).1⟩

/-- The update of a session that has expired since it was read: the write drops its bytes
and replies `missing`. -/
def expiredRun : List (ScriptCall Unit) :=
  [.write "ss2.0b6c9d1e-52f7-4a38-8c1d-7e9f3a5b2c40" (sampleWrite 0 (-1) 1),
    .write "ss2.0b6c9d1e-52f7-4a38-8c1d-7e9f3a5b2c40" (sampleWrite 1800001 1 2)]

theorem session_bytes_drift : ∃ s : Nat × StoreState Unit,
    (sessionScripts "userdata: NULL").Reach Machine.Anything s ∧ s.2.totalBytes = 400 ∧
    s.2.sizes.hsum = 0 := by
  have hrun : ((sessionScripts "userdata: NULL").exec Machine.Anything (0, .empty) expiredRun).map
      (fun s => (s.2.totalBytes, s.2.sizes.hsum)) = some (400, 0) := by decide +kernel
  obtain ⟨s, hs, hview⟩ := Machine.Reach.of_exec_map expiredRun rfl hrun
  exact ⟨s, hs, congrArg Prod.fst hview, congrArg Prod.snd hview⟩

end SmartStay.Session
