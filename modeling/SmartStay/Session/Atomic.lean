import SmartStay.Session.Accounting
import SmartStay.Session.Store

/-!
# The compare-and-set loops are atomic

A call computes its write from an envelope it has read before; the write script compares
revisions. This module proves that the comparison does its work: a committed write
replaces exactly the envelope it was computed from.

1. `Vanish`: what every script but a committed write does to the sessions.
2. `Committed`, `step_cases`: what one step can do.
3. `Fresh`: an envelope a call holds is the stored one or an older revision.
   `Committed.current`: the committed write replaces the stored envelope.
-/

namespace SmartStay.Session

variable {ρ : Type}

/-! ## 1. Scripts that write no session -/

/-- Every session after was there before, with the same value. -/
def Vanish (st st' : StoreState ρ) : Prop :=
  ∀ k v, Hash.hget st'.sessions k = some v → Hash.hget st.sessions k = some v

theorem Vanish.refl (st : StoreState ρ) : Vanish st st := fun _ _ h => h

theorem reap_vanish (st : StoreState ρ) (now : Nat) : Vanish st (reap st now).2 := by
  intro k v hv
  rw [reap_sessions, Hash.hget_hdelAll] at hv
  split at hv
  · cases hv
  · exact hv

/-- A session that is live after the reaping was live before it. -/
theorem reap_live {st : StoreState ρ} {now : Nat} {k : SearchId} {e : Envelope ρ}
    (h : (reap st now).2.sessions.get now k = some e) : st.sessions.get now k = some e := by
  obtain ⟨expiresAt, hv, hlive⟩ := Keyspace.get_eq_some.mp h
  exact Keyspace.get_eq_some.mpr ⟨expiresAt, reap_vanish st now k _ hv, hlive⟩

theorem script_vanish (nullText : String) (st : StoreState ρ) {call : ScriptCall ρ}
    (h : ∀ k args, call ≠ .write k args) : Vanish st (call.run nullText st) := by
  cases call with
  | write k args => exact absurd rfl (h k args)
  | clear k =>
    intro j v hv
    simp only [ScriptCall.run, clearSession, Keyspace.del, Hash.hget_hdel] at hv
    split at hv
    · cases hv
    · exact hv
  | stats now => exact reap_vanish st now
  | acquire k now token leaseTtl fenceTtl =>
    obtain ⟨leases, fences, hst⟩ := acquireLease_frame st k now token leaseTtl fenceTtl
    rw [ScriptCall.run, hst]
    exact .refl _
  | release k now token fence =>
    obtain ⟨leases, hst⟩ := releaseLeaseOnly_frame st k now token fence
    rw [ScriptCall.run, hst]
    exact .refl _

/-! ## 2. One step -/

/-- The call `call` commits at `now` the write it computed from `current`. -/
structure Committed (cfg : StoreSettings ρ) (s t : System ρ) (call : SessionCall ρ)
    (current : Envelope ρ) (now : Nat) : Prop where
  bounded : cfg.byteLength (nextEnvelope cfg now current call.operation) ≤ cfg.maxSessionBytes
  passes : WritePasses cfg.nullText (reap s.store now).2 call.searchId call.searchId
    (writeArgs cfg now current call.operation) (reap s.store now).1
  store : t.store = commitWrite (reap s.store now).2 call.searchId call.searchId
    (writeArgs cfg now current call.operation) (reap s.store now).1
  commits : t.commits =
    ⟨call.searchId, call.operation, current, nextEnvelope cfg now current call.operation⟩ :: s.commits

variable {cfg : StoreSettings ρ} {s t : System ρ}

namespace Committed

variable {call : SessionCall ρ} {current : Envelope ρ} {now : Nat}

/-- The session of the call after the commit. -/
theorem hget_self (h : Committed cfg s t call current now) :
    Hash.hget t.store.sessions call.searchId =
      some ⟨nextEnvelope cfg now current call.operation, now + cfg.sessionTtlMs⟩ := by
  rw [h.store]
  exact Hash.hget_hset_self _ _ _

/-- The other sessions at most vanish. -/
theorem hget_other (h : Committed cfg s t call current now) {k : SearchId}
    {v : Volatile (Envelope ρ)} (hk : k ≠ call.searchId)
    (hv : Hash.hget t.store.sessions k = some v) : Hash.hget s.store.sessions k = some v := by
  rw [h.store] at hv
  simp only [commitWrite, Keyspace.setPx, Hash.hget_hset, if_neg hk] at hv
  exact reap_vanish _ _ k v hv

/-- Before the commit the session is live at the revision the call has read. -/
theorem live (h : Committed cfg s t call current now) : ∃ e,
    (reap s.store now).2.sessions.get now call.searchId = some e ∧
      e.revision = current.revision := by
  obtain ⟨e, hlive, hrev⟩ := h.passes.update (by simp only [writeArgs]; omega)
  exact ⟨e, hlive, Int.ofNat.inj hrev⟩

end Committed

/-- A write that is not refused, and one that is. -/
theorem writeEffect_cases (cfg : StoreSettings ρ) (st : StoreState ρ) (call : SessionCall ρ)
    (attempt : Nat) (current : Envelope ρ) (fate : Fate) (now : Nat) :
    ((writeEffect cfg st call attempt current fate now).2.2 = [] ∧
      Vanish st (writeEffect cfg st call attempt current fate now).1) ∨
    (fate ≠ .lost ∧
      cfg.byteLength (nextEnvelope cfg now current call.operation) ≤ cfg.maxSessionBytes ∧
      WritePasses cfg.nullText (reap st now).2 call.searchId call.searchId
        (writeArgs cfg now current call.operation) (reap st now).1 ∧
      (writeEffect cfg st call attempt current fate now).1 =
        commitWrite (reap st now).2 call.searchId call.searchId
          (writeArgs cfg now current call.operation) (reap st now).1 ∧
      (writeEffect cfg st call attempt current fate now).2.2 =
        [⟨call.searchId, call.operation, current, nextEnvelope cfg now current call.operation⟩]) := by
  unfold writeEffect
  by_cases hsize : cfg.maxSessionBytes < cfg.byteLength (nextEnvelope cfg now current call.operation)
  · simp only [if_pos hsize]
    exact .inl ⟨trivial, .refl _⟩
  simp only [if_neg hsize]
  rcases sessionWrite_cases cfg.nullText call.searchId call.searchId st
      (writeArgs cfg now current call.operation) with ⟨hpass, hw⟩ | ⟨-, outcome, hw, hne⟩
  · rw [hw]
    cases fate with
    | lost => exact .inl ⟨rfl, .refl _⟩
    | answered | unanswered =>
      exact .inr ⟨by decide, Nat.not_lt.mp hsize, hpass, rfl, rfl⟩
  · rw [hw]
    refine .inl ⟨?_, fate.effect_of (P := Vanish st) (.refl _) fun _ => reap_vanish _ _⟩
    cases fate with
    | lost => rfl
    | answered | unanswered =>
      cases outcome with
      | ok n => exact absurd rfl (hne n)
      | _ => rfl

/-- What a `command` step is. -/
theorem step_command {c : CallId} {fate : Fate} {now : Nat}
    (h : step cfg s (.command c fate now) = some t) :
    s.clock ≤ now ∧ ∃ call, s.calls.hget c = some call ∧
      ∃ r, commandEffect cfg s.store call fate now = some r ∧
        t = { clock := now, store := r.1
              calls := s.calls.hset c { call with phase := r.2.1 }
              commits := r.2.2 ++ s.commits } := by
  simp only [step, Option.ite_none_left_eq_some, not_lt, Option.bind_eq_some_iff,
    Option.map_eq_some_iff] at h
  obtain ⟨hnow, call, hcall, r, he, rfl⟩ := h
  exact ⟨hnow, call, hcall, r, he, rfl⟩

/-- What one step can do: sessions vanish at most, or one call commits. -/
theorem step_cases {ev : Event ρ} (h : step cfg s ev = some t) :
    (t.commits = s.commits ∧ Vanish s.store t.store) ∨
    ∃ c fate now call attempt current, ev = .command c fate now ∧ fate ≠ .lost ∧
      s.calls.hget c = some call ∧ call.phase = .write attempt current ∧
      Committed cfg s t call current now := by
  cases ev with
  | start c k op =>
    simp only [step, Option.ite_none_left_eq_some] at h
    obtain ⟨-, h⟩ := h
    cases h
    exact .inl ⟨rfl, .refl _⟩
  | script call =>
    cases call with
    | write k args => cases h
    | _ =>
      simp only [step, Option.ite_none_left_eq_some] at h
      obtain ⟨-, h⟩ := h
      cases h
      exact .inl ⟨rfl, script_vanish _ _ (by simp)⟩
  | command c fate now =>
    obtain ⟨-, call, hcall, r, he, rfl⟩ := step_command h
    cases hphase : call.phase with
    | write attempt current =>
      simp only [commandEffect, hphase, Option.some.injEq] at he
      rcases writeEffect_cases cfg s.store call attempt current fate now with
        ⟨hnone, hvanish⟩ | ⟨hsent, hbounded, hpass, hstore, hcommits⟩
      · rw [he] at hnone hvanish
        exact .inl ⟨by simp only [hnone, List.nil_append], hvanish⟩
      · rw [he] at hstore hcommits
        refine .inr ⟨c, fate, now, call, attempt, current, rfl, hsent, hcall, hphase, hbounded, hpass,
          hstore, ?_⟩
        simp only [hcommits, List.singleton_append]
    | read attempt =>
      simp only [commandEffect, hphase, Option.some.injEq] at he
      subst he
      exact .inl ⟨rfl, .refl _⟩
    | require terminal =>
      simp only [commandEffect, hphase, Option.some.injEq] at he
      subst he
      exact .inl ⟨rfl, .refl _⟩
    | reread =>
      simp only [commandEffect, hphase, Option.some.injEq] at he
      subst he
      exact .inl ⟨rfl, .refl _⟩
    | returned result => simp [commandEffect, hphase] at he
    | threw error => simp [commandEffect, hphase] at he

/-! ## 3. Fresh snapshots -/

/-- The envelope that a call is about to write over is the stored one, or the stored one
has a later revision, or the session is gone. -/
def Fresh (s : System ρ) : Prop :=
  ∀ c call attempt current, s.calls.hget c = some call → call.phase = .write attempt current →
    ∀ e expiresAt, Hash.hget s.store.sessions call.searchId = some ⟨e, expiresAt⟩ →
      current.revision < e.revision ∨ e = current

/-- A committed write replaces the stored envelope, the one it was computed from. -/
theorem Committed.current {c : CallId} {call : SessionCall ρ} {attempt : Nat}
    {current : Envelope ρ} {now : Nat} (h : Committed cfg s t call current now) (hfresh : Fresh s)
    (hcall : s.calls.hget c = some call) (hphase : call.phase = .write attempt current) :
    (reap s.store now).2.sessions.get now call.searchId = some current ∧
      ∃ expiresAt, Hash.hget s.store.sessions call.searchId = some ⟨current, expiresAt⟩ := by
  obtain ⟨e, hlive, hrev⟩ := h.live
  obtain ⟨expiresAt, hv, -⟩ := Keyspace.get_eq_some.mp (reap_live hlive)
  rcases hfresh c call attempt current hcall hphase e expiresAt hv with hlt | rfl
  · omega
  · exact ⟨hlive, expiresAt, hv⟩

theorem afterRead_write {op : Operation ρ} {attempt attempt' : Nat}
    {read? : Option (Envelope ρ)} {current : Envelope ρ}
    (h : afterRead op attempt read? = .write attempt' current) : read? = some current := by
  cases read? with
  | none => cases op <;> cases h
  | some envelope =>
    cases op with
    | claim execution =>
      simp only [afterRead] at h
      split at h
      · cases h
      split at h
      · cases h
      · cases h
        rfl
    | mutate _ _ _ | renew _ | release _ _ =>
      cases h
      rfl

theorem afterWrite_ne_write (op : Operation ρ) (attempt : Nat) (session : SearchSession ρ)
    (outcome : WriteOutcome) {attempt' : Nat} {current : Envelope ρ} :
    afterWrite cfg op attempt session outcome ≠ .write attempt' current := by
  unfold afterWrite
  split <;> try split
  all_goals simp

/-- A call holds an envelope to write over only right after it has read it. -/
theorem commandEffect_write {st : StoreState ρ} {call : SessionCall ρ} {fate : Fate} {now : Nat}
    {r : StoreState ρ × Phase ρ × List (Commit ρ)} (h : commandEffect cfg st call fate now = some r)
    {attempt : Nat} {current : Envelope ρ} (hphase : r.2.1 = .write attempt current) :
    r.1 = st ∧ st.sessions.get now call.searchId = some current := by
  cases hcall : call.phase with
  | read attempt' =>
    simp only [commandEffect, hcall, Option.some.injEq] at h
    subst h
    cases fate with
    | answered => exact ⟨rfl, afterRead_write hphase⟩
    | lost | unanswered => cases hphase
  | write attempt' current' =>
    simp only [commandEffect, hcall, Option.some.injEq, writeEffect] at h
    split at h
    · subst h
      cases hphase
    · subst h
      cases fate with
      | answered => exact absurd hphase (afterWrite_ne_write _ _ _ _)
      | lost | unanswered => cases hphase
  | require terminal =>
    simp only [commandEffect, hcall, Option.some.injEq] at h
    subst h
    cases fate with
    | answered =>
      simp only [Fate.reply, afterRequire] at hphase
      split at hphase <;> try split at hphase
      all_goals cases hphase
    | lost | unanswered => cases hphase
  | reread =>
    simp only [commandEffect, hcall, Option.some.injEq] at h
    subst h
    cases fate <;> cases hphase
  | returned result => simp [commandEffect, hcall] at h
  | threw error => simp [commandEffect, hcall] at h

/-- A call in the state after a step: an earlier one in its phase, or one that has just
started, or the one that ran the command. -/
theorem step_calls {ev : Event ρ} (h : step cfg s ev = some t) {c : CallId}
    {call : SessionCall ρ} (hcall : t.calls.hget c = some call) :
    s.calls.hget c = some call ∨
    (∃ k op, ev = .start c k op ∧ call = ⟨k, op, .read 0⟩) ∨
    ∃ fate now call₀ r, ev = .command c fate now ∧ s.calls.hget c = some call₀ ∧
      commandEffect cfg s.store call₀ fate now = some r ∧ t.store = r.1 ∧
      call = { call₀ with phase := r.2.1 } := by
  cases ev with
  | start c' k op =>
    simp only [step, Option.ite_none_left_eq_some] at h
    obtain ⟨-, h⟩ := h
    cases h
    simp only [Hash.hget_hset] at hcall
    split at hcall
    · next e =>
      cases hcall
      exact .inr (.inl ⟨k, op, by rw [e], rfl⟩)
    · exact .inl hcall
  | script call' =>
    cases call' with
    | write k args => cases h
    | _ =>
      simp only [step, Option.ite_none_left_eq_some] at h
      obtain ⟨-, h⟩ := h
      cases h
      exact .inl hcall
  | command c' fate now =>
    obtain ⟨-, call₀, hcall₀, r, he, rfl⟩ := step_command h
    simp only [Hash.hget_hset] at hcall
    split at hcall
    · next e =>
      cases hcall
      exact .inr (.inr ⟨fate, now, call₀, r, by rw [e], e ▸ hcall₀, he, rfl, rfl⟩)
    · exact .inl hcall

/-- A call in the state before a step is there after it: as it was, or after the command
it has run. -/
theorem step_call {ev : Event ρ} (h : step cfg s ev = some t) {c : CallId} {call : SessionCall ρ}
    (hcall : s.calls.hget c = some call) :
    t.calls.hget c = some call ∨
    ∃ fate now r, ev = .command c fate now ∧ commandEffect cfg s.store call fate now = some r ∧
      t.calls.hget c = some { call with phase := r.2.1 } := by
  cases ev with
  | start c' k op =>
    simp only [step, Option.ite_none_left_eq_some] at h
    obtain ⟨hnew, h⟩ := h
    cases h
    refine .inl ?_
    rw [Hash.hget_hset, if_neg, hcall]
    rintro rfl
    exact hnew (Hash.mem_of_hget hcall)
  | script call' =>
    cases call' with
    | write k args => cases h
    | _ =>
      simp only [step, Option.ite_none_left_eq_some] at h
      obtain ⟨-, h⟩ := h
      cases h
      exact .inl hcall
  | command c' fate now =>
    obtain ⟨-, call₀, hcall₀, r, he, rfl⟩ := step_command h
    by_cases hc : c = c'
    · subst hc
      rw [hcall] at hcall₀
      cases hcall₀
      exact .inr ⟨fate, now, r, rfl, he, Hash.hget_hset_self _ _ _⟩
    · exact .inl (by rw [Hash.hget_hset, if_neg hc, hcall])

theorem Fresh.step {ev : Event ρ} (hfresh : Fresh s) (h : step cfg s ev = some t) : Fresh t := by
  intro c call attempt current hcall hphase e expiresAt hv
  rcases step_calls h hcall with hold | ⟨k, op, -, rfl⟩ | ⟨fate, now, call₀, r, rfl, hcall₀, he, hst, rfl⟩
  · -- An earlier snapshot: the session is as it was, or a commit has raised its revision.
    rcases step_cases h with ⟨-, hvanish⟩ | ⟨c', fate, now, call', attempt', current', -, -, hcall',
      hphase', hcommit⟩
    · exact hfresh c call attempt current hold hphase e expiresAt (hvanish _ _ hv)
    · by_cases hk : call.searchId = call'.searchId
      · obtain ⟨-, expiresAt', hstored⟩ := hcommit.current hfresh hcall' hphase'
        rw [hk, hcommit.hget_self] at hv
        cases hv
        rcases hfresh c call attempt current hold hphase current' expiresAt' (hk ▸ hstored) with
          hlt | rfl
        · exact .inl (Nat.lt_succ_of_lt hlt)
        · exact .inl (Nat.lt_succ_self _)
      · exact hfresh c call attempt current hold hphase e expiresAt (hcommit.hget_other hk hv)
  · cases hphase
  · -- A snapshot taken in this step.
    obtain ⟨hsame, hread⟩ := commandEffect_write he hphase
    obtain ⟨expiresAt', hv', -⟩ := Keyspace.get_eq_some.mp hread
    rw [hst, hsame, hv'] at hv
    cases hv
    exact .inr rfl

theorem Fresh.init {start : StoreState ρ → Prop} (h : (system cfg start).init s) : Fresh s := by
  intro c call attempt current hcall
  rw [h.2.1] at hcall
  simp at hcall

end SmartStay.Session
