import SmartStay.Lib.Keyed
import SmartStay.Session.InitialSearch

/-!
# No update of a session is lost

A mutation of a session is computed from a snapshot and written by a compare-and-set, again
and again until it goes through. Any number of such calls interleave.

1. The hotel ids of a session under `mergeHotels`.
2. What each operation makes of the hotel ids.
3. `Kept`: the stored hotels against the initial ones and the appends that have returned.
4. `no_lost_update`: in every run.
-/

namespace SmartStay.Session

variable {ρ : Type}

/-! ## 1. Hotel ids -/

/-- The ids of the hotels that have one. -/
def hotelIds (hotels : List Hotel) : List String := hotels.filterMap Hotel.id

theorem mem_hotelIds {hotels : List Hotel} {id : String} :
    id ∈ hotelIds hotels ↔ some id ∈ hotels.map Hotel.id := by
  simp [hotelIds]

theorem setHotel_some {hotels : List Hotel} {hotel : Hotel} {id : String}
    (h : hotel.id = some id) : setHotel hotels hotel = Keyed.set Hotel.id hotels hotel := by
  simp only [setHotel, Keyed.set, h, List.any_eq_true, beq_iff_eq]

theorem setHotel_none {hotels : List Hotel} {hotel : Hotel} (h : hotel.id = none) :
    setHotel hotels hotel = hotels := by
  simp only [setHotel, h]

/-- The hotels of a merge: they all have ids, no two the same. -/
def Distinct (hotels : List Hotel) : Prop :=
  (hotels.map Hotel.id).Nodup ∧ none ∉ hotels.map Hotel.id

theorem Distinct.ids {hotels : List Hotel} (h : Distinct hotels) : (hotelIds hotels).Nodup := by
  have hids : hotelIds hotels = (hotels.map Hotel.id).filterMap id := by
    rw [List.filterMap_map]
    rfl
  rw [hids]
  refine h.1.filterMap fun a a' id ha ha' => ?_
  rw [Option.mem_def] at ha ha'
  exact ha.trans ha'.symm

theorem Distinct.setHotel {hotels : List Hotel} (h : Distinct hotels) (hotel : Hotel) :
    Distinct (setHotel hotels hotel) := by
  cases hid : hotel.id with
  | none => rwa [setHotel_none hid]
  | some id =>
    rw [setHotel_some hid]
    refine ⟨Keyed.nodup_set h.1, fun hnone => ?_⟩
    rcases Keyed.mem_keys_set.mp hnone with heq | hmem
    · rw [hid] at heq
      cases heq
    · exact h.2 hmem

theorem mem_ids_setHotel {hotels : List Hotel} {hotel : Hotel} {id : String} :
    some id ∈ (setHotel hotels hotel).map Hotel.id ↔
      some id = hotel.id ∨ some id ∈ hotels.map Hotel.id := by
  cases hid : hotel.id with
  | none => simp [setHotel_none hid]
  | some id' => rw [setHotel_some hid, Keyed.mem_keys_set, hid]

theorem distinct_foldl {added : List Hotel} : ∀ {hotels : List Hotel}, Distinct hotels →
    Distinct (added.foldl setHotel hotels) := by
  induction added with
  | nil => exact fun h => h
  | cons hotel added ih => exact fun h => ih (h.setHotel hotel)

theorem mem_ids_foldl {added : List Hotel} {id : String} : ∀ {hotels : List Hotel},
    some id ∈ (added.foldl setHotel hotels).map Hotel.id ↔
      some id ∈ added.map Hotel.id ∨ some id ∈ hotels.map Hotel.id := by
  induction added with
  | nil => simp
  | cons hotel added ih =>
    intro hotels
    rw [List.foldl_cons, ih, mem_ids_setHotel, List.map_cons, List.mem_cons]
    tauto

/-- A merge has the ids of both lists, each of them once. -/
theorem mergeHotels_ids (current added : List Hotel) :
    (hotelIds (mergeHotels current added)).Nodup ∧
      ∀ id, id ∈ hotelIds (mergeHotels current added) ↔ id ∈ hotelIds current ∨ id ∈ hotelIds added := by
  have hempty : Distinct [] := ⟨List.nodup_nil, by simp⟩
  refine ⟨(distinct_foldl hempty).ids, fun id => ?_⟩
  simp only [mem_hotelIds, mergeHotels, mem_ids_foldl]
  simp [or_comm]

/-! ## 2. Operations -/

/-- The operation does not itself replace the hotel list. -/
def Operation.KeepsHotels : Operation ρ → Prop
  | .mutate (.assign updates) _ _ | .release _ updates => updates.hotels = none
  | .mutate (.lock _) _ _ | .mutate (.appendHotels _) _ _ | .claim _ | .renew _ => True

/-- The hotels of an `appendHotelsToSearchSession`. -/
def Operation.appended : Operation ρ → List Hotel
  | .mutate (.appendHotels hotels) _ _ => hotels
  | .mutate (.assign _) _ _ | .mutate (.lock _) _ _ | .claim _ | .renew _ | .release _ _ => []

variable {cfg : StoreSettings ρ}

/-- An operation adds the hotels it appends and takes none away. -/
theorem nextSession_hotels {op : Operation ρ} (h : op.KeepsHotels) (now : Nat)
    (session : SearchSession ρ) :
    ((hotelIds session.hotels).Nodup → (hotelIds (nextSession cfg now session op).hotels).Nodup) ∧
    ∀ id, id ∈ hotelIds (nextSession cfg now session op).hotels ↔
      id ∈ hotelIds session.hotels ∨ id ∈ hotelIds op.appended := by
  have hsame : (nextSession cfg now session op).hotels = session.hotels → op.appended = [] →
      ((hotelIds session.hotels).Nodup →
        (hotelIds (nextSession cfg now session op).hotels).Nodup) ∧
      ∀ id, id ∈ hotelIds (nextSession cfg now session op).hotels ↔
        id ∈ hotelIds session.hotels ∨ id ∈ hotelIds op.appended := by
    intro hhotels happended
    rw [hhotels, happended]
    exact ⟨id, fun _ => by simp [hotelIds]⟩
  cases op with
  | claim execution => exact hsame rfl rfl
  | renew lease => exact hsame rfl rfl
  | release lease updates =>
    refine hsame ?_ rfl
    simp only [Operation.KeepsHotels] at h
    simp [nextSession, SearchSession.assign, h]
  | mutate mutation lease execution =>
    cases mutation with
    | lock lease => exact hsame rfl rfl
    | assign updates =>
      refine hsame ?_ rfl
      simp only [Operation.KeepsHotels] at h
      simp [nextSession, Mutation.candidate, SearchSession.assign, h]
    | appendHotels hotels =>
      have hmerged := mergeHotels_ids session.hotels hotels
      exact ⟨fun _ => hmerged.1, hmerged.2⟩

/-- The operations that start keep the hotels. -/
def StartsKeeping (_ : System ρ) : Event ρ → Prop
  | .start _ _ operation => operation.KeepsHotels
  | .command _ _ _ | .script _ => True

/-! ## 3. The stored hotels -/

/-- Where a call of `mutateSession` can stand. -/
def Phase.OfMutation : Phase ρ → Prop
  | .read _ | .write _ _ | .returned _ | .threw _ => True
  | .require _ | .reread => False

/-- A mutation that returns a session has just committed it. -/
theorem commandEffect_mutation {st : StoreState ρ} {call : SessionCall ρ} {fate : Fate} {now : Nat}
    {r : StoreState ρ × Phase ρ × List (Commit ρ)} (h : commandEffect cfg st call fate now = some r)
    {mutation : Mutation ρ} {lease : Option LeaseContext}
    {execution : Option InitialSearchExecution}
    (hop : call.operation = .mutate mutation lease execution) (hphase : call.phase.OfMutation) :
    r.2.1.OfMutation ∧
      ∀ session, r.2.1 = .returned (.session (some session)) → ∃ commit, r.2.2 = [commit] := by
  cases hcall : call.phase with
  | read attempt =>
    simp only [commandEffect, hcall, Option.some.injEq, hop] at h
    subst h
    cases fate with
    | lost | unanswered => exact ⟨trivial, fun _ heq => by cases heq⟩
    | answered =>
      cases st.sessions.get now call.searchId with
      | none => exact ⟨trivial, fun _ heq => by cases heq⟩
      | some envelope => exact ⟨trivial, fun _ heq => by cases heq⟩
  | write attempt current =>
    simp only [commandEffect, hcall, Option.some.injEq, writeEffect] at h
    split at h
    · subst h
      exact ⟨trivial, fun _ heq => by cases heq⟩
    subst h
    cases fate with
    | lost | unanswered => exact ⟨trivial, fun _ heq => by cases heq⟩
    | answered =>
      simp only [Fate.reply, hop]
      cases (sessionWrite cfg.nullText st call.searchId call.searchId
        (writeArgs cfg now current (.mutate mutation lease execution))).2 with
      | ok total => exact ⟨trivial, fun _ _ => ⟨_, rfl⟩⟩
      | conflict revision =>
        simp only [afterWrite]
        split <;> exact ⟨trivial, fun _ heq => by cases heq⟩
      | _ => exact ⟨trivial, fun _ heq => by cases heq⟩
  | require terminal =>
    rw [hcall] at hphase
    exact hphase.elim
  | reread =>
    rw [hcall] at hphase
    exact hphase.elim
  | returned result => simp [commandEffect, hcall] at h
  | threw error => simp [commandEffect, hcall] at h

/-- A call of `appendHotelsToSearchSession` that has returned the session. -/
def SessionCall.Succeeded (call : SessionCall ρ) : Prop :=
  (∃ hotels lease, call.operation = appendHotelsToSearchSession hotels lease) ∧
    ∃ session, call.phase = .returned (.session (some session))

/-- The stored sessions hold the hotels of the sessions of `st₀` and of all appends that
have succeeded. -/
structure Kept (st₀ : StoreState ρ) (s : System ρ) : Prop where
  fresh : Fresh s
  operations : ∀ c call, s.calls.hget c = some call → call.operation.KeepsHotels
  phases : ∀ c call, s.calls.hget c = some call →
    (∃ mutation lease execution, call.operation = .mutate mutation lease execution) →
    call.phase.OfMutation
  distinct : ∀ k v, Hash.hget s.store.sessions k = some v →
    (hotelIds v.value.session.hotels).Nodup
  initial : ∀ k v, Hash.hget s.store.sessions k = some v →
    ∃ v₀, Hash.hget st₀.sessions k = some v₀ ∧
      ∀ id ∈ hotelIds v₀.value.session.hotels, id ∈ hotelIds v.value.session.hotels
  appended : ∀ c call, s.calls.hget c = some call → call.Succeeded →
    ∀ v, Hash.hget s.store.sessions call.searchId = some v →
      ∀ id ∈ hotelIds call.operation.appended, id ∈ hotelIds v.value.session.hotels

variable {s t : System ρ} {st₀ : StoreState ρ}

/-- A session after a step was there before it, with no more hotels. -/
theorem Kept.grows (h : Kept st₀ s) {ev : Event ρ} (hs : step cfg s ev = some t) {k : SearchId}
    {v' : Volatile (Envelope ρ)} (hv' : Hash.hget t.store.sessions k = some v') :
    ∃ v, Hash.hget s.store.sessions k = some v ∧
      (hotelIds v'.value.session.hotels).Nodup ∧
      ∀ id ∈ hotelIds v.value.session.hotels, id ∈ hotelIds v'.value.session.hotels := by
  rcases step_cases hs with ⟨-, hvanish⟩ | ⟨c, fate, now, call, attempt, current, -, -, hcall, hphase,
    hcommit⟩
  · exact ⟨v', hvanish k v' hv', h.distinct k v' (hvanish k v' hv'), fun _ hid => hid⟩
  · by_cases hk : k = call.searchId
    · subst hk
      obtain ⟨-, expiresAt, hstored⟩ := hcommit.current h.fresh hcall hphase
      rw [hcommit.hget_self] at hv'
      cases hv'
      obtain ⟨hnodup, hids⟩ :=
        nextSession_hotels (h.operations c call hcall) now current.session
      exact ⟨_, hstored, hnodup (h.distinct _ _ hstored), fun id hid => (hids id).mpr (.inl hid)⟩
    · have hv := hcommit.hget_other hk hv'
      exact ⟨v', hv, h.distinct k v' hv, fun _ hid => hid⟩

/-- The hotels of an append that succeeds in this step are in the session it has written. -/
theorem Kept.succeeds (h : Kept st₀ s) {c : CallId} {fate : Fate} {now : Nat}
    {call : SessionCall ρ} {r : StoreState ρ × Phase ρ × List (Commit ρ)}
    (hs : step cfg s (.command c fate now) = some t) (hcall : s.calls.hget c = some call)
    (he : commandEffect cfg s.store call fate now = some r)
    (hsucceeded : ({ call with phase := r.2.1 } : SessionCall ρ).Succeeded)
    {v : Volatile (Envelope ρ)} (hv : Hash.hget t.store.sessions call.searchId = some v) :
    ∀ id ∈ hotelIds call.operation.appended, id ∈ hotelIds v.value.session.hotels := by
  obtain ⟨⟨hotels, lease, hop⟩, session, hreturned⟩ := hsucceeded
  obtain ⟨-, hcommits⟩ := commandEffect_mutation he hop (h.phases c call hcall ⟨_, _, _, hop⟩)
  obtain ⟨commit, hcommit⟩ := hcommits session hreturned
  have hlog : t.commits = commit :: s.commits := by
    obtain ⟨-, call', hcall', r', he', rfl⟩ := step_command hs
    rw [hcall] at hcall'
    cases hcall'
    rw [he] at he'
    cases he'
    simp only [hcommit, List.singleton_append]
  rcases step_cases hs with ⟨hsame, -⟩ | ⟨c', fate', now', call', attempt, current, hev, -, hcall',
    hphase, hcommitted⟩
  · rw [hlog] at hsame
    exact absurd hsame (List.cons_ne_self _ _)
  · cases hev
    rw [hcall] at hcall'
    cases hcall'
    rw [hcommitted.hget_self] at hv
    cases hv
    intro id hid
    exact ((nextSession_hotels (h.operations c call hcall) now current.session).2 id).mpr (.inr hid)

theorem Kept.step {ev : Event ρ} (h : Kept st₀ s) (hok : StartsKeeping s ev)
    (hs : Session.step cfg s ev = some t) : Kept st₀ t where
  fresh := h.fresh.step hs
  operations c call hcall := by
    rcases step_calls hs hcall with hold | ⟨k, op, rfl, rfl⟩ | ⟨_, _, call₀, r, rfl, hcall₀, -, -, rfl⟩
    · exact h.operations c call hold
    · exact hok
    · exact h.operations c call₀ hcall₀
  phases c call hcall hmutation := by
    rcases step_calls hs hcall with hold | ⟨k, op, rfl, rfl⟩ | ⟨_, _, call₀, r, rfl, hcall₀, he, -, rfl⟩
    · exact h.phases c call hold hmutation
    · trivial
    · obtain ⟨mutation, lease, execution, hop⟩ := hmutation
      exact (commandEffect_mutation he hop (h.phases c call₀ hcall₀ ⟨_, _, _, hop⟩)).1
  distinct k v' hv' := by
    obtain ⟨-, -, hnodup, -⟩ := h.grows hs hv'
    exact hnodup
  initial k v' hv' := by
    obtain ⟨v, hv, -, hgrows⟩ := h.grows hs hv'
    obtain ⟨v₀, hv₀, hids⟩ := h.initial k v hv
    exact ⟨v₀, hv₀, fun id hid => hgrows id (hids id hid)⟩
  appended c call hcall hsucceeded v' hv' id hid := by
    rcases step_calls hs hcall with hold | ⟨k, op, rfl, rfl⟩ | ⟨fate, now, call₀, r, rfl, hcall₀, he,
      -, rfl⟩
    · obtain ⟨v, hv, -, hgrows⟩ := h.grows hs hv'
      exact hgrows id (h.appended c call hold hsucceeded v hv id hid)
    · obtain ⟨-, session, hreturned⟩ := hsucceeded
      cases hreturned
    · exact h.succeeds hs hcall₀ he hsucceeded hv' id hid

/-! ## 4. Every run -/

/-- No hotel id comes twice in a stored session. -/
def DistinctHotels (st : StoreState ρ) : Prop :=
  ∀ k v, Hash.hget st.sessions k = some v → (hotelIds v.value.session.hotels).Nodup

/-- What a step does to the stored envelopes: it changes none, or it commits one write, over
the stored envelope and at the next revision. -/
def CommitsOnce (s t : System ρ) : Prop :=
  (t.commits = s.commits ∧ Vanish s.store t.store) ∨
  ∃ commit expiresAt expiresAt', t.commits = commit :: s.commits ∧
    Hash.hget s.store.sessions commit.searchId = some ⟨commit.before, expiresAt⟩ ∧
    Hash.hget t.store.sessions commit.searchId = some ⟨commit.after, expiresAt'⟩ ∧
    commit.after.revision = commit.before.revision + 1 ∧
    ∀ k v, k ≠ commit.searchId → Hash.hget t.store.sessions k = some v →
      Hash.hget s.store.sessions k = some v

theorem Fresh.commitsOnce {ev : Event ρ} (h : Fresh s) (hs : Session.step cfg s ev = some t) :
    CommitsOnce s t := by
  rcases step_cases hs with hnone | ⟨c, fate, now, call, attempt, current, -, -, hcall, hphase,
    hcommit⟩
  · exact .inl hnone
  · obtain ⟨-, expiresAt, hstored⟩ := hcommit.current h hcall hphase
    exact .inr ⟨_, expiresAt, _, hcommit.commits, hstored, hcommit.hget_self, rfl,
      fun k v hk hv => hcommit.hget_other hk hv⟩

/-- For every run of any number of interleaved calls from sessions without a double hotel,
none of which itself replaces a hotel list: each commit raises the revision of the session
it replaces by one; and in the last state of the run, no stored session has a double hotel,
and each has the hotels it began with and those of every append to it that has succeeded. -/
theorem no_lost_update (cfg : StoreSettings ρ) {s₀ s : System ρ}
    (hinit : (system cfg DistinctHotels).init s₀)
    (h : (system cfg DistinctHotels).Steps StartsKeeping s₀ s) :
    (∀ ev t, (system cfg DistinctHotels).step s ev = some t → CommitsOnce s t) ∧
    ∀ k v, Hash.hget s.store.sessions k = some v →
      (hotelIds v.value.session.hotels).Nodup ∧
      (∃ v₀, Hash.hget s₀.store.sessions k = some v₀ ∧
        ∀ id ∈ hotelIds v₀.value.session.hotels, id ∈ hotelIds v.value.session.hotels) ∧
      ∀ c call hotels lease session, s.calls.hget c = some call → call.searchId = k →
        call.operation = appendHotelsToSearchSession hotels lease →
        call.phase = .returned (.session (some session)) →
        ∀ id ∈ hotelIds hotels, id ∈ hotelIds v.value.session.hotels := by
  have hfresh : Fresh s₀ := .init hinit
  have hstart : Kept s₀.store s₀ := by
    obtain ⟨hdistinct, hcalls, hcommits⟩ := hinit
    have hnone : ∀ c call, s₀.calls.hget c ≠ some call := by
      intro c call hcall
      rw [hcalls] at hcall
      simp at hcall
    exact ⟨hfresh, fun c call hcall => absurd hcall (hnone c call),
      fun c call hcall => absurd hcall (hnone c call), hdistinct,
      fun k v hv => ⟨v, hv, fun _ hid => hid⟩, fun c call hcall => absurd hcall (hnone c call)⟩
  have hkept : Kept s₀.store s := h.invariant hstart fun _ _ _ hs hok hst => hs.step hok hst
  refine ⟨fun ev t hst => hkept.fresh.commitsOnce hst, fun k v hv => ⟨hkept.distinct k v hv,
    hkept.initial k v hv, ?_⟩⟩
  rintro c call hotels lease session hcall rfl hop hreturned id hid
  refine hkept.appended c call hcall ⟨⟨hotels, lease, hop⟩, session, hreturned⟩ v hv id ?_
  rw [hop]
  exact hid

instance (op : Operation ρ) : Decidable op.KeepsHotels :=
  match op with
  | .mutate (.assign updates) _ _ | .release _ updates =>
    inferInstanceAs (Decidable (updates.hotels = none))
  | .mutate (.lock _) _ _ | .mutate (.appendHotels _) _ _ | .claim _ | .renew _ => .isTrue trivial

instance (s : System ρ) (ev : Event ρ) : Decidable (StartsKeeping s ev) :=
  match ev with
  | .start _ _ operation => inferInstanceAs (Decidable operation.KeepsHotels)
  | .command _ _ _ | .script _ => .isTrue trivial

/-- Two calls append a hotel each; the second one has read before the first one writes. -/
def concurrentRun : List (Event Unit) :=
  [.start 1 sampleSearchId (appendHotelsToSearchSession [⟨some "lp1", "Roma"⟩] none),
    .start 2 sampleSearchId (appendHotelsToSearchSession [⟨some "lp2", "Como"⟩] none),
    .command 1 .answered 10, .command 2 .answered 11, .command 1 .answered 12,
    .command 2 .answered 13, .command 2 .answered 14, .command 2 .answered 15]

/-- The revision and the hotel ids of the sample session. -/
def sampleHotels (s : System Unit) : Option (Nat × List String) :=
  (Hash.hget s.store.sessions sampleSearchId).map fun v =>
    (v.value.revision, hotelIds v.value.session.hotels)

theorem no_lost_update_concurrent : ∃ s : System Unit,
    sampleHotels s = some (3, ["lp1", "lp2"]) ∧
    ∀ ev t, (system sampleSettings DistinctHotels).step s ev = some t → CommitsOnce s t := by
  have hrun : ((system sampleSettings DistinctHotels).exec StartsKeeping ⟨0, queuedStore, ∅, []⟩
      concurrentRun).map sampleHotels = some (some (3, ["lp1", "lp2"])) := by decide +kernel
  obtain ⟨s, hs, hhotels⟩ := Option.map_eq_some_iff.mp hrun
  have hinit : (system sampleSettings DistinctHotels).init ⟨0, queuedStore, ∅, []⟩ := by
    refine ⟨fun k v hv => ?_, rfl, rfl⟩
    simp only [queuedStore, commitWrite, Keyspace.setPx, Hash.hget_hset] at hv
    split at hv
    · cases hv
      exact List.nodup_nil
    · simp [StoreState.empty] at hv
  exact ⟨s, hhotels, (no_lost_update sampleSettings hinit (Machine.Steps.of_exec .refl hs)).1⟩

end SmartStay.Session
