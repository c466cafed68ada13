import SmartStay.Lib.JsFloat
import SmartStay.Session.Sequential
import Mathlib.Data.Nat.Log

/-!
# The first lease on a saved session

`saveSearchSession` of `server/state/valkey/valkeySearchSessionStore.js` fills the
`continuationFencingNumber` of a session with a number or with `null`, and
`ACQUIRE_LEASE_SCRIPT` counts from it. This module reads both on integers, since a caller may
save a negative number, and with the text in which the script returns its number.

1. `savedFence`, `luaNumber`, `acquireLease`; `acquireLease_eq`: the naturals of `Scripts`.
2. The runs of a store that saves, writes, clears and leases sessions.
3. `Grown`, `grown`: the numbers handed out only grow, where `Kept` holds.
4. `fresh_session_continues`: which saved sessions can be continued; `queued_session_stuck`: one
   that cannot.
-/

namespace SmartStay.Session.FreshLease

variable {ρ : Type}

/-! ## 1. Saving and acquiring -/

/-- What the script reads of a session; `rest` stands for its other fields. -/
structure Record (ρ : Type) where
  continuationFencingNumber : JsonField Int
  rest : ρ

/-- The object that is saved: the number that its `continuationFencingNumber` converts to, `NaN`
for an absent one, and the rest. -/
structure SavedInput (ρ : Type) where
  fencingNumber : JsFloat
  rest : ρ

/-- `Number.isSafeInteger(value)`. -/
def isSafeInteger : JsFloat → Bool
  | .finite x => x.den = 1 && |x.num| ≤ maxSafeInteger
  | _ => false

/-- The `continuationFencingNumber` of `buildSavedSession`. -/
def savedFence (number : JsFloat) : JsonField Int :=
  match number with
  | .finite x => if isSafeInteger number then .value x.num else .null
  | _ => .null

def buildSavedRecord (input : SavedInput ρ) : Record ρ where
  continuationFencingNumber := savedFence input.fencingNumber
  rest := input.rest

/-- `tonumber(envelope.session.continuationFencingNumber or '0')`. -/
def fenceNumber : JsonField Int → Option Int
  | .value n => some n
  | .absent => some 0
  | .null => none

theorem fenceNumber_savedFence {number : JsFloat} :
    (∃ n, fenceNumber (savedFence number) = some n) ↔ isSafeInteger number = true := by
  cases number with
  | finite x =>
    unfold savedFence
    by_cases hsafe : isSafeInteger (.finite x) = true <;> simp [hsafe, fenceNumber]
  | _ => simp [savedFence, fenceNumber, isSafeInteger]

/-- The number that JavaScript reads in `tostring(n)`, which Lua writes with fourteen digits. -/
def luaNumber (n : Int) : Int :=
  let unit := 10 ^ (Nat.log 10 n.natAbs - 13)
  let digits := n.natAbs / unit
  let remainder := n.natAbs % unit
  let rounded :=
    if 2 * remainder < unit || (2 * remainder = unit && digits % 2 = 0) then digits else digits + 1
  n.sign * (rounded * unit : Nat)

/-- A number of at most fourteen digits is read as it is. -/
theorem luaNumber_eq {n : Int} (hpos : 0 ≤ n) (hsmall : n < 10 ^ 14) : luaNumber n = n := by
  have habs : (n.natAbs : Int) = n := Int.natAbs_of_nonneg hpos
  have hlog : Nat.log 10 n.natAbs - 13 = 0 := by
    have hlt : n.natAbs < 10 ^ 14 := by omega
    have := Nat.log_lt_of_lt_pow' (b := 10) (by decide : 14 ≠ 0) hlt
    omega
  unfold luaNumber
  rw [hlog]
  simp only [pow_zero, Nat.mod_one, Nat.div_one, mul_zero, zero_lt_one, decide_true, Bool.true_or,
    if_true, mul_one]
  exact Int.sign_mul_natAbs n

/-- The number that `SET` and `INCR` leave under the fence key. -/
def nextFence (sessionFence storedFence : Int) : Int :=
  (if sessionFence > storedFence then sessionFence else storedFence) + 1

theorem nextFence_natCast (sessionFence storedFence : Nat) :
    nextFence sessionFence storedFence =
      ((if sessionFence > storedFence then sessionFence else storedFence) + 1 : Nat) := by
  unfold nextFence
  split <;> split <;> omega

theorem nextFence_gt (sessionFence storedFence : Int) :
    sessionFence < nextFence sessionFence storedFence ∧
      storedFence < nextFence sessionFence storedFence := by
  unfold nextFence
  split <;> omega

/-- The keys of sessions, leases and fences. -/
structure LeaseStore (ρ : Type) where
  sessions : Keyspace SearchId (Record ρ) := ∅
  leases : Keyspace SearchId (String × Int) := ∅
  fences : Keyspace SearchId Int := ∅

inductive AcquireReply
  | missing | busy | scriptError | ok (fencingNumber : Int)
deriving DecidableEq

/-- `ACQUIRE_LEASE_SCRIPT`; `reads` tells which records `cjson` decodes. -/
def acquireLease (reads : ρ → Bool) (st : LeaseStore ρ) (searchId : SearchId) (now : Nat)
    (token : String) (leaseTtl fenceTtl : Nat) : LeaseStore ρ × AcquireReply :=
  match st.sessions.get now searchId with
  | none => (st, .missing)
  | some record =>
    if (st.leases.get now searchId).isSome then (st, .busy)
    else if !reads record.rest then (st, .scriptError)
    else
      match fenceNumber record.continuationFencingNumber with
      | none => (st, .scriptError)
      | some sessionFence =>
        let fence := nextFence sessionFence ((st.fences.get now searchId).getD 0)
        ({ st with
            leases := st.leases.setPx now leaseTtl searchId (token, luaNumber fence)
            fences := st.fences.setPx now fenceTtl searchId fence }, .ok (luaNumber fence))

/-- The reply of `Session.acquireLease` as one of this module. -/
def replyOf : AcquireOutcome → AcquireReply
  | .missing => .missing
  | .busy => .busy
  | .scriptError => .scriptError
  | .ok fence => .ok fence

/-- A field that holds a natural number. -/
def intField : JsonField Nat → JsonField Int
  | .value n => .value n
  | .null => .null
  | .absent => .absent

theorem fenceNumber_intField (field : JsonField Nat) :
    fenceNumber (intField field) = field.tonumber.map Int.ofNat := by
  cases field <;> rfl

/-- On natural numbers of at most fourteen digits the script is the one of `Scripts`. -/
theorem acquireLease_eq {σ : Type} {shared : StoreState σ} {st : LeaseStore ρ} {reads : ρ → Bool}
    {searchId : SearchId} {now : Nat} (token : String) (leaseTtl fenceTtl : Nat)
    (hsession : (st.sessions.get now searchId).map (·.continuationFencingNumber) =
      (shared.sessions.get now searchId).map fun e => intField e.session.continuationFencingNumber)
    (hreads : ∀ record, st.sessions.get now searchId = some record → reads record.rest = true)
    (hlease : (st.leases.get now searchId).isSome = (shared.leases.get now searchId).isSome)
    (hfence : st.fences.get now searchId = (shared.fences.get now searchId).map Int.ofNat)
    (hsmall : ∀ fence, (Session.acquireLease shared searchId now token leaseTtl fenceTtl).2 =
      .ok fence → fence < 10 ^ 14) :
    (acquireLease reads st searchId now token leaseTtl fenceTtl).2 =
      replyOf (Session.acquireLease shared searchId now token leaseTtl fenceTtl).2 := by
  unfold acquireLease
  unfold Session.acquireLease at hsmall ⊢
  cases hshared : shared.sessions.get now searchId with
  | none =>
    rw [hshared, Option.map_none, Option.map_eq_none_iff] at hsession
    rw [hsession]
    rfl
  | some envelope =>
    rw [hshared, Option.map_some, Option.map_eq_some_iff] at hsession
    obtain ⟨record, hrecord, hfield⟩ := hsession
    simp only [hshared] at hsmall ⊢
    simp only [hrecord, hlease, hreads record hrecord, hfield]
    by_cases hbusy : (shared.leases.get now searchId).isSome = true
    · simp [hbusy, replyOf]
    · simp only [hbusy, if_false, Bool.false_eq_true] at hsmall ⊢
      rw [fenceNumber_intField]
      cases hnumber : envelope.session.continuationFencingNumber.tonumber with
      | none => rfl
      | some sessionFence =>
        have hstored : (st.fences.get now searchId).getD 0 =
            ((shared.fences.get now searchId).getD 0 : Nat) := by
          rw [hfence]
          cases shared.fences.get now searchId <;> rfl
        simp only [hnumber, AcquireOutcome.ok.injEq, forall_eq'] at hsmall
        obtain ⟨fence, hfence⟩ : ∃ fence, (if sessionFence > (shared.fences.get now searchId).getD 0
            then sessionFence else (shared.fences.get now searchId).getD 0) + 1 = fence := ⟨_, rfl⟩
        have hnext := nextFence_natCast sessionFence ((shared.fences.get now searchId).getD 0)
        rw [hfence] at hsmall hnext
        have hread : luaNumber fence = fence := luaNumber_eq (by omega) (by omega)
        simp [hstored, hnext, hread, hfence, replyOf]

/-! ## 2. Runs -/

/-- The store and, for every session, the numbers handed out for it, the latest first. -/
structure System (ρ : Type) where
  store : LeaseStore ρ := {}
  granted : SearchId → List Int := fun _ => []

/-- The scripts that change the three keys: a save, any other write of a session, the end and the
    renewal of a lease, a clear, and an acquisition. -/
inductive Event (ρ : Type)
  | save (searchId : SearchId) (now sessionTtl : Nat) (input : SavedInput ρ)
  | write (searchId : SearchId) (now sessionTtl : Nat) (record : Record ρ)
  | unlease (searchId : SearchId)
  | renew (searchId : SearchId) (now leaseTtl : Nat)
  | clear (searchId : SearchId)
  | acquire (searchId : SearchId) (now : Nat) (token : String) (leaseTtl fenceTtl : Nat)

def LeaseStore.save (st : LeaseStore ρ) (searchId : SearchId) (now sessionTtl : Nat)
    (record : Record ρ) : LeaseStore ρ :=
  { st with sessions := st.sessions.setPx now sessionTtl searchId record }

/-- `CLEAR_SESSION_SCRIPT`. -/
def LeaseStore.clear (st : LeaseStore ρ) (searchId : SearchId) : LeaseStore ρ where
  sessions := st.sessions.del searchId
  leases := st.leases.del searchId
  fences := st.fences.del searchId

/-- A granted number is put before the earlier ones. -/
def grantedAfter (granted : SearchId → List Int) (searchId : SearchId) :
    AcquireReply → SearchId → List Int
  | .ok fence => Function.update granted searchId (fence :: granted searchId)
  | _ => granted

def System.acquire (reads : ρ → Bool) (s : System ρ) (searchId : SearchId) (now : Nat)
    (token : String) (leaseTtl fenceTtl : Nat) : System ρ :=
  let r := acquireLease reads s.store searchId now token leaseTtl fenceTtl
  { store := r.1, granted := grantedAfter s.granted searchId r.2 }

def step (reads : ρ → Bool) (s : System ρ) : Event ρ → System ρ
  | .save searchId now sessionTtl input =>
    { s with store := s.store.save searchId now sessionTtl (buildSavedRecord input) }
  | .write searchId now sessionTtl record =>
    { s with store := s.store.save searchId now sessionTtl record }
  | .unlease searchId =>
    { s with store := { s.store with leases := s.store.leases.del searchId } }
  | .renew searchId now leaseTtl =>
    { s with store := { s.store with leases := s.store.leases.pexpire now leaseTtl searchId } }
  | .clear searchId => { s with store := s.store.clear searchId }
  | .acquire searchId now token leaseTtl fenceTtl =>
    s.acquire reads searchId now token leaseTtl fenceTtl

def machine (reads : ρ → Bool) : Machine (System ρ) (Event ρ) where
  init s := s = {}
  step s event := some (step reads s event)

/-! ## 3. Numbers that grow -/

/-- What an acquisition finds. The fence key is there, or the session is not behind the last
    number handed out for it; and the numbers to count from have at most fourteen digits, as many
    as Lua writes. -/
structure FenceKept (s : System ρ) (searchId : SearchId) (now : Nat) : Prop where
  kept : ∀ last earlier, s.granted searchId = last :: earlier →
    (s.store.fences.get now searchId).isSome = true ∨ ∃ record n,
      s.store.sessions.get now searchId = some record ∧
        record.continuationFencingNumber = .value n ∧ last ≤ n
  smallFence : ∀ fence, s.store.fences.get now searchId = some fence → fence + 1 < 10 ^ 14
  smallSession : ∀ record n, s.store.sessions.get now searchId = some record →
    record.continuationFencingNumber = .value n → n + 1 < 10 ^ 14

/-- The condition on a run: its acquisitions find their fence. -/
def Kept (s : System ρ) : Event ρ → Prop
  | .acquire searchId now _ _ _ => FenceKept s searchId now
  | _ => True

/-- The last number handed out is the largest, and none is above the fence key. -/
structure Grown (s : System ρ) (searchId : SearchId) : Prop where
  latest : ∀ last earlier, s.granted searchId = last :: earlier →
    ∀ g ∈ s.granted searchId, g ≤ last
  stored : ∀ fence expiresAt, s.store.fences.hget searchId = some ⟨fence, expiresAt⟩ →
    0 < fence ∧ ∀ g ∈ s.granted searchId, g ≤ fence
  positive : ∀ g ∈ s.granted searchId, 0 < g

/-- What the script can do: nothing, or a grant. -/
theorem acquireLease_cases (reads : ρ → Bool) (st : LeaseStore ρ) (searchId : SearchId) (now : Nat)
    (token : String) (leaseTtl fenceTtl : Nat) :
    ((∀ fence, (acquireLease reads st searchId now token leaseTtl fenceTtl).2 ≠ .ok fence) ∧
      (acquireLease reads st searchId now token leaseTtl fenceTtl).1 = st) ∨
    ∃ record n fence, st.sessions.get now searchId = some record ∧
      reads record.rest = true ∧ fenceNumber record.continuationFencingNumber = some n ∧
      fence = nextFence n ((st.fences.get now searchId).getD 0) ∧
      acquireLease reads st searchId now token leaseTtl fenceTtl =
        ({ st with
            leases := st.leases.setPx now leaseTtl searchId (token, luaNumber fence)
            fences := st.fences.setPx now fenceTtl searchId fence }, .ok (luaNumber fence)) := by
  unfold acquireLease
  cases hrecord : st.sessions.get now searchId with
  | none => exact .inl ⟨nofun, rfl⟩
  | some record =>
    by_cases hbusy : (st.leases.get now searchId).isSome = true
    · simp [hbusy]
    · cases hreads : reads record.rest with
      | false => simp [hbusy, hreads]
      | true =>
        cases hn : fenceNumber record.continuationFencingNumber with
        | none => simp [hbusy, hreads, hn]
        | some n =>
          refine .inr ⟨record, n, _, rfl, hreads, hn, rfl, ?_⟩
          simp [hbusy, hreads, hn]

/-- The next number is above the earlier ones and is read as it is. -/
theorem Grown.next {s : System ρ} {searchId : SearchId} {now : Nat} (hgrown : Grown s searchId)
    (hkept : FenceKept s searchId now) {record : Record ρ} {n : Int}
    (hrecord : s.store.sessions.get now searchId = some record)
    (hn : fenceNumber record.continuationFencingNumber = some n) :
    let fence := nextFence n ((s.store.fences.get now searchId).getD 0)
    0 < fence ∧ (∀ g ∈ s.granted searchId, g < fence) ∧ luaNumber fence = fence := by
  intro fence
  obtain ⟨hsession, hstored⟩ :=
    nextFence_gt n ((s.store.fences.get now searchId).getD 0)
  have hlive : ∀ v, s.store.fences.get now searchId = some v →
      0 < v ∧ ∀ g ∈ s.granted searchId, g ≤ v := by
    intro v hv
    obtain ⟨expiresAt, hget, -⟩ := Keyspace.get_eq_some.mp hv
    exact hgrown.stored v expiresAt hget
  have hpos : 0 < fence := by
    cases hfence : s.store.fences.get now searchId with
    | none =>
      rw [hfence] at hstored
      simpa [fence, hfence] using hstored
    | some v =>
      have hv := (hlive v hfence).1
      rw [hfence] at hstored
      have hlt : v < fence := by simpa [fence, hfence] using hstored
      omega
  have hsmall : fence < 10 ^ 14 := by
    have hsessionSmall : n + 1 < 10 ^ 14 := by
      cases hfield : record.continuationFencingNumber with
      | value m =>
        have hm : m = n := by simpa [hfield, fenceNumber] using hn
        exact hm ▸ hkept.smallSession record m hrecord hfield
      | absent =>
        rw [hfield] at hn
        cases hn
        decide
      | null =>
        rw [hfield] at hn
        cases hn
    have hstoredSmall : (s.store.fences.get now searchId).getD 0 + 1 < 10 ^ 14 := by
      cases hfence : s.store.fences.get now searchId with
      | none => decide
      | some v => exact hkept.smallFence v hfence
    show nextFence n ((s.store.fences.get now searchId).getD 0) < 10 ^ 14
    unfold nextFence
    split <;> assumption
  refine ⟨hpos, fun g hg => ?_, luaNumber_eq hpos.le hsmall⟩
  cases hgranted : s.granted searchId with
  | nil => simp [hgranted] at hg
  | cons last earlier =>
    have hlast := hgrown.latest last earlier hgranted g hg
    rcases hkept.kept last earlier hgranted with hsome | ⟨record', m, hrecord', hfield, hle⟩
    · obtain ⟨v, hv⟩ := Option.isSome_iff_exists.mp hsome
      have hgv := (hlive v hv).2 g hg
      rw [hv] at hstored
      exact Int.lt_of_le_of_lt hgv (by simpa [fence, hv] using hstored)
    · rw [hrecord] at hrecord'
      cases hrecord'
      rw [hfield] at hn
      cases hn
      exact Int.lt_of_le_of_lt (hlast.trans hle) hsession

/-- A step that leaves the fence key and the numbers alone. -/
theorem Grown.frame {s t : System ρ} {searchId : SearchId} (h : Grown s searchId)
    (hfences : t.store.fences.hget searchId = s.store.fences.hget searchId)
    (hgranted : t.granted searchId = s.granted searchId) : Grown t searchId where
  latest := hgranted ▸ h.latest
  stored := hgranted ▸ hfences ▸ h.stored
  positive := hgranted ▸ h.positive

theorem Grown.acquire {reads : ρ → Bool} {s : System ρ} {searchId : SearchId} {now : Nat}
    {token : String} {leaseTtl fenceTtl : Nat} (hgrown : ∀ k, Grown s k)
    (hkept : FenceKept s searchId now) (k : SearchId) :
    Grown (s.acquire reads searchId now token leaseTtl fenceTtl) k := by
  unfold System.acquire
  rcases acquireLease_cases reads s.store searchId now token leaseTtl fenceTtl with
    ⟨hno, hsame⟩ | ⟨record, n, fence, hrecord, -, hn, hfence, hok⟩
  · refine (hgrown k).frame (by simp only [hsame]) ?_
    cases hreply : (acquireLease reads s.store searchId now token leaseTtl fenceTtl).2 with
    | ok fence => exact absurd hreply (hno fence)
    | _ => simp only [hreply, grantedAfter]
  · obtain ⟨hpos, hlarger, hread⟩ := (hgrown searchId).next hkept hrecord hn
    rw [← hfence] at hpos hlarger hread
    simp only [hok, grantedAfter, hread]
    by_cases hk : k = searchId
    · subst hk
      have hall : ∀ g ∈ fence :: s.granted k, g ≤ fence := by
        rintro g (_ | ⟨_, hg⟩)
        · exact le_rfl
        · exact (hlarger g hg).le
      constructor
      · intro last earlier heq
        simp only [Function.update_self, List.cons.injEq] at heq ⊢
        obtain ⟨rfl, rfl⟩ := heq
        exact hall
      · intro v expiresAt hget
        simp only [Keyspace.setPx, Hash.hget_hset_self, Option.some.injEq, Volatile.mk.injEq] at hget
        obtain ⟨rfl, -⟩ := hget
        simp only [Function.update_self]
        exact ⟨hpos, hall⟩
      · simp only [Function.update_self]
        rintro g (_ | ⟨_, hg⟩)
        · exact hpos
        · exact (hgrown k).positive g hg
    · refine (hgrown k).frame ?_ (Function.update_of_ne hk _ _)
      simp only [Keyspace.setPx, Hash.hget_hset, if_neg hk]

theorem Grown.step {reads : ρ → Bool} {s : System ρ} (event : Event ρ)
    (hgrown : ∀ k, Grown s k) (hkept : Kept s event) (k : SearchId) :
    Grown (step reads s event) k := by
  cases event with
  | save searchId now sessionTtl input => exact (hgrown k).frame rfl rfl
  | write searchId now sessionTtl record => exact (hgrown k).frame rfl rfl
  | unlease searchId => exact (hgrown k).frame rfl rfl
  | renew searchId now leaseTtl => exact (hgrown k).frame rfl rfl
  | clear searchId =>
    refine ⟨(hgrown k).latest, fun fence expiresAt hget => ?_, (hgrown k).positive⟩
    simp only [FreshLease.step, LeaseStore.clear, Keyspace.del, Hash.hget_hdel] at hget
    split at hget
    · cases hget
    · exact (hgrown k).stored fence expiresAt hget
  | acquire searchId now token leaseTtl fenceTtl => exact Grown.acquire hgrown hkept k

theorem grown {reads : ρ → Bool} {s : System ρ} (h : (machine reads).Reach Kept s) :
    ∀ k, Grown s k := by
  refine h.invariant (P := fun s => ∀ k, Grown s k) ?_ ?_
  · rintro _ rfl k
    exact ⟨nofun, fun _ _ hget => by simp at hget, nofun⟩
  · rintro s event t hgrown hkept ⟨⟩
    exact Grown.step event hgrown hkept

/-! ## 4. Continuing a saved session -/

/-- The script grants a positive number above every earlier one of the session. -/
def Continues (reads : ρ → Bool) (s : System ρ) (searchId : SearchId) (now : Nat) (token : String)
    (leaseTtl fenceTtl : Nat) : Prop :=
  ∃ fence, (acquireLease reads s.store searchId now token leaseTtl fenceTtl).2 = .ok fence ∧
    0 < fence ∧ ∀ g ∈ s.granted searchId, g < fence

/-- In a run whose acquisitions find their fence, a saved session that is free and live can be
    continued exactly when it was saved with a number and `cjson` reads the rest of it. -/
theorem fresh_session_continues {reads : ρ → Bool} {s : System ρ}
    (hreach : (machine reads).Reach Kept s) {searchId : SearchId} {now : Nat}
    {input : SavedInput ρ}
    (hsaved : s.store.sessions.get now searchId = some (buildSavedRecord input))
    (hfree : s.store.leases.get now searchId = none) (hkept : FenceKept s searchId now)
    (token : String) (leaseTtl fenceTtl : Nat) :
    Continues reads s searchId now token leaseTtl fenceTtl ↔
      isSafeInteger input.fencingNumber = true ∧ reads input.rest = true := by
  rw [← fenceNumber_savedFence]
  constructor
  · rintro ⟨fence, hok, -⟩
    rcases acquireLease_cases reads s.store searchId now token leaseTtl fenceTtl with
      ⟨hno, -⟩ | ⟨record, n, _, hrecord, hreads, hn, -⟩
    · exact absurd hok (hno fence)
    · rw [hsaved] at hrecord
      cases hrecord
      exact ⟨⟨n, hn⟩, hreads⟩
  · rintro ⟨⟨n, hn⟩, hreads⟩
    obtain ⟨hpos, hlarger, hread⟩ := (grown hreach searchId).next hkept hsaved hn
    refine ⟨_, ?_, hpos, hlarger⟩
    have hrest : reads (buildSavedRecord input).rest = true := hreads
    have hnumber : fenceNumber (buildSavedRecord input).continuationFencingNumber = some n := hn
    simp [acquireLease, hsaved, hfree, hrest, hnumber, hread]

/-- A store in which one session was saved. -/
def savedOnce (number : JsFloat) : System Unit :=
  step (fun _ => true) {} (.save "search" 0 1800000 ⟨number, ()⟩)

theorem savedOnce_reach (number : JsFloat) :
    (machine fun _ : Unit => true).Reach Kept (savedOnce number) :=
  (Machine.Reach.init rfl).step (i := .save "search" 0 1800000 ⟨number, ()⟩) trivial rfl

/-- A queued search is saved without a number. -/
theorem queued_session_stuck : (machine fun _ : Unit => true).Reach Kept (savedOnce .nan) ∧
    (savedOnce .nan).store.sessions.get 1 "search" = some (buildSavedRecord ⟨.nan, ()⟩) ∧
    (savedOnce .nan).store.leases.get 1 "search" = none ∧
    (acquireLease (fun _ => true) (savedOnce .nan).store "search" 1 "token" 300000 3600000).2 =
      .scriptError ∧
    ¬ Continues (fun _ => true) (savedOnce .nan) "search" 1 "token" 300000 3600000 := by
  refine ⟨savedOnce_reach .nan, rfl, rfl, rfl, ?_⟩
  rintro ⟨fence, hok, -⟩
  cases hok

/-- A session that was saved with the number seven can be continued. -/
theorem fresh_session_continues_numbered :
    Continues (fun _ => true) (savedOnce (.finite 7)) "search" 1 "token" 300000 3600000 := by
  have hsaved : (savedOnce (.finite 7)).store.sessions.get 1 "search" =
      some (buildSavedRecord ⟨.finite 7, ()⟩) := rfl
  refine (fresh_session_continues (savedOnce_reach _) hsaved rfl ⟨nofun, nofun, ?_⟩ "token" 300000
    3600000).mpr ⟨rfl, rfl⟩
  intro record n hrecord hn
  rw [hsaved] at hrecord
  cases hrecord
  cases hn
  decide

end SmartStay.Session.FreshLease
