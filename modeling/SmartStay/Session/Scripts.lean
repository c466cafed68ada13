import SmartStay.Lib.Lua
import SmartStay.Lib.Run
import SmartStay.Lib.SortedSet

/-!
# The scripts of the session store

`server/state/valkey/valkeySearchSessionStore.js` keeps the search sessions in volatile
keys with an expiry index, a size hash and a denormalised total of the sizes. This
module embeds its five Lua scripts.

1. The session, its envelope and the state of the store.
2. The reaping loop and the guards of the write script, one for each `if` of the source.
3. The scripts, and the machine of their executions.
4. `WritePasses`: when the write script writes, `sessionWrite_cases`.

Times are the milliseconds of one clock, which is also the clock of the key expiry.
-/

namespace SmartStay.Session

abbrev SearchId := String

/-! ## 1. State -/

/-- The values of `initialSearchStage`. -/
inductive InitialSearchStage
  | queued | running | retrying | complete | failed
deriving DecidableEq, Repr

/-- `["complete", "failed"].includes(stage)`. -/
def InitialSearchStage.isTerminal : InitialSearchStage → Bool
  | .complete | .failed => true
  | .queued | .running | .retrying => false

/-- The values of `status`. -/
inductive SearchStatus
  | queued | running | inProgress | completed | failed
deriving DecidableEq, Repr

/-- A hotel of a session: its id, `none` when it is missing or empty, and the rest of its
record. -/
structure Hotel where
  id : Option String
  details : String
deriving DecidableEq, Repr

/-- A search session. `rest` stands for the fields that neither the scripts nor the
functions of the store name. -/
structure SearchSession (ρ : Type) where
  searchId : SearchId
  createdAt : Nat
  updatedAt : Nat
  expiresAt : Nat
  hotels : List Hotel := []
  totalHotels : Option Nat := none
  status : SearchStatus := .inProgress
  searchIncomplete : Bool := true
  isContinuing : Bool := false
  continuationLock : Option String := none
  continuationLockExpiresAt : Option Nat := none
  continuationFencingNumber : JsonField Nat := .null
  lastError : Option String := none
  retryable : Bool := false
  retryAfterMs : Option Nat := none
  initialSearchStage : JsonField InitialSearchStage := .absent
  initialSearchExecutionToken : JsonField String := .absent
  initialSearchFencingNumber : JsonField Nat := .absent
  rest : ρ
deriving DecidableEq, Repr

/-- The JSON value of a session key. -/
structure Envelope (ρ : Type) where
  schemaVersion : Nat := 1
  revision : Nat
  session : SearchSession ρ
deriving DecidableEq, Repr

/-- The JSON value of a continuation lease key. -/
structure Lease where
  token : String
  fencingNumber : Nat
deriving DecidableEq, Repr

/-- The keys of the store: of one session its session, tombstone, lease and fence key
(`KEYS[1]`, `KEYS[2]`, `KEYS[6]`, `KEYS[7]`), of all sessions the expiry index, the size
hash and the total bytes (`KEYS[3]` to `KEYS[5]`). -/
structure StoreState (ρ : Type) where
  sessions : Keyspace SearchId (Envelope ρ)
  tombstones : Keyspace SearchId Unit
  expiry : SortedSet SearchId
  sizes : Hash SearchId Nat
  totalBytes : Nat
  leases : Keyspace SearchId Lease
  fences : Keyspace SearchId Nat
deriving DecidableEq

def StoreState.empty {ρ : Type} : StoreState ρ := ⟨∅, ∅, ∅, ∅, 0, ∅, ∅⟩

variable {ρ : Type}

/-! ## 2. Reaping and guards -/

/-- The loop over the expired members, with the local `total`. -/
def reapLoop : List SearchId → Nat × StoreState ρ → Nat × StoreState ρ
  | [], r => r
  | expiredKey :: rest, (total, st) =>
    let expiredBytes := (st.sizes.hget expiredKey).getD 0
    reapLoop rest
      (if expiredBytes > 0 then total - expiredBytes else total,
        { st with sizes := st.sizes.hdel expiredKey, sessions := st.sessions.del expiredKey })

/-- The first block of the write and stats scripts: the local `total` and the state after
the expired members are gone. The stored total is not written here. -/
def reap (st : StoreState ρ) (now : Nat) : Nat × StoreState ρ :=
  let r := reapLoop (st.expiry.zrangeByScore now) (st.totalBytes, st)
  (r.1, { r.2 with expiry := r.2.expiry.zremRangeByScore now })

inductive LockMode
  | unlocked | owned | initialClaim | initialOwned
deriving DecidableEq, Repr

inductive LeaseAction
  | keep | renew | delete
deriving DecidableEq, Repr

/-- The arguments of the write script. A time to live is positive, as `PX` demands. -/
structure WriteArgs (ρ : Type) where
  now : Nat
  sessionTtl : Nat
  tombstoneTtl : Nat
  serialized : Envelope ρ
  newBytes : Nat
  expectedRevision : Int
  maxCount : Nat
  aggregateBudget : Nat
  lockMode : LockMode
  lockToken : String
  fencingNumber : Nat
  leaseAction : LeaseAction
  leaseTtl : Nat
  initialExecutionToken : String
  initialFencingNumber : Nat
  sessionTtl_pos : 0 < sessionTtl
  tombstoneTtl_pos : 0 < tombstoneTtl
  leaseTtl_pos : 0 < leaseTtl

/-! The lifetimes that the store has by default can be written. -/

theorem defaultSessionTtl_pos : 0 < 1800000 := by decide

theorem defaultTombstoneTtl_pos : 0 < 3600000 := by decide

theorem defaultLeaseTtl_pos : 0 < 300000 := by decide

/-- The reply of the write script; `scriptError` is a Lua error. -/
inductive WriteOutcome
  | exists | tombstoned | capacity | missing | conflict (revision : Nat)
  | initialTerminal | staleInitialSearch | locked | staleLease | aggregateBudget
  | scriptError | ok (nextTotal : Nat)
deriving DecidableEq, Repr

section Guards
variable (nullText : String) (st : StoreState ρ) (searchId sessionKey : SearchId)
  (args : WriteArgs ρ)

/-- `decoded`: the envelope under `KEYS[1]`, `nil` when a new session is written. -/
def decoded : Option (Envelope ρ) :=
  if args.expectedRevision = -1 then none else st.sessions.get args.now searchId

/-- The guard on `expected_revision`. -/
def revisionGuard : Option WriteOutcome :=
  if args.expectedRevision = -1 then
    if (st.sessions.get args.now searchId).isSome then some .exists
    else if (st.tombstones.get args.now searchId).isSome then some .tombstoned
    else if args.maxCount ≤ st.sizes.hlen then some .capacity
    else none
  else
    match st.sessions.get args.now searchId with
    | none => some .missing
    | some envelope =>
      if (envelope.revision : Int) ≠ args.expectedRevision then some (.conflict envelope.revision)
      else none

/-- The guard of the lock mode `initial-claim`. -/
def initialClaimGuard : Option WriteOutcome :=
  if args.lockMode = .initialClaim then
    match decoded st searchId args with
    -- Indexing the nil `decoded` and comparing a number with nil are Lua errors.
    | none => some .scriptError
    | some envelope =>
      if envelope.session.initialSearchStage = .value .complete ∨
          envelope.session.initialSearchStage = .value .failed then some .initialTerminal
      else
        match envelope.session.initialSearchFencingNumber.tonumber with
        | none => some .scriptError
        | some currentFence =>
          if args.initialFencingNumber ≤ currentFence then some .staleInitialSearch else none
  else none

/-- The guard of the lock mode `initial-owned`. -/
def initialOwnedGuard : Option WriteOutcome :=
  if args.lockMode = .initialOwned then
    match decoded st searchId args with
    | none => some .scriptError
    | some envelope =>
      if envelope.session.initialSearchExecutionToken.tostring nullText ≠
            args.initialExecutionToken ∨
          envelope.session.initialSearchFencingNumber.tonumber ≠ some args.initialFencingNumber
        then some .staleInitialSearch
      else none
  else none

/-- The guard of the lock mode `unlocked`. -/
def unlockedGuard : Option WriteOutcome :=
  if args.lockMode = .unlocked ∧ (st.leases.get args.now searchId).isSome then some .locked
  else none

/-- The guard of the lock mode `owned`. -/
def ownedGuard : Option WriteOutcome :=
  if args.lockMode = .owned then
    match st.leases.get args.now searchId with
    | none => some .staleLease
    | some lease =>
      if lease.token ≠ args.lockToken ∨ lease.fencingNumber ≠ args.fencingNumber then
        some .staleLease
      else none
  else none

/-- `next_total`, from the local `total`. -/
def nextTotal (total : Nat) : Nat :=
  total - (st.sizes.hget sessionKey).getD 0 + args.newBytes

/-- The guard on the aggregate budget. -/
def budgetGuard (total : Nat) : Option WriteOutcome :=
  if args.aggregateBudget < nextTotal st sessionKey args total then some .aggregateBudget else none

/-- The early returns of the write script, in source order. -/
def writeGuards (total : Nat) : Option WriteOutcome :=
  revisionGuard st searchId args
    <|> initialClaimGuard st searchId args
    <|> initialOwnedGuard nullText st searchId args
    <|> unlockedGuard st searchId args
    <|> ownedGuard st searchId args
    <|> budgetGuard st sessionKey args total

/-- The writes after the last guard. -/
def commitWrite (total : Nat) : StoreState ρ :=
  { st with
    sessions := st.sessions.setPx args.now args.sessionTtl searchId args.serialized
    tombstones := st.tombstones.setPx args.now args.tombstoneTtl searchId ()
    expiry := st.expiry.zadd (args.now + args.sessionTtl) sessionKey
    sizes := st.sizes.hset sessionKey args.newBytes
    totalBytes := nextTotal st sessionKey args total
    leases :=
      match args.leaseAction with
      | .keep => st.leases
      | .renew => st.leases.pexpire args.now args.leaseTtl searchId
      | .delete => st.leases.del searchId }

end Guards

/-! ## 3. Scripts -/

/-- `SESSION_WRITE_SCRIPT`. -/
def sessionWrite (nullText : String) (st : StoreState ρ) (searchId sessionKey : SearchId)
    (args : WriteArgs ρ) : StoreState ρ × WriteOutcome :=
  let (total, st) := reap st args.now
  match writeGuards nullText st searchId sessionKey args total with
  | some outcome => (st, outcome)
  | none => (commitWrite st searchId sessionKey args total, .ok (nextTotal st sessionKey args total))

/-- The reply of `ACQUIRE_LEASE_SCRIPT`; `scriptError` is a Lua error. -/
inductive AcquireOutcome
  | missing | busy | scriptError | ok (fence : Nat)
deriving DecidableEq, Repr

/-- `ACQUIRE_LEASE_SCRIPT`. -/
def acquireLease (st : StoreState ρ) (searchId : SearchId) (now : Nat) (token : String)
    (leaseTtl fenceTtl : Nat) : StoreState ρ × AcquireOutcome :=
  match st.sessions.get now searchId with
  | none => (st, .missing)
  | some envelope =>
    if (st.leases.get now searchId).isSome then (st, .busy)
    else
      match envelope.session.continuationFencingNumber.tonumber with
      | none => (st, .scriptError)
      | some sessionFence =>
        let storedFence := (st.fences.get now searchId).getD 0
        let fence := (if sessionFence > storedFence then sessionFence else storedFence) + 1
        ({ st with
            leases := st.leases.setPx now leaseTtl searchId ⟨token, fence⟩
            fences := st.fences.setPx now fenceTtl searchId fence }, .ok fence)

/-- `RELEASE_LEASE_ONLY_SCRIPT`. -/
def releaseLeaseOnly (st : StoreState ρ) (searchId : SearchId) (now : Nat) (token : String)
    (fencingNumber : Nat) : StoreState ρ × Bool :=
  match st.leases.get now searchId with
  | none => (st, false)
  | some lease =>
    if lease.token ≠ token ∨ lease.fencingNumber ≠ fencingNumber then (st, false)
    else ({ st with leases := st.leases.del searchId }, true)

/-- `CLEAR_SESSION_SCRIPT`. -/
def clearSession (st : StoreState ρ) (searchId : SearchId) : StoreState ρ :=
  { sessions := st.sessions.del searchId
    tombstones := st.tombstones.del searchId
    expiry := st.expiry.zrem searchId
    sizes := st.sizes.hdel searchId
    totalBytes := st.totalBytes - (st.sizes.hget searchId).getD 0
    leases := st.leases.del searchId
    fences := st.fences.del searchId }

/-- `SESSION_STATS_SCRIPT`: the state, the number of sessions and the total bytes. -/
def sessionStats (st : StoreState ρ) (now : Nat) : StoreState ρ × Nat × Nat :=
  let (total, st) := reap st now
  ({ st with totalBytes := total }, st.sizes.hlen, total)

/-- One execution of a script. -/
inductive ScriptCall (ρ : Type)
  | write (searchId : SearchId) (args : WriteArgs ρ)
  | clear (searchId : SearchId)
  | stats (now : Nat)
  | acquire (searchId : SearchId) (now : Nat) (token : String) (leaseTtl fenceTtl : Nat)
  | release (searchId : SearchId) (now : Nat) (token : String) (fencingNumber : Nat)

/-- The state after a script. `writeEnvelope` passes the session key as `ARGV[4]`. -/
def ScriptCall.run (nullText : String) (st : StoreState ρ) : ScriptCall ρ → StoreState ρ
  | .write searchId args => (sessionWrite nullText st searchId searchId args).1
  | .clear searchId => clearSession st searchId
  | .stats now => (sessionStats st now).1
  | .acquire searchId now token leaseTtl fenceTtl =>
    (acquireLease st searchId now token leaseTtl fenceTtl).1
  | .release searchId now token fencingNumber =>
    (releaseLeaseOnly st searchId now token fencingNumber).1

/-- The time a script runs at, when it reads the clock. -/
def ScriptCall.now? : ScriptCall ρ → Option Nat
  | .write _ args => some args.now
  | .stats now | .acquire _ now _ _ _ | .release _ now _ _ => some now
  | .clear _ => none

/-- Any sequence of script executions from the empty store at times that never decrease.
The first component of a state is the time of the last timed script. -/
def sessionScripts (nullText : String) : Machine (Nat × StoreState ρ) (ScriptCall ρ) where
  init s := s = (0, .empty)
  step s call :=
    if s.1 ≤ call.now?.getD s.1 then some (call.now?.getD s.1, call.run nullText s.2) else none

/-! ## 4. What a write that passes relies on -/

/-- The conditions under which the write script reaches its writes. -/
structure WritePasses (nullText : String) (st : StoreState ρ) (searchId sessionKey : SearchId)
    (args : WriteArgs ρ) (total : Nat) : Prop where
  create : args.expectedRevision = -1 →
    st.sessions.get args.now searchId = none ∧ st.tombstones.get args.now searchId = none ∧
      st.sizes.hlen < args.maxCount
  update : args.expectedRevision ≠ -1 → ∃ envelope,
    st.sessions.get args.now searchId = some envelope ∧
      (envelope.revision : Int) = args.expectedRevision
  claim : args.lockMode = .initialClaim → ∃ envelope currentFence,
    decoded st searchId args = some envelope ∧
      envelope.session.initialSearchStage ≠ .value .complete ∧
      envelope.session.initialSearchStage ≠ .value .failed ∧
      envelope.session.initialSearchFencingNumber.tonumber = some currentFence ∧
      currentFence < args.initialFencingNumber
  initialOwned : args.lockMode = .initialOwned → ∃ envelope,
    decoded st searchId args = some envelope ∧
      envelope.session.initialSearchExecutionToken.tostring nullText =
        args.initialExecutionToken ∧
      envelope.session.initialSearchFencingNumber.tonumber = some args.initialFencingNumber
  unlocked : args.lockMode = .unlocked → st.leases.get args.now searchId = none
  owned : args.lockMode = .owned →
    st.leases.get args.now searchId = some ⟨args.lockToken, args.fencingNumber⟩
  budget : nextTotal st sessionKey args total ≤ args.aggregateBudget

section Passes
variable {nullText : String} {st : StoreState ρ} {searchId sessionKey : SearchId}
  {args : WriteArgs ρ} {total : Nat}

theorem revisionGuard_eq_none : revisionGuard st searchId args = none ↔
    (args.expectedRevision = -1 → st.sessions.get args.now searchId = none ∧
      st.tombstones.get args.now searchId = none ∧ st.sizes.hlen < args.maxCount) ∧
    (args.expectedRevision ≠ -1 → ∃ envelope, st.sessions.get args.now searchId = some envelope ∧
      (envelope.revision : Int) = args.expectedRevision) := by
  unfold revisionGuard
  by_cases hrev : args.expectedRevision = -1
  · cases st.sessions.get args.now searchId <;> cases st.tombstones.get args.now searchId <;>
      simp [hrev]
  · cases st.sessions.get args.now searchId <;> simp [hrev]

theorem initialClaimGuard_eq_none : initialClaimGuard st searchId args = none ↔
    (args.lockMode = .initialClaim → ∃ envelope currentFence,
      decoded st searchId args = some envelope ∧
        envelope.session.initialSearchStage ≠ .value .complete ∧
        envelope.session.initialSearchStage ≠ .value .failed ∧
        envelope.session.initialSearchFencingNumber.tonumber = some currentFence ∧
        currentFence < args.initialFencingNumber) := by
  unfold initialClaimGuard
  by_cases hmode : args.lockMode = .initialClaim
  · cases decoded st searchId args with
    | none => simp [hmode]
    | some envelope =>
      by_cases hcomplete : envelope.session.initialSearchStage = .value .complete
      · simp [hmode, hcomplete]
      by_cases hfailed : envelope.session.initialSearchStage = .value .failed
      · simp [hmode, hfailed]
      cases hfence : envelope.session.initialSearchFencingNumber.tonumber <;>
        simp [hmode, hcomplete, hfailed, hfence]
  · simp [hmode]

theorem initialOwnedGuard_eq_none : initialOwnedGuard nullText st searchId args = none ↔
    (args.lockMode = .initialOwned → ∃ envelope, decoded st searchId args = some envelope ∧
      envelope.session.initialSearchExecutionToken.tostring nullText =
        args.initialExecutionToken ∧
      envelope.session.initialSearchFencingNumber.tonumber = some args.initialFencingNumber) := by
  unfold initialOwnedGuard
  by_cases hmode : args.lockMode = .initialOwned
  · cases decoded st searchId args <;> simp [hmode]
  · simp [hmode]

theorem ownedGuard_eq_none : ownedGuard st searchId args = none ↔
    (args.lockMode = .owned →
      st.leases.get args.now searchId = some ⟨args.lockToken, args.fencingNumber⟩) := by
  unfold ownedGuard
  by_cases hmode : args.lockMode = .owned
  · cases hlease : st.leases.get args.now searchId with
    | none => simp [hmode]
    | some lease => obtain ⟨token, fence⟩ := lease; simp [hmode]
  · simp [hmode]

/-- The early returns are all avoided exactly when the write passes. -/
theorem writeGuards_eq_none : writeGuards nullText st searchId sessionKey args total = none ↔
    WritePasses nullText st searchId sessionKey args total := by
  have hunlocked : unlockedGuard st searchId args = none ↔
      (args.lockMode = .unlocked → st.leases.get args.now searchId = none) := by
    simp [unlockedGuard]
  have hbudget : budgetGuard st sessionKey args total = none ↔
      nextTotal st sessionKey args total ≤ args.aggregateBudget := by
    simp [budgetGuard]
  simp only [writeGuards, Option.orElse_eq_none, revisionGuard_eq_none, initialClaimGuard_eq_none,
    initialOwnedGuard_eq_none, ownedGuard_eq_none, hunlocked, hbudget]
  constructor
  · rintro ⟨⟨h₁, h₂⟩, h₃, h₄, h₅, h₆, h₇⟩
    exact ⟨h₁, h₂, h₃, h₄, h₅, h₆, h₇⟩
  · intro h
    exact ⟨⟨h.create, h.update⟩, h.claim, h.initialOwned, h.unlocked, h.owned, h.budget⟩

instance : Decidable (WritePasses nullText st searchId sessionKey args total) :=
  decidable_of_iff _ writeGuards_eq_none

/-- No early return replies `ok`. -/
theorem writeGuards_ne_ok (n : Nat) :
    writeGuards nullText st searchId sessionKey args total ≠ some (.ok n) := by
  have horElse : ∀ {a b : Option WriteOutcome}, a ≠ some (.ok n) → b ≠ some (.ok n) →
      (a <|> b) ≠ some (.ok n) := by
    intro a b ha hb
    cases a with
    | none => simpa using hb
    | some _ => simpa using ha
  refine horElse ?_ (horElse ?_ (horElse ?_ (horElse ?_ (horElse ?_ ?_))))
  · grind [revisionGuard]
  · grind [initialClaimGuard]
  · grind [initialOwnedGuard]
  · grind [unlockedGuard]
  · grind [ownedGuard]
  · grind [budgetGuard]

variable (nullText searchId sessionKey) in
/-- A write either passes and commits, or is refused and leaves what the reaping left. -/
theorem sessionWrite_cases (st : StoreState ρ) (args : WriteArgs ρ) :
    (WritePasses nullText (reap st args.now).2 searchId sessionKey args (reap st args.now).1 ∧
      sessionWrite nullText st searchId sessionKey args =
        (commitWrite (reap st args.now).2 searchId sessionKey args (reap st args.now).1,
          .ok (nextTotal (reap st args.now).2 sessionKey args (reap st args.now).1))) ∨
    (¬ WritePasses nullText (reap st args.now).2 searchId sessionKey args (reap st args.now).1 ∧
      ∃ outcome, sessionWrite nullText st searchId sessionKey args =
        ((reap st args.now).2, outcome) ∧ ∀ n, outcome ≠ .ok n) := by
  rw [← writeGuards_eq_none]
  unfold sessionWrite
  cases hguard : writeGuards nullText (reap st args.now).2 searchId sessionKey args
      (reap st args.now).1 with
  | none => exact .inl ⟨rfl, by simp only [hguard]⟩
  | some outcome =>
    refine .inr ⟨by simp, outcome, by simp only [hguard], ?_⟩
    rintro n rfl
    exact writeGuards_ne_ok n hguard

theorem sessionWrite_refused {st : StoreState ρ} {args : WriteArgs ρ} {outcome : WriteOutcome}
    (h : writeGuards nullText (reap st args.now).2 searchId sessionKey args
      (reap st args.now).1 = some outcome) :
    sessionWrite nullText st searchId sessionKey args = ((reap st args.now).2, outcome) := by
  unfold sessionWrite
  simp only [h]

theorem sessionWrite_committed {st : StoreState ρ} {args : WriteArgs ρ}
    (h : writeGuards nullText (reap st args.now).2 searchId sessionKey args
      (reap st args.now).1 = none) :
    sessionWrite nullText st searchId sessionKey args =
      (commitWrite (reap st args.now).2 searchId sessionKey args (reap st args.now).1,
        .ok (nextTotal (reap st args.now).2 sessionKey args (reap st args.now).1)) := by
  unfold sessionWrite
  simp only [h]

end Passes

end SmartStay.Session
