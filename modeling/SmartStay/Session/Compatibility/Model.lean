import SmartStay.Session.Sequential

/-!
# The two session stores side by side

The store in memory and the shared store are given the same operations at the same times, one
after the other. Both draw ids and tokens of their own; an argument that one store gave out
is replaced by what the other gave out in its place.

1. Operations, the pair of the stores and its machine.
2. When two arguments are the same, and when two replies are alike.
3. `Agreeable`: the operations on which the stores agree.
-/

namespace SmartStay.Session.Compatibility

open InMemory Shared

variable {ρ : Type}

/-! ## 1. Operations -/

/-- A search id as the caller gives it to the store in memory and to the shared store. -/
structure Ids where
  memory : SearchId
  shared : SearchId
deriving DecidableEq, Repr

/-- A fencing number as the caller gives it to the two stores. -/
structure Fences (α : Type) where
  memory : α
  shared : α
deriving DecidableEq, Repr

/-- An operation with the arguments for both stores. `fresh` and the `lockToken` of
`tryAcquire` are drawn by the stores; both draw the same lock token. -/
inductive StoreOp (ρ : Type)
  | save (input : SessionInput ρ) (ids fresh : Ids)
  | update (ids : Ids) (updates : SessionUpdates ρ) (lockToken : String) (fences : Fences Int)
      (execution : Option InitialSearchExecution)
  | append (ids : Ids) (hotels : List Hotel) (lockToken : String) (fences : Fences Int)
      (execution : Option InitialSearchExecution)
  | claim (ids : Ids) (execution : Option InitialSearchExecution)
  | updateInitial (ids : Ids) (updates : SessionUpdates ρ)
      (execution : Option InitialSearchExecution)
  | tryAcquire (ids : Ids) (lockToken : String)
  | renew (ids : Ids) (lockToken : String) (fences : Fences (Option Int))
  | release (ids : Ids) (lockToken : String) (updates : SessionUpdates ρ)
      (fences : Fences (Option Int))
  | get (ids : Ids)

/-- Both stores. Two ghosts: the ids under which they keep the same sessions, and the two
fencing numbers that were given out with each lock token. -/
structure Pair (ρ : Type) where
  clock : Nat := 0
  memory : Memory ρ := {}
  shared : StoreState ρ := .empty
  names : List Ids := []
  grants : Hash String (Fences Nat) := ∅

/-- The settings of both stores. -/
structure PairSettings (ρ : Type) extends StoreSettings ρ where
  processGeneration : String
  sessionTtl_same : sessionTtlMs = searchSessionTtlMs
  leaseTtl_same : continuationLeaseTtlMs = continuationLockTtlMs

variable (cfg : PairSettings ρ)

namespace Pair

/-- The operation on the store in memory. -/
def memoryReply (s : Pair ρ) (now : Nat) : StoreOp ρ → Memory ρ × Except StoreError (Reply ρ)
  | .save input ids fresh =>
    s.memory.saveSearchSession { input with searchId := ids.memory } fresh.memory now
  | .update ids updates lockToken fences _ =>
    s.memory.updateSearchSession ids.memory updates (getLeaseContext lockToken fences.memory) now
  | .append ids hotels lockToken fences _ =>
    s.memory.appendHotelsToSearchSession ids.memory hotels
      (getLeaseContext lockToken fences.memory) now
  | .claim ids execution =>
    s.memory.claimInitialSearchExecution cfg.processGeneration ids.memory execution now
  | .updateInitial ids updates execution =>
    s.memory.updateInitialSearchExecution cfg.processGeneration ids.memory updates execution now
  | .tryAcquire ids lockToken =>
    s.memory.tryAcquireSearchContinuation cfg.processGeneration ids.memory lockToken now
  | .renew ids lockToken fences =>
    s.memory.renewSearchContinuation ids.memory lockToken fences.memory now
  | .release ids lockToken updates fences =>
    s.memory.releaseSearchContinuation ids.memory lockToken updates fences.memory now
  | .get ids => s.memory.getSearchSession ids.memory now

/-- The operation on the shared store. -/
def sharedReply (s : Pair ρ) (now : Nat) : StoreOp ρ → StoreState ρ × Except StoreError (Reply ρ)
  | .save input ids fresh =>
    saveSearchSession cfg.toStoreSettings s.shared { input with searchId := ids.shared }
      [fresh.shared] now
  | .update ids updates lockToken fences execution =>
    mutateSession cfg.toStoreSettings s.shared ids.shared (.assign updates)
      (getLeaseContext lockToken fences.shared) execution now
  | .append ids hotels lockToken fences execution =>
    mutateSession cfg.toStoreSettings s.shared ids.shared (.appendHotels hotels)
      (getLeaseContext lockToken fences.shared) execution now
  | .claim ids execution =>
    Shared.claimInitialSearchExecution cfg.toStoreSettings s.shared ids.shared execution now
  | .updateInitial ids updates execution =>
    Shared.updateInitialSearchExecution cfg.toStoreSettings s.shared ids.shared updates execution now
  | .tryAcquire ids lockToken =>
    Shared.tryAcquireSearchContinuation cfg.toStoreSettings s.shared ids.shared lockToken now
  | .renew ids lockToken fences =>
    Shared.renewSearchContinuation cfg.toStoreSettings s.shared ids.shared lockToken fences.shared now
  | .release ids lockToken updates fences =>
    Shared.releaseSearchContinuation cfg.toStoreSettings s.shared ids.shared lockToken updates
      fences.shared now
  | .get ids => Shared.getSearchSession s.shared ids.shared now

end Pair

/-- The ids of a saved session: the given ones, or the drawn ones. -/
def savedIds (ids fresh : Ids) : Ids := if ids.memory = "" then fresh else ids

/-- The names after an operation. -/
def namesAfter (names : List Ids) : StoreOp ρ → Except StoreError (Reply ρ) → List Ids
  | .save _ ids fresh, .ok _ =>
    if savedIds ids fresh ∈ names then names else savedIds ids fresh :: names
  | _, _ => names

/-- The grants after an operation. -/
def grantsAfter (grants : Hash String (Fences Nat)) :
    Except StoreError (Reply ρ) → Except StoreError (Reply ρ) → Hash String (Fences Nat)
  | .ok (.acquired lockToken fence _), .ok (.acquired _ fence' _) =>
    grants.hset lockToken ⟨fence, fence'⟩
  | _, _ => grants

/-- One operation on both stores, at a time that does not go back. -/
def Pair.step (s : Pair ρ) (i : StoreOp ρ × Nat) : Option (Pair ρ) :=
  if s.clock ≤ i.2 then
    let m := s.memoryReply cfg i.2 i.1
    let q := s.sharedReply cfg i.2 i.1
    some
      { clock := i.2
        memory := m.1
        shared := q.1
        names := namesAfter s.names i.1 m.2
        grants := grantsAfter s.grants m.2 q.2 }
  else none

/-- Both stores from empty. -/
def sessionStores : Machine (Pair ρ) (StoreOp ρ × Nat) where
  init s := s = {}
  step s i := s.step cfg i

/-! ## 2. The same arguments, alike replies -/

/-- Ids that name the same session, or one text that neither store knows. -/
def SameIds (s : Pair ρ) (ids : Ids) : Prop :=
  (⟨JsText.trim ids.memory, JsText.trim ids.shared⟩ : Ids) ∈ s.names ∨
    ids.memory = ids.shared ∧
      ∀ name ∈ s.names, name.memory ≠ JsText.trim ids.memory ∧ name.shared ≠ JsText.trim ids.memory

instance (s : Pair ρ) (ids : Ids) : Decidable (SameIds s ids) :=
  inferInstanceAs (Decidable (_ ∨ _))

/-- Fencing numbers that both stores read as one, and that are those of the token in both
stores or in none. -/
def SameFences (s : Pair ρ) (lockToken : String) (fences : Fences Int) : Prop :=
  (getLeaseContext lockToken fences.memory).isSome = (getLeaseContext lockToken fences.shared).isSome ∧
    ∀ grant ∈ s.grants.hget lockToken,
      ((grant.memory : Int) = fences.memory ↔ (grant.shared : Int) = fences.shared)

instance (s : Pair ρ) (lockToken : String) (fences : Fences Int) :
    Decidable (SameFences s lockToken fences) := inferInstanceAs (Decidable (_ ∧ _))

/-- The same for fencing numbers that may be missing. -/
def SameFences? (s : Pair ρ) (lockToken : String) (fences : Fences (Option Int)) : Prop :=
  fences.memory.isSome = fences.shared.isSome ∧
    SameFences s lockToken ⟨fences.memory.getD 0, fences.shared.getD 0⟩

instance (s : Pair ρ) (lockToken : String) (fences : Fences (Option Int)) :
    Decidable (SameFences? s lockToken fences) := inferInstanceAs (Decidable (_ ∧ _))

/-- Ids that can be given to a new session: known to neither store, trimmed, and accepted by
the shared one. -/
def NewIds (s : Pair ρ) (ids : Ids) : Prop :=
  (∀ name ∈ s.names, name.memory ≠ ids.memory ∧ name.shared ≠ ids.shared) ∧
    JsText.trim ids.memory = ids.memory ∧ ids.memory ≠ "" ∧
    JsText.trim ids.shared = ids.shared ∧ ids.shared ≠ "" ∧ isSearchSessionId ids.shared = true

instance (s : Pair ρ) (ids : Ids) : Decidable (NewIds s ids) := inferInstanceAs (Decidable (_ ∧ _))

/-- Both stores are given the same arguments. What they draw is new. -/
def SameArguments (s : Pair ρ) : StoreOp ρ → Prop
  | .save _ ids fresh => SameIds s ids ∧ (JsText.trim ids.memory = "" → NewIds s fresh)
  | .update ids _ lockToken fences _ | .append ids _ lockToken fences _ =>
    SameIds s ids ∧ SameFences s lockToken fences
  | .renew ids lockToken fences | .release ids lockToken _ fences =>
    SameIds s ids ∧ SameFences? s lockToken fences
  | .tryAcquire ids lockToken => SameIds s ids ∧ lockToken ≠ "" ∧ lockToken ∉ s.grants
  | .claim ids _ | .updateInitial ids _ _ | .get ids => SameIds s ids

instance (s : Pair ρ) : (op : StoreOp ρ) → Decidable (SameArguments s op)
  | .save _ _ _ => inferInstanceAs (Decidable (_ ∧ _))
  | .update _ _ _ _ _ | .append _ _ _ _ _ | .renew _ _ _ | .release _ _ _ _ | .tryAcquire _ _ =>
    inferInstanceAs (Decidable (_ ∧ _))
  | .claim _ _ | .updateInitial _ _ _ | .get _ => inferInstanceAs (Decidable (SameIds s _))

/-- The same session under the names of both stores: equal up to `searchId`, `createdAt` and
the generated `continuationFencingNumber`. -/
def SameSession (names : List Ids) (session session' : SearchSession ρ) : Prop :=
  (⟨session.searchId, session'.searchId⟩ : Ids) ∈ names ∧
    { session with
      searchId := session'.searchId
      createdAt := session'.createdAt
      continuationFencingNumber := session'.continuationFencingNumber } = session'

/-- Both stores show a session, the same one, or none. -/
inductive SameSession? (names : List Ids) :
    Option (SearchSession ρ) → Option (SearchSession ρ) → Prop
  | none : SameSession? names none none
  | some {session session' : SearchSession ρ} :
      SameSession names session session' → SameSession? names (some session) (some session')

/-- The same error, or two that say that there is no such session (any more). -/
inductive AlikeError : StoreError → StoreError → Prop
  | same (error : StoreError) : AlikeError error error
  | gone {error error' : StoreError} :
      error ∈ [sessionExpired, sessionNotFound] → error' ∈ [sessionExpired, sessionNotFound] →
      AlikeError error error'

/-- Both stores reject an operation, or both accept it and show the same session. -/
inductive Alike (names : List Ids) :
    Except StoreError (Reply ρ) → Except StoreError (Reply ρ) → Prop
  | rejected {error error' : StoreError} :
      AlikeError error error' → Alike names (.error error) (.error error')
  | session {session session' : Option (SearchSession ρ)} :
      SameSession? names session session' →
      Alike names (.ok (.result (.session session))) (.ok (.result (.session session')))
  | claim (claimed terminal : Bool) {session session' : SearchSession ρ} :
      SameSession names session session' →
      Alike names (.ok (.result (.claim claimed terminal session)))
        (.ok (.result (.claim claimed terminal session')))
  | lease (held : Bool) {session session' : Option (SearchSession ρ)} :
      SameSession? names session session' →
      Alike names (.ok (.result (.lease held session))) (.ok (.result (.lease held session')))
  | acquired (lockToken : String) (fence fence' : Nat) {session session' : SearchSession ρ} :
      SameSession names session session' →
      Alike names (.ok (.acquired lockToken fence (some session)))
        (.ok (.acquired lockToken fence' (some session')))

/-! ## 3. Agreeable operations -/

/-- The lease that a session of the store in memory carries at a time: its token, its fencing
number and its end. -/
def memoryLease (now : Nat) (session : SearchSession ρ) : Option (String × Nat × Nat) :=
  if hasActiveContinuationLease session now then
    match session.continuationLock, session.continuationFencingNumber.get?,
      session.continuationLockExpiresAt with
    | some lockToken, some fence, some expiresAt => some (lockToken, fence, expiresAt)
    | _, _, _ => none
  else none

/-- The session of the store in memory at a time. -/
def sessionAt (s : Pair ρ) (ids : Ids) (now : Nat) : Option (SearchSession ρ) :=
  (s.memory.removeExpiredSessions now).sessions.hget (JsText.trim ids.memory)

/-- The time is not the very millisecond in which the session or its lease ends: the key of
the shared store is still there, the session in memory is not. -/
def OffTick (s : Pair ρ) (searchId : SearchId) (now : Nat) : Prop :=
  (Hash.hget s.shared.sessions searchId).map Volatile.expiresAt ≠ some now ∧
    (Hash.hget s.shared.leases searchId).map Volatile.expiresAt ≠ some now

instance (s : Pair ρ) (searchId : SearchId) (now : Nat) : Decidable (OffTick s searchId now) :=
  inferInstanceAs (Decidable (_ ∧ _))

/-- The claim is not refused. -/
def Claims (session : SearchSession ρ) (execution : InitialSearchExecution) : Prop :=
  session.initialSearchStage.get?.any InitialSearchStage.isTerminal = false ∧
    session.initialSearchFencingNumber.get?.getD 0 < execution.fencingNumber

instance (session : SearchSession ρ) (execution : InitialSearchExecution) :
    Decidable (Claims session execution) := inferInstanceAs (Decidable (_ ∧ _))

/-- The execution owns the initial search of the session. -/
def OwnsInitial (session : SearchSession ρ) (execution : InitialSearchExecution) : Prop :=
  session.initialSearchExecutionToken.get? = some execution.executionToken ∧
    session.initialSearchFencingNumber.get? = some execution.fencingNumber

instance (session : SearchSession ρ) (execution : InitialSearchExecution) :
    Decidable (OwnsInitial session execution) := inferInstanceAs (Decidable (_ ∧ _))

/-- No reply of the two is the error of a limit on sizes or counts. -/
def WithinCapacity : Except StoreError (Reply ρ) → Except StoreError (Reply ρ) → Prop
  | .error error, .error error' => isCapacityError error = false ∧ isCapacityError error' = false
  | .error error, .ok _ | .ok _, .error error => isCapacityError error = false
  | .ok _, .ok _ => True

instance : (r r' : Except StoreError (Reply ρ)) → Decidable (WithinCapacity r r')
  | .error _, .error _ => inferInstanceAs (Decidable (_ ∧ _))
  | .error _, .ok _ | .ok _, .error _ => inferInstanceAs (Decidable (_ = _))
  | .ok _, .ok _ => .isTrue trivial

/-- Where the two stores part, operation by operation: at the millisecond in which something
ends; and

- a save under a padded id, or one that is no id of the shared store, over a leased session
  or under the id of an expired one, or of a session that carries a lease;
- an update or an append under a padded id or with the context of an initial search, and an
  update that changes the lease of the session;
- a claim of a leased session, or of one whose fencing number is `null`;
- an update of the initial search of no session or of a leased one, one that makes a lease,
  and one under the token that is the text of `null`;
- a lease on a session whose stored fencing number is `null`, or beyond the safe integers;
- a renewal or a release of a lease without its fencing number. -/
def Agreeable (s : Pair ρ) (now : Nat) : StoreOp ρ → Prop
  | .save input ids fresh =>
    (ids = ⟨"", ""⟩ ∨ JsText.trim ids.memory = ids.memory ∧ ids.memory ≠ "" ∧
      JsText.trim ids.shared = ids.shared ∧ ids.shared ≠ "" ∧ isSearchSessionId ids.shared = true) ∧
      OffTick s (savedIds ids fresh).shared now ∧
      s.shared.leases.get now (savedIds ids fresh).shared = none ∧
      ((s.shared.sessions.get now (savedIds ids fresh).shared).isSome ∨
        s.shared.tombstones.get now (savedIds ids fresh).shared = none) ∧
      hasActiveContinuationLease (input.saved "" 0 now searchSessionTtlMs
        (Memory.savedFence input.continuationFencingNumber)) now = false
  | .update ids updates _ _ execution =>
    OffTick s (JsText.trim ids.shared) now ∧
      ∀ session ∈ sessionAt s ids now,
        JsText.trim ids.memory = ids.memory ∧ execution = none ∧
          memoryLease now (session.assign updates) = memoryLease now session
  | .append ids _ _ _ execution =>
    OffTick s (JsText.trim ids.shared) now ∧
      ∀ session ∈ sessionAt s ids now, JsText.trim ids.memory = ids.memory ∧ execution = none
  | .claim ids execution =>
    OffTick s (JsText.trim ids.shared) now ∧
      ∀ session ∈ sessionAt s ids now, ∀ given ∈ execution, Claims session given →
        memoryLease now session = none ∧ session.initialSearchFencingNumber ≠ .null
  | .updateInitial ids updates execution =>
    OffTick s (JsText.trim ids.shared) now ∧ (sessionAt s ids now).isSome ∧
      ∀ session ∈ sessionAt s ids now, ∀ given ∈ execution,
        (session.initialSearchExecutionToken = .null → given.executionToken ≠ cfg.nullText) ∧
          (OwnsInitial session given → memoryLease now session = none ∧
            memoryLease now (session.assign (initialSearchUpdates updates)) = none)
  | .tryAcquire ids _ =>
    OffTick s (JsText.trim ids.shared) now ∧
      ∀ envelope ∈ s.shared.sessions.get now (JsText.trim ids.shared),
        s.shared.leases.get now (JsText.trim ids.shared) = none →
          envelope.session.continuationFencingNumber ≠ .null ∧
            ((s.shared.fences.get now (JsText.trim ids.shared)).getD 0 : Int) < maxSafeInteger ∧
            (envelope.session.continuationFencingNumber.get?.getD 0 : Int) < maxSafeInteger ∧
            (s.memory.continuationFencingNumber : Int) < maxSafeInteger ∧
            ∀ session ∈ sessionAt s ids now,
              (session.continuationFencingNumber.get?.getD 0 : Int) < maxSafeInteger
  | .renew ids lockToken fences | .release ids lockToken _ fences =>
    OffTick s (JsText.trim ids.shared) now ∧
      (fences.memory = none → ∀ session ∈ sessionAt s ids now,
        ∀ lease ∈ memoryLease now session, lease.1 ≠ lockToken)
  | .get ids => OffTick s (JsText.trim ids.shared) now

instance (s : Pair ρ) (now : Nat) : (op : StoreOp ρ) → Decidable (Agreeable cfg s now op)
  | .save _ _ _ | .update _ _ _ _ _ | .append _ _ _ _ _ | .claim _ _ | .updateInitial _ _ _
  | .tryAcquire _ _ | .renew _ _ _ | .release _ _ _ _ => inferInstanceAs (Decidable (_ ∧ _))
  | .get ids => inferInstanceAs (Decidable (OffTick s (JsText.trim ids.shared) now))

/-- A step of the runs in question: the same arguments for both stores, within the limits on
sizes and counts. -/
def Given (s : Pair ρ) (i : StoreOp ρ × Nat) : Prop :=
  SameArguments s i.1 ∧ WithinCapacity (s.memoryReply cfg i.2 i.1).2 (s.sharedReply cfg i.2 i.1).2

instance (s : Pair ρ) (i : StoreOp ρ × Nat) : Decidable (Given cfg s i) :=
  inferInstanceAs (Decidable (_ ∧ _))

/-- One on which the stores do not part. -/
def Agreeing (s : Pair ρ) (i : StoreOp ρ × Nat) : Prop := Given cfg s i ∧ Agreeable cfg s i.2 i.1

instance (s : Pair ρ) (i : StoreOp ρ × Nat) : Decidable (Agreeing cfg s i) :=
  inferInstanceAs (Decidable (_ ∧ _))

end SmartStay.Session.Compatibility
