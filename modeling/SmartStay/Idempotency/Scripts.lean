import SmartStay.Lib.Loop
import SmartStay.Lib.Run
import SmartStay.Lib.SortedSet

/-!
# The scripts of the idempotency store

`server/state/valkey/valkeySearchIdempotencyStore.js` keeps one record and one response
for each idempotency key, an expiry index, two hashes about the responses and a total of
their bytes. This module embeds its four Lua scripts.

1. Records, responses and the state.
2. `removeRecord`, the reaping loop and the eviction loop.
3. The scripts.
4. `eviction_ends`, `claimScript_ends`, `completeScript_ends`: the eviction loops end.
-/

namespace SmartStay.Idempotency

abbrev Key := String
abbrev Fingerprint := String
abbrev OwnerToken := String
abbrev CallId := Nat

/-! ## 1. State -/

/-- A response of the search: the `searchId` it carries and its JSON text. -/
structure Response where
  searchId : String
  body : String
deriving DecidableEq, Repr

/-- A response with its origin: the call whose `execute` produced it, under which key and
payload. The origin is not part of the stored value; no script and no function reads it. -/
structure Produced where
  call : CallId
  key : Key
  fingerprint : Fingerprint
  response : Response
deriving DecidableEq, Repr

/-- `record.state` with the fields that go with it. -/
inductive RecordState
  | pending (ownerToken : OwnerToken) (createdAt : Nat)
  | fulfilled (searchId : String) (responseBytes completedAt : Nat)
deriving DecidableEq, Repr

/-- The JSON value of a record key. -/
structure Record where
  schemaVersion : Nat := 1
  fingerprint : Fingerprint
  state : RecordState
deriving DecidableEq, Repr

/-- `record.state == 'fulfilled'`. -/
def Record.isFulfilled (record : Record) : Bool :=
  match record.state with
  | .pending _ _ => false
  | .fulfilled _ _ _ => true

/-- The record keys, the response keys and the four metadata keys (`KEYS[3]` to `KEYS[6]`). -/
structure StoreState where
  records : Keyspace Key Record
  responses : Keyspace Key Produced
  expiry : SortedSet Key
  responseKeys : Hash Key Key
  responseBytes : Hash Key Nat
  totalBytes : Nat
deriving DecidableEq

def StoreState.empty : StoreState := ⟨∅, ∅, ∅, ∅, ∅, 0⟩

/-! ## 2. Removing records -/

/-- The removal of a record without its entry in the expiry index, with the local `total`. -/
def forgetRecord (r : Nat × StoreState) (claimKey : Key) : Nat × StoreState :=
  (r.1 - (r.2.responseBytes.hget claimKey).getD 0,
    { r.2 with
      records := r.2.records.del claimKey
      responses :=
        match r.2.responseKeys.hget claimKey with
        | some responseKey => r.2.responses.del responseKey
        | none => r.2.responses
      responseKeys := r.2.responseKeys.hdel claimKey
      responseBytes := r.2.responseBytes.hdel claimKey })

/-- `remove_record`. -/
def removeRecord (r : Nat × StoreState) (claimKey : Key) : Nat × StoreState :=
  let r := forgetRecord r claimKey
  (r.1, { r.2 with expiry := r.2.expiry.zrem claimKey })

/-- The reaping loop of the claim script. -/
def reapRecords (st : StoreState) (now : Nat) : Nat × StoreState :=
  (st.expiry.zrangeByScore now).foldl removeRecord (st.totalBytes, st)

/-- The candidate that one round of an eviction loop removes: the first one that is not
`kept` and whose key is gone or fulfilled. -/
def evictable (now : Nat) (kept : Key → Bool) (st : StoreState) : Option Key :=
  st.expiry.zrange.find? fun claimKey => !kept claimKey &&
    match st.records.get now claimKey with
    | none => true
    | some candidate => candidate.isFulfilled

/-- One round of an eviction loop; `none` when nothing is evicted. -/
def evictRound (now : Nat) (kept : Key → Bool) (r : Nat × StoreState) :
    Option (Nat × StoreState) := (evictable now kept r.2).map (removeRecord r)

/-- The condition of the eviction loop of the claim script. -/
def recordsFull (maxRecords : Nat) (r : Nat × StoreState) : Bool :=
  maxRecords ≤ r.2.expiry.zcard

/-- The condition of the eviction loop of the complete script. -/
def bytesFull (oldBytes responseBytes maxBytes : Nat) (r : Nat × StoreState) : Bool :=
  maxBytes < r.1 - oldBytes + responseBytes

/-- The eviction loop of the claim script. -/
def claimEviction (now maxRecords fuel : Nat) (r : Nat × StoreState) : Ending (Nat × StoreState) :=
  whileLoop (recordsFull maxRecords) (evictRound now fun _ => false) fuel r

/-- The eviction loop of the complete script, which skips `KEYS[1]`. -/
def completeEviction (now : Nat) (key : Key) (oldBytes responseBytes maxBytes fuel : Nat)
    (r : Nat × StoreState) : Ending (Nat × StoreState) :=
  whileLoop (bytesFull oldBytes responseBytes maxBytes) (evictRound now (· == key)) fuel r

/-! ## 3. Scripts -/

/-- The limits that the adapters pass to the scripts, and `string.len(cjson.encode(record))`. -/
structure Limits where
  ttlMs : Nat
  recordMaxBytes : Nat
  maxRecords : Nat
  maxStoredResponseBytes : Nat
  encodedLength : Record → Nat

/-- The replies of the claim script; `looping` stands for a loop that has not ended. -/
inductive ClaimOutcome
  | conflict | fulfilled | pending | capacity | recordTooLarge | created | looping
deriving DecidableEq, Repr

/-- The replies of the complete script; `looping` stands for a loop that has not ended. -/
inductive CompleteOutcome
  | missing | notOwner | recordTooLarge | aggregateCapacity | ok | looping
deriving DecidableEq, Repr

/-- `CLAIM_SCRIPT`. The loop is given one round more than there are records. -/
def claimScript (limits : Limits) (st : StoreState) (key responseKey : Key)
    (fingerprint : Fingerprint) (ownerToken : OwnerToken) (now : Nat) :
    StoreState × ClaimOutcome :=
  let r := reapRecords st now
  match r.2.records.get now key with
  | some record =>
    if record.fingerprint ≠ fingerprint then (r.2, .conflict)
    else if record.isFulfilled then (r.2, .fulfilled)
    else (r.2, .pending)
  | none =>
    match claimEviction now limits.maxRecords (r.2.expiry.zcard + 1) r with
    | .running => (r.2, .looping)
    | .broke (total, st) => ({ st with totalBytes := total }, .capacity)
    | .done (total, st) =>
      let record : Record := { fingerprint := fingerprint, state := .pending ownerToken now }
      if limits.encodedLength record > limits.recordMaxBytes then (st, .recordTooLarge)
      else
        ({ records := st.records.setPx now limits.ttlMs key record
           responses := st.responses
           expiry := st.expiry.zadd (now + limits.ttlMs) key
           responseKeys := st.responseKeys.hset key responseKey
           responseBytes := st.responseBytes.hset key 0
           totalBytes := total }, .created)

/-- `record.state ~= 'pending' or record.ownerToken ~= ARGV[1]`, negated. -/
def Record.ownedBy (record : Record) (ownerToken : OwnerToken) : Bool :=
  match record.state with
  | .pending token _ => token == ownerToken
  | .fulfilled _ _ _ => false

/-- `COMPLETE_SCRIPT`. -/
def completeScript (limits : Limits) (st : StoreState) (key responseKey : Key)
    (ownerToken : OwnerToken) (fingerprint : Fingerprint) (searchId : String)
    (responseBytes : Nat) (response : Produced) (now : Nat) : StoreState × CompleteOutcome :=
  match st.records.get now key with
  | none => (st, .missing)
  | some record =>
    if ¬ record.ownedBy ownerToken ∨ record.fingerprint ≠ fingerprint then (st, .notOwner)
    else
      let fulfilled : Record :=
        { fingerprint := fingerprint, state := .fulfilled searchId responseBytes now }
      if limits.encodedLength fulfilled > limits.recordMaxBytes then (st, .recordTooLarge)
      else
        let oldBytes := (st.responseBytes.hget key).getD 0
        match completeEviction now key oldBytes responseBytes limits.maxStoredResponseBytes
            (st.expiry.zcard + 1) (st.totalBytes, st) with
        | .running => (st, .looping)
        | .broke (total, st) => ({ st with totalBytes := total }, .aggregateCapacity)
        | .done (total, st) =>
          ({ records := st.records.setPx now limits.ttlMs key fulfilled
             responses := st.responses.setPx now limits.ttlMs responseKey response
             expiry := st.expiry.zadd (now + limits.ttlMs) key
             responseKeys := st.responseKeys.hset key responseKey
             responseBytes := st.responseBytes.hset key responseBytes
             totalBytes := total - oldBytes + responseBytes }, .ok)

/-- `RELEASE_SCRIPT`. -/
def releaseScript (st : StoreState) (key responseKey : Key) (ownerToken : OwnerToken)
    (now : Nat) : StoreState × Bool :=
  match st.records.get now key with
  | none => (st, false)
  | some record =>
    if record.ownedBy ownerToken then
      ({ records := st.records.del key
         responses := st.responses.del responseKey
         expiry := st.expiry.zrem key
         responseKeys := st.responseKeys.hdel key
         responseBytes := st.responseBytes.hdel key
         totalBytes := st.totalBytes - (st.responseBytes.hget key).getD 0 }, true)
    else (st, false)

/-- `STATS_SCRIPT`: the state, the number of records and the total bytes. -/
def statsScript (st : StoreState) (now : Nat) : StoreState × Nat × Nat :=
  let expired := st.expiry.zrangeByScore now
  let r := expired.foldl forgetRecord (st.totalBytes, st)
  let st := { r.2 with expiry := r.2.expiry.zremRangeByScore now, totalBytes := r.1 }
  (st, st.expiry.zcard, r.1)

/-! ## 4. The eviction loops end -/

theorem evictable_mem {now : Nat} {kept : Key → Bool} {st : StoreState} {k : Key}
    (h : evictable now kept st = some k) : k ∈ st.expiry ∧ kept k = false ∧
      ∀ record, st.records.get now k = some record → record.isFulfilled = true := by
  have hsome := List.find?_some h
  rw [Bool.and_eq_true, Bool.not_eq_true'] at hsome
  refine ⟨SortedSet.mem_zrange.mp (List.mem_of_find?_eq_some h), hsome.1, fun record hr => ?_⟩
  have hcandidate := hsome.2
  rwa [hr] at hcandidate

/-- A round takes a member out of the expiry index. -/
theorem evictRound_lt {now : Nat} {kept : Key → Bool} {r r' : Nat × StoreState}
    (h : evictRound now kept r = some r') : r'.2.expiry.zcard < r.2.expiry.zcard := by
  obtain ⟨k, hk, rfl⟩ := Option.map_eq_some_iff.mp h
  exact Hash.hlen_hdel_lt (evictable_mem hk).1

/-- With more rounds than records, in every state, an eviction loop ends, and more rounds
change nothing. -/
theorem eviction_ends (full : Nat × StoreState → Bool) (now : Nat) (kept : Key → Bool)
    (r : Nat × StoreState) {fuel : Nat} (h : r.2.expiry.zcard < fuel) :
    whileLoop full (evictRound now kept) fuel r ≠ .running ∧
      whileLoop full (evictRound now kept) fuel r =
        whileLoop full (evictRound now kept) (r.2.expiry.zcard + 1) r := by
  have hdec : ∀ s s' : Nat × StoreState, full s = true → evictRound now kept s = some s' →
      s'.2.expiry.zcard < s.2.expiry.zcard := fun _ _ _ hb => evictRound_lt hb
  exact ⟨whileLoop_ends hdec h, whileLoop_fuel hdec h (Nat.lt_succ_self _)⟩

theorem claimScript_ends (limits : Limits) (st : StoreState) (key responseKey : Key)
    (fingerprint : Fingerprint) (ownerToken : OwnerToken) (now : Nat) :
    (claimScript limits st key responseKey fingerprint ownerToken now).2 ≠ .looping := by
  unfold claimScript
  dsimp only
  split
  · split_ifs <;> simp
  · split
    · next hloop => exact absurd hloop (eviction_ends _ _ _ _ (Nat.lt_succ_self _)).1
    · simp
    · split_ifs <;> simp

theorem completeScript_ends (limits : Limits) (st : StoreState) (key responseKey : Key)
    (ownerToken : OwnerToken) (fingerprint : Fingerprint) (searchId : String) (responseBytes : Nat)
    (response : Produced) (now : Nat) :
    (completeScript limits st key responseKey ownerToken fingerprint searchId responseBytes
      response now).2 ≠ .looping := by
  unfold completeScript
  dsimp only
  split
  · simp
  split_ifs
  · simp
  · simp
  split
  · next hloop => exact absurd hloop (eviction_ends _ _ _ _ (Nat.lt_succ_self _)).1
  · simp
  · simp

end SmartStay.Idempotency
