import SmartStay.Idempotency.Execution
import SmartStay.Lib.Keyed

/-!
# The idempotency store in memory

`server/storage/searchIdempotency.js` keeps one record for each idempotency key in a `Map`,
bounds the number of the records and the bytes of the stored responses, and shares the run
of an `execute` callback between the calls of one key.

1. The variables of the module and its limits.
2. Deleting, expiry and eviction; the eviction loops end.
3. `executeInitialSearchIdempotently`, the end of an execution, and the machine of both.
4. `Accounted`: the counter and the limits; every operation keeps it.
5. `Owned`: which executions own the records.
6. `store_accounted`.

Expiry takes effect when the expired records are swept, at the start of a call or when a
count is read.
-/

namespace SmartStay.Idempotency.InMemory

/-! ## 1. State -/

/-- The constants of the module. -/
structure Limits where
  ttlMs : Nat := 25 * 60 * 1000
  maxRecords : Nat := 250
  maxBytes : Nat := 64 * 1024 * 1024
deriving DecidableEq, Repr

/-- A response of `execute`: its `searchId`, if that is a string, and its JSON text, if it
has one. -/
structure SearchResponse where
  searchId : Option String
  json : Option String
deriving DecidableEq, Repr

/-- `hasStableSearchId`. -/
def SearchResponse.hasStableSearchId (response : SearchResponse) : Bool :=
  match response.searchId with
  | some searchId => JsText.trim searchId != ""
  | none => false

/-- `getResponseByteLength`. -/
def SearchResponse.getResponseByteLength (response : SearchResponse) : Option Nat :=
  response.json.map String.utf8ByteSize

/-- `record.state` with `record.response`. -/
inductive RecordState
  | pending
  | fulfilled (response : SearchResponse)
deriving DecidableEq, Repr

/-- A record under its key. `owner`, the call that made it, stands for the identity of the
object and for its promise. -/
structure Record where
  key : Key
  owner : CallId
  fingerprint : Fingerprint
  state : RecordState := .pending
  responseBytes : Nat := 0
  expiresAt : Nat
deriving DecidableEq, Repr

/-- `record.state === "fulfilled"`. -/
def Record.isFulfilled (record : Record) : Bool :=
  match record.state with
  | .pending => false
  | .fulfilled _ => true

/-- The variables of the module: the values of the map in their order, and the counter. -/
structure Store where
  records : List Record := []
  storedResponseBytes : Nat := 0
deriving DecidableEq, Repr

/-! ## 2. Deleting, expiry and eviction -/

namespace Store

/-- `records.get(key)`. -/
def get (s : Store) (key : Key) : Option Record := s.records.find? (·.key == key)

/-- `records.get(key) === record` for the record of the call. -/
def isCurrent (s : Store) (key : Key) (call : CallId) : Bool :=
  match s.get key with
  | some record => record.owner == call
  | none => false

/-- `deleteRecord`. -/
def deleteRecord (s : Store) (key : Key) : Store :=
  match s.get key with
  | none => s
  | some record =>
    { records := s.records.filter fun other => other.key ≠ key
      storedResponseBytes := s.storedResponseBytes - record.responseBytes }

/-- `removeExpiredRecords`. -/
def removeExpiredRecords (s : Store) (now : Nat) : Store :=
  s.records.foldl (fun s record => if record.expiresAt ≤ now then s.deleteRecord record.key else s) s

/-- `removeOldestCompletedRecord`; `none` when it returns `false`. -/
def removeOldestCompletedRecord (excludedKey : Option Key) (s : Store) : Option Store :=
  (s.records.find? fun record => some record.key != excludedKey && record.isFulfilled).map
    fun record => s.deleteRecord record.key

/-- The condition of the loop of `reserveResponseByteCapacity`. -/
def exceeds (limits : Limits) (responseBytes : Nat) (s : Store) : Bool :=
  limits.maxBytes < s.storedResponseBytes + responseBytes

/-- `reserveResponseByteCapacity`. -/
def reserveResponseByteCapacity (limits : Limits) (s : Store) (key : Key)
    (responseBytes : Option Nat) : Bool × Store :=
  match responseBytes with
  | none => (false, s)
  | some responseBytes =>
    if limits.maxBytes < responseBytes then (false, s)
    else
      match whileLoop (exceeds limits responseBytes) (removeOldestCompletedRecord (some key))
        (s.records.length + 1) s with
      | .done s => (true, s)
      | .broke s => (false, s)
      | .running => (false, s)

/-- The condition of the loop of `reserveCapacity`. -/
def isFull (limits : Limits) (s : Store) : Bool := limits.maxRecords ≤ s.records.length

/-- `reserveCapacity`: whether it returns, and the store in either case. -/
def reserveCapacity (limits : Limits) (s : Store) (now : Nat) : Bool × Store :=
  let s := s.removeExpiredRecords now
  match whileLoop (isFull limits) (removeOldestCompletedRecord none) (s.records.length + 1) s with
  | .done s => (true, s)
  | .broke s => (false, s)
  | .running => (false, s)

end Store

/-! ## 3. Calls and executions -/

def idempotencyCapacityReached : StoreError :=
  { code := "IDEMPOTENCY_CAPACITY_REACHED"
    message :=
      "Hotel search is temporarily unable to accept another request. Please try again shortly."
    status := 503 }

/-- How a call goes on: it throws, returns a stored response, awaits the promise of another
call, or runs its `execute`. -/
inductive Started
  | threw (error : StoreError)
  | replayed (response : SearchResponse)
  | coalesced (owner : CallId)
  | executing (key : Key)
deriving DecidableEq, Repr

namespace Store

/-- `executeInitialSearchIdempotently` up to its first `await`; `fingerprint` is what
`createSearchPayloadFingerprint` returns or throws. -/
def executeInitialSearchIdempotently (limits : Limits) (s : Store) (idempotencyKey : String)
    (fingerprint : Except StoreError Fingerprint) (call : CallId) (now : Nat) : Store × Started :=
  match validateIdempotencyKey idempotencyKey, fingerprint with
  | .error error, _ => (s, .threw error)
  | .ok _, .error error => (s, .threw error)
  | .ok key, .ok fingerprint =>
    let s := s.removeExpiredRecords now
    match s.get key with
    | some record =>
      if record.fingerprint ≠ fingerprint then (s, .threw idempotencyKeyConflict)
      else
        match record.state with
        | .fulfilled response => (s, .replayed response)
        | .pending => (s, .coalesced record.owner)
    | none =>
      match s.reserveCapacity limits now with
      | (false, s) => (s, .threw idempotencyCapacityReached)
      | (true, s) =>
        let record :=
          { key := key, owner := call, fingerprint := fingerprint, expiresAt := now + limits.ttlMs }
        ({ s with records := Keyed.set Record.key s.records record }, .executing key)

/-- The assignments to the record of the call when its response is stored. -/
def fulfill (limits : Limits) (s : Store) (call : CallId) (response : SearchResponse)
    (responseBytes now : Nat) : Store :=
  { records := s.records.map fun record =>
      if record.owner = call then
        { record with
          state := .fulfilled response
          responseBytes := responseBytes
          expiresAt := now + limits.ttlMs }
      else record
    storedResponseBytes := s.storedResponseBytes + responseBytes }

/-- The record of the call is deleted if it is the current one of the key. -/
def deleteCurrent (s : Store) (key : Key) (call : CallId) : Store :=
  if s.isCurrent key call then s.deleteRecord key else s

/-- The `then` callback on the response of the `execute` of a call. -/
def completed (limits : Limits) (s : Store) (key : Key) (call : CallId) (response : SearchResponse)
    (now : Nat) : Store :=
  if response.hasStableSearchId && s.isCurrent key call then
    match s.reserveResponseByteCapacity limits key response.getResponseByteLength with
    | (true, s) => s.fulfill limits call response (response.getResponseByteLength.getD 0) now
    | (false, s) => s.deleteCurrent key call
  else s.deleteCurrent key call

end Store

/-- The store, the number of executions so far, and the key of each that is running. -/
structure System where
  store : Store := {}
  executions : Nat := 0
  running : Hash CallId Key := ∅
deriving DecidableEq

/-- `failed` ends an execution whose `execute` throws, or whose response cannot be cloned;
`sweep` reads one of the two counts. -/
inductive StoreEvent
  | call (idempotencyKey : String) (fingerprint : Except StoreError Fingerprint)
  | completed (call : CallId) (response : SearchResponse)
  | failed (call : CallId)
  | sweep
  | clear
deriving Repr

/-- One event at a time of the clock, which is free. A promise settles once. -/
def System.step (limits : Limits) (s : System) : StoreEvent × Nat → Option System
  | (.call idempotencyKey fingerprint, now) =>
    let r := s.store.executeInitialSearchIdempotently limits idempotencyKey fingerprint
      s.executions now
    match r.2 with
    | .executing key =>
      some
        { store := r.1
          executions := s.executions + 1
          running := s.running.hset s.executions key }
    | .threw _ | .replayed _ | .coalesced _ => some { s with store := r.1 }
  | (.completed call response, now) =>
    (s.running.hget call).map fun key =>
      { s with
        store := s.store.completed limits key call response now, running := s.running.hdel call }
  | (.failed call, _) =>
    (s.running.hget call).map fun key =>
      { s with store := s.store.deleteCurrent key call, running := s.running.hdel call }
  | (.sweep, now) => some { s with store := s.store.removeExpiredRecords now }
  | (.clear, _) => some { s with store := {} }

/-- The runs of the module from its empty store. -/
def idempotencyStore (limits : Limits) : Machine System (StoreEvent × Nat) where
  init s := s = {}
  step s i := s.step limits i

variable {limits : Limits} {s s' : Store} {key : Key} {call : CallId} {now : Nat} {record : Record}

/-! ## 4. The counter and the limits -/

/-- No two records have one key or one owner, the bytes of a record that is not fulfilled
are 0, the counter is the sum of all, and both limits hold. -/
structure Accounted (limits : Limits) (s : Store) : Prop where
  keys : (s.records.map Record.key).Nodup
  owners : (s.records.map Record.owner).Nodup
  pendingBytes : ∀ record ∈ s.records, record.isFulfilled = false → record.responseBytes = 0
  counter : s.storedResponseBytes = (s.records.map Record.responseBytes).sum
  withinBytes : s.storedResponseBytes ≤ limits.maxBytes
  withinRecords : s.records.length ≤ limits.maxRecords

theorem get_mem (h : s.get key = some record) : record ∈ s.records ∧ record.key = key :=
  ⟨List.mem_of_find?_eq_some h, by simpa using List.find?_some h⟩

theorem get_none (h : s.get key = none) : key ∉ s.records.map Record.key := by
  intro hmem
  obtain ⟨record, hrecord, hkey⟩ := List.mem_map.mp hmem
  exact List.find?_eq_none.mp h record hrecord (by simpa using hkey)

theorem deleteRecord_sublist (s : Store) (key : Key) :
    (s.deleteRecord key).records.Sublist s.records := by
  unfold Store.deleteRecord
  split
  · exact List.Sublist.refl _
  · exact List.filter_sublist

/-- The other records stay. -/
theorem mem_deleteRecord (hrecord : record ∈ s.records) (hkey : record.key ≠ key) :
    record ∈ (s.deleteRecord key).records := by
  unfold Store.deleteRecord
  split
  · exact hrecord
  · exact List.mem_filter.mpr ⟨hrecord, by simpa using hkey⟩

theorem Accounted.deleteRecord (h : Accounted limits s) (key : Key) :
    Accounted limits (s.deleteRecord key) := by
  have hsublist := deleteRecord_sublist s key
  have hcounter : (s.deleteRecord key).storedResponseBytes =
        ((s.deleteRecord key).records.map Record.responseBytes).sum ∧
      (s.deleteRecord key).storedResponseBytes ≤ s.storedResponseBytes := by
    unfold Store.deleteRecord
    split
    · exact ⟨h.counter, Nat.le_refl _⟩
    · next record hget =>
      obtain ⟨hrecord, rfl⟩ := get_mem hget
      have hsum := ((Keyed.perm_cons_delete h.keys hrecord).map Record.responseBytes).sum_eq
      rw [List.map_cons, List.sum_cons] at hsum
      have hcounter := h.counter
      refine ⟨?_, Nat.sub_le _ _⟩
      dsimp only
      omega
  exact
    { keys := h.keys.sublist (hsublist.map _)
      owners := h.owners.sublist (hsublist.map _)
      pendingBytes := fun record hrecord => h.pendingBytes record (hsublist.subset hrecord)
      counter := hcounter.1
      withinBytes := Nat.le_trans hcounter.2 h.withinBytes
      withinRecords := Nat.le_trans hsublist.length_le h.withinRecords }

/-- What deleting some records, but not the one of `kept`, leads to. -/
structure Trimmed (limits : Limits) (kept : Option Key) (s s' : Store) : Prop where
  accounted : Accounted limits s'
  sublist : s'.records.Sublist s.records
  keeps : ∀ record ∈ s.records, some record.key = kept → record ∈ s'.records

theorem Accounted.trimmed (h : Accounted limits s) (kept : Option Key) : Trimmed limits kept s s :=
  ⟨h, List.Sublist.refl _, fun _ hrecord _ => hrecord⟩

theorem Trimmed.deleteRecord {kept : Option Key} (h : Trimmed limits kept s s')
    (hkey : some key ≠ kept) : Trimmed limits kept s (s'.deleteRecord key) := by
  refine ⟨h.accounted.deleteRecord key, (deleteRecord_sublist s' key).trans h.sublist, ?_⟩
  intro record hrecord hkept
  exact mem_deleteRecord (h.keeps record hrecord hkept) fun heq => hkey (heq ▸ hkept)

theorem Accounted.removeExpiredRecords (h : Accounted limits s) (now : Nat) :
    Trimmed limits none s (s.removeExpiredRecords now) := by
  -- The loop runs over the records of the start.
  suffices hloop : ∀ (records : List Record) (s' : Store), Trimmed limits none s s' →
      Trimmed limits none s (records.foldl (fun s record =>
        if record.expiresAt ≤ now then s.deleteRecord record.key else s) s') from
    hloop s.records s (h.trimmed none)
  intro records
  induction records with
  | nil => exact fun _ hs' => hs'
  | cons record records ih =>
    intro s' hs'
    refine ih _ ?_
    dsimp only
    split
    · exact hs'.deleteRecord (by simp)
    · exact hs'

/-- One eviction removes a fulfilled record that is not the excluded one. -/
theorem evict_cases {excludedKey : Option Key}
    (h : s.removeOldestCompletedRecord excludedKey = some s') :
    ∃ record ∈ s.records, some record.key ≠ excludedKey ∧ record.isFulfilled = true ∧
      s' = s.deleteRecord record.key := by
  obtain ⟨record, hfound, rfl⟩ := Option.map_eq_some_iff.mp h
  have hprop := List.find?_some hfound
  simp only [Bool.and_eq_true, bne_iff_ne, ne_eq] at hprop
  exact ⟨record, List.mem_of_find?_eq_some hfound, hprop.1, hprop.2, rfl⟩

theorem eviction_trims (h : Accounted limits s) (full : Store → Bool) (excludedKey : Option Key)
    (fuel : Nat) :
    (whileLoop full (Store.removeOldestCompletedRecord excludedKey) fuel s).All
      (Trimmed limits excludedKey s) := by
  refine whileLoop_all (fun s₁ s₂ h₁ hround => ?_) (h.trimmed excludedKey) fuel
  obtain ⟨record, -, hkey, -, rfl⟩ := evict_cases hround
  exact h₁.deleteRecord hkey

theorem Trimmed.trans {s'' : Store} (h : Trimmed limits none s s') (h' : Trimmed limits none s' s'') :
    Trimmed limits none s s'' :=
  ⟨h'.accounted, h'.sublist.trans h.sublist, by simp⟩

/-- `reserveCapacity` returns only with room for one more record. -/
theorem reserveCapacity_trims (h : Accounted limits s) (now : Nat) :
    Trimmed limits none s (s.reserveCapacity limits now).2 ∧
      ((s.reserveCapacity limits now).1 = true →
        (s.reserveCapacity limits now).2.records.length < limits.maxRecords) := by
  have hswept := h.removeExpiredRecords now
  unfold Store.reserveCapacity
  dsimp only
  generalize s.removeExpiredRecords now = swept at hswept ⊢
  have htrims := eviction_trims hswept.accounted (Store.isFull limits) none
    (swept.records.length + 1)
  split
  · next s' hdone =>
    rw [hdone] at htrims
    have hroom := whileLoop_done_cond hdone
    exact ⟨hswept.trans htrims, fun _ => by simpa [Store.isFull] using hroom⟩
  · next s' hbroke =>
    rw [hbroke] at htrims
    exact ⟨hswept.trans htrims, by simp⟩
  · exact ⟨hswept, by simp⟩

/-- `reserveResponseByteCapacity` returns `true` only with room for the bytes. -/
theorem reserveResponseByteCapacity_trims (h : Accounted limits s) (key : Key)
    (responseBytes : Option Nat) :
    Trimmed limits (some key) s (s.reserveResponseByteCapacity limits key responseBytes).2 ∧
      ((s.reserveResponseByteCapacity limits key responseBytes).1 = true →
        (s.reserveResponseByteCapacity limits key responseBytes).2.storedResponseBytes +
          responseBytes.getD 0 ≤ limits.maxBytes) := by
  unfold Store.reserveResponseByteCapacity
  split
  · exact ⟨h.trimmed _, by simp⟩
  next responseBytes =>
  split
  · exact ⟨h.trimmed _, by simp⟩
  have htrims := eviction_trims h (Store.exceeds limits responseBytes) (some key)
    (s.records.length + 1)
  split
  · next s' hdone =>
    rw [hdone] at htrims
    have hroom := whileLoop_done_cond hdone
    exact ⟨htrims, fun _ => by simpa [Store.exceeds] using hroom⟩
  · next s' hbroke =>
    rw [hbroke] at htrims
    exact ⟨htrims, by simp⟩
  · exact ⟨h.trimmed _, by simp⟩

/-- A record of a new call under a new key. -/
theorem Accounted.push (h : Accounted limits s) (hroom : s.records.length < limits.maxRecords)
    (hkey : record.key ∉ s.records.map Record.key)
    (howner : record.owner ∉ s.records.map Record.owner) (hbytes : record.responseBytes = 0) :
    Accounted limits { s with records := s.records ++ [record] } := by
  refine ⟨?_, ?_, ?_, ?_, h.withinBytes, ?_⟩
  · simpa [List.nodup_append] using ⟨h.keys, fun r hr heq => hkey (heq ▸ List.mem_map_of_mem hr)⟩
  · simpa [List.nodup_append] using
      ⟨h.owners, fun r hr heq => howner (heq ▸ List.mem_map_of_mem hr)⟩
  · intro r hr hpending
    rcases List.mem_append.mp hr with hr | hr
    · exact h.pendingBytes r hr hpending
    · rw [List.mem_singleton.mp hr]
      exact hbytes
  · simp [h.counter, hbytes]
  · rw [List.length_append]
    exact hroom

theorem fulfill_keys (limits : Limits) (s : Store) (call : CallId) (response : SearchResponse)
    (responseBytes now : Nat) :
    (s.fulfill limits call response responseBytes now).records.map Record.key =
        s.records.map Record.key ∧
      (s.fulfill limits call response responseBytes now).records.map Record.owner =
        s.records.map Record.owner := by
  constructor
  all_goals
    simp only [Store.fulfill, List.map_map]
    refine List.map_congr_left fun record _ => ?_
    rw [Function.comp_apply]
    split <;> rfl

/-- The pending record of the call is fulfilled, in the room that was reserved. -/
theorem Accounted.fulfill (h : Accounted limits s) {responseBytes : Nat}
    (hroom : s.storedResponseBytes + responseBytes ≤ limits.maxBytes) (hrecord : record ∈ s.records)
    (howner : record.owner = call) (hpending : record.isFulfilled = false)
    (response : SearchResponse) :
    Accounted limits (s.fulfill limits call response responseBytes now) := by
  obtain ⟨hkeys, howners⟩ := fulfill_keys limits s call response responseBytes now
  refine ⟨hkeys ▸ h.keys, howners ▸ h.owners, ?_, ?_, hroom, ?_⟩
  · intro r hr hstill
    obtain ⟨before, hbefore, rfl⟩ := List.mem_map.mp hr
    split at hstill
    · cases hstill
    · next hother =>
      rw [if_neg hother]
      exact h.pendingBytes before hbefore hstill
  · -- The other records keep their bytes, and the one of the call had none.
    have hperm := Keyed.perm_cons_delete h.owners hrecord
    have hbytes := h.pendingBytes record hrecord hpending
    have hbefore := (hperm.map Record.responseBytes).sum_eq
    have hafter := (hperm.map fun r =>
      (if r.owner = call then responseBytes else r.responseBytes : Nat)).sum_eq
    have hmap : (s.fulfill limits call response responseBytes now).records.map
        Record.responseBytes =
        s.records.map fun r => if r.owner = call then responseBytes else r.responseBytes := by
      simp only [Store.fulfill, List.map_map]
      refine List.map_congr_left fun r _ => ?_
      rw [Function.comp_apply]
      split <;> rfl
    have hothers : ((s.records.filter fun r => r.owner ≠ record.owner).map fun r =>
        if r.owner = call then responseBytes else r.responseBytes) =
        (s.records.filter fun r => r.owner ≠ record.owner).map Record.responseBytes := by
      refine List.map_congr_left fun r hr => ?_
      have hne : r.owner ≠ call := by simpa [howner] using (List.mem_filter.mp hr).2
      rw [if_neg hne]
    rw [hmap, hafter, List.map_cons, if_pos howner, hothers, List.sum_cons]
    rw [List.map_cons, List.sum_cons, hbytes, Nat.zero_add] at hbefore
    have hcounter := h.counter
    simp only [Store.fulfill]
    omega
  · simpa [Store.fulfill] using h.withinRecords

/-! ## 5. Owners -/

/-- Every pending record belongs to a running execution for its key, every other one to an
execution that has ended. -/
structure Owned (limits : Limits) (s : System) : Prop where
  accounted : Accounted limits s.store
  pending : ∀ record ∈ s.store.records, record.isFulfilled = false →
    s.running.hget record.owner = some record.key
  fulfilled : ∀ record ∈ s.store.records, record.isFulfilled = true →
    record.owner ∉ s.running
  begun : ∀ record ∈ s.store.records, record.owner < s.executions
  runs : ∀ call ∈ s.running, call < s.executions

variable {t : System} {state : System}

/-- Some records are deleted. -/
theorem Owned.trim {kept : Option Key} (h : Owned limits t) (htrim : Trimmed limits kept t.store s) :
    Owned limits { t with store := s } :=
  { accounted := htrim.accounted
    pending := fun record hrecord => h.pending record (htrim.sublist.subset hrecord)
    fulfilled := fun record hrecord => h.fulfilled record (htrim.sublist.subset hrecord)
    begun := fun record hrecord => h.begun record (htrim.sublist.subset hrecord)
    runs := h.runs }

theorem isCurrent_iff (h : Accounted limits s) : s.isCurrent key call = true ↔
    ∃ record ∈ s.records, record.key = key ∧ record.owner = call := by
  unfold Store.isCurrent
  constructor
  · intro hcurrent
    split at hcurrent
    · next record hget =>
      obtain ⟨hrecord, hkey⟩ := get_mem hget
      exact ⟨record, hrecord, hkey, by simpa using hcurrent⟩
    · cases hcurrent
  · rintro ⟨record, hrecord, rfl, rfl⟩
    cases hget : s.get record.key with
    | none => exact absurd (List.mem_map_of_mem hrecord) (get_none hget)
    | some other =>
      obtain ⟨hother, hkey⟩ := get_mem hget
      simp [List.inj_on_of_nodup_map h.keys hother hrecord hkey]

theorem deleteCurrent_trims (h : Accounted limits s) (key : Key) (call : CallId) :
    Trimmed limits none s (s.deleteCurrent key call) := by
  unfold Store.deleteCurrent
  split
  · exact (h.trimmed none).deleteRecord (by simp)
  · exact h.trimmed none

theorem deleteCurrent_gone (h : Accounted limits s) (hkey : ∀ record ∈ s.records,
    record.owner = call → record.key = key) :
    ∀ record ∈ (s.deleteCurrent key call).records, record.owner ≠ call := by
  intro record hrecord howner
  have hbefore := (deleteCurrent_trims h key call).sublist.subset hrecord
  have hcurrent := (isCurrent_iff h).mpr ⟨record, hbefore, hkey record hbefore howner, howner⟩
  rw [Store.deleteCurrent, if_pos hcurrent] at hrecord
  unfold Store.deleteRecord at hrecord
  split at hrecord
  · next hget => exact get_none hget (List.mem_map.mpr ⟨record, hbefore, hkey record hbefore howner⟩)
  · exact absurd (hkey record hbefore howner) (by simpa using (List.mem_filter.mp hrecord).2)

/-- The execution of the call has ended: it owns no pending record any more. -/
theorem Owned.finish (h : Owned limits t)
    (hgone : ∀ record ∈ t.store.records, record.isFulfilled = false → record.owner ≠ call) :
    Owned limits { t with running := t.running.hdel call } :=
  { h with
    pending := fun record hrecord hpending => by
      rw [Hash.hget_hdel, if_neg (hgone record hrecord hpending)]
      exact h.pending record hrecord hpending
    fulfilled := fun record hrecord hfulfilled hmem =>
      h.fulfilled record hrecord hfulfilled (Hash.mem_hdel.mp hmem).2
    runs := fun other hmem => h.runs other (Hash.mem_hdel.mp hmem).2 }

/-- The record of an execution that runs is pending, under the key of the execution. -/
theorem Owned.own (h : Owned limits t) (hrunning : t.running.hget call = some key)
    (hrecord : record ∈ t.store.records) (howner : record.owner = call) :
    record.isFulfilled = false ∧ record.key = key := by
  subst howner
  have hpending : record.isFulfilled = false := by
    by_contra hfulfilled
    exact h.fulfilled record hrecord (by simpa using hfulfilled) (Hash.mem_of_hget hrunning)
  exact ⟨hpending, Option.some.inj ((h.pending record hrecord hpending).symm.trans hrunning)⟩

theorem Owned.failed (h : Owned limits t) (hrunning : t.running.hget call = some key) :
    Owned limits
      { t with store := t.store.deleteCurrent key call, running := t.running.hdel call } := by
  have htrimmed := h.trim (deleteCurrent_trims h.accounted key call)
  refine htrimmed.finish fun record hrecord _ => ?_
  exact deleteCurrent_gone h.accounted (fun r hr howner => (h.own hrunning hr howner).2) record hrecord

/-- A record after the response of the call is stored. -/
theorem mem_fulfill {response : SearchResponse} {responseBytes : Nat}
    (h : record ∈ (s.fulfill limits call response responseBytes now).records) :
    ∃ before ∈ s.records, record.owner = before.owner ∧
      (before.owner = call ∧ record.isFulfilled = true ∨ before.owner ≠ call ∧ record = before) := by
  obtain ⟨before, hbefore, rfl⟩ := List.mem_map.mp h
  refine ⟨before, hbefore, ?_⟩
  split
  · next hcall => exact ⟨rfl, .inl ⟨hcall, rfl⟩⟩
  · next hother => exact ⟨rfl, .inr ⟨hother, rfl⟩⟩

theorem Owned.fulfill (h : Owned limits t) (hrunning : t.running.hget call = some key)
    (hrecord : record ∈ t.store.records) (howner : record.owner = call) {responseBytes : Nat}
    (hroom : t.store.storedResponseBytes + responseBytes ≤ limits.maxBytes)
    (response : SearchResponse) (now : Nat) :
    Owned limits
      { t with
        store := t.store.fulfill limits call response responseBytes now
        running := t.running.hdel call } := by
  have hpending := (h.own hrunning hrecord howner).1
  refine ⟨h.accounted.fulfill hroom hrecord howner hpending response, ?_, ?_, ?_, ?_⟩
  · intro r hr hstill
    obtain ⟨before, hbefore, -, ⟨-, hfulfilled⟩ | ⟨hother, rfl⟩⟩ := mem_fulfill hr
    · simp [hfulfilled] at hstill
    · rw [Hash.hget_hdel, if_neg hother]
      exact h.pending r hbefore hstill
  · intro r hr hfulfilled hmem
    obtain ⟨hne, hmem⟩ := Hash.mem_hdel.mp hmem
    obtain ⟨before, hbefore, hsame, ⟨hcall, -⟩ | ⟨-, rfl⟩⟩ := mem_fulfill hr
    · exact hne (hsame.trans hcall)
    · exact h.fulfilled r hbefore hfulfilled hmem
  · intro r hr
    obtain ⟨before, hbefore, hsame, -⟩ := mem_fulfill hr
    exact hsame ▸ h.begun before hbefore
  · exact fun other hmem => h.runs other (Hash.mem_hdel.mp hmem).2

theorem Owned.completed (h : Owned limits t) (hrunning : t.running.hget call = some key)
    (response : SearchResponse) (now : Nat) :
    Owned limits
      { t with
        store := t.store.completed limits key call response now
        running := t.running.hdel call } := by
  unfold Store.completed
  split
  · next hstable =>
    rw [Bool.and_eq_true, isCurrent_iff h.accounted] at hstable
    obtain ⟨-, record, hrecord, hkey, howner⟩ := hstable
    obtain ⟨htrims, hroom⟩ := reserveResponseByteCapacity_trims h.accounted key
      response.getResponseByteLength
    have htrimmed := h.trim htrims
    split
    · next store hreserved =>
      rw [hreserved] at htrims hroom htrimmed
      have hkept := htrims.keeps record hrecord (by rw [hkey])
      exact htrimmed.fulfill hrunning hkept howner (hroom rfl) response now
    · next store hrefused =>
      rw [hrefused] at htrims htrimmed
      exact htrimmed.failed hrunning
  · exact h.failed hrunning

/-- The pending record of a new execution. -/
theorem Owned.push (h : Owned limits t) (hroom : t.store.records.length < limits.maxRecords)
    (hkey : record.key ∉ t.store.records.map Record.key) (howner : record.owner = t.executions)
    (hpending : record.state = .pending) (hbytes : record.responseBytes = 0) :
    Owned limits
      { store := { t.store with records := t.store.records ++ [record] }
        executions := t.executions + 1
        running := t.running.hset t.executions record.key } := by
  have hnew : ∀ r ∈ t.store.records, r.owner ≠ t.executions := fun r hr =>
    Nat.ne_of_lt (h.begun r hr)
  refine ⟨h.accounted.push hroom hkey ?_ hbytes, ?_, ?_, ?_, ?_⟩
  · intro hmem
    obtain ⟨r, hr, hsame⟩ := List.mem_map.mp hmem
    exact hnew r hr (hsame.trans howner)
  · intro r hr hstill
    rw [Hash.hget_hset]
    rcases List.mem_append.mp hr with hr | hr
    · rw [if_neg (hnew r hr)]
      exact h.pending r hr hstill
    · rw [List.mem_singleton.mp hr, if_pos howner]
  · intro r hr hfulfilled hmem
    rcases List.mem_append.mp hr with hr | hr
    · rcases Hash.mem_hset.mp hmem with heq | hmem
      · exact hnew r hr heq
      · exact h.fulfilled r hr hfulfilled hmem
    · rw [List.mem_singleton.mp hr] at hfulfilled
      simp [Record.isFulfilled, hpending] at hfulfilled
  · intro r hr
    rcases List.mem_append.mp hr with hr | hr
    · exact Nat.lt_succ_of_lt (h.begun r hr)
    · rw [List.mem_singleton.mp hr, howner]
      exact Nat.lt_succ_self _
  · intro other hmem
    rcases Hash.mem_hset.mp hmem with rfl | hmem
    · exact Nat.lt_succ_self _
    · exact Nat.lt_succ_of_lt (h.runs other hmem)

/-- A call deletes records and does not execute, or it deletes records and adds its own. -/
theorem started_cases (h : Accounted limits s) (idempotencyKey : String)
    (fingerprint : Except StoreError Fingerprint) (call : CallId) (now : Nat)
    {r : Store × Started}
    (hr : s.executeInitialSearchIdempotently limits idempotencyKey fingerprint call now = r) :
    Trimmed limits none s r.1 ∧ (∀ key, r.2 ≠ .executing key) ∨
    ∃ (store : Store) (record : Record), Trimmed limits none s store ∧
      store.records.length < limits.maxRecords ∧ record.key ∉ store.records.map Record.key ∧
      record.owner = call ∧ record.state = .pending ∧ record.responseBytes = 0 ∧
      r = ({ store with records := store.records ++ [record] }, .executing record.key) := by
  unfold Store.executeInitialSearchIdempotently at hr
  split at hr
  · cases hr
    exact .inl ⟨h.trimmed none, by simp⟩
  · cases hr
    exact .inl ⟨h.trimmed none, by simp⟩
  next key fingerprint _ =>
  have hswept := h.removeExpiredRecords now
  generalize s.removeExpiredRecords now = swept at hswept hr
  dsimp only at hr
  split at hr
  · -- There is a record under the key.
    split at hr
    · cases hr
      exact .inl ⟨hswept, by simp⟩
    · split at hr <;> cases hr <;> exact .inl ⟨hswept, by simp⟩
  next hget =>
  obtain ⟨htrims, hroom⟩ := reserveCapacity_trims hswept.accounted now
  split at hr
  · next store hreserved =>
    rw [hreserved] at htrims
    cases hr
    exact .inl ⟨hswept.trans htrims, by simp⟩
  · next store hreserved =>
    rw [hreserved] at htrims hroom
    have hnew : key ∉ store.records.map Record.key := fun hmem =>
      get_none hget ((htrims.sublist.map Record.key).subset hmem)
    rw [Keyed.set, if_neg (Keyed.any_key.not.mpr hnew)] at hr
    cases hr
    exact .inr ⟨store, _, hswept.trans htrims, hroom rfl, hnew, rfl, rfl, rfl, rfl⟩

theorem Owned.started (h : Owned limits t) (idempotencyKey : String)
    (fingerprint : Except StoreError Fingerprint) (now : Nat)
    (hstep : t.step limits (.call idempotencyKey fingerprint, now) = some state) :
    Owned limits state := by
  unfold System.step at hstep
  dsimp only at hstep
  generalize hr : t.store.executeInitialSearchIdempotently limits idempotencyKey fingerprint
    t.executions now = r at hstep
  rcases started_cases h.accounted idempotencyKey fingerprint t.executions now hr with
    ⟨htrims, hquiet⟩ | ⟨store, record, htrims, hroom, hkey, howner, hpending, hbytes, rfl⟩
  · split at hstep
    · next key hexecuting => exact absurd hexecuting (hquiet key)
    all_goals
      cases hstep
      exact h.trim htrims
  · cases hstep
    exact (h.trim htrims).push hroom hkey howner hpending hbytes

theorem Owned.clear (h : Owned limits t) : Owned limits { t with store := {} } := by
  refine ⟨⟨?_, ?_, ?_, rfl, Nat.zero_le _, Nat.zero_le _⟩, ?_, ?_, ?_, h.runs⟩
  all_goals simp

theorem step_owned {i : StoreEvent × Nat} (h : Owned limits t)
    (hstep : (idempotencyStore limits).step t i = some state) : Owned limits state := by
  obtain ⟨event, now⟩ := i
  cases event with
  | call idempotencyKey fingerprint => exact h.started idempotencyKey fingerprint now hstep
  | completed call response =>
    obtain ⟨key, hrunning, rfl⟩ := Option.map_eq_some_iff.mp hstep
    exact h.completed hrunning response now
  | failed call =>
    obtain ⟨key, hrunning, rfl⟩ := Option.map_eq_some_iff.mp hstep
    exact h.failed hrunning
  | sweep =>
    cases hstep
    exact h.trim (h.accounted.removeExpiredRecords now)
  | clear =>
    cases hstep
    exact h.clear

/-! ## 6. The store -/

theorem sum_fulfilled {records : List Record}
    (h : ∀ record ∈ records, record.isFulfilled = false → record.responseBytes = 0) :
    ((records.filter Record.isFulfilled).map Record.responseBytes).sum =
      (records.map Record.responseBytes).sum := by
  induction records with
  | nil => rfl
  | cons record records ih =>
    have hrest := ih fun r hr => h r (List.mem_cons_of_mem _ hr)
    cases hstate : record.isFulfilled with
    | true => simp [List.filter_cons_of_pos hstate, hrest]
    | false =>
      have hnone := h record List.mem_cons_self hstate
      simp [List.filter_cons_of_neg (Bool.eq_false_iff.mp hstate), hrest, hnone]

/-- The event is the end of the execution of the call. -/
def StoreEvent.Ends (call : CallId) : StoreEvent → Prop
  | .completed ended _ | .failed ended => ended = call
  | .call _ _ | .sweep | .clear => False

/-- In every run the counter is the sum over the fulfilled records and within the budget,
the records are within their limit, a key has one record at most, owned by a running
execution for the key while it is pending, and the end of an execution that owns no record
of the store changes nothing. -/
theorem store_accounted (h : (idempotencyStore limits).Reach Machine.Anything t) :
    (t.store.storedResponseBytes =
        ((t.store.records.filter Record.isFulfilled).map Record.responseBytes).sum ∧
      t.store.storedResponseBytes ≤ limits.maxBytes) ∧
    t.store.records.length ≤ limits.maxRecords ∧
    ((t.store.records.map Record.key).Nodup ∧
      ∀ record ∈ t.store.records, record.isFulfilled = false →
        t.running.hget record.owner = some record.key) ∧
    ∀ call, (∀ record ∈ t.store.records, record.owner ≠ call) →
      ∀ event now state, event.Ends call →
        (idempotencyStore limits).step t (event, now) = some state → state.store = t.store := by
  have hs : Owned limits t := by
    refine h.invariant ?_ fun s i s' hs _ hstep => step_owned hs hstep
    rintro s rfl
    refine ⟨⟨?_, ?_, ?_, rfl, Nat.zero_le _, Nat.zero_le _⟩, ?_, ?_, ?_, ?_⟩
    all_goals simp
  refine ⟨⟨?_, hs.accounted.withinBytes⟩, hs.accounted.withinRecords,
    ⟨hs.accounted.keys, hs.pending⟩, fun call hgone event now state hends hstep => ?_⟩
  · rw [hs.accounted.counter, sum_fulfilled hs.accounted.pendingBytes]
  · have hstale : ∀ key, t.store.isCurrent key call = false := by
      intro key
      by_contra hcurrent
      rw [Bool.not_eq_false, isCurrent_iff hs.accounted] at hcurrent
      obtain ⟨record, hrecord, -, howner⟩ := hcurrent
      exact hgone record hrecord howner
    cases event with
    | call _ _ | sweep | clear => cases hends
    | completed ended response =>
      cases hends
      obtain ⟨key, -, rfl⟩ := Option.map_eq_some_iff.mp hstep
      simp [Store.completed, Store.deleteCurrent, hstale key]
    | failed ended =>
      cases hends
      obtain ⟨key, -, rfl⟩ := Option.map_eq_some_iff.mp hstep
      simp [Store.deleteCurrent, hstale key]

def searchResponse : SearchResponse :=
  { searchId := some "s1", json := some "\x7b\"searchId\":\"s1\"\x7d" }

/-- A second call of the key comes when the record of the first has just expired. -/
def supersededRun : List (StoreEvent × Nat) :=
  [(.call "0123456789abcdef" (.ok "f"), 0), (.call "0123456789abcdef" (.ok "f"), 1500000)]

/-- The first execution ends late and changes nothing. -/
theorem store_accounted_superseded : ∃ s,
    (idempotencyStore {}).Reach Machine.Anything s ∧
      s.store.records.map Record.owner = [1] ∧ s.store.storedResponseBytes ≤ 64 * 1024 * 1024 ∧
      ∀ state, (idempotencyStore {}).step s (.completed 0 searchResponse, 1500001) = some state →
        state.store = s.store := by
  have hrun : ((idempotencyStore {}).exec Machine.Anything {} supersededRun).map
      (fun s => s.store.records.map Record.owner) = some [1] := by decide +kernel
  obtain ⟨s, hs, howners⟩ := Machine.Reach.of_exec_map supersededRun rfl hrun
  obtain ⟨⟨-, hbytes⟩, -, -, hstale⟩ := store_accounted hs
  refine ⟨s, hs, howners, hbytes, fun state hstep =>
    hstale 0 ?_ (.completed 0 searchResponse) _ state rfl hstep⟩
  intro record hrecord howner
  have hmem := List.mem_map_of_mem (f := Record.owner) hrecord
  simp [howners, howner] at hmem

/-- The execution of an expired record that has not been swept still stores its response. -/
theorem expired_completion_counts :
    ¬∀ (limits : Limits) (t : System), (idempotencyStore limits).Reach Machine.Anything t →
      ∀ call now, (∀ record ∈ t.store.records, record.owner = call → record.expiresAt ≤ now) →
        ∀ (event : StoreEvent) (state : System), event.Ends call →
          (idempotencyStore limits).step t (event, now) = some state →
            state.store.storedResponseBytes = t.store.storedResponseBytes := by
  intro hclaim
  let before : System :=
    { store := { records := [{ key := "0123456789abcdef", owner := 0, fingerprint := "f"
                               expiresAt := 1500000 }] }
      executions := 1
      running := Hash.hset ∅ 0 "0123456789abcdef" }
  have hrun : (idempotencyStore {}).exec Machine.Anything {}
      [(.call "0123456789abcdef" (.ok "f"), 0)] = some before := by decide +kernel
  have hreach := Machine.Reach.of_exec _ rfl hrun
  have hlate : ((idempotencyStore {}).step before (.completed 0 searchResponse, 1500001)).map
      (fun state => state.store.storedResponseBytes) = some 17 := by decide +kernel
  obtain ⟨state, hstep, hbytes⟩ := Option.map_eq_some_iff.mp hlate
  have hsame := hclaim {} before hreach 0 1500001 (by decide)
    (.completed 0 searchResponse) state rfl hstep
  rw [hbytes] at hsame
  exact absurd hsame (by decide)

end SmartStay.Idempotency.InMemory
