import SmartStay.Idempotency.Scripts
import SmartStay.Lib.Command
import SmartStay.Lib.Text
import SmartStay.Shared

/-!
# Idempotent execution

`executeInitialSearchIdempotently` as a program of store commands: claim, then read a
stored response, or wait for one, or run `execute` and complete or release. Any number of
calls under any keys interleave.

1. Settings, keys and errors.
2. `Phase`: where a call stands, and the decisions between two commands.
3. `System`, `Event`, `step`: the interleavings, with the executions that produced a
   response.
-/

namespace SmartStay.Idempotency

/-! ## 1. Settings, keys and errors -/

/-- The settings of `createValkeySearchIdempotencyStore`. `recordKey` is the keyed digest
that names the record of a key, `byteLength` the size of the JSON text of a response. -/
structure Settings extends Limits where
  pendingWaitMs : Nat
  maxResponseBytes : Nat
  recordKey : String → Key
  byteLength : Response → Nat

def idempotencyKeyRequired : StoreError :=
  { code := "IDEMPOTENCY_KEY_REQUIRED"
    message := "Idempotency-Key is required for hotel searches."
    status := 400 }

def idempotencyKeyInvalid : StoreError :=
  { code := "IDEMPOTENCY_KEY_INVALID"
    message := "Idempotency-Key is invalid."
    status := 400 }

def idempotencyKeyConflict : StoreError :=
  { code := "IDEMPOTENCY_KEY_CONFLICT"
    message := "This Idempotency-Key was already used for a different hotel search."
    status := 409 }

def idempotencyCapacityReached : StoreError :=
  { code := "IDEMPOTENCY_CAPACITY_REACHED"
    message :=
      "Hotel search is temporarily unable to accept another request. Please try again shortly."
    status := 503
    retryable := true
    retryAfterMs := some 500 }

def idempotencyPendingTimeout : StoreError :=
  { code := "IDEMPOTENCY_PENDING_TIMEOUT"
    message :=
      "The original hotel search is still being processed. Please try again shortly."
    status := 503
    retryable := true
    retryAfterMs := some 500 }

/-- The error for a claim that is neither refused nor created. -/
def recordNotCreated : StoreError :=
  { code := "OPERATIONAL_STATE_RECORD_INVALID"
    message := "Shared idempotency state could not be created safely."
    status := 503 }

/-- The error for a fulfilled record without its response. -/
def responseUnavailable : StoreError :=
  { code := "OPERATIONAL_STATE_RECORD_INVALID"
    message := "Shared idempotency response is unavailable."
    status := 503 }

def concurrentUpdate : StoreError :=
  { code := "OPERATIONAL_STATE_CONCURRENT_UPDATE"
    message := "Shared idempotency state changed concurrently."
    status := 503
    retryable := true
    retryAfterMs := some 250 }

/-- A character of `[A-Za-z0-9._~:-]`. -/
def isKeyChar (c : Char) : Bool :=
  c.isAlphanum || c == '.' || c == '_' || c == '~' || c == ':' || c == '-'

/-- `validateIdempotencyKey`. -/
def validateIdempotencyKey (value : String) : Except StoreError String :=
  let key := JsText.trim value
  if key = "" then .error idempotencyKeyRequired
  else if key.length < 16 ∨ 128 < key.length ∨ ¬ key.toList.all isKeyChar then
    .error idempotencyKeyInvalid
  else .ok key

/-! ## 2. Where a call stands -/

/-- The value a call returns; a `response` of `none` is `null`. -/
structure ExecutionResult where
  response : Option Produced
  replayed : Bool
  coalesced : Bool
deriving DecidableEq, Repr

/-- What `readFulfilledResponse` finds; `unavailable` is its exception. -/
inductive Stored
  | missing | pending | fulfilled (response : Produced) | unavailable
deriving DecidableEq, Repr

/-- What a call does next, or how it ended. `readFulfilled` follows the outcome
`fulfilled`, `waiting` the outcome `pending`; `executing` is the run of its `execute`. -/
inductive Phase
  | claim (attempt : Nat)
  | readFulfilled (attempt : Nat)
  | waiting (attempt deadline : Nat)
  | executing
  | complete (response : Produced)
  | releaseAndReturn (response : Produced)
  | releaseAndThrow (error : StoreError)
  | returned (result : ExecutionResult)
  | threw (error : StoreError)
deriving DecidableEq, Repr

/-- `continue` in the loop over three attempts. -/
def retry (attempt : Nat) : Phase :=
  if attempt + 1 < 3 then .claim (attempt + 1) else .threw idempotencyPendingTimeout

/-- The decision on the outcome of a claim. -/
def afterClaim (cfg : Settings) (attempt now : Nat) : ClaimOutcome → Phase
  | .conflict => .threw idempotencyKeyConflict
  | .capacity => .threw idempotencyCapacityReached
  | .fulfilled => .readFulfilled attempt
  | .pending => .waiting attempt (now + cfg.pendingWaitMs)
  | .created => .executing
  | .recordTooLarge | .looping => .threw recordNotCreated

/-- `readFulfilledResponse`: one `MGET` of the record and the response. -/
def readFulfilledResponse (st : StoreState) (key responseKey : Key) (now : Nat) : Stored :=
  match st.records.get now key with
  | none => .missing
  | some record =>
    if record.isFulfilled then
      match st.responses.get now responseKey with
      | some response => .fulfilled response
      | none => .unavailable
    else .pending

/-- The decision after the outcome `fulfilled`: only `missing` is looked at. -/
def afterReadFulfilled (attempt : Nat) : Stored → Phase
  | .missing => retry attempt
  | .pending => .returned { response := none, replayed := true, coalesced := false }
  | .fulfilled response =>
    .returned { response := some response, replayed := true, coalesced := false }
  | .unavailable => .threw responseUnavailable

/-- One round of `waitForCompletion`. -/
def afterPoll (attempt deadline : Nat) : Stored → Phase
  | .missing => retry attempt
  | .pending => .waiting attempt deadline
  | .fulfilled response =>
    .returned { response := some response, replayed := false, coalesced := true }
  | .unavailable => .threw responseUnavailable

/-- The owner returns its own response. -/
def ownResult (response : Produced) : Phase :=
  .returned { response := some response, replayed := false, coalesced := false }

/-- The owner goes on from the end of its `execute`. -/
def afterExecute (cfg : Settings) (response : Produced) : Phase :=
  if JsText.trim response.response.searchId = "" then .releaseAndReturn response
  else if cfg.maxResponseBytes < cfg.byteLength response.response then .releaseAndReturn response
  else .complete response

/-- The decision on the outcome of the complete script. -/
def afterComplete (response : Produced) : CompleteOutcome → Phase
  | .ok => ownResult response
  | .aggregateCapacity | .recordTooLarge => .releaseAndReturn response
  | .missing | .notOwner | .looping => .releaseAndThrow concurrentUpdate

/-! ## 3. The system -/

/-- A call of `executeInitialSearchIdempotently`. -/
structure Call where
  key : Key
  fingerprint : Fingerprint
  ownerToken : OwnerToken
  phase : Phase
deriving DecidableEq, Repr

/-- The store, the calls, the owner tokens minted so far and the responses that `execute`
callbacks have produced, newest first. -/
structure System where
  clock : Nat
  store : StoreState
  calls : Hash CallId Call
  minted : List OwnerToken
  executions : List Produced
deriving DecidableEq

def System.empty : System := ⟨0, .empty, ∅, [], []⟩

/-- One command of a call: the store and the phase after it. A call that runs `execute` or
has ended sends no command. The response key of a record is named after its key. -/
def commandEffect (cfg : Settings) (st : StoreState) (call : Call) (fate : Fate) (now : Nat) :
    Option (StoreState × Phase) :=
  let unavailable := createOperationalStateUnavailableError
  match call.phase with
  | .claim attempt =>
    let r := claimScript cfg.toLimits st call.key call.key call.fingerprint call.ownerToken now
    some (fate.effect st r.1, fate.reply (afterClaim cfg attempt now r.2) (.threw unavailable))
  | .readFulfilled attempt =>
    some (st, fate.reply (afterReadFulfilled attempt
      (readFulfilledResponse st call.key call.key now)) (.threw unavailable))
  | .waiting attempt deadline =>
    if now < deadline then
      some (st, fate.reply (afterPoll attempt deadline
        (readFulfilledResponse st call.key call.key now)) (.threw unavailable))
    else some (st, .threw idempotencyPendingTimeout)
  | .complete response =>
    let r := completeScript cfg.toLimits st call.key call.key call.ownerToken call.fingerprint
      (JsText.trim response.response.searchId) (cfg.byteLength response.response) response now
    some (fate.effect st r.1,
      fate.reply (afterComplete response r.2) (.releaseAndThrow unavailable))
  | .releaseAndReturn response =>
    some (fate.effect st (releaseScript st call.key call.key call.ownerToken now).1,
      fate.reply (ownResult response) (.releaseAndThrow unavailable))
  | .releaseAndThrow error =>
    some (fate.effect st (releaseScript st call.key call.key call.ownerToken now).1,
      fate.reply (.threw error) (.threw unavailable))
  | .executing | .returned _ | .threw _ => none

/-- A move of the system. `executed` ends the `execute` of an owner, with its response or
with the error it threw. -/
inductive Event
  | start (c : CallId) (idempotencyKey : String) (fingerprint : Fingerprint)
      (ownerToken : OwnerToken)
  | command (c : CallId) (fate : Fate) (now : Nat)
  | executed (c : CallId) (outcome : Except StoreError Response)
  | stats (now : Nat)

/-- One step. A call id is used once, an owner token is new, and times do not decrease. -/
def step (cfg : Settings) (s : System) : Event → Option System
  | .start c idempotencyKey fingerprint ownerToken =>
    if c ∈ s.calls ∨ ownerToken ∈ s.minted then none
    else
      match validateIdempotencyKey idempotencyKey with
      | .error _ => none
      | .ok key =>
        some { s with
          calls := s.calls.hset c ⟨cfg.recordKey key, fingerprint, ownerToken, .claim 0⟩
          minted := ownerToken :: s.minted }
  | .command c fate now =>
    if now < s.clock then none
    else
      (s.calls.hget c).bind fun call =>
        (commandEffect cfg s.store call fate now).map fun r =>
          { s with
            clock := now, store := r.1, calls := s.calls.hset c { call with phase := r.2 } }
  | .executed c outcome =>
    (s.calls.hget c).bind fun call =>
      if call.phase ≠ .executing then none
      else
        match outcome with
        | .error error =>
          some { s with calls := s.calls.hset c { call with phase := .releaseAndThrow error } }
        | .ok response =>
          let produced : Produced := ⟨c, call.key, call.fingerprint, response⟩
          some { s with
            calls := s.calls.hset c { call with phase := afterExecute cfg produced }
            executions := produced :: s.executions }
  | .stats now =>
    if now < s.clock then none
    else some { s with clock := now, store := (statsScript s.store now).1 }

/-- The runs of the system from the empty store. -/
def system (cfg : Settings) : Machine System Event where
  init s := s = .empty
  step := step cfg

end SmartStay.Idempotency
