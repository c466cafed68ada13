import SmartStay.Lib.Command
import SmartStay.Lib.Text
import SmartStay.Queue.AdmissionScripts

/-!
# Concurrent `admitSearch` calls and worker attempts

The system around the admission scripts: any number of `admitSearch` calls, the queue
with at most one stored job per job id, and the worker attempts that the queue
delivers. A call is a program of store and queue commands; one step of the system is
one command of one call or attempt, or a move of the queue.

1. Requests, their checks, and the errors a call throws.
2. `Phase`: where a call stands, and the decisions between two commands.
3. `System`, `Event`, `step`: the interleavings. A command may fail with its effect
   applied or not (`Fate`).
-/

namespace SmartStay.Queue

/-! ## 1. Requests -/

/-- The fields of a `SearchQueueError`. -/
structure SearchQueueError where
  code : String
  message : String
  status : Nat := 503
  retryable : Bool := true
  retryAfterMs : Option Nat := none
deriving DecidableEq, Repr

/-- The settings that admission reads. `searchDigest` stands for the keyed digest in
`createSearchJobId`. -/
structure QueueConfig where
  admissionLeaseMs : Nat
  maxAdmittedJobs : Nat
  jobPayloadMaxBytes : Nat
  retryAfterMs : Nat
  searchDigest : String → String

def createSearchQueueUnavailableError (cfg : QueueConfig) : SearchQueueError :=
  { code := "SEARCH_QUEUE_UNAVAILABLE"
    message := "Hotel search is temporarily unavailable. Please try again shortly."
    retryAfterMs := some cfg.retryAfterMs }

def createSearchQueueCapacityError (cfg : QueueConfig) : SearchQueueError :=
  { code := "SEARCH_CAPACITY_TEMPORARILY_EXHAUSTED"
    message := "Hotel search capacity is temporarily full. Please try again shortly."
    retryAfterMs := some cfg.retryAfterMs }

def idempotencyKeyConflict : SearchQueueError :=
  { code := "IDEMPOTENCY_KEY_CONFLICT"
    message := "This Idempotency-Key was already used for a different hotel search."
    status := 409
    retryable := false }

/-- `SEARCH_QUEUE_PRIORITIES.INITIAL_SEARCH`. -/
def initialSearchPriority : Nat := 5

/-- `SEARCH_QUEUE_JOB_NAMES.INITIAL_SEARCH`. -/
def initialSearchJobName : String := "initial-search"

/-- The arguments of `admitSearch`. Of the payload only the size of its JSON text is
read, `none` when it has no JSON text. -/
structure AdmissionRequest where
  idempotencyKey : String
  searchId : String
  payloadBytes : Option Nat
  payloadFingerprint : String
  priority : Nat := initialSearchPriority
deriving DecidableEq, Repr

/-- `/^[a-f0-9]{64}$/`. -/
def isPayloadFingerprint (text : String) : Bool :=
  text.toList.length == 64 && text.toList.all JsText.isLowerHex

/-- `normalizeText(payloadFingerprint).toLowerCase()`; only ASCII letters matter to
the test that follows. -/
def normalizeFingerprint (text : String) : String := JsText.toLowerCase (JsText.trim text)

/-- `createSearchJobId`. -/
def createSearchJobId (cfg : QueueConfig) (idempotencyKey : String) :
    Except SearchQueueError JobId :=
  let normalizedKey := JsText.trim idempotencyKey
  if normalizedKey = "" then
    .error
      { code := "IDEMPOTENCY_KEY_REQUIRED"
        message := "Idempotency-Key is required for queued hotel searches."
        status := 400
        retryable := false }
  else .ok ("search-" ++ cfg.searchDigest normalizedKey)

/-- What an `admitSearch` call works with once its arguments are checked. -/
structure Admission where
  jobId : JobId
  searchId : SearchId
  payloadFingerprint : Fingerprint
  requestedAdmissionToken : AdmissionToken
deriving DecidableEq, Repr

/-- The checks of `admitSearch` before its first command, in source order. The token
is the value of `crypto.randomUUID()`. -/
def checkAdmission (cfg : QueueConfig) (request : AdmissionRequest) (token : AdmissionToken) :
    Except SearchQueueError Admission :=
  let normalizedSearchId := JsText.trim request.searchId
  let normalizedFingerprint := normalizeFingerprint request.payloadFingerprint
  if normalizedSearchId = "" then
    .error
      { code := "SEARCH_ID_REQUIRED"
        message := "A searchId is required before queue admission."
        status := 400
        retryable := false }
  else if ¬ isPayloadFingerprint normalizedFingerprint then
    .error
      { code := "IDEMPOTENCY_PAYLOAD_INVALID"
        message := "Hotel search payload fingerprint is invalid."
        status := 400
        retryable := false }
  else if request.priority ≠ initialSearchPriority then
    .error
      { code := "SEARCH_QUEUE_PRIORITY_INVALID"
        message := "Queued search priority is invalid."
        status := 500
        retryable := false }
  else do
    let jobId ← createSearchJobId cfg request.idempotencyKey
    match request.payloadBytes with
    | some bytes =>
      if bytes ≤ cfg.jobPayloadMaxBytes then
        return ⟨jobId, normalizedSearchId, normalizedFingerprint, token⟩
      else .error payloadInvalid
    | none => .error payloadInvalid
where
  payloadInvalid : SearchQueueError :=
    { code := "SEARCH_QUEUE_PAYLOAD_INVALID"
      message := "The queued search payload is invalid or too large."
      status := 413
      retryable := false }

/-! ## 2. Where a call stands -/

/-- The states in which the queue can hold a job; `unknown` is its answer for a job
that is gone. -/
inductive JobState
  | active | delayed | paused | prioritized | waiting | waitingChildren
  | completed | failed | unknown
deriving DecidableEq, Repr

/-- `["completed", "failed"].includes(storedState)`. -/
def JobState.isTerminal : JobState → Bool
  | .completed | .failed => true
  | _ => false

/-- The states in which a retained job is adopted. -/
def JobState.isAdoptable : JobState → Bool
  | .active | .delayed | .paused | .prioritized | .waiting | .waitingChildren => true
  | _ => false

/-- A job of the queue: its name and the fields of its data that `admitSearch` and the
worker read. -/
structure StoredJob where
  name : String
  searchId : SearchId
  admissionToken : AdmissionToken
  payloadFingerprint : Fingerprint
  state : JobState
deriving DecidableEq, Repr

/-- `reservation`. -/
structure Reservation where
  created : Bool
  searchId : SearchId
  admissionToken : AdmissionToken
deriving DecidableEq, Repr

/-- The normalised ids of the stored job. -/
structure StoredIds where
  searchId : SearchId
  admissionToken : AdmissionToken
deriving DecidableEq, Repr

/-- The value `admitSearch` returns. -/
structure AdmissionResult where
  jobId : JobId
  searchId : SearchId
  admissionToken : AdmissionToken
  priority : Nat
  replayed : Bool
deriving DecidableEq, Repr

/-- The command a call runs next, or how it ended. `cleanup` is the catch block of a
call that created its reservation. -/
inductive Phase
  | reserve
  | addJob (reservation : Reservation)
  | getJob (reservation : Reservation)
  | getState (reservation : Reservation) (stored : StoredIds)
  | adopt (reservation : Reservation) (stored : StoredIds)
  | releaseTerminal (reservation : Reservation) (stored : StoredIds)
  | cleanup (reservation : Reservation) (error : SearchQueueError)
  | admitted (result : AdmissionResult)
  | threw (error : SearchQueueError)
deriving DecidableEq, Repr

/-- An exception before `reservation` is set. -/
def failEarly (error : SearchQueueError) : Phase := .threw error

/-- An exception once `reservation` is set. -/
def fail (reservation : Reservation) (error : SearchQueueError) : Phase :=
  if reservation.created then .cleanup reservation error else .threw error

/-- The reply of the reservation script decides how the call goes on. -/
def afterReserve (cfg : QueueConfig) : ReserveReply → Phase
  | .full => failEarly (createSearchQueueCapacityError cfg)
  | .conflict => failEarly idempotencyKeyConflict
  | .created searchId token => .addJob ⟨true, searchId, token⟩
  | .existing searchId token => .addJob ⟨false, searchId, token⟩

/-- The successful return; `retained` is `retainedExistingJob`. -/
def admittedPhase (jobId : JobId) (reservation : Reservation) (stored : StoredIds)
    (retained : Bool) : Phase :=
  .admitted
    { jobId := jobId
      searchId := stored.searchId
      admissionToken := stored.admissionToken
      priority := initialSearchPriority
      replayed := !reservation.created || retained }

/-- The checks on the job that `queue.getJob` returned. -/
def afterGetJob (cfg : QueueConfig) (admission : Admission) (reservation : Reservation) :
    Option StoredJob → Phase
  | none => fail reservation (createSearchQueueUnavailableError cfg)
  | some job =>
    let stored : StoredIds := ⟨JsText.trim job.searchId, JsText.trim job.admissionToken⟩
    let storedFingerprint := normalizeFingerprint job.payloadFingerprint
    if job.name ≠ initialSearchJobName ∨ stored.searchId = "" ∨ stored.admissionToken = "" ∨
        ¬ isPayloadFingerprint storedFingerprint then
      fail reservation (createSearchQueueUnavailableError cfg)
    else if storedFingerprint ≠ admission.payloadFingerprint then
      fail reservation idempotencyKeyConflict
    else if stored.searchId ≠ reservation.searchId ∨
        stored.admissionToken ≠ reservation.admissionToken then
      .getState reservation stored
    else admittedPhase admission.jobId reservation stored false

/-- The state of a retained job decides between adoption and release. -/
def afterGetState (cfg : QueueConfig) (reservation : Reservation) (stored : StoredIds)
    (state : JobState) : Phase :=
  if state.isTerminal then .releaseTerminal reservation stored
  else if state.isAdoptable then .adopt reservation stored
  else fail reservation (createSearchQueueUnavailableError cfg)

/-- The reply of the adoption or terminal release script. -/
def afterRetained (cfg : QueueConfig) (admission : Admission) (reservation : Reservation)
    (stored : StoredIds) (done : Bool) : Phase :=
  if done then admittedPhase admission.jobId { reservation with created := false } stored true
  else fail reservation (createSearchQueueUnavailableError cfg)

/-! ## 3. The system -/

abbrev CallId := Nat
abbrev AttemptId := Nat

/-- An `admitSearch` call. -/
structure Call where
  admission : Admission
  phase : Phase
deriving DecidableEq, Repr

/-- A worker attempt: the data of the job it was given, and the fence it holds. -/
structure Attempt where
  jobId : JobId
  searchId : SearchId
  admissionToken : AdmissionToken
  fence : Option Nat
deriving DecidableEq, Repr

/-- A begin script that replied `ok`; `answered` when the reply reached the worker. -/
structure Begin where
  jobId : JobId
  admissionToken : AdmissionToken
  fencingNumber : Nat
  answered : Bool
deriving DecidableEq, Repr

/-- The stores, the calls and attempts in flight, the tokens minted so far and the
begins so far, newest first. -/
structure System where
  clock : Nat
  admission : AdmissionState
  jobs : Hash JobId StoredJob
  calls : Hash CallId Call
  attempts : Hash AttemptId Attempt
  minted : List AdmissionToken
  begins : List Begin
deriving DecidableEq

def System.empty : System := ⟨0, .empty, ∅, ∅, ∅, [], []⟩

/-- `queue.add` keeps a job that is already stored under the id. -/
def addStoredJob (jobs : Hash JobId StoredJob) (admission : Admission)
    (reservation : Reservation) : Hash JobId StoredJob :=
  if admission.jobId ∈ jobs then jobs
  else
    jobs.hset admission.jobId
      { name := initialSearchJobName, searchId := reservation.searchId
        admissionToken := reservation.admissionToken
        payloadFingerprint := admission.payloadFingerprint, state := .prioritized }

/-- The state the queue answers for a job id. -/
def storedState (jobs : Hash JobId StoredJob) (jobId : JobId) : JobState :=
  ((jobs.hget jobId).map StoredJob.state).getD .unknown

/-- One command of an `admitSearch` call: the admission state, the jobs and the phase
after it. A finished call runs no command. -/
def commandEffect (cfg : QueueConfig) (st : AdmissionState) (jobs : Hash JobId StoredJob)
    (call : Call) (fate : Fate) (now : Nat) :
    Option (AdmissionState × Hash JobId StoredJob × Phase) :=
  let admission := call.admission
  let jobId := admission.jobId
  let unavailable := createSearchQueueUnavailableError cfg
  match call.phase with
  | .reserve =>
    let r := reserveAdmission st jobId admission.searchId admission.requestedAdmissionToken now
      cfg.admissionLeaseMs cfg.maxAdmittedJobs admission.payloadFingerprint
    some (fate.effect st r.1, jobs, fate.reply (afterReserve cfg r.2) (failEarly unavailable))
  | .addJob reservation =>
    some (st, fate.effect jobs (addStoredJob jobs admission reservation),
      fate.reply (.getJob reservation) (fail reservation unavailable))
  | .getJob reservation =>
    some (st, jobs, fate.reply (afterGetJob cfg admission reservation (jobs.hget jobId))
      (fail reservation unavailable))
  | .getState reservation stored =>
    some (st, jobs, fate.reply (afterGetState cfg reservation stored (storedState jobs jobId))
      (fail reservation unavailable))
  | .adopt reservation stored =>
    let r := adoptStoredReservation st jobId reservation.admissionToken stored.searchId
      stored.admissionToken admission.payloadFingerprint now cfg.admissionLeaseMs
    some (fate.effect st r.1, jobs,
      fate.reply (afterRetained cfg admission reservation stored r.2) (fail reservation unavailable))
  | .releaseTerminal reservation stored =>
    let r := releaseTerminalReservation st jobId reservation.admissionToken
    some (fate.effect st r.1, jobs,
      fate.reply (afterRetained cfg admission reservation stored r.2) (fail reservation unavailable))
  | .cleanup reservation error =>
    let r := releaseAdmission st jobId reservation.admissionToken 0
    -- The catch block swallows a failed release and rethrows the first error.
    some (fate.effect st r.1, jobs, .threw error)
  | .admitted _ | .threw _ => none

/-- A move of the system. -/
inductive Event
  | admitSearch (c : CallId) (request : AdmissionRequest) (token : AdmissionToken)
  | command (c : CallId) (fate : Fate) (now : Nat)
  | moveJob (jobId : JobId) (state : JobState)
  | removeJob (jobId : JobId)
  | deliver (a : AttemptId) (jobId : JobId)
  | begin (a : AttemptId) (fate : Fate) (now : Nat)
  | renew (a : AttemptId) (fate : Fate) (now : Nat)
  | release (a : AttemptId) (fate : Fate)
  | snapshot (now : Nat)
deriving DecidableEq, Repr

/-- `beginSearchExecution` of an attempt: the state, the fence the attempt goes on with
and the begin that happened. -/
def beginEffect (cfg : QueueConfig) (st : AdmissionState) (attempt : Attempt) (fate : Fate)
    (now : Nat) : AdmissionState × Option Nat × List Begin :=
  let r := beginExecution st attempt.jobId attempt.admissionToken now cfg.admissionLeaseMs
  match fate, r.2 with
  | .lost, _ => (st, none, [])
  | .answered, .ok fence _ =>
    (r.1, some fence, [⟨attempt.jobId, attempt.admissionToken, fence, true⟩])
  | .unanswered, .ok fence _ =>
    (r.1, none, [⟨attempt.jobId, attempt.admissionToken, fence, false⟩])
  | _, _ => (r.1, none, [])

/-- One step. A call id and an attempt id are used once, a minted token is new, and
times do not decrease. -/
def step (cfg : QueueConfig) (s : System) : Event → Option System
  | .admitSearch c request token =>
    if c ∈ s.calls ∨ token ∈ s.minted ∨ JsText.trim token ≠ token then none
    else
      match checkAdmission cfg request token with
      | .ok admission =>
        some { s with calls := s.calls.hset c ⟨admission, .reserve⟩, minted := token :: s.minted }
      | .error _ => none
  | .command c fate now =>
    if now < s.clock then none
    else
      (s.calls.hget c).bind fun call =>
        (commandEffect cfg s.admission s.jobs call fate now).map fun r =>
          { s with
            clock := now, admission := r.1, jobs := r.2.1
            calls := s.calls.hset c { call with phase := r.2.2 } }
  | .moveJob jobId state =>
    (s.jobs.hget jobId).map fun job =>
      { s with jobs := s.jobs.hset jobId { job with state := state } }
  | .removeJob jobId =>
    (s.jobs.hget jobId).bind fun job =>
      if job.state.isTerminal then some { s with jobs := s.jobs.hdel jobId } else none
  | .deliver a jobId =>
    if a ∈ s.attempts then none
    else
      (s.jobs.hget jobId).bind fun job =>
        if job.state.isTerminal then none
        else
          some { s with
            jobs := s.jobs.hset jobId { job with state := .active }
            attempts := s.attempts.hset a
              ⟨jobId, JsText.trim job.searchId, JsText.trim job.admissionToken, none⟩ }
  | .begin a fate now =>
    if now < s.clock then none
    else
      (s.attempts.hget a).bind fun attempt =>
        if attempt.fence ≠ none then none
        else
          let r := beginEffect cfg s.admission attempt fate now
          some { s with
            clock := now, admission := r.1
            attempts := s.attempts.hset a { attempt with fence := r.2.1 }
            begins := r.2.2 ++ s.begins }
  | .renew a fate now =>
    if now < s.clock then none
    else
      (s.attempts.hget a).bind fun attempt =>
        attempt.fence.map fun fence =>
          { s with
            clock := now
            admission := fate.effect s.admission (renewAdmission s.admission attempt.jobId
              attempt.admissionToken fence now cfg.admissionLeaseMs).1 }
  | .release a fate =>
    (s.attempts.hget a).bind fun attempt =>
      attempt.fence.map fun fence =>
        { s with
          admission := fate.effect s.admission
            (releaseAdmission s.admission attempt.jobId attempt.admissionToken fence).1 }
  | .snapshot now =>
    if now < s.clock then none
    else some { s with clock := now, admission := (admissionSnapshot s.admission now).1 }

/-- The runs of the system from the empty stores. -/
def system (cfg : QueueConfig) : Machine System Event where
  init s := s = .empty
  step := step cfg

/-! ## 4. A deployment -/

/-- Settings within the limits of the queue configuration, with one fixed digest. -/
def sampleConfig : QueueConfig where
  admissionLeaseMs := 1000
  maxAdmittedJobs := 10
  jobPayloadMaxBytes := 4096
  retryAfterMs := 500
  searchDigest _ := "5f1d7a84e0c92b36a7d4f8093b6ce15d2a90476fbe83d1c5604a97e2f38b0cd1"

/-- The job id of every request to `sampleConfig`. -/
def sampleJobId : JobId :=
  "search-5f1d7a84e0c92b36a7d4f8093b6ce15d2a90476fbe83d1c5604a97e2f38b0cd1"

/-- A request under one idempotency key and one payload. -/
def sampleRequest (searchId : SearchId) : AdmissionRequest where
  idempotencyKey := "checkout-42"
  searchId := searchId
  payloadBytes := some 312
  payloadFingerprint := "9c2e41b07fd85a63e1904bc7d26f38a5b07c91ed54fa2836c0d17b9ef4a86325"

end SmartStay.Queue
