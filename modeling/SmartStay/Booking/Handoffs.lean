import SmartStay.Booking.Recheck
import SmartStay.Lib.ExpiryIndex
import SmartStay.Lib.Run

/-!
# The shared booking stores

`server/state/valkey/valkeyBookingStores.js` with `prepareBookingHandoff` and
`resolveBookingHandoff` of `bookingHandoffService.js`, as a machine whose inputs are the steps of
any number of calls by any number of processes. A command that was sent is applied at any later
time or never, and its caller may have given up before.

1. Settings, records, `getSafeRedirectUrl`.
2. Requests, commands and the phases of a call.
3. `runCommand`: a command on the store and the phase of a call that sees its reply.
4. `bookingMachine`.

The keys of the two kinds of records differ, and the keys of one kind as their ids do. A record
carries the call that wrote it, which no code reads.
-/

namespace SmartStay.Booking

/-! ## 1. Records -/

/-- The record under a verification id; `verification` holds what the caller gave. -/
structure VerificationRecord where
  verificationId : String
  verification : Verification
  createdAt : Nat
  expiresAt : Nat
deriving DecidableEq

/-- The record under a handoff id. -/
structure HandoffRecord where
  handoffId : String
  verificationId : String
  sourceProvider : Option String
  redirectUrl : String
  createdAt : Nat
  expiresAt : Nat
deriving DecidableEq

/-- What `new URL` returns. -/
structure Url where
  protocol : String
  hostname : String
  username : String
  password : String
  href : String

/-- The settings of the stores after their normalisation, the URL parser, the size limit on
    serialized records, and the registered providers. -/
structure BookingSettings where
  verificationTtlMs : Nat := 600000
  handoffTtlMs : Nat := 300000
  maxBookingVerifications : Nat := 2000
  maxBookingHandoffs : Nat := 2000
  parseUrl : String → Option Url
  verificationFits : VerificationRecord → Bool
  handoffFits : HandoffRecord → Bool
  getProvider : String → Option Provider

section
variable (cfg : BookingSettings)

def getSafeRedirectUrl (value : String) : Option String :=
  (cfg.parseUrl (JsText.trim value)).bind fun url =>
    if url.protocol ≠ "https:" ∨ url.hostname = "" ∨ url.username ≠ "" ∨ url.password ≠ "" then none
    else some url.href

/-- `createRecord` of `saveBookingVerification`. -/
def createVerificationRecord (verification : Verification) (digits : String) (now : Nat) :
    VerificationRecord where
  verificationId := "verify-" ++ digits
  verification :=
    { verification with
      changedFields :=
        ((verification.changedFields.map JsText.trim).filter (· ≠ "")).eraseDups }
  createdAt := now
  expiresAt := now + cfg.verificationTtlMs

/-- `createRecord` of `saveBookingHandoff`. -/
def createHandoffRecord (verification : VerificationRecord) (redirectUrl digits : String)
    (now : Nat) : HandoffRecord where
  handoffId := "handoff-" ++ digits
  verificationId := verification.verificationId
  sourceProvider := verification.verification.sourceProvider
  redirectUrl := redirectUrl
  createdAt := now
  expiresAt := now + cfg.handoffTtlMs

end

/-- Eighteen random bytes in hexadecimal digits. -/
def isRandomHex (digits : String) : Bool :=
  digits.toList.length == 36 && digits.toList.all JsText.isLowerHex

/-- `/^<kind>[a-f0-9]{36}$/i`. -/
def matchesId (kind value : String) : Bool :=
  let characters := value.toList.map Char.toLower
  characters.take kind.toList.length == kind.toList &&
    (characters.drop kind.toList.length).length == 36 &&
    (characters.drop kind.toList.length).all JsText.isLowerHex

/-! ## 2. Calls -/

/-- `saveBookingVerification`, `prepareBookingHandoff` and `resolveBookingHandoff` with their
    arguments. -/
inductive Request
  | save (verification : Verification)
  | prepare (verificationId : String) (acceptChanges : Bool)
  | redeem (handoffId : String)

abbrev CallId := Nat

/-- A stored record with the call that wrote it. -/
structure Written (ν : Type) where
  writer : CallId
  record : ν
deriving DecidableEq

/-- A command on its way; `now` is the clock of the process that sent it. -/
inductive Command
  | storeVerification (record : VerificationRecord) (now : Nat)
  | readVerification (id : String)
  | storeHandoff (record : HandoffRecord) (now : Nat)
  | consumeHandoff (id : String)

/-- Where a call is. `saving` and `handing` are about to draw an id; `sending` waits for the reply
    to a command of the given attempt. -/
inductive Phase
  | saving (attempt : Nat)
  | handing (redirectUrl : String) (attempt : Nat)
  | sending (redirectUrl : String) (attempt : Nat)
  | providing
  | saved (record : VerificationRecord)
  | prepared (record : HandoffRecord)
  | redeemed (handoff : Written HandoffRecord)
  | failed (error : BookingError)

/-- A call, with the verification that it read. -/
structure Call where
  request : Request
  read : Option (Written VerificationRecord) := none
  phase : Phase

def verificationIdInvalid : BookingError :=
  ⟨"BOOKING_VERIFICATION_ID_INVALID", "The booking verification id is invalid.", 400, false⟩

def verificationExpired : BookingError :=
  ⟨"BOOKING_VERIFICATION_EXPIRED",
    "This booking verification has expired. Check the offer again.", 410, false⟩

def verificationRecordInvalid : BookingError :=
  ⟨"BOOKING_VERIFICATION_RECORD_INVALID", "Shared booking verification state is invalid.", 503,
    false⟩

def handoffIdInvalid : BookingError :=
  ⟨"BOOKING_HANDOFF_ID_INVALID", "The booking handoff id is invalid.", 400, false⟩

def handoffExpired : BookingError :=
  ⟨"BOOKING_HANDOFF_EXPIRED", "This booking handoff has expired. Check the offer again.", 410,
    false⟩

def handoffRecordInvalid : BookingError :=
  ⟨"BOOKING_HANDOFF_RECORD_INVALID", "Shared booking handoff state is invalid.", 503, false⟩

def handoffUrlInvalid : BookingError :=
  ⟨"BOOKING_HANDOFF_URL_INVALID", "The booking handoff URL is invalid.", 502, false⟩

def recordTooLarge : BookingError :=
  ⟨"BOOKING_STATE_RECORD_TOO_LARGE", "The booking state exceeds the shared-state size limit.", 503,
    false⟩

def stateUnavailable : BookingError :=
  ⟨"OPERATIONAL_STATE_UNAVAILABLE",
    "Shared operational state is temporarily unavailable. Please try again shortly.", 503, true⟩

def idCollision (kind : String) : BookingError :=
  ⟨"BOOKING_" ++ kind ++ "_ID_COLLISION", "Unable to allocate secure booking state.", 503, false⟩

def capacityReached (kind name : String) : BookingError :=
  ⟨"BOOKING_" ++ kind ++ "_CAPACITY_REACHED", "Booking " ++ name ++ " capacity has been reached.",
    503, false⟩

/-- The phase after a reply of `STORE_RECORD_SCRIPT` in `saveUniqueRecord`, which tries five ids:
    `again` is the next attempt, `done` the end. -/
def afterStore (reply : ExpiryIndex.StoreReply) (attempt : Nat) (again : Nat → Phase)
    (done : Phase) (kind name : String) : Phase :=
  match reply with
  | .ok => done
  | .capacity => .failed (capacityReached kind name)
  | .collision => if attempt + 1 < 5 then again (attempt + 1) else .failed (idCollision kind)

/-! ## 3. Commands -/

/-- The store and the calls. -/
structure World where
  time : Nat := 0
  verifications : ExpiryIndex String (Written VerificationRecord) := {}
  handoffs : ExpiryIndex String (Written HandoffRecord) := {}
  calls : CallId → Option Call := fun _ => none
  sent : CallId → Option Command := fun _ => none

section
variable (cfg : BookingSettings)

/-- The reply to `GET` on a verification key, in `requireBookingVerification` and the part of
    `prepareBookingHandoff` after it. -/
def afterRead (id : String) (reply : Option (Written VerificationRecord)) (call : Call) : Call :=
  match reply with
  | none => { call with phase := .failed verificationExpired }
  | some written =>
    if written.record.verificationId ≠ id then
      { call with phase := .failed verificationRecordInvalid }
    else
      match call.request with
      | .prepare _ acceptChanges =>
        match authorizeHandoff cfg.getProvider written.record.verification acceptChanges with
        | .error error => { call with read := some written, phase := .failed error }
        | .ok _ => { call with read := some written, phase := .providing }
      | .save _ | .redeem _ => call

/-- The reply to `CONSUME_HANDOFF_SCRIPT`. -/
def afterConsume (id : String) (reply : Option (Written HandoffRecord)) : Phase :=
  match reply with
  | none => .failed handoffExpired
  | some written =>
    if written.record.handoffId ≠ id then .failed handoffRecordInvalid else .redeemed written

/-- The attempt and the URL of a call that waits for a reply. -/
def Phase.waiting? : Phase → Option (String × Nat)
  | .sending redirectUrl attempt => some (redirectUrl, attempt)
  | _ => none

/-- The effect of a command that `c` sent: the store after it, and the call if it sees the
    reply. -/
def runCommand (w : World) (c : CallId) (redirectUrl : String) (attempt : Nat) (call : Call) :
    Command → World × Call
  | .storeVerification record now =>
    let (store, reply) := w.verifications.store w.time cfg.verificationTtlMs now
      cfg.maxBookingVerifications record.verificationId ⟨c, record⟩
    let phase := afterStore reply attempt .saving (.saved record) "VERIFICATION" "verification"
    ({ w with verifications := store }, { call with phase := phase })
  | .readVerification id =>
    (w, afterRead cfg id (w.verifications.records.get w.time id) call)
  | .storeHandoff record now =>
    let (store, reply) := w.handoffs.store w.time cfg.handoffTtlMs now cfg.maxBookingHandoffs
      record.handoffId ⟨c, record⟩
    let phase :=
      afterStore reply attempt (.handing redirectUrl) (.prepared record) "HANDOFF" "handoff"
    ({ w with handoffs := store }, { call with phase := phase })
  | .consumeHandoff id =>
    let (store, reply) := w.handoffs.take w.time id
    ({ w with handoffs := store }, { call with phase := afterConsume id reply })

/-! ## 4. The machine -/

/-- A step of some process, or of time. -/
inductive Input
  | tick
  | start (c : CallId) (request : Request)
  | draw (c : CallId) (digits : String) (createdAt now : Nat)
  | provide (c : CallId) (result : Except HandoffFailure String)
  | apply (c : CallId) (answered : Bool)
  | giveUp (c : CallId)

/-- The call `c` goes on. -/
def World.setCall (w : World) (c : CallId) (call : Call) : World :=
  { w with calls := Function.update w.calls c (some call) }

/-- The call `c` goes on after it has sent a command. -/
def World.send (w : World) (c : CallId) (call : Call) (command : Command) : World :=
  { w.setCall c call with sent := Function.update w.sent c (some command) }

/-- The command of `c` is no longer on its way. -/
def World.received (w : World) (c : CallId) : World :=
  { w with sent := Function.update w.sent c none }

def startCall (w : World) (c : CallId) : Request → World
  | .save verification => w.setCall c { request := .save verification, phase := .saving 0 }
  | .prepare verificationId acceptChanges =>
    let request := Request.prepare verificationId acceptChanges
    let id := JsText.trim verificationId
    if matchesId "verify-" id then
      w.send c { request := request, phase := .sending "" 0 } (.readVerification id)
    else w.setCall c { request := request, phase := .failed verificationIdInvalid }
  | .redeem handoffId =>
    let id := JsText.trim handoffId
    if matchesId "handoff-" id then
      w.send c { request := .redeem handoffId, phase := .sending "" 0 } (.consumeHandoff id)
    else w.setCall c { request := .redeem handoffId, phase := .failed handoffIdInvalid }

/-- One attempt of `saveUniqueRecord`. -/
def drawId (w : World) (c : CallId) (call : Call) (digits : String) (createdAt now : Nat) :
    Option World :=
  match call.phase, call.request, call.read with
  | .saving attempt, .save verification, _ =>
    let record := createVerificationRecord cfg verification digits createdAt
    some <|
      if cfg.verificationFits record then
        w.send c { call with phase := .sending "" attempt } (.storeVerification record now)
      else w.setCall c { call with phase := .failed recordTooLarge }
  | .handing redirectUrl attempt, _, some written =>
    let record := createHandoffRecord cfg written.record redirectUrl digits createdAt
    some <|
      if cfg.handoffFits record then
        w.send c { call with phase := .sending redirectUrl attempt } (.storeHandoff record now)
      else w.setCall c { call with phase := .failed recordTooLarge }
  | _, _, _ => none

/-- The answer of the provider that takes over the booking. -/
def afterProvider (result : Except HandoffFailure String) : Phase :=
  match result with
  | .error failure => .failed (providerHandoffError failure)
  | .ok redirectUrl =>
    match getSafeRedirectUrl cfg redirectUrl with
    | none => .failed handoffUrlInvalid
    | some safeRedirectUrl => .handing safeRedirectUrl 0

def bookingStep (w : World) : Input → Option World
  | .tick => some { w with time := w.time + 1 }
  | .start c request =>
    match w.calls c with
    | some _ => none
    | none => some (startCall w c request)
  | .draw c digits createdAt now =>
    if !isRandomHex digits then none
    else (w.calls c).bind fun call => drawId cfg w c call digits createdAt now
  | .provide c result =>
    (w.calls c).bind fun call =>
      match call.phase with
      | .providing => some (w.setCall c { call with phase := afterProvider cfg result })
      | _ => none
  | .apply c answered =>
    (w.calls c).bind fun call =>
      (w.sent c).map fun command =>
        match call.phase.waiting? with
        | some (redirectUrl, attempt) =>
          let (w', call') := runCommand cfg w c redirectUrl attempt call command
          (if answered then w'.setCall c call' else w').received c
        | none => (runCommand cfg w c "" 0 call command).1.received c
  | .giveUp c =>
    (w.calls c).bind fun call =>
      call.phase.waiting?.map fun _ => w.setCall c { call with phase := .failed stateUnavailable }

end

/-- The runs of the booking stores. -/
def bookingMachine (cfg : BookingSettings) : Machine World Input where
  init w := w = {}
  step := bookingStep cfg

end SmartStay.Booking
