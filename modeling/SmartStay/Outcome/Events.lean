import SmartStay.Contract.StableHash

/-!
# Outcome events

`engine-v3/outcome/outcomeDataLoopV3.ts`: consents and the events of a decision. The closed
values of the records are types here, so the checks for unknown values and unexpected keys have
nothing to reject.

1. `Dates`, tokens, instants and texts that look personal.
2. The values of the payloads.
3. Consents: `createOutcomeConsentState`, `validateOutcomeConsentState`.
4. Payloads and their checks.
5. Events: `createOutcomeEvent`, `validateOutcomeEvent`.
-/

namespace SmartStay.Outcome

open Contract

/-! ## 1. Texts -/

/-- `Date.parse`, `none` for `NaN`, and `new Date(timestamp).toISOString()`. -/
structure Dates where
  parse : String → Option ℤ
  toISOString : ℤ → String

def isIsoInstant (dates : Dates) (value : String) : Bool :=
  (JsText.utf16 value).length ≤ 40 &&
    (dates.parse value).any fun timestamp => dates.toISOString timestamp = value

/-- `Date.parse(first) < Date.parse(second)`: false for `NaN`. -/
def instantBefore (dates : Dates) (first second : String) : Bool :=
  match dates.parse first, dates.parse second with
  | some first, some second => first < second
  | _, _ => false

/-- `OPAQUE_TOKEN_PATTERN`. -/
def matchesOpaqueToken (value : String) : Bool :=
  match value.toList with
  | [] => false
  | first :: rest => first.isAlphanum && 15 ≤ rest.length && rest.length ≤ 127 &&
      rest.all fun c => c.isAlphanum || ['.', '_', '-'].contains c

/-- `\w`. -/
def isWord (c : Char) : Bool := c.isAlphanum || c = '_'

/-- `\b` between two characters, `none` beyond the ends of the text. -/
def isBoundary (before after : Option Char) : Bool := before.any isWord != after.any isWord

/-- `\b[A-Z0-9._%+-]+` up to an at sign, on the characters before it from the last one on. -/
def endsInLocalPart : List Char → Bool
  | [] => false
  | c :: before => (c.isAlphanum || ['.', '_', '%', '+', '-'].contains c) &&
      (isBoundary before.head? (some c) || endsInLocalPart before)

/-- `[A-Z]{2,}\b` at the start of a text. -/
def startsWithTopLevel (text : List Char) : Bool :=
  2 ≤ (text.takeWhile Char.isAlpha).length &&
    isBoundary (some 'a') (text.dropWhile Char.isAlpha).head?

/-- `[A-Z0-9.-]+\.[A-Z]{2,}\b` at the start of a text, after `seen` characters of the domain. -/
def startsWithDomain (seen : Bool) : List Char → Bool
  | [] => false
  | c :: rest => (seen && c = '.' && startsWithTopLevel rest) ||
      ((c.isAlphanum || c = '.' || c = '-') && startsWithDomain true rest)

/-- `EMAIL_PATTERN` at an at sign, with the characters before it from the last one on. -/
def emailFrom (before : List Char) : List Char → Bool
  | [] => false
  | c :: rest => (c = '@' && endsInLocalPart before && startsWithDomain false rest) ||
      emailFrom (c :: before) rest

def matchesEmail (value : String) : Bool := emailFrom [] value.toList

/-- `PHONE_PATTERN`: seven to fifteen digits, each with separators behind it. -/
def matchesPhone (value : String) : Bool :=
  let text := match value.toList with
    | '+' :: rest => rest
    | text => text
  text.head?.any Char.isDigit && 7 ≤ (text.filter Char.isDigit).length &&
    (text.filter Char.isDigit).length ≤ 15 &&
    text.all fun c => c.isDigit || JsText.isSpace c || ['(', ')', '.', '-'].contains c

def isOpaqueToken (value : String) : Bool :=
  matchesOpaqueToken value && !matchesEmail value && !matchesPhone value

/-- `VERSION_PATTERN`. -/
def matchesVersion (value : String) : Bool :=
  value.toList.take 6 = "3.0.0-".toList && (value.toList.drop 6).length ≠ 0 &&
    (value.toList.drop 6).all fun c => c.isLower || c.isDigit || c = '.' || c = '-'

/-- `PII_FIELD_KEYS`. -/
def piiFieldKeys : List String :=
  ["email", "emailaddress", "phone", "phonenumber", "firstname", "lastname", "fullname",
    "address", "postaladdress", "ip", "ipaddress", "useragent", "passport", "passportnumber",
    "identitydocument"]

def normalizeFieldKey (value : String) : String :=
  String.ofList ((JsText.toLowerCase value).toList.filter fun c => c.isLower || c.isDigit)

mutual

/-- `visit` of `findOutcomePiiViolationsV3`. -/
def visit : Json → String → List String
  | .str text, path =>
    if matchesEmail text then [if path = "" then "value" else path] else []
  | .arr values, path => visitValues values path 0
  | .obj fields, path => visitFields fields path
  | _, _ => []

/-- The items of an array from an index on. -/
def visitValues : List Json → String → Nat → List String
  | [], _, _ => []
  | entry :: rest, path, index =>
    visit entry (path ++ "[" ++ toString index ++ "]") ++ visitValues rest path (index + 1)

/-- The fields of a record. -/
def visitFields : List (String × Json) → String → List String
  | [], _ => []
  | (key, nested) :: rest, path =>
    let nestedPath := if path = "" then key else path ++ "." ++ key
    (if piiFieldKeys.contains (normalizeFieldKey key) then [nestedPath] else []) ++
      visit nested nestedPath ++ visitFields rest path

end

def findOutcomePiiViolations (value : Json) : List String :=
  uniqueSorted (visit value "")

/-! ## 2. Values -/

/-- `StayOptiOutcomeConfidenceBandV3`. -/
inductive ConfidenceBand
  | high | medium | low | unavailable
deriving DecidableEq, Repr

def ConfidenceBand.text : ConfidenceBand → String
  | .high => "high"
  | .medium => "medium"
  | .low => "low"
  | .unavailable => "unavailable"

/-- `StayOptiOutcomeCoverageStateV3`. -/
inductive CoverageState
  | completeSourceSet | partialSourceSet | currentAnalyzedSet
deriving DecidableEq, Repr

def CoverageState.text : CoverageState → String
  | .completeSourceSet => "complete-source-set"
  | .partialSourceSet => "partial-source-set"
  | .currentAnalyzedSet => "current-analyzed-set"

/-- `StayOptiOutcomeSolutionKindV3`. -/
inductive SolutionKind
  | single | split | none
deriving DecidableEq, Repr

def SolutionKind.text : SolutionKind → String
  | .single => "single"
  | .split => "split"
  | .none => "none"

inductive ConsentStatus
  | granted | denied | withdrawn
deriving DecidableEq, Repr

def ConsentStatus.text : ConsentStatus → String
  | .granted => "granted"
  | .denied => "denied"
  | .withdrawn => "withdrawn"

inductive DecisionStatus
  | recommended | abstained | noFeasibleSolution
deriving DecidableEq, Repr

def DecisionStatus.text : DecisionStatus → String
  | .recommended => "recommended"
  | .abstained => "abstained"
  | .noFeasibleSolution => "no-feasible-solution"

inductive ChoiceOutcome
  | acceptedRecommendation | differentOption | abandoned
deriving DecidableEq, Repr

def ChoiceOutcome.text : ChoiceOutcome → String
  | .acceptedRecommendation => "accepted-recommendation"
  | .differentOption => "different-option"
  | .abandoned => "abandoned"

/-- `StayOptiDifferentChoiceReasonV3`. -/
inductive DifferentChoiceReason
  | price | quality | location | room | flexibility | trust | otherEnum | notApplicable
deriving DecidableEq, Repr

def DifferentChoiceReason.text : DifferentChoiceReason → String
  | .price => "price"
  | .quality => "quality"
  | .location => "location"
  | .room => "room"
  | .flexibility => "flexibility"
  | .trust => "trust"
  | .otherEnum => "other-enum"
  | .notApplicable => "not-applicable"

/-- `StayOptiDecisionDurationBucketV3`. -/
inductive DurationBucket
  | under15s | from15To60s | from1To3m | from3To10m | over10m | unknown
deriving DecidableEq, Repr

def DurationBucket.text : DurationBucket → String
  | .under15s => "under-15s"
  | .from15To60s => "15-60s"
  | .from1To3m => "1-3m"
  | .from3To10m => "3-10m"
  | .over10m => "over-10m"
  | .unknown => "unknown"

inductive RecheckState
  | confirmed | changed | soldOut | notRun
deriving DecidableEq, Repr

def RecheckState.text : RecheckState → String
  | .confirmed => "confirmed"
  | .changed => "changed"
  | .soldOut => "sold-out"
  | .notRun => "not-run"

inductive HandoffState
  | notStarted | prepared | opened | failed
deriving DecidableEq, Repr

def HandoffState.text : HandoffState → String
  | .notStarted => "not-started"
  | .prepared => "prepared"
  | .opened => "opened"
  | .failed => "failed"

inductive AttributionStatus
  | attributed | notAttributed
deriving DecidableEq, Repr

def AttributionStatus.text : AttributionStatus → String
  | .attributed => "attributed"
  | .notAttributed => "not-attributed"

inductive AttributionConfidence
  | deterministic | sameSession | unavailable
deriving DecidableEq, Repr

def AttributionConfidence.text : AttributionConfidence → String
  | .deterministic => "deterministic"
  | .sameSession => "same-session"
  | .unavailable => "unavailable"

/-- `StayOptiDeclaredRegretV3`. -/
inductive DeclaredRegret
  | none | low | medium | high
deriving DecidableEq, Repr

def DeclaredRegret.text : DeclaredRegret → String
  | .none => "none"
  | .low => "low"
  | .medium => "medium"
  | .high => "high"

/-- `StayOptiRegretCauseV3`. -/
inductive RegretCause
  | none | price | quality | location | room | flexibility | service | switchFriction
  | otherEnum
deriving DecidableEq, Repr

def RegretCause.text : RegretCause → String
  | .none => "none"
  | .price => "price"
  | .quality => "quality"
  | .location => "location"
  | .room => "room"
  | .flexibility => "flexibility"
  | .service => "service"
  | .switchFriction => "switch-friction"
  | .otherEnum => "other-enum"

/-- `StayOptiMainIssueV3`. -/
inductive MainIssue
  | none | price | quality | location | room | flexibility | service | handoff | switchFriction
  | otherEnum
deriving DecidableEq, Repr

def MainIssue.text : MainIssue → String
  | .none => "none"
  | .price => "price"
  | .quality => "quality"
  | .location => "location"
  | .room => "room"
  | .flexibility => "flexibility"
  | .service => "service"
  | .handoff => "handoff"
  | .switchFriction => "switch-friction"
  | .otherEnum => "other-enum"

inductive SavingOutcome
  | savedWithoutQualityLoss | savedWithQualityLoss | noSaving | unknown
deriving DecidableEq, Repr

def SavingOutcome.text : SavingOutcome → String
  | .savedWithoutQualityLoss => "saved-without-quality-loss"
  | .savedWithQualityLoss => "saved-with-quality-loss"
  | .noSaving => "no-saving"
  | .unknown => "unknown"

inductive QualityPerEuroOutcome
  | positive | neutral | negative | unknown
deriving DecidableEq, Repr

def QualityPerEuroOutcome.text : QualityPerEuroOutcome → String
  | .positive => "positive"
  | .neutral => "neutral"
  | .negative => "negative"
  | .unknown => "unknown"

inductive ChosenSolutionKind
  | single | split
deriving DecidableEq, Repr

def ChosenSolutionKind.text : ChosenSolutionKind → String
  | .single => "single"
  | .split => "split"

inductive RegretComparedToBestSingle
  | lower | same | higher | unknown
deriving DecidableEq, Repr

def RegretComparedToBestSingle.text : RegretComparedToBestSingle → String
  | .lower => "lower"
  | .same => "same"
  | .higher => "higher"
  | .unknown => "unknown"

/-! ## 3. Consents -/

/-- `StayOptiOutcomeConsentInputV3`. -/
structure ConsentInput where
  consentId : String
  subjectToken : String
  status : ConsentStatus
  recordedAt : String
  expiresAt : Option String
  doNotTrack : Bool
  globalPrivacyControl : Bool

/-- `StayOptiOutcomeConsentStateV3`. -/
structure ConsentState extends ConsentInput where
  phase : String
  purpose : String
  collectionAllowed : Bool
  reasonCodes : List String
  fingerprint : String

/-- The fields of a consent state without its fingerprint. -/
def ConsentState.coreFields (c : ConsentState) : List (String × Json) :=
  [("consentId", .str c.consentId), ("subjectToken", .str c.subjectToken),
    ("status", .str c.status.text), ("recordedAt", .str c.recordedAt),
    ("expiresAt", .text? c.expiresAt), ("doNotTrack", .bool c.doNotTrack),
    ("globalPrivacyControl", .bool c.globalPrivacyControl), ("phase", .str c.phase),
    ("purpose", .str c.purpose), ("collectionAllowed", .bool c.collectionAllowed),
    ("reasonCodes", .texts c.reasonCodes)]

def ConsentState.toJson (c : ConsentState) : Json :=
  .obj (c.coreFields ++ [("fingerprint", .str c.fingerprint)])

def validateConsentInput (dates : Dates) (input : ConsentInput) : Except String Unit := do
  if !isOpaqueToken input.consentId || !isOpaqueToken input.subjectToken ||
      !isIsoInstant dates input.recordedAt || input.expiresAt.any (!isIsoInstant dates ·) then
    throw "Invalid V3-09 outcome consent input."
  -- both are instants, so the comparison is that of numbers
  if input.expiresAt.any (!instantBefore dates input.recordedAt ·) then
    throw "Outcome consent expiry must follow its recorded time."

def createOutcomeConsentState (rt : Runtime) (dates : Dates) (input : ConsentInput) :
    Except String ConsentState := do
  validateConsentInput dates input
  let privacyBlocked := input.doNotTrack || input.globalPrivacyControl
  let collectionAllowed := input.status = .granted && !privacyBlocked
  let state : ConsentState :=
    { input with
      phase := "v3-09"
      purpose := "decision-outcome-learning"
      collectionAllowed
      reasonCodes := uniqueSorted (["outcome:consent-required", "outcome:pseudonymous-only",
        if collectionAllowed then "outcome:consent-valid" else "outcome:consent-denied"] ++
        if privacyBlocked then ["outcome:privacy-signal-blocked"] else [])
      fingerprint := "" }
  return { state with
    fingerprint := createStableHash rt (.obj state.coreFields) "stayopti-v3-outcome-consent" }

/-- `validateOutcomeConsentStateV3(state).valid`. -/
def isValidConsentState (rt : Runtime) (dates : Dates) (state : ConsentState) : Bool :=
  match createOutcomeConsentState rt dates state.toConsentInput with
  | .ok expected => stableSerialize rt state.toJson = stableSerialize rt expected.toJson
  | .error _ => false

/-! ## 4. Payloads -/

/-- `StayOptiDecisionShownPayloadV3`. -/
structure DecisionShown where
  decisionFingerprint : String
  engineVersion : String
  policyVersion : String
  decisionSchemaVersion : String
  evidenceSchemaVersion : String
  decisionStatus : DecisionStatus
  recommendedOptionToken : Option String
  alternativeOptionTokens : List String
  recommendationKind : SolutionKind
  confidenceBand : ConfidenceBand
  coverageState : CoverageState

/-- `StayOptiChoiceRecordedPayloadV3`. -/
structure ChoiceRecorded where
  choiceOutcome : ChoiceOutcome
  selectedOptionToken : Option String
  differentChoiceReason : DifferentChoiceReason
  timeToDecisionBucket : DurationBucket

/-- `StayOptiRecheckRecordedPayloadV3`. -/
structure RecheckRecorded where
  optionToken : Option String
  recheckState : RecheckState
  handoffState : HandoffState

/-- `StayOptiBookingAttributedPayloadV3`. -/
structure BookingAttributed where
  attributionStatus : AttributionStatus
  optionToken : Option String
  attributionConfidence : AttributionConfidence
  recheckVerified : Bool

/-- `StayOptiPostStayFeedbackPayloadV3`. -/
structure PostStayFeedback where
  satisfaction : Nat
  wouldChooseSameAgain : Bool
  declaredRegret : DeclaredRegret
  regretCause : RegretCause
  mainIssue : MainIssue
  savingOutcome : SavingOutcome
  qualityPerEuroOutcome : QualityPerEuroOutcome
  chosenSolutionKind : ChosenSolutionKind
  splitFalsePositive : Option Bool
  regretComparedToBestSingle : Option RegretComparedToBestSingle

/-- The payload of an event, which has the name of its event. -/
inductive Payload
  | decisionShown (payload : DecisionShown)
  | choiceRecorded (payload : ChoiceRecorded)
  | recheckRecorded (payload : RecheckRecorded)
  | bookingAttributed (payload : BookingAttributed)
  | postStayFeedback (payload : PostStayFeedback)

/-- `StayOptiOutcomeEventNameV3`. -/
inductive EventName
  | decisionShown | choiceRecorded | recheckRecorded | bookingAttributed | postStayFeedback
deriving DecidableEq, Repr

def EventName.text : EventName → String
  | .decisionShown => "decision-shown"
  | .choiceRecorded => "choice-recorded"
  | .recheckRecorded => "recheck-recorded"
  | .bookingAttributed => "booking-attributed"
  | .postStayFeedback => "post-stay-feedback"

def Payload.eventName : Payload → EventName
  | .decisionShown _ => .decisionShown
  | .choiceRecorded _ => .choiceRecorded
  | .recheckRecorded _ => .recheckRecorded
  | .bookingAttributed _ => .bookingAttributed
  | .postStayFeedback _ => .postStayFeedback

def bool? : Option Bool → Json
  | none => .null
  | some b => .bool b

def Payload.toJson : Payload → Json
  | .decisionShown p => .obj [("decisionFingerprint", .str p.decisionFingerprint),
      ("engineVersion", .str p.engineVersion), ("policyVersion", .str p.policyVersion),
      ("decisionSchemaVersion", .str p.decisionSchemaVersion),
      ("evidenceSchemaVersion", .str p.evidenceSchemaVersion),
      ("decisionStatus", .str p.decisionStatus.text),
      ("recommendedOptionToken", .text? p.recommendedOptionToken),
      ("alternativeOptionTokens", .texts p.alternativeOptionTokens),
      ("recommendationKind", .str p.recommendationKind.text),
      ("confidenceBand", .str p.confidenceBand.text), ("coverageState", .str p.coverageState.text)]
  | .choiceRecorded p => .obj [("choiceOutcome", .str p.choiceOutcome.text),
      ("selectedOptionToken", .text? p.selectedOptionToken),
      ("differentChoiceReason", .str p.differentChoiceReason.text),
      ("timeToDecisionBucket", .str p.timeToDecisionBucket.text)]
  | .recheckRecorded p => .obj [("optionToken", .text? p.optionToken),
      ("recheckState", .str p.recheckState.text), ("handoffState", .str p.handoffState.text)]
  | .bookingAttributed p => .obj [("attributionStatus", .str p.attributionStatus.text),
      ("optionToken", .text? p.optionToken),
      ("attributionConfidence", .str p.attributionConfidence.text),
      ("recheckVerified", .bool p.recheckVerified)]
  | .postStayFeedback p => .obj [("satisfaction", .num p.satisfaction),
      ("wouldChooseSameAgain", .bool p.wouldChooseSameAgain),
      ("declaredRegret", .str p.declaredRegret.text), ("regretCause", .str p.regretCause.text),
      ("mainIssue", .str p.mainIssue.text), ("savingOutcome", .str p.savingOutcome.text),
      ("qualityPerEuroOutcome", .str p.qualityPerEuroOutcome.text),
      ("chosenSolutionKind", .str p.chosenSolutionKind.text),
      ("splitFalsePositive", bool? p.splitFalsePositive),
      ("regretComparedToBestSingle", .text? (p.regretComparedToBestSingle.map (·.text)))]

def validateDecisionShownPayload (p : DecisionShown) : Except String Unit := do
  if !isStableHash p.decisionFingerprint || !matchesVersion p.engineVersion ||
      !matchesVersion p.policyVersion || !matchesVersion p.decisionSchemaVersion ||
      !matchesVersion p.evidenceSchemaVersion || p.recommendedOptionToken.any (!isOpaqueToken ·) ||
      4 < p.alternativeOptionTokens.length || p.alternativeOptionTokens.any (!isOpaqueToken ·) ||
      ¬ p.alternativeOptionTokens.Nodup ||
      p.recommendedOptionToken.any p.alternativeOptionTokens.contains then
    throw "Invalid decision-shown outcome payload."
  if (if p.decisionStatus = .recommended then
        p.recommendedOptionToken.isNone || p.recommendationKind = .none
      else p.recommendedOptionToken.isSome || p.recommendationKind ≠ .none) then
    throw "Decision status and recommendation fields are inconsistent."

def validateChoicePayload (p : ChoiceRecorded) : Except String Unit := do
  if p.selectedOptionToken.any (!isOpaqueToken ·) then
    throw "Invalid choice-recorded outcome payload."
  let validChoiceShape := match p.choiceOutcome with
    | .acceptedRecommendation =>
      p.selectedOptionToken.isSome && p.differentChoiceReason = .notApplicable
    | .differentOption => p.selectedOptionToken.isSome && p.differentChoiceReason ≠ .notApplicable
    | .abandoned => p.selectedOptionToken.isNone && p.differentChoiceReason = .notApplicable
  if !validChoiceShape then
    throw "Choice outcome and selected option fields are inconsistent."

def validateRecheckPayload (p : RecheckRecorded) : Except String Unit := do
  if p.optionToken.any (!isOpaqueToken ·) ||
      (if p.recheckState = .notRun then p.optionToken.isSome || p.handoffState ≠ .notStarted
        else p.optionToken.isNone) then
    throw "Invalid recheck-recorded outcome payload."

def validateBookingPayload (p : BookingAttributed) : Except String Unit := do
  if p.optionToken.any (!isOpaqueToken ·) then
    throw "Invalid booking-attributed outcome payload."
  if (if p.attributionStatus = .attributed then
        p.optionToken.isNone || p.attributionConfidence = .unavailable
      else p.optionToken.isSome || p.attributionConfidence ≠ .unavailable ||
        p.recheckVerified) then
    throw "Booking attribution fields are inconsistent."

def validatePostStayPayload (p : PostStayFeedback) : Except String Unit := do
  if p.satisfaction < 1 || 5 < p.satisfaction then
    throw "Invalid post-stay-feedback outcome payload."
  if (decide (p.declaredRegret = .none) != decide (p.regretCause = .none)) ||
      (if p.chosenSolutionKind = .single then
        p.splitFalsePositive.isSome || p.regretComparedToBestSingle.isSome
      else p.regretComparedToBestSingle.isNone) then
    throw "Post-stay regret or split fields are inconsistent."

def validatePayload : Payload → Except String Unit
  | .decisionShown p => validateDecisionShownPayload p
  | .choiceRecorded p => validateChoicePayload p
  | .recheckRecorded p => validateRecheckPayload p
  | .bookingAttributed p => validateBookingPayload p
  | .postStayFeedback p => validatePostStayPayload p

/-! ## 5. Events -/

/-- `StayOptiOutcomeEventInputV3`. -/
structure EventInput where
  eventId : String
  occurredAt : String
  subjectToken : String
  decisionLinkToken : String
  consentId : String
  payload : Payload

/-- `StayOptiOutcomeEventV3`. -/
structure OutcomeEvent extends EventInput where
  schemaVersion : String
  dataClassification : String
  fingerprint : String

def EventInput.eventName (e : EventInput) : EventName := e.payload.eventName

def EventInput.fields (e : EventInput) : List (String × Json) :=
  [("eventId", .str e.eventId), ("eventName", .str e.eventName.text),
    ("occurredAt", .str e.occurredAt), ("subjectToken", .str e.subjectToken),
    ("decisionLinkToken", .str e.decisionLinkToken), ("consentId", .str e.consentId),
    ("payload", e.payload.toJson)]

def OutcomeEvent.coreFields (e : OutcomeEvent) : List (String × Json) :=
  [("schemaVersion", .str e.schemaVersion), ("dataClassification", .str e.dataClassification)] ++
    e.toEventInput.fields

def OutcomeEvent.toJson (e : OutcomeEvent) : Json :=
  .obj (e.coreFields ++ [("fingerprint", .str e.fingerprint)])

def outcomeEventSchemaVersion : String := "3.0.0-outcome-event.1"

def createOutcomeEvent (rt : Runtime) (dates : Dates) (input : EventInput) :
    Except String OutcomeEvent := do
  if !isOpaqueToken input.eventId || !isIsoInstant dates input.occurredAt ||
      !isOpaqueToken input.subjectToken || !isOpaqueToken input.decisionLinkToken ||
      !isOpaqueToken input.consentId then
    throw "Invalid V3-09 outcome event envelope."
  validatePayload input.payload
  if 0 < (findOutcomePiiViolations (.obj input.fields)).length then
    throw "V3-09 outcome event contains PII."
  let event : OutcomeEvent :=
    { input with
      schemaVersion := outcomeEventSchemaVersion
      dataClassification := "pseudonymous"
      fingerprint := "" }
  return { event with
    fingerprint := createStableHash rt (.obj event.coreFields) "stayopti-v3-outcome-event" }

/-- The issues of `StayOptiOutcomeEventValidationV3`. -/
inductive EventIssue
  | invalidShape | invalidConsent | privacySignalBlocked | piiDetected | fingerprintMismatch
deriving DecidableEq, Repr

/-- What `validateOutcomeEventV3` finds in the event itself. -/
def eventIssues (rt : Runtime) (dates : Dates) (event : OutcomeEvent) : List EventIssue :=
  (if event.schemaVersion ≠ outcomeEventSchemaVersion || event.dataClassification ≠ "pseudonymous"
    then [.invalidShape] else []) ++
  (match createOutcomeEvent rt dates event.toEventInput with
    | .ok recreated =>
      if event.fingerprint ≠ recreated.fingerprint then [.fingerprintMismatch] else []
    | .error message =>
      [if message = "V3-09 outcome event contains PII." then .piiDetected else .invalidShape]) ++
  (if 0 < (findOutcomePiiViolations event.toJson).length then [.piiDetected] else [])

/-- What `validateOutcomeEventV3` finds in the consent for an event. -/
def consentIssues (rt : Runtime) (dates : Dates) (event : OutcomeEvent) (consent : ConsentState) :
    List EventIssue :=
  let identityMatches :=
    consent.consentId = event.consentId && consent.subjectToken = event.subjectToken
  (if !isValidConsentState rt dates consent || !identityMatches || !consent.collectionAllowed ||
      instantBefore dates event.occurredAt consent.recordedAt ||
      consent.expiresAt.any (instantBefore dates · event.occurredAt)
    then [.invalidConsent] else []) ++
  (if consent.doNotTrack || consent.globalPrivacyControl then [.privacySignalBlocked] else [])

/-- The issues in the order in which they are found, before `[...new Set(issues)].sort()`. -/
def validateOutcomeEvent (rt : Runtime) (dates : Dates) (event : OutcomeEvent)
    (consent : ConsentState) : List EventIssue :=
  eventIssues rt dates event ++ consentIssues rt dates event consent

end SmartStay.Outcome
