import SmartStay.Outcome.Events

/-!
# The offline dataset

1. `sortEvents`, `createOfflineRecord`, `assertValidSequence`.
2. `metrics`, the dataset as a record.
3. `buildOfflineOutcomeDataset`.
4. `deleteOutcomeSubjectData`.
-/

namespace SmartStay.Outcome

open Contract JsSort

/-! ## 1. Sequences -/

def compareEvents (rt : Runtime) (first second : OutcomeEvent) : Ordering :=
  (rt.localeCompare first.occurredAt second.occurredAt).then
    (rt.localeCompare first.eventId second.eventId)

def sortEvents (rt : Runtime) (events : List OutcomeEvent) : List OutcomeEvent :=
  sortBy (compareEvents rt) events

/-- `StayOptiOfflineOutcomeRecordV3`; `none` is `"not-observed"`, or `null` where the record has
    a number or a truth value. -/
structure OfflineRecord where
  decisionKey : String
  decisionFingerprint : String
  policyVersion : String
  recommendationKind : SolutionKind
  confidenceBand : ConfidenceBand
  coverageState : CoverageState
  choiceOutcome : Option ChoiceOutcome
  differentChoiceReason : DifferentChoiceReason
  timeToDecisionBucket : DurationBucket
  recheckState : Option RecheckState
  handoffState : Option HandoffState
  bookingAttribution : Option AttributionStatus
  satisfaction : Option Nat
  wouldChooseSameAgain : Option Bool
  declaredRegret : Option DeclaredRegret
  regretCause : Option RegretCause
  mainIssue : Option MainIssue
  savingOutcome : Option SavingOutcome
  qualityPerEuroOutcome : Option QualityPerEuroOutcome
  chosenSolutionKind : Option ChosenSolutionKind
  splitFalsePositive : Option Bool
  regretComparedToBestSingle : Option RegretComparedToBestSingle
  outcomeComplete : Bool

def Payload.shown? : Payload → Option DecisionShown
  | .decisionShown p => some p
  | _ => none

def Payload.choice? : Payload → Option ChoiceRecorded
  | .choiceRecorded p => some p
  | _ => none

def Payload.recheck? : Payload → Option RecheckRecorded
  | .recheckRecorded p => some p
  | _ => none

def Payload.booking? : Payload → Option BookingAttributed
  | .bookingAttributed p => some p
  | _ => none

def Payload.feedback? : Payload → Option PostStayFeedback
  | .postStayFeedback p => some p
  | _ => none

/-- The key of a decision in the dataset. -/
def decisionKey (rt : Runtime) (decisionLinkToken : String) : String :=
  createStableHash rt (.str decisionLinkToken) "stayopti-v3-outcome-decision-key"

/-- The event that was shown with its payload. -/
def findShown (events : List OutcomeEvent) : Option (OutcomeEvent × DecisionShown) :=
  events.findSome? fun event => event.payload.shown?.map fun payload => (event, payload)

def createOfflineRecord (rt : Runtime) (events : List OutcomeEvent) :
    Except String OfflineRecord :=
  match findShown events with
  | none => .error "Every outcome sequence requires exactly one decision-shown event."
  | some (event, shown) =>
    let choice := events.findSome? (·.payload.choice?)
    let recheck := events.findSome? (·.payload.recheck?)
    let booking := events.findSome? (·.payload.booking?)
    let feedback := events.findSome? (·.payload.feedback?)
    .ok
      { decisionKey := decisionKey rt event.decisionLinkToken
        decisionFingerprint := shown.decisionFingerprint
        policyVersion := shown.policyVersion
        recommendationKind := shown.recommendationKind
        confidenceBand := shown.confidenceBand
        coverageState := shown.coverageState
        choiceOutcome := choice.map (·.choiceOutcome)
        differentChoiceReason := (choice.map (·.differentChoiceReason)).getD .notApplicable
        timeToDecisionBucket := (choice.map (·.timeToDecisionBucket)).getD .unknown
        recheckState := recheck.map (·.recheckState)
        handoffState := recheck.map (·.handoffState)
        bookingAttribution := booking.map (·.attributionStatus)
        satisfaction := feedback.map (·.satisfaction)
        wouldChooseSameAgain := feedback.map (·.wouldChooseSameAgain)
        declaredRegret := feedback.map (·.declaredRegret)
        regretCause := feedback.map (·.regretCause)
        mainIssue := feedback.map (·.mainIssue)
        savingOutcome := feedback.map (·.savingOutcome)
        qualityPerEuroOutcome := feedback.map (·.qualityPerEuroOutcome)
        chosenSolutionKind := feedback.map (·.chosenSolutionKind)
        splitFalsePositive := feedback.bind (·.splitFalsePositive)
        regretComparedToBestSingle := feedback.bind (·.regretComparedToBestSingle)
        outcomeComplete := choice.isSome && feedback.isSome }

/-- `counts.get(eventName) ?? 0`. -/
def countOf (events : List OutcomeEvent) (eventName : EventName) : Nat :=
  events.countP fun event => event.eventName = eventName

/-- The event names whose events need a choice before them. -/
def afterChoice : List EventName := [.recheckRecorded, .bookingAttributed, .postStayFeedback]

/-- `sorted.findIndex`, `none` for `-1`. -/
def indexOf (sorted : List OutcomeEvent) (eventName : EventName) : Option Nat :=
  sorted.findIdx? fun event => event.eventName = eventName

def checkDuplicates (events : List OutcomeEvent) : List EventName → Except String Unit
  | [] => .ok ()
  | eventName :: rest =>
    if 1 < countOf events eventName then
      .error ("Outcome sequence contains duplicate " ++ eventName.text ++ " events.")
    else checkDuplicates events rest

def checkChoiceBefore (sorted : List OutcomeEvent) : List EventName → Except String Unit
  | [] => .ok ()
  | eventName :: rest =>
    let missing := match indexOf sorted eventName, indexOf sorted .choiceRecorded with
      | none, _ => false
      | some _, none => true
      | some index, some choiceIndex => index < choiceIndex
    if missing then
      .error (eventName.text ++ " requires a prior choice-recorded event.")
    else checkChoiceBefore sorted rest

def assertValidSequence (rt : Runtime) (events : List OutcomeEvent) : Except String Unit := do
  if countOf events .decisionShown ≠ 1 then
    throw "Each outcome sequence requires exactly one decision-shown event."
  checkDuplicates events
    [.choiceRecorded, .recheckRecorded, .bookingAttributed, .postStayFeedback]
  let sorted := sortEvents rt events
  if (sorted.head?).map (·.eventName) ≠ some .decisionShown then
    throw "Outcome event ordering must start with decision-shown."
  checkChoiceBefore sorted afterChoice
  if ((events.map (·.subjectToken)).dedup).length ≠ 1 then
    throw "Outcome sequence cannot mix pseudonymous subjects."

/-! ## 2. The dataset -/

/-- The metrics of `StayOptiOfflineOutcomeDatasetV3`. -/
structure Metrics where
  decisionCount : Nat
  recommendationAcceptedCount : Nat
  differentChoiceCount : Nat
  abandonmentCount : Nat
  attributedBookingCount : Nat
  postStayFeedbackCount : Nat
  wouldChooseSameAgainCount : Nat
  declaredRegretCount : Nat
  savedWithoutQualityLossCount : Nat
  splitOutcomeCount : Nat
  splitFalsePositiveCount : Nat

def createMetrics (records : List OfflineRecord) : Metrics where
  decisionCount := records.length
  recommendationAcceptedCount :=
    (records.filter fun r => r.choiceOutcome = some .acceptedRecommendation).length
  differentChoiceCount := (records.filter fun r => r.choiceOutcome = some .differentOption).length
  abandonmentCount := (records.filter fun r => r.choiceOutcome = some .abandoned).length
  attributedBookingCount := (records.filter fun r => r.bookingAttribution = some .attributed).length
  postStayFeedbackCount := (records.filter fun r => r.satisfaction.isSome).length
  wouldChooseSameAgainCount := (records.filter fun r => r.wouldChooseSameAgain = some true).length
  declaredRegretCount := (records.filter fun r => r.declaredRegret.any (· ≠ .none)).length
  savedWithoutQualityLossCount :=
    (records.filter fun r => r.savingOutcome = some .savedWithoutQualityLoss).length
  splitOutcomeCount := (records.filter fun r => r.chosenSolutionKind = some .split).length
  splitFalsePositiveCount := (records.filter fun r => r.splitFalsePositive = some true).length

/-- `StayOptiOfflineOutcomeDatasetV3`, less its constant fields. -/
structure OutcomeDataset where
  ready : Bool
  sourceEventCount : Nat
  consentedEventCount : Nat
  records : List OfflineRecord
  metrics : Metrics
  reasonCodes : List String
  fingerprint : String

/-- A value or `"not-observed"`. -/
def observed {α : Type} (text : α → String) (value : Option α) : Json :=
  .str ((value.map text).getD "not-observed")

def OfflineRecord.toJson (r : OfflineRecord) : Json := .obj
  [("decisionKey", .str r.decisionKey), ("decisionFingerprint", .str r.decisionFingerprint),
    ("policyVersion", .str r.policyVersion),
    ("recommendationKind", .str r.recommendationKind.text),
    ("confidenceBand", .str r.confidenceBand.text), ("coverageState", .str r.coverageState.text),
    ("choiceOutcome", observed ChoiceOutcome.text r.choiceOutcome),
    ("differentChoiceReason", .str r.differentChoiceReason.text),
    ("timeToDecisionBucket", .str r.timeToDecisionBucket.text),
    ("recheckState", observed RecheckState.text r.recheckState),
    ("handoffState", observed HandoffState.text r.handoffState),
    ("bookingAttribution", observed AttributionStatus.text r.bookingAttribution),
    ("satisfaction", .num? (r.satisfaction.map (↑))),
    ("wouldChooseSameAgain", bool? r.wouldChooseSameAgain),
    ("declaredRegret", observed DeclaredRegret.text r.declaredRegret),
    ("regretCause", observed RegretCause.text r.regretCause),
    ("mainIssue", observed MainIssue.text r.mainIssue),
    ("savingOutcome", observed SavingOutcome.text r.savingOutcome),
    ("qualityPerEuroOutcome", observed QualityPerEuroOutcome.text r.qualityPerEuroOutcome),
    ("chosenSolutionKind", observed ChosenSolutionKind.text r.chosenSolutionKind),
    ("splitFalsePositive", bool? r.splitFalsePositive),
    ("regretComparedToBestSingle", .text? (r.regretComparedToBestSingle.map (·.text))),
    ("outcomeComplete", .bool r.outcomeComplete)]

def Metrics.toJson (m : Metrics) : Json := .obj
  [("decisionCount", .num m.decisionCount),
    ("recommendationAcceptedCount", .num m.recommendationAcceptedCount),
    ("differentChoiceCount", .num m.differentChoiceCount),
    ("abandonmentCount", .num m.abandonmentCount),
    ("attributedBookingCount", .num m.attributedBookingCount),
    ("postStayFeedbackCount", .num m.postStayFeedbackCount),
    ("wouldChooseSameAgainCount", .num m.wouldChooseSameAgainCount),
    ("declaredRegretCount", .num m.declaredRegretCount),
    ("savedWithoutQualityLossCount", .num m.savedWithoutQualityLossCount),
    ("splitOutcomeCount", .num m.splitOutcomeCount),
    ("splitFalsePositiveCount", .num m.splitFalsePositiveCount)]

def promotionPath : List String := ["offline-evaluation", "shadow", "controlled-promotion"]

def OutcomeDataset.coreFields (d : OutcomeDataset) : List (String × Json) :=
  [("datasetVersion", .str "3.0.0-outcome-dataset.1"),
    ("status", .str (if d.ready then "ready" else "empty")),
    ("dataClassification", .str "pseudonymized-offline"),
    ("sourceEventCount", .num d.sourceEventCount),
    ("consentedEventCount", .num d.consentedEventCount),
    ("records", .arr (d.records.map (·.toJson))), ("metrics", d.metrics.toJson),
    ("learningSafety", .obj [("productionPolicyMutationAllowed", .bool false),
      ("candidateDestination", .str "offline-evaluation-only"),
      ("promotionPath", .texts promotionPath)]),
    ("reasonCodes", .texts d.reasonCodes)]

def createDataset (rt : Runtime) (eventCount : Nat) (records : List OfflineRecord) :
    OutcomeDataset :=
  let dataset : OutcomeDataset :=
    { ready := 0 < records.length
      sourceEventCount := eventCount
      consentedEventCount := eventCount
      records
      metrics := createMetrics records
      reasonCodes := uniqueSorted ["outcome:offline-dataset-ready", "outcome:offline-only",
        "outcome:no-production-self-modification", "outcome:shadow-promotion-required",
        "outcome:attribution-measured", "outcome:pseudonymous-only"]
      fingerprint := "" }
  { dataset with
    fingerprint := createStableHash rt (.obj dataset.coreFields)
      "stayopti-v3-offline-outcome-dataset" }

/-! ## 3. Building -/

structure DatasetInput where
  events : List OutcomeEvent
  consents : List ConsentState

/-- The loop over the consents, with the ids in `consentById`. -/
def checkConsents (rt : Runtime) (dates : Dates) :
    List ConsentState → List String → Except String Unit
  | [], _ => .ok ()
  | consent :: rest, consentIds =>
    if consentIds.contains consent.consentId || !isValidConsentState rt dates consent then
      .error "Outcome dataset requires unique valid consent records."
    else checkConsents rt dates rest (consentIds ++ [consent.consentId])

/-- `consentById.get`. -/
def consentById (consents : List ConsentState) (consentId : String) : Option ConsentState :=
  consents.find? fun consent => consent.consentId = consentId

/-- `consent === undefined || !validateOutcomeEventV3(event, consent).valid`. -/
def isUnconsented (rt : Runtime) (dates : Dates) (consents : List ConsentState)
    (event : OutcomeEvent) : Bool :=
  match consentById consents event.consentId with
  | none => true
  | some consent => (validateOutcomeEvent rt dates event consent).length ≠ 0

/-- The loop over the events, with `eventIds`. -/
def checkEvents (rt : Runtime) (dates : Dates) (consents : List ConsentState) :
    List OutcomeEvent → List String → Except String Unit
  | [], _ => .ok ()
  | event :: rest, eventIds =>
    if isUnconsented rt dates consents event then
      .error ("Outcome dataset rejected invalid or unconsented event " ++ event.eventId ++ ".")
    else if eventIds.contains event.eventId then
      .error "Outcome dataset event IDs must be unique."
    else checkEvents rt dates consents rest (eventIds ++ [event.eventId])

/-- The keys of `sequences`, in the order of their first events. -/
def decisionTokens (events : List OutcomeEvent) : List String :=
  (events.map (·.decisionLinkToken)).eraseDups

/-- `sequences.get(decisionLinkToken)`. -/
def sequenceOf (events : List OutcomeEvent) (decisionLinkToken : String) : List OutcomeEvent :=
  events.filter fun event => event.decisionLinkToken = decisionLinkToken

def sequenceRecord (rt : Runtime) (events : List OutcomeEvent) : Except String OfflineRecord := do
  assertValidSequence rt events
  createOfflineRecord rt (sortEvents rt events)

def compareRecords (rt : Runtime) (first second : OfflineRecord) : Ordering :=
  rt.localeCompare first.decisionKey second.decisionKey

def buildOfflineOutcomeDataset (rt : Runtime) (dates : Dates) (input : DatasetInput) :
    Except String OutcomeDataset := do
  checkConsents rt dates input.consents []
  checkEvents rt dates input.consents input.events []
  let records ← (decisionTokens input.events).mapM fun token =>
    sequenceRecord rt (sequenceOf input.events token)
  return createDataset rt input.events.length (sortBy (compareRecords rt) records)

/-! ## 4. Deletion -/

structure DeletionInput where
  events : List OutcomeEvent
  subjectToken : String
  requestedAt : String

/-- `StayOptiOutcomeDeletionReceiptV3`, less its constant fields. -/
structure DeletionReceipt where
  receiptId : String
  requestedAt : String
  subjectTokenHash : String
  deletedEventCount : Nat
  deletedDecisionCount : Nat
  retainedEventCount : Nat
  fingerprint : String

structure DeletionResult where
  retainedEvents : List OutcomeEvent
  receipt : DeletionReceipt

/-- `receiptCore`. -/
def DeletionReceipt.coreFields (r : DeletionReceipt) : List (String × Json) :=
  [("receiptVersion", .str "3.0.0-outcome-deletion.1"), ("requestedAt", .str r.requestedAt),
    ("subjectTokenHash", .str r.subjectTokenHash),
    ("status", .str (if 0 < r.deletedEventCount then "deleted" else "not-found")),
    ("deletedEventCount", .num r.deletedEventCount),
    ("deletedDecisionCount", .num r.deletedDecisionCount),
    ("retainedEventCount", .num r.retainedEventCount),
    ("deletionScope", .texts ["raw-outcome-events"]),
    ("pseudonymousDatasetRebuildRequired", .bool true)]

def deleteOutcomeSubjectData (rt : Runtime) (dates : Dates) (input : DeletionInput) :
    Except String DeletionResult := do
  if !isOpaqueToken input.subjectToken || !isIsoInstant dates input.requestedAt then
    throw "Invalid V3-09 outcome deletion request."
  let deleted := input.events.filter (·.subjectToken = input.subjectToken)
  let retainedEvents := input.events.filter (·.subjectToken ≠ input.subjectToken)
  let core : DeletionReceipt :=
    { receiptId := ""
      requestedAt := input.requestedAt
      subjectTokenHash :=
        createStableHash rt (.str input.subjectToken) "stayopti-v3-outcome-subject"
      deletedEventCount := deleted.length
      deletedDecisionCount := (decisionTokens deleted).length
      retainedEventCount := retainedEvents.length
      fingerprint := "" }
  let receiptId := createStableHash rt (.obj core.coreFields) "stayopti-v3-outcome-deletion-id"
  return {
    retainedEvents
    receipt := { core with
      receiptId
      fingerprint := createStableHash rt (.obj (core.coreFields ++ [("receiptId", .str receiptId)]))
        "stayopti-v3-outcome-deletion-receipt" } }

end SmartStay.Outcome
