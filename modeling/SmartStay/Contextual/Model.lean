import SmartStay.Contract.Value
import SmartStay.Integrity.Snapshots
import SmartStay.Policy.Model

/-!
# What a stay is worth in the context of a trip

The records of `engine-v3/contextual/contextualStayValueV3.ts`, which evaluates candidates by
travel times, room upgrades, flexibility, the party's needs and convenience.

1. `Evidence`, `hasUsableEvidence`: sourced statements and those that count.
2. `CandidateInput`, `StayContext`: what is evaluated.
3. The weights and limits of the engine.
4. `CandidateFindings`, `StayValueEvaluation`: what is found.
5. `CandidateFindings.toValue`, `StayValueFindings.toValue`: the data that are hashed.

The numbers of an input are finite and their arithmetic is exact. A number that a division may
leave without a value is a `JsFloat`.
-/

namespace SmartStay.Contextual

open Contract

/-! ## 1. Evidence -/

/-- `StayOptiContextualEvidenceSourceV3`. -/
inductive EvidenceSource
  | providerStructured | routingEngine | transitTimetable | providerTravelTime | userDeclared
  | calibratedModel | derivedCanonical | semanticInference | straightLine | unverified | unknown
deriving DecidableEq

def EvidenceSource.text : EvidenceSource → String
  | .providerStructured => "provider-structured"
  | .routingEngine => "routing-engine"
  | .transitTimetable => "transit-timetable"
  | .providerTravelTime => "provider-travel-time"
  | .userDeclared => "user-declared"
  | .calibratedModel => "calibrated-model"
  | .derivedCanonical => "derived-canonical"
  | .semanticInference => "semantic-inference"
  | .straightLine => "straight-line"
  | .unverified => "unverified"
  | .unknown => "unknown"

/-- `StayOptiContextualEvidenceV3`. -/
structure Evidence where
  source : EvidenceSource
  confidence : ℚ
  evidenceIds : List String

/-- `MINIMUM_EVIDENCE_CONFIDENCE`. -/
def minimumEvidenceConfidence : ℚ := 6 / 10

/-- `DIRECT_TRAVEL_SOURCES`. -/
def directTravelSources : List EvidenceSource :=
  [.routingEngine, .transitTimetable, .providerTravelTime]

/-- `STRONG_CONTEXT_SOURCES`. -/
def strongContextSources : List EvidenceSource :=
  [.providerStructured, .routingEngine, .transitTimetable, .providerTravelTime, .userDeclared,
    .calibratedModel, .derivedCanonical]

/-- `uniqueSorted`: without empty texts. -/
def uniqueSortedIds (values : List String) : List String :=
  uniqueSorted (values.filter (· ≠ ""))

def hasUsableEvidence (input : Evidence) : Bool :=
  input.source ∈ strongContextSources && minimumEvidenceConfidence ≤ input.confidence &&
    input.confidence ≤ 1 && 0 < (uniqueSortedIds input.evidenceIds).length

/-- A comparison of texts by the collation of the runtime. -/
def byText (rt : Runtime) {α : Type} (text : α → String) (first second : α) : Ordering :=
  rt.localeCompare (text first) (text second)

/-- `normalizeCurrency` of a value that may be no text. -/
def normalizeCurrency (rt : Runtime) (value : Option String) : Option String :=
  value.bind (Integrity.normalizeCurrency rt)

/-! ## 2. Inputs -/

/-- `StayOptiTripTypeV3`. -/
inductive TripType
  | leisure | business | family | group | longStay | mixed
deriving DecidableEq

def TripType.text : TripType → String
  | .leisure => "leisure"
  | .business => "business"
  | .family => "family"
  | .group => "group"
  | .longStay => "long-stay"
  | .mixed => "mixed"

/-- `StayOptiTravelPointCategoryV3`. -/
inductive TravelPointCategory
  | primary | transport | business | venue | beach | family | grocery | other
deriving DecidableEq

def TravelPointCategory.text : TravelPointCategory → String
  | .primary => "primary"
  | .transport => "transport"
  | .business => "business"
  | .venue => "venue"
  | .beach => "beach"
  | .family => "family"
  | .grocery => "grocery"
  | .other => "other"

def travelPointCategories : List TravelPointCategory :=
  [.primary, .transport, .business, .venue, .beach, .family, .grocery, .other]

/-- `StayOptiTravelPointInputV3`. -/
structure TravelPoint extends Evidence where
  pointId : String
  category : TravelPointCategory
  importance : ℚ
  travelTimeMinutes : Option ℚ

/-- `StayOptiContextualCapabilityCodeV3`. -/
inductive CapabilityCode
  | kitchen | laundry | workspace | familyRoom | privateBathroom | crib | elevator | frontDesk
  | luggageStorage | selfCheckIn | airConditioning
deriving DecidableEq

def CapabilityCode.text : CapabilityCode → String
  | .kitchen => "kitchen"
  | .laundry => "laundry"
  | .workspace => "workspace"
  | .familyRoom => "family-room"
  | .privateBathroom => "private-bathroom"
  | .crib => "crib"
  | .elevator => "elevator"
  | .frontDesk => "front-desk"
  | .luggageStorage => "luggage-storage"
  | .selfCheckIn => "self-check-in"
  | .airConditioning => "air-conditioning"

def capabilityCodes : List CapabilityCode :=
  [.kitchen, .laundry, .workspace, .familyRoom, .privateBathroom, .crib, .elevator, .frontDesk,
    .luggageStorage, .selfCheckIn, .airConditioning]

/-- `StayOptiContextualCapabilityInputV3`. -/
structure Capability extends Evidence where
  code : CapabilityCode
  state : Option Bool

/-- `StayOptiDestinationContextV3`. An absent override is a property that is not there. -/
structure Destination extends Evidence where
  contextId : String
  travelCategoryWeightOverrides : Option (TravelPointCategory → Option ℚ)
  capabilityWeightMultipliers : Option (CapabilityCode → Option ℚ)

/-- `StayOptiRoomAttributeCodeV3`. -/
inductive RoomAttributeCode
  | floorArea | bedCapacity | privateBathroom | kitchen | workspace | view | balcony
  | accessibility
deriving DecidableEq

def RoomAttributeCode.text : RoomAttributeCode → String
  | .floorArea => "floor-area"
  | .bedCapacity => "bed-capacity"
  | .privateBathroom => "private-bathroom"
  | .kitchen => "kitchen"
  | .workspace => "workspace"
  | .view => "view"
  | .balcony => "balcony"
  | .accessibility => "accessibility"

/-- `StayOptiRoomAttributeInputV3`. -/
structure RoomAttribute extends Evidence where
  code : RoomAttributeCode
  state : Option Bool

inductive TierSource
  | providerStructured | semanticInference | unknown
deriving DecidableEq

def TierSource.text : TierSource → String
  | .providerStructured => "provider-structured"
  | .semanticInference => "semantic-inference"
  | .unknown => "unknown"

/-- `StayOptiRoomOptionInputV3`. -/
structure RoomOption where
  offerId : String
  totalCost : Option ℚ
  currency : Option String
  bookable : Bool
  comparisonScopeFingerprint : String
  tierRank : Option ℚ
  tierSource : TierSource
  attributes : List RoomAttribute
  evidenceIds : List String

/-- A probability or a rate, with the evidence for it. -/
structure DeclaredRate where
  value : ℚ
  confidence : ℚ
  evidenceIds : List String

/-- `StayOptiCancellationInputV3`. -/
structure Cancellation extends Evidence where
  policyKnown : Bool
  refundable : Option Bool
  freeCancellationUntil : Option String
  penaltyAmount : Option ℚ
  penaltyCurrency : Option String
  changeProbability : Option DeclaredRate

inductive PaymentTiming
  | payNow | payLater | payAtProperty | unknown
deriving DecidableEq

def PaymentTiming.text : PaymentTiming → String
  | .payNow => "pay-now"
  | .payLater => "pay-later"
  | .payAtProperty => "pay-at-property"
  | .unknown => "unknown"

/-- `StayOptiPaymentInputV3`. -/
structure Payment extends Evidence where
  timing : PaymentTiming
  deferralDays : Option ℚ
  annualValueRate : Option DeclaredRate

/-- `StayOptiFrictionSignalCodeV3`. -/
inductive FrictionSignalCode
  | frontDesk | selfCheckIn | luggageStorage | elevator | arrivalWindow | transportChanges
  | propertyAccess | rulesComplexity
deriving DecidableEq

def FrictionSignalCode.text : FrictionSignalCode → String
  | .frontDesk => "front-desk"
  | .selfCheckIn => "self-check-in"
  | .luggageStorage => "luggage-storage"
  | .elevator => "elevator"
  | .arrivalWindow => "arrival-window"
  | .transportChanges => "transport-changes"
  | .propertyAccess => "property-access"
  | .rulesComplexity => "rules-complexity"

/-- `StayOptiFrictionSignalInputV3`. -/
structure FrictionSignal extends Evidence where
  code : FrictionSignalCode
  convenienceImpact : ℚ
  weight : ℚ

/-- `EvaluateStayOptiContextualCandidateInputV3`. -/
structure CandidateInput where
  hotelId : String
  totalCost : Option ℚ
  currency : Option String
  straightLineDistanceKm : Option ℚ
  straightLineEvidenceIds : List String
  travelPoints : List TravelPoint
  selectedRoom : Option RoomOption
  roomAlternatives : List RoomOption
  cancellation : Option Cancellation
  payment : Option Payment
  capabilities : List Capability
  frictionSignals : List FrictionSignal

/-- `StayOptiContextualStayContextV3`. -/
structure StayContext where
  preferenceId : Policy.Profile
  tripType : TripType
  nights : Option ℚ
  adults : Option ℚ
  children : Option ℚ
  rooms : Option ℚ
  leadTimeDays : Option ℚ
  destination : Option Destination

/-- `EvaluateStayOptiContextualStayValueInputV3`. -/
structure StayValueInput where
  context : StayContext
  candidates : List CandidateInput

/-! ## 3. Weights and limits -/

def pointWeights (primary transport business venue beach family grocery other : ℚ) :
    TravelPointCategory → ℚ
  | .primary => primary
  | .transport => transport
  | .business => business
  | .venue => venue
  | .beach => beach
  | .family => family
  | .grocery => grocery
  | .other => other

/-- `TRIP_POINT_WEIGHTS`. -/
def tripPointWeights : TripType → TravelPointCategory → ℚ
  | .leisure => pointWeights (13/10) 1 (6/10) (12/10) (11/10) (8/10) (7/10) (7/10)
  | .business => pointWeights (12/10) (125/100) (15/10) (8/10) (5/10) (5/10) (7/10) (6/10)
  | .family => pointWeights (11/10) (11/10) (5/10) (9/10) 1 (15/10) 1 (8/10)
  | .group => pointWeights (12/10) (115/100) (6/10) (11/10) (9/10) (8/10) (9/10) (8/10)
  | .longStay => pointWeights (11/10) (11/10) (7/10) (8/10) (9/10) (8/10) (14/10) (8/10)
  | .mixed => pointWeights (12/10) (11/10) (8/10) 1 (9/10) (9/10) (9/10) (8/10)

theorem tripPointWeights_pos (trip : TripType) (category : TravelPointCategory) :
    0 < tripPointWeights trip category := by
  cases trip <;> cases category <;> norm_num [tripPointWeights, pointWeights]

/-- `ROOM_PREMIUM_LIMITS`. -/
def roomPremiumLimits : Policy.Profile → ℚ
  | .maximumComfort => 14 / 100
  | .comfort => 1 / 10
  | .balanced => 7 / 100
  | .savings => 4 / 100
  | .maximumSavings => 2 / 100

/-- `LONG_STAY_CAPABILITY_DELTAS`. -/
def longStayCapabilityDeltas : CapabilityCode → Option ℚ
  | .kitchen => some 6
  | .laundry => some 6
  | .workspace => some 3
  | .airConditioning => some 2
  | _ => none

/-- `GROUP_CAPABILITY_DELTAS`. -/
def groupCapabilityDeltas : CapabilityCode → Option ℚ
  | .familyRoom => some 6
  | .privateBathroom => some 4
  | .elevator => some 2
  | .luggageStorage => some 2
  | _ => none

/-- `FAMILY_CAPABILITY_DELTAS`. -/
def familyCapabilityDeltas : CapabilityCode → Option ℚ
  | .crib => some 4
  | code => groupCapabilityDeltas code

/-! ## 4. Findings -/

inductive SignalStatus
  | usable | partly | unavailable
deriving DecidableEq

def SignalStatus.text : SignalStatus → String
  | .usable => "usable"
  | .partly => "partial"
  | .unavailable => "unavailable"

/-- `StayOptiTripSpecificLocationV3`. -/
structure TripSpecificLocation where
  status : SignalStatus
  weightedTravelTimeMinutes : Option JsFloat
  locationScore : Option JsFloat
  usedPointIds : List String
  excludedPointIds : List String
  straightLineDistanceKm : Option ℚ
  destinationAdjusted : Bool
  evidenceIds : List String
  reasonCodes : List String

inductive UpgradeStatus
  | worthwhile | notWorthwhile | unavailable
deriving DecidableEq

def UpgradeStatus.text : UpgradeStatus → String
  | .worthwhile => "worthwhile"
  | .notWorthwhile => "not-worthwhile"
  | .unavailable => "unavailable"

/-- `StayOptiRoomUpgradeEvaluationV3`. -/
structure RoomUpgrade where
  status : UpgradeStatus
  selectedOfferId : Option String
  alternativeOfferId : Option String
  premiumAmount : Option ℚ
  premiumRatio : Option ℚ
  tierGain : Option ℤ
  attributeGain : Option ℤ
  maximumPremiumRatio : Option ℚ
  evidenceIds : List String
  reasonCodes : List String

/-- `StayOptiFlexibilityValueV3`. -/
structure FlexibilityValue where
  status : SignalStatus
  cancellationProtectionAmount : Option ℚ
  cancellationProtectionScore : Option JsFloat
  expectedCancellationValue : Option ℚ
  paymentTiming : PaymentTiming
  paymentTimingValue : Option ℚ
  currency : Option String
  evidenceIds : List String
  reasonCodes : List String

inductive InteractionCode
  | groupUtility | familyUtility | longStayUtility
deriving DecidableEq

def InteractionCode.text : InteractionCode → String
  | .groupUtility => "group-utility"
  | .familyUtility => "family-utility"
  | .longStayUtility => "long-stay-utility"

/-- `StayOptiContextInteractionV3`. -/
structure ContextInteraction where
  code : InteractionCode
  capabilityCode : CapabilityCode
  state : Bool
  utilityDelta : ℚ
  destinationAdjusted : Bool
  evidenceIds : List String

/-- `StayOptiContextInteractionEvaluationV3`. -/
structure InteractionEvaluation where
  status : SignalStatus
  utilityDelta : Option ℚ
  interactions : List ContextInteraction
  evidenceIds : List String
  reasonCodes : List String

/-- `StayOptiConvenienceEvaluationV3`. -/
structure ConvenienceEvaluation where
  status : SignalStatus
  convenienceIndex : Option JsFloat
  decisionFrictionScore : Option JsFloat
  usableSignalCount : Nat
  suppliedSignalCount : Nat
  evidenceIds : List String
  reasonCodes : List String

/-- `StayOptiContextualSignalIdV3`. -/
inductive SignalId
  | travelTimeLocation | roomUpgrade | cancellationValue | paymentTimingValue
  | groupLongStayUtility | decisionFriction
deriving DecidableEq

def SignalId.text : SignalId → String
  | .travelTimeLocation => "travel-time-location"
  | .roomUpgrade => "room-upgrade"
  | .cancellationValue => "cancellation-value"
  | .paymentTimingValue => "payment-timing-value"
  | .groupLongStayUtility => "group-long-stay-utility"
  | .decisionFriction => "decision-friction"

/-- `StayOptiContextualCandidateEvaluationV3` without its fingerprint. -/
structure CandidateFindings where
  hotelId : String
  status : SignalStatus
  location : TripSpecificLocation
  roomUpgrade : RoomUpgrade
  flexibility : FlexibilityValue
  contextInteractions : InteractionEvaluation
  convenience : ConvenienceEvaluation
  activeSignals : List SignalId
  inactiveSignals : List SignalId
  reasonCodes : List String

/-- `StayOptiContextualCandidateEvaluationV3`. -/
structure CandidateEvaluation extends CandidateFindings where
  fingerprint : String

structure DecisionGainGate where
  status : String
  rankingEnabled : Bool
  publicCopyEnabled : Bool

/-- `StayOptiContextualStayValueEvaluationV3` without its identity. -/
structure StayValueFindings where
  phase : String
  rankingApplication : String
  publicPresentation : String
  decisionGainGate : DecisionGainGate
  context : StayContext
  candidates : List CandidateEvaluation
  usableCandidateCount : Nat
  activeSignalCount : Nat
  reasonCodes : List String

/-- `StayOptiContextualStayValueEvaluationV3`. -/
structure StayValueEvaluation extends StayValueFindings where
  evaluationId : String
  fingerprint : String

/-! ## 5. Hashed data -/

open Value in
def TripSpecificLocation.toValue (l : TripSpecificLocation) : Value :=
  .obj [("status", str l.status.text),
    ("weightedTravelTimeMinutes", .num? l.weightedTravelTimeMinutes),
    ("locationScore", .num? l.locationScore), ("usedPointIds", texts l.usedPointIds),
    ("excludedPointIds", texts l.excludedPointIds),
    ("straightLineDistanceKm", .data (.num? l.straightLineDistanceKm)),
    ("destinationAdjusted", bool l.destinationAdjusted), ("evidenceIds", texts l.evidenceIds),
    ("reasonCodes", texts l.reasonCodes)]

def RoomUpgrade.toJson (u : RoomUpgrade) : Json :=
  .obj [("status", .str u.status.text), ("selectedOfferId", .text? u.selectedOfferId),
    ("alternativeOfferId", .text? u.alternativeOfferId), ("premiumAmount", .num? u.premiumAmount),
    ("premiumRatio", .num? u.premiumRatio), ("tierGain", .num? (u.tierGain.map (↑))),
    ("attributeGain", .num? (u.attributeGain.map (↑))),
    ("maximumPremiumRatio", .num? u.maximumPremiumRatio), ("evidenceIds", .texts u.evidenceIds),
    ("reasonCodes", .texts u.reasonCodes)]

open Value in
def FlexibilityValue.toValue (f : FlexibilityValue) : Value :=
  .obj [("status", str f.status.text),
    ("cancellationProtectionAmount", .data (.num? f.cancellationProtectionAmount)),
    ("cancellationProtectionScore", .num? f.cancellationProtectionScore),
    ("expectedCancellationValue", .data (.num? f.expectedCancellationValue)),
    ("paymentTiming", str f.paymentTiming.text),
    ("paymentTimingValue", .data (.num? f.paymentTimingValue)), ("currency", text? f.currency),
    ("evidenceIds", texts f.evidenceIds), ("reasonCodes", texts f.reasonCodes)]

def ContextInteraction.toJson (i : ContextInteraction) : Json :=
  .obj [("code", .str i.code.text), ("capabilityCode", .str i.capabilityCode.text),
    ("state", .bool i.state), ("utilityDelta", .num i.utilityDelta),
    ("destinationAdjusted", .bool i.destinationAdjusted), ("evidenceIds", .texts i.evidenceIds)]

def InteractionEvaluation.toJson (e : InteractionEvaluation) : Json :=
  .obj [("status", .str e.status.text), ("utilityDelta", .num? e.utilityDelta),
    ("interactions", .arr (e.interactions.map ContextInteraction.toJson)),
    ("evidenceIds", .texts e.evidenceIds), ("reasonCodes", .texts e.reasonCodes)]

open Value in
def ConvenienceEvaluation.toValue (c : ConvenienceEvaluation) : Value :=
  .obj [("status", str c.status.text), ("convenienceIndex", .num? c.convenienceIndex),
    ("decisionFrictionScore", .num? c.decisionFrictionScore),
    ("usableSignalCount", .data (.num c.usableSignalCount)),
    ("suppliedSignalCount", .data (.num c.suppliedSignalCount)),
    ("evidenceIds", texts c.evidenceIds), ("reasonCodes", texts c.reasonCodes)]

def CandidateFindings.fields (c : CandidateFindings) : List (String × Value) :=
  [("hotelId", .str c.hotelId), ("status", .str c.status.text), ("location", c.location.toValue),
    ("roomUpgrade", .data c.roomUpgrade.toJson), ("flexibility", c.flexibility.toValue),
    ("contextInteractions", .data c.contextInteractions.toJson),
    ("convenience", c.convenience.toValue),
    ("activeSignals", .texts (c.activeSignals.map SignalId.text)),
    ("inactiveSignals", .texts (c.inactiveSignals.map SignalId.text)),
    ("reasonCodes", .texts c.reasonCodes)]

def CandidateFindings.toValue (c : CandidateFindings) : Value := .obj c.fields

def CandidateEvaluation.toValue (c : CandidateEvaluation) : Value :=
  .obj (c.fields ++ [("fingerprint", .str c.fingerprint)])

/-- The properties of a partial record that are there. -/
def presentFields {κ : Type} (keys : List κ) (text : κ → String) (values : κ → Option ℚ) : Json :=
  .obj (keys.filterMap fun key => (values key).map fun x => (text key, Json.num x))

def Destination.toJson (d : Destination) : Json :=
  .obj ([("contextId", .str d.contextId), ("source", .str d.source.text),
    ("confidence", .num d.confidence), ("evidenceIds", .texts d.evidenceIds)] ++
    ((d.travelCategoryWeightOverrides.map fun overrides => ("travelCategoryWeightOverrides",
      presentFields travelPointCategories TravelPointCategory.text overrides)).toList ++
    (d.capabilityWeightMultipliers.map fun multipliers => ("capabilityWeightMultipliers",
      presentFields capabilityCodes CapabilityCode.text multipliers)).toList))

def StayContext.toJson (c : StayContext) : Json :=
  .obj [("preferenceId", .str c.preferenceId.text), ("tripType", .str c.tripType.text),
    ("nights", .num? c.nights), ("adults", .num? c.adults), ("children", .num? c.children),
    ("rooms", .num? c.rooms), ("leadTimeDays", .num? c.leadTimeDays),
    ("destination", (c.destination.map Destination.toJson).getD .null)]

def StayValueFindings.fields (e : StayValueFindings) : List (String × Value) :=
  [("phase", .str e.phase), ("rankingApplication", .str e.rankingApplication),
    ("publicPresentation", .str e.publicPresentation),
    ("decisionGainGate", .data (.obj [("status", .str e.decisionGainGate.status),
      ("rankingEnabled", .bool e.decisionGainGate.rankingEnabled),
      ("publicCopyEnabled", .bool e.decisionGainGate.publicCopyEnabled)])),
    ("context", .data e.context.toJson),
    ("candidates", .arr (e.candidates.map CandidateEvaluation.toValue)),
    ("usableCandidateCount", .data (.num e.usableCandidateCount)),
    ("activeSignalCount", .data (.num e.activeSignalCount)),
    ("reasonCodes", .texts e.reasonCodes)]

def StayValueFindings.toValue (e : StayValueFindings) : Value := .obj e.fields

def StayValueEvaluation.toValue (e : StayValueEvaluation) : Value :=
  .obj (e.fields ++ [("evaluationId", .str e.evaluationId), ("fingerprint", .str e.fingerprint)])

end SmartStay.Contextual
