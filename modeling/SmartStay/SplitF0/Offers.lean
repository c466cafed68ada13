import SmartStay.Integrity.Calendar

/-!
# Scenarios and offers of the split pilot

`engine-v3/evaluation/splitF0EconomicFeasibilityPilotV3.ts`: what a scenario and an offer must be
before the costs of one stay and of a stay split in two are compared. A number is the decimal that
it is printed as.

1. Scenarios, segments, offers.
2. Texts, dates and money.
3. `validateSplitF0Scenario`, `buildSplitF0Segments`.
4. `validateOfferForPeriod`.
-/

namespace SmartStay.SplitF0

open Contract

/-! ## 1. Records -/

/-- `SplitF0BoardClassV1`. -/
inductive BoardClass
  | roomOnly | breakfastIncluded | halfBoard | fullBoard | allInclusive | unknown
deriving DecidableEq, Repr

def BoardClass.text : BoardClass → String
  | .roomOnly => "room-only"
  | .breakfastIncluded => "breakfast-included"
  | .halfBoard => "half-board"
  | .fullBoard => "full-board"
  | .allInclusive => "all-inclusive"
  | .unknown => "unknown"

/-- `SplitF0CancellationClassV1`. -/
inductive CancellationClass
  | fullyRefundable | partiallyRefundable | nonRefundable | unknown
deriving DecidableEq, Repr

def CancellationClass.text : CancellationClass → String
  | .fullyRefundable => "fully-refundable"
  | .partiallyRefundable => "partially-refundable"
  | .nonRefundable => "non-refundable"
  | .unknown => "unknown"

/-- `SplitF0PaymentTimingV1`. -/
inductive PaymentTiming
  | payNow | payLater | payAtProperty | unknown
deriving DecidableEq, Repr

def PaymentTiming.text : PaymentTiming → String
  | .payNow => "pay-now"
  | .payLater => "pay-later"
  | .payAtProperty => "pay-at-property"
  | .unknown => "unknown"

/-- `SplitF0RoomClassV1`. -/
inductive RoomClass
  | standard | superior | suite | apartment | other | unknown
deriving DecidableEq, Repr

def RoomClass.text : RoomClass → String
  | .standard => "standard"
  | .superior => "superior"
  | .suite => "suite"
  | .apartment => "apartment"
  | .other => "other"
  | .unknown => "unknown"

/-- `SplitF0ComparabilityIssueV1`. -/
inductive ComparabilityIssue
  | scenarioInvalid | segmentCoverageInvalid | singlePeriodInvalid | splitPeriodInvalid
  | dateDataMissing | currencyMismatch | occupancyMismatch | boardIncompatible
  | cancellationIncompatible | paymentIncompatible | roomClassIncompatible | totalCostIncomplete
  | unknownTaxesOrMandatoryCosts | qualityFloorNotMet | reviewEvidenceFloorNotMet
  | locationConstraintNotMet | duplicateHotel | rateStaleOrUnknown | offerNotBookable
  | provenanceIncomplete
deriving DecidableEq, Repr

def ComparabilityIssue.text : ComparabilityIssue → String
  | .scenarioInvalid => "scenario-invalid"
  | .segmentCoverageInvalid => "segment-coverage-invalid"
  | .singlePeriodInvalid => "single-period-invalid"
  | .splitPeriodInvalid => "split-period-invalid"
  | .dateDataMissing => "date-data-missing"
  | .currencyMismatch => "currency-mismatch"
  | .occupancyMismatch => "occupancy-mismatch"
  | .boardIncompatible => "board-incompatible"
  | .cancellationIncompatible => "cancellation-incompatible"
  | .paymentIncompatible => "payment-incompatible"
  | .roomClassIncompatible => "room-class-incompatible"
  | .totalCostIncomplete => "total-cost-incomplete"
  | .unknownTaxesOrMandatoryCosts => "unknown-taxes-or-mandatory-costs"
  | .qualityFloorNotMet => "quality-floor-not-met"
  | .reviewEvidenceFloorNotMet => "review-evidence-floor-not-met"
  | .locationConstraintNotMet => "location-constraint-not-met"
  | .duplicateHotel => "duplicate-hotel"
  | .rateStaleOrUnknown => "rate-stale-or-unknown"
  | .offerNotBookable => "offer-not-bookable"
  | .provenanceIncomplete => "provenance-incomplete"

/-- `SplitF0OccupancyV1`. -/
structure Occupancy where
  adults : ℚ
  childAges : List ℚ
  rooms : ℚ
  pets : ℚ

structure Destination where
  canonicalId : String
  label : String
  countryCode : String
  latitude : ℚ
  longitude : ℚ
  providerDestinationIds : List String

structure Constraints where
  maximumDistanceKm : ℚ
  minimumRating : ℚ
  minimumReviewCount : ℚ

structure SplitPoint where
  splitPointId : String
  nightsFromStart : ℚ
  rationale : String

/-- `SplitF0ScenarioV1`. -/
structure Scenario where
  schemaVersion : String
  scenarioId : String
  purpose : String
  destination : Destination
  checkIn : String
  checkOut : String
  nights : ℚ
  currency : String
  guestNationality : String
  occupancy : Occupancy
  constraints : Constraints
  splitPoints : List SplitPoint
  providerOfferIdsFrozen : Bool
  sandboxMarketEvidence : Bool
  publicRecommendationAllowed : Bool

/-- The fields of `SplitF0SegmentV1` that an offer must have. -/
structure Period where
  checkIn : String
  checkOut : String
  nights : ℚ

def Scenario.period (s : Scenario) : Period := ⟨s.checkIn, s.checkOut, s.nights⟩

inductive Completeness
  | complete | incomplete
deriving DecidableEq, Repr

inductive Taxes
  | included | excludedKnownInTotal | unknown
deriving DecidableEq, Repr

inductive MandatoryCosts
  | included | knownZero | unknown
deriving DecidableEq, Repr

inductive Freshness
  | fresh | stale | unknown
deriving DecidableEq, Repr

structure Provenance where
  captureId : String
  observedAt : String
  contentDigest : String

/-- `SplitF0OfferSnapshotV1`. -/
structure OfferSnapshot where
  offerSnapshotId : String
  propertyId : String
  checkIn : String
  checkOut : String
  nights : ℚ
  occupancy : Occupancy
  currency : String
  totalCost : ℚ
  totalCostCompleteness : Completeness
  taxes : Taxes
  mandatoryCosts : MandatoryCosts
  boardClass : BoardClass
  cancellationClass : CancellationClass
  paymentTiming : PaymentTiming
  roomClass : RoomClass
  rating : Option ℚ
  reviewCount : Option ℚ
  distanceKm : Option ℚ
  bookable : Bool
  freshness : Freshness
  provenance : Provenance

/-! ## 2. Texts, dates, money -/

def isIdStart (c : Char) : Bool := c.isLower || c.isDigit

/-- `OPAQUE_ID`. -/
def isOpaqueId (text : String) : Bool :=
  match text.toList with
  | [] => false
  | first :: rest => isIdStart first &&
      rest.all (fun c => isIdStart c || ['.', '_', ':', '-'].contains c) &&
      2 ≤ rest.length && rest.length ≤ 127

/-- A text of the shape of a template, in which `0` stands for any digit. -/
def fits (template text : String) : Bool :=
  template.toList.length = text.toList.length &&
    (template.toList.zip text.toList).all fun pair =>
      if pair.1 = '0' then pair.2.isDigit else pair.1 = pair.2

/-- `ISO_TIMESTAMP`. -/
def isTimestamp (text : String) : Bool :=
  fits "0000-00-00T00:00:00Z" text || fits "0000-00-00T00:00:00.000Z" text

/-- `CONTENT_DIGEST`. -/
def isContentDigest (text : String) : Bool :=
  text.toList.take 7 = "sha256:".toList && (text.toList.drop 7).length = 64 &&
    (text.toList.drop 7).all JsText.isLowerHex

/-- The day of `parseIsoDate`, which takes years from 0 on. -/
def parseIsoDate (value : String) : Option ℤ :=
  match value.toList with
  | [y₁, y₂, y₃, y₄, '-', m₁, m₂, '-', d₁, d₂] =>
    let year := Integrity.digitsValue [y₁, y₂, y₃, y₄]
    let month := Integrity.digitsValue [m₁, m₂]
    let day := Integrity.digitsValue [d₁, d₂]
    if [y₁, y₂, y₃, y₄, m₁, m₂, d₁, d₂].all Char.isDigit && 1 ≤ month && month ≤ 12 &&
        1 ≤ day && day ≤ Integrity.daysInMonth year month then
      some (Integrity.dayNumber year month day)
    else none
  | _ => none

/-- `toISOString` drops what a fraction of nights leaves of the last day. -/
def addUtcDays (value : String) (days : ℚ) : Except String String :=
  match parseIsoDate value with
  | none => .error ("Invalid ISO date: " ++ value)
  | some day => .ok (Integrity.formatIsoDate ⌊day + days⌋.toNat)

def daysBetween (checkIn checkOut : String) : Option ℚ :=
  match parseIsoDate checkIn, parseIsoDate checkOut with
  | some start, some finish => some (finish - start : ℤ)
  | _, _ => none

/-- `uniqueSorted` of values that stand for texts. -/
def uniqueSortedBy {α : Type} [DecidableEq α] (text : α → String) (values : List α) : List α :=
  values.dedup.insertionSort fun first second => JsText.Le (text first) (text second)

def occupancyKey (rt : Runtime) (o : Occupancy) : String :=
  rt.numberText o.adults ++ ":" ++ ",".intercalate (o.childAges.map rt.numberText) ++ ":" ++
    rt.numberText o.rooms ++ ":" ++ rt.numberText o.pets

def sameOccupancy (rt : Runtime) (left right : Occupancy) : Bool :=
  occupancyKey rt left = occupancyKey rt right

/-- `Number.MAX_SAFE_INTEGER`. -/
def maxSafeInteger : ℤ := 2 ^ 53 - 1

/-- From 10^21 on a number is printed with an exponent, which the pattern rejects. -/
def splitF0MoneyToMinorUnits (value : ℚ) : Except String ℤ :=
  if value < 0 then .error "split-f0-money-invalid"
  else if 10 ^ 21 ≤ value || (value * 100).den ≠ 1 then
    .error "split-f0-money-precision-unsupported"
  else if maxSafeInteger < (value * 100).num then .error "split-f0-money-out-of-range"
  else .ok (value * 100).num

def splitF0MinorUnitsToMoney (minorUnits : ℤ) : Except String String :=
  if maxSafeInteger < |minorUnits| then .error "split-f0-minor-units-invalid"
  else
    let absolute := minorUnits.natAbs
    .ok ((if minorUnits < 0 then "-" else "") ++ toString (absolute / 100) ++ "." ++
      String.ofList (Integrity.padDigits 2 (absolute % 100)))

/-- `Number(splitF0MinorUnitsToMoneyV1(minorUnits))`. -/
def minorUnitsToNumber (minorUnits : ℤ) : Except String ℚ :=
  (splitF0MinorUnitsToMoney minorUnits).map fun _ => minorUnits / 100

def medianMinorUnits (values : List ℤ) : Except String ℤ :=
  let sorted := values.insertionSort (· ≤ ·)
  let middle := sorted.length / 2
  if values = [] then .error "split-f0-median-empty"
  else if sorted.length % 2 = 1 then .ok (sorted.getD middle 0)
  else .ok (JsNumber.round ((sorted.getD (middle - 1) 0 + sorted.getD middle 0 : ℤ) / 2))

/-! ## 3. Scenarios -/

def scenarioMatrixVersion : String := "stayopti.split-f0.scenario-matrix@1"

def supportedDurations : List ℚ := [5, 7, 10, 12, 14, 21, 28, 30]

def isInteger (value : ℚ) : Bool := value.den = 1

/-- `/^[A-Z]{2}$/`. -/
def isCountryCode (text : String) : Bool :=
  text.toList.length = 2 && text.toList.all Char.isUpper

def splitPointsValid (scenario : Scenario) : Bool :=
  scenario.splitPoints.length = 2 &&
    (scenario.splitPoints.map (·.splitPointId)).dedup.length = 2 &&
    (scenario.splitPoints.map (·.nightsFromStart)).dedup.length = 2 &&
    scenario.splitPoints.map (·.rationale) = ["near-half", "weekly-or-weekend-boundary"] &&
    scenario.splitPoints.all fun point =>
      isOpaqueId point.splitPointId && isInteger point.nightsFromStart &&
        2 ≤ point.nightsFromStart && 2 ≤ scenario.nights - point.nightsFromStart

/-- The issues of `validateSplitF0ScenarioV1`; without any the scenario is valid. -/
def validateSplitF0Scenario (scenario : Scenario) : List String :=
  let place := scenario.destination
  let floors := scenario.constraints
  uniqueSorted <|
    (if scenario.schemaVersion ≠ scenarioMatrixVersion then ["scenario-schema-version-invalid"]
      else []) ++
    (if !isOpaqueId scenario.scenarioId then ["scenario-id-invalid"] else []) ++
    (if scenario.purpose ≠ "technical-calibration-and-initial-signal-search" then
      ["scenario-purpose-invalid"] else []) ++
    (if !isOpaqueId place.canonicalId || JsText.trim place.label = "" ||
        !isCountryCode place.countryCode || place.latitude < -90 || 90 < place.latitude ||
        place.longitude < -180 || 180 < place.longitude || place.providerDestinationIds ≠ [] then
      ["scenario-destination-invalid"] else []) ++
    (if daysBetween scenario.checkIn scenario.checkOut ≠ some scenario.nights ||
        scenario.nights ∉ supportedDurations then ["scenario-duration-invalid"] else []) ++
    (if scenario.currency ≠ "EUR" || scenario.guestNationality ≠ "IT" then
      ["scenario-market-contract-invalid"] else []) ++
    (if !isInteger scenario.occupancy.adults || scenario.occupancy.adults < 1 ||
        2 < scenario.occupancy.adults || scenario.occupancy.childAges ≠ [] ||
        scenario.occupancy.rooms ≠ 1 || scenario.occupancy.pets ≠ 0 then
      ["scenario-occupancy-invalid"] else []) ++
    (if floors.maximumDistanceKm ≤ 0 || floors.minimumRating ≤ 0 ||
        !isInteger floors.minimumReviewCount || floors.minimumReviewCount ≤ 0 then
      ["scenario-constraints-invalid"] else []) ++
    (if !splitPointsValid scenario then ["scenario-split-points-invalid"] else []) ++
    (if scenario.providerOfferIdsFrozen || scenario.sandboxMarketEvidence ||
        scenario.publicRecommendationAllowed then ["scenario-boundary-invalid"] else [])

def Scenario.Valid (scenario : Scenario) : Prop := validateSplitF0Scenario scenario = []

instance (scenario : Scenario) : Decidable scenario.Valid := inferInstanceAs (Decidable (_ = _))

def buildSplitF0Segments (scenario : Scenario) (splitPointId : String) :
    Except String (Period × Period) := do
  if ¬ scenario.Valid then
    throw ("Split F0 scenario invalid: " ++ ",".intercalate (validateSplitF0Scenario scenario))
  match scenario.splitPoints.find? (·.splitPointId = splitPointId) with
  | none => throw ("Unknown Split F0 split point: " ++ splitPointId)
  | some splitPoint => do
    let boundary ← addUtcDays scenario.checkIn splitPoint.nightsFromStart
    return (⟨scenario.checkIn, boundary, splitPoint.nightsFromStart⟩,
      ⟨boundary, scenario.checkOut, scenario.nights - splitPoint.nightsFromStart⟩)

/-! ## 4. Offers -/

/-- The total in minor units, when it is an amount of money. -/
def totalCostMinorUnits (offer : OfferSnapshot) : Option ℤ :=
  (splitF0MoneyToMinorUnits offer.totalCost).toOption

def validateOfferForPeriod (rt : Runtime) (scenario : Scenario) (offer : OfferSnapshot)
    (period : Period) (periodIssue : ComparabilityIssue) : List ComparabilityIssue :=
  uniqueSortedBy (·.text) <|
    (if parseIsoDate offer.checkIn = none || parseIsoDate offer.checkOut = none ||
        offer.checkIn ≠ period.checkIn || offer.checkOut ≠ period.checkOut ||
        offer.nights ≠ period.nights ||
        daysBetween offer.checkIn offer.checkOut ≠ some offer.nights then
      [periodIssue, .dateDataMissing] else []) ++
    (if !isOpaqueId offer.offerSnapshotId || !isOpaqueId offer.propertyId then
      [ComparabilityIssue.provenanceIncomplete] else []) ++
    (if offer.currency ≠ scenario.currency then [ComparabilityIssue.currencyMismatch] else []) ++
    (if !sameOccupancy rt offer.occupancy scenario.occupancy then [ComparabilityIssue.occupancyMismatch] else []) ++
    (if (totalCostMinorUnits offer).all (· ≤ 0) || offer.totalCostCompleteness ≠ .complete then
      [ComparabilityIssue.totalCostIncomplete] else []) ++
    (if offer.taxes = .unknown || offer.mandatoryCosts = .unknown then
      [ComparabilityIssue.unknownTaxesOrMandatoryCosts] else []) ++
    (if offer.boardClass = .unknown then [ComparabilityIssue.boardIncompatible] else []) ++
    (if offer.cancellationClass = .unknown then [ComparabilityIssue.cancellationIncompatible] else []) ++
    (if offer.rating.all (· < scenario.constraints.minimumRating) then [ComparabilityIssue.qualityFloorNotMet]
      else []) ++
    (if offer.reviewCount.all (· < scenario.constraints.minimumReviewCount) then
      [ComparabilityIssue.reviewEvidenceFloorNotMet] else []) ++
    (if offer.distanceKm.all (scenario.constraints.maximumDistanceKm < ·) then
      [ComparabilityIssue.locationConstraintNotMet] else []) ++
    (if offer.freshness ≠ .fresh then [ComparabilityIssue.rateStaleOrUnknown] else []) ++
    (if !offer.bookable then [ComparabilityIssue.offerNotBookable] else []) ++
    (if !isOpaqueId offer.provenance.captureId || !isTimestamp offer.provenance.observedAt ||
        !isContentDigest offer.provenance.contentDigest then [ComparabilityIssue.provenanceIncomplete] else [])

end SmartStay.SplitF0
