import SmartStay.Promotion.Observations

/-!
# Offer snapshots

`engine-v3/integrity/stayOfferIntegrityV3.ts` and `integrityCoverageV3.ts`: what is known of an
offer when it is decided on, and the report on all of it.

1. Calendar days, `enumerateStayNights`.
2. `StayOfferIntegritySnapshot` and its two fingerprints.
3. `validateStayOfferIntegritySnapshot`.
4. `createStayIntegrityCoverageReport`.
-/

namespace SmartStay.Integrity

open Contract Promotion

/-! ## 1. Days -/

def isLeapYear (year : Nat) : Bool := year % 4 = 0 && year % 100 ≠ 0 || year % 400 = 0

def daysInMonth (year month : Nat) : Nat :=
  if month = 2 then if isLeapYear year then 29 else 28
  else if month ∈ [4, 6, 9, 11] then 30 else 31

/-- The days before a year and a month, from the year 0 on. -/
def dayNumber (year month day : Nat) : ℤ :=
  (365 * year + (year + 3) / 4 - (year + 99) / 100 + (year + 399) / 400 : Nat) +
    (((List.range (month - 1)).map fun m => daysInMonth year (m + 1)).sum : Nat) + day

def digitsValue (digits : List Char) : Nat :=
  digits.foldl (fun n c => n * 10 + (c.toNat - 48)) 0

/-- The day of `parseIsoDateV3`. `Date.UTC` takes years below 100 as years from 1900 on, which
    the code then rejects. -/
def parseIsoDate (value : String) : Option ℤ :=
  match value.toList with
  | [y₁, y₂, y₃, y₄, '-', m₁, m₂, '-', d₁, d₂] =>
    let year := digitsValue [y₁, y₂, y₃, y₄]
    let month := digitsValue [m₁, m₂]
    let day := digitsValue [d₁, d₂]
    if [y₁, y₂, y₃, y₄, m₁, m₂, d₁, d₂].all Char.isDigit && 100 ≤ year && 1 ≤ month &&
        month ≤ 12 && 1 ≤ day && day ≤ daysInMonth year month then
      some (dayNumber year month day)
    else none
  | _ => none

/-- `enumerateStayNightsV3(checkIn, checkOut).length`. -/
def stayNightCount (checkIn checkOut : Option String) : ℤ :=
  match checkIn.bind parseIsoDate, checkOut.bind parseIsoDate with
  | some start, some finish => if finish ≤ start then 0 else finish - start
  | _, _ => 0

/-! ## 2. Snapshots -/

/-- `StayEvidenceStateV3`. -/
inductive EvidenceState
  | known | estimated | unknown | notApplicable | conflicting
deriving DecidableEq, Repr

def EvidenceState.text : EvidenceState → String
  | .known => "known"
  | .estimated => "estimated"
  | .unknown => "unknown"
  | .notApplicable => "not-applicable"
  | .conflicting => "conflicting"

inductive ScopeStatus
  | exact | incomplete | conflicting
deriving DecidableEq, Repr

def ScopeStatus.text : ScopeStatus → String
  | .exact => "exact"
  | .incomplete => "incomplete"
  | .conflicting => "conflicting"

def boolJson : Option Bool → Json
  | none => .null
  | some b => .bool b

/-- A count or `null`. -/
def countJson (count : Option ℤ) : Json := .num? (count.map fun n => (n : ℚ))

/-- `StayScopeV3`. -/
structure StayScope where
  checkIn : Option String
  checkOut : Option String
  nights : Option ℤ
  adults : Option ℤ
  children : Option ℤ
  rooms : Option ℤ
  status : ScopeStatus

def StayScope.toJson (s : StayScope) : Json :=
  .obj [("checkIn", .text? s.checkIn), ("checkOut", .text? s.checkOut),
    ("nights", countJson s.nights), ("adults", countJson s.adults),
    ("children", countJson s.children), ("rooms", countJson s.rooms),
    ("status", .str s.status.text)]

/-- `StayMoneyEvidenceV3`. -/
structure MoneyEvidence where
  amount : Option ℚ
  currency : Option String
  state : EvidenceState
  evidenceIds : List String

def MoneyEvidence.keyFields (m : MoneyEvidence) : List (String × Json) :=
  [("amount", .num? m.amount), ("currency", .text? m.currency), ("state", .str m.state.text)]

def MoneyEvidence.toJson (m : MoneyEvidence) : Json :=
  .obj (m.keyFields ++ [("evidenceIds", .texts m.evidenceIds)])

/-- `StayTaxEvidenceV3`. -/
structure TaxEvidence where
  taxesIncluded : Option Bool
  includedAmount : ℚ
  excludedAmount : ℚ
  unknownAmount : ℚ
  currency : Option String
  state : EvidenceState
  evidenceIds : List String

def TaxEvidence.keyFields (t : TaxEvidence) : List (String × Json) :=
  [("taxesIncluded", boolJson t.taxesIncluded), ("includedAmount", .num t.includedAmount),
    ("excludedAmount", .num t.excludedAmount), ("unknownAmount", .num t.unknownAmount),
    ("currency", .text? t.currency), ("state", .str t.state.text)]

def TaxEvidence.toJson (t : TaxEvidence) : Json :=
  .obj (t.keyFields ++ [("evidenceIds", .texts t.evidenceIds)])

inductive CostIntegrityStatus
  | complete | provisional | incomplete | conflicting
deriving DecidableEq, Repr

def CostIntegrityStatus.text : CostIntegrityStatus → String
  | .complete => "complete"
  | .provisional => "provisional"
  | .incomplete => "incomplete"
  | .conflicting => "conflicting"

/-- `StayCostCompletenessV3`. -/
inductive CostCompleteness
  | reportedComplete | reportedTaxStatusUnknown | partialCost | unknown
deriving DecidableEq, Repr

def CostCompleteness.text : CostCompleteness → String
  | .reportedComplete => "reported-complete"
  | .reportedTaxStatusUnknown => "reported-tax-status-unknown"
  | .partialCost => "partial"
  | .unknown => "unknown"

/-- `StayCanonicalCostV3`. -/
structure CanonicalCost where
  priceScope : String
  total : MoneyEvidence
  taxes : TaxEvidence
  fees : MoneyEvidence
  sourceCompleteness : CostCompleteness
  integrityStatus : CostIntegrityStatus

def CanonicalCost.toJson (c : CanonicalCost) : Json :=
  .obj [("priceScope", .str c.priceScope), ("total", c.total.toJson), ("taxes", c.taxes.toJson),
    ("fees", c.fees.toJson), ("sourceCompleteness", .str c.sourceCompleteness.text),
    ("integrityStatus", .str c.integrityStatus.text)]

/-- `StayCanonicalRoomV3` and `StayCanonicalMealPlanV3`. -/
structure NamedEvidence where
  name : Option String
  state : EvidenceState

def NamedEvidence.toJson (e : NamedEvidence) : Json :=
  .obj [("name", .text? e.name), ("state", .str e.state.text)]

/-- `StayCanonicalCancellationV3`. -/
structure CanonicalCancellation where
  status : String
  freeCancellationUntil : Option String
  penaltyAmount : Option ℚ
  penaltyCurrency : Option String
  state : EvidenceState

def CanonicalCancellation.toJson (c : CanonicalCancellation) : Json :=
  .obj [("status", .str c.status), ("freeCancellationUntil", .text? c.freeCancellationUntil),
    ("penaltyAmount", .num? c.penaltyAmount), ("penaltyCurrency", .text? c.penaltyCurrency),
    ("state", .str c.state.text)]

/-- `StayCanonicalPaymentV3`. -/
structure CanonicalPayment where
  timing : String
  state : EvidenceState

def CanonicalPayment.toJson (p : CanonicalPayment) : Json :=
  .obj [("timing", .str p.timing), ("state", .str p.state.text)]

inductive BookabilityStatus
  | bookable | recheckRequired | soldOut | unknown
deriving DecidableEq, Repr

def BookabilityStatus.text : BookabilityStatus → String
  | .bookable => "bookable"
  | .recheckRequired => "recheck-required"
  | .soldOut => "sold-out"
  | .unknown => "unknown"

/-- `StayBookabilityEvidenceV3`. -/
structure BookabilityEvidence where
  status : BookabilityStatus
  searchBookable : Option Bool
  observedAt : Option String
  freshness : String
  recheckRequired : Bool
  evidenceIds : List String

def BookabilityEvidence.keyFields (b : BookabilityEvidence) : List (String × Json) :=
  [("status", .str b.status.text), ("searchBookable", boolJson b.searchBookable),
    ("freshness", .str b.freshness), ("recheckRequired", .bool b.recheckRequired)]

def BookabilityEvidence.toJson (b : BookabilityEvidence) : Json :=
  .obj (b.keyFields ++
    [("observedAt", .text? b.observedAt), ("evidenceIds", .texts b.evidenceIds)])

/-- `StayNightEvidenceV3`. -/
structure NightEvidence where
  date : String
  amount : Option ℚ
  currency : Option String
  amountState : EvidenceState
  availability : String
  evidenceIds : List String

def NightEvidence.keyFields (n : NightEvidence) : List (String × Json) :=
  [("date", .str n.date), ("amount", .num? n.amount), ("currency", .text? n.currency),
    ("amountState", .str n.amountState.text), ("availability", .str n.availability)]

inductive TemporalStatus
  | complete | partialNights | notProvided | invalid
deriving DecidableEq, Repr

def TemporalStatus.text : TemporalStatus → String
  | .complete => "complete"
  | .partialNights => "partial"
  | .notProvided => "not-provided"
  | .invalid => "invalid"

/-- `StayTemporalPriceEvidenceV3`. -/
structure TemporalPriceEvidence where
  status : TemporalStatus
  expectedNightCount : Option ℤ
  coveredNightCount : ℤ
  nights : List NightEvidence
  totalsReconcile : Option Bool
  reasonCodes : List String

def TemporalPriceEvidence.keyFields (t : TemporalPriceEvidence) : List (String × Json) :=
  [("status", .str t.status.text), ("expectedNightCount", countJson t.expectedNightCount),
    ("coveredNightCount", .num t.coveredNightCount),
    ("totalsReconcile", boolJson t.totalsReconcile)]

def TemporalPriceEvidence.toJson (t : TemporalPriceEvidence) : Json :=
  .obj (t.keyFields ++
    [("nights", .arr (t.nights.map fun night =>
        .obj (night.keyFields ++ [("evidenceIds", .texts night.evidenceIds)]))),
      ("reasonCodes", .texts t.reasonCodes)])

/-- `StayOfferIntegritySnapshotV3` without its two keys. -/
structure SnapshotContent where
  hotelId : String
  offerId : String
  scope : StayScope
  room : NamedEvidence
  mealPlan : NamedEvidence
  cancellation : CanonicalCancellation
  payment : CanonicalPayment
  cost : CanonicalCost
  bookability : BookabilityEvidence
  temporalPriceEvidence : TemporalPriceEvidence
  evidenceIds : List String

structure StayOfferIntegritySnapshot extends SnapshotContent where
  snapshotId : String
  canonicalOfferKey : String

/-- `createCanonicalOfferKeyInput`. -/
def createCanonicalOfferKeyInput (s : SnapshotContent) : Json :=
  .obj [("hotelId", .str s.hotelId), ("scope", s.scope.toJson), ("room", s.room.toJson),
    ("mealPlan", s.mealPlan.toJson), ("cancellation", s.cancellation.toJson),
    ("payment", s.payment.toJson), ("total", .obj s.cost.total.keyFields),
    ("taxes", .obj s.cost.taxes.keyFields), ("fees", .obj s.cost.fees.keyFields),
    ("bookability", .obj s.bookability.keyFields),
    ("temporalPriceEvidence", .obj (s.temporalPriceEvidence.keyFields ++
      [("nights", .arr (s.temporalPriceEvidence.nights.map fun night =>
        .obj night.keyFields))]))]

def createCanonicalOfferKey (rt : Runtime) (s : SnapshotContent) : String :=
  createStableHash rt (createCanonicalOfferKeyInput s) "stayopti-v3-canonical-offer"

def createStayOfferSnapshotFingerprint (rt : Runtime) (canonicalOfferKey : String)
    (s : SnapshotContent) : String :=
  createStableHash rt
    (.obj [("canonicalOfferKey", .str canonicalOfferKey), ("hotelId", .str s.hotelId),
      ("offerId", .str s.offerId), ("scope", s.scope.toJson), ("room", s.room.toJson),
      ("mealPlan", s.mealPlan.toJson), ("cancellation", s.cancellation.toJson),
      ("payment", s.payment.toJson), ("cost", s.cost.toJson),
      ("bookability", s.bookability.toJson),
      ("temporalPriceEvidence", s.temporalPriceEvidence.toJson),
      ("evidenceIds", .texts s.evidenceIds)])
    "stayopti-v3-offer-snapshot"

/-! ## 3. Validation -/

/-- `normalizeCurrency`. -/
def normalizeCurrency (rt : Runtime) (value : String) : Option String :=
  let normalized := rt.toUpperCase (JsText.trim value)
  if normalized.toList.length = 3 && normalized.toList.all Char.isUpper then some normalized
  else none

def isValidMoneyEvidence (rt : Runtime) (evidence : MoneyEvidence) : Bool :=
  evidence.amount.all (0 ≤ ·) &&
    evidence.currency.all (fun currency => normalizeCurrency rt currency = some currency) &&
    (evidence.state ≠ .known || evidence.amount.isSome && evidence.currency.isSome)

/-- `exactScopeValid`. -/
def exactScopeValid (scope : StayScope) : Bool :=
  scope.status ≠ .exact || some (stayNightCount scope.checkIn scope.checkOut) = scope.nights &&
    scope.adults.isSome && scope.children.isSome && scope.rooms.isSome

def bookabilityValid (b : BookabilityEvidence) : Bool :=
  !(b.status = .bookable && b.searchBookable ≠ some true ||
    b.status = .soldOut && b.searchBookable ≠ some false ||
    b.status = .recheckRequired && (b.searchBookable ≠ some true || !b.recheckRequired))

/-- `validateStayOfferIntegritySnapshotV3(snapshot).valid`. -/
def validateStayOfferIntegritySnapshot (rt : Runtime) (snapshot : StayOfferIntegritySnapshot) :
    Bool :=
  JsText.trim snapshot.hotelId ≠ "" && JsText.trim snapshot.offerId ≠ "" &&
    isStableHash snapshot.snapshotId && isStableHash snapshot.canonicalOfferKey &&
    exactScopeValid snapshot.scope && snapshot.scope.status ≠ .conflicting &&
    isValidMoneyEvidence rt snapshot.cost.total && isValidMoneyEvidence rt snapshot.cost.fees &&
    [snapshot.cost.taxes.includedAmount, snapshot.cost.taxes.excludedAmount,
      snapshot.cost.taxes.unknownAmount].all (0 ≤ ·) &&
    snapshot.cost.integrityStatus ≠ .conflicting && bookabilityValid snapshot.bookability &&
    snapshot.temporalPriceEvidence.status ≠ .invalid &&
    createCanonicalOfferKey rt snapshot.toSnapshotContent = snapshot.canonicalOfferKey &&
    createStayOfferSnapshotFingerprint rt snapshot.canonicalOfferKey snapshot.toSnapshotContent =
      snapshot.snapshotId

/-! ## 4. Coverage -/

/-- `StayIntegrityCoverageRatioV3`. -/
structure CoverageRatio where
  numerator : Nat
  denominator : Nat
  ratio : ℚ
deriving DecidableEq

def ratio (numerator denominator : Nat) : CoverageRatio where
  numerator := numerator
  denominator := denominator
  ratio := if denominator = 0 then 0
    else JsNumber.round ((numerator : ℚ) / denominator * 1000000) / 1000000

/-- `StayIntegrityGateStatusV3`. -/
inductive IntegrityGate
  | ready | blocked
deriving DecidableEq, Repr

/-- `StayIntegrityCoverageReportV3`. -/
structure CoverageReport where
  scopeLabel : String
  analyzedHotelCount : ℤ
  mappedHotelCount : Nat
  offerSnapshotCount : Nat
  exactStayScopeCount : Nat
  knownTotalCostCount : Nat
  completeCostIntegrityCount : Nat
  knownTaxCount : Nat
  knownOrNotApplicableFeeCount : Nat
  canonicalRoomCount : Nat
  canonicalCancellationCount : Nat
  canonicalPaymentCount : Nat
  searchBookableCount : Nat
  recheckRequiredCount : Nat
  completeNightlyEvidenceCount : Nat
  decisionReadySnapshotCount : Nat
  invalidIntegrityCount : Nat
  duplicateCanonicalOfferCount : Nat
  stayScopeCoverage : CoverageRatio
  totalCostCoverage : CoverageRatio
  nightlyEvidenceCoverage : CoverageRatio
  publicRatesConsistency : PublicRateConsistency
  offlineTemporalEvaluation : IntegrityGate
  publicV3Promotion : IntegrityGate
  publicSplitPromotion : IntegrityGate
  reasonCodes : List String
deriving DecidableEq

def shareSameStayScope (first second : StayOfferIntegritySnapshot) : Bool :=
  first.scope.status = .exact && second.scope.status = .exact &&
    first.scope.checkIn = second.scope.checkIn && first.scope.checkOut = second.scope.checkOut &&
    first.scope.nights = second.scope.nights && first.scope.adults = second.scope.adults &&
    first.scope.children = second.scope.children && first.scope.rooms = second.scope.rooms

/-- The states that a snapshot must have to be decided on, its scope apart. -/
def completeStates (s : StayOfferIntegritySnapshot) : Bool :=
  s.cost.integrityStatus = .complete && s.room.state = .known && s.cancellation.state = .known &&
    s.payment.state = .known && s.bookability.searchBookable = some true

def hasCompatibleTemporalPair (snapshots : List StayOfferIntegritySnapshot) : Bool :=
  let eligible := snapshots.filter fun s => s.temporalPriceEvidence.status = .complete &&
    completeStates s && s.cost.total.amount.isSome && s.cost.total.currency.isSome
  eligible.tails.any fun
    | [] => false
    | first :: rest => rest.any fun second => first.hotelId ≠ second.hotelId &&
        first.cost.total.currency = second.cost.total.currency && shareSameStayScope first second

def isInvalidIntegrity (s : StayOfferIntegritySnapshot) : Bool :=
  s.scope.status = .conflicting || s.cost.integrityStatus = .conflicting ||
    s.temporalPriceEvidence.status = .invalid

def gate (open? : Bool) : IntegrityGate := if open? then .ready else .blocked

/-- `createStayIntegrityCoverageReportV3`. No count depends on the order of the snapshots, so
    they are not sorted here. -/
def createStayIntegrityCoverageReport (analyzedHotelCount : ℤ)
    (snapshots : List StayOfferIntegritySnapshot) (publicRatesConsistency : PublicRateConsistency) :
    CoverageReport :=
  let count (p : StayOfferIntegritySnapshot → Bool) := (snapshots.filter p).length
  let exactStayScopeCount := count fun s => s.scope.status = .exact
  let knownTotalCostCount := count fun s => s.cost.total.state = .known
  let completeCostIntegrityCount := count fun s => s.cost.integrityStatus = .complete
  let recheckRequiredCount := count fun s => s.bookability.recheckRequired
  let completeNightlyEvidenceCount := count fun s => s.temporalPriceEvidence.status = .complete
  let decisionReadySnapshotCount := count fun s => s.scope.status = .exact && completeStates s
  let invalidIntegrityCount := count isInvalidIntegrity
  let compatibleTemporalPair := hasCompatibleTemporalPair snapshots
  let publicV3Ready := publicRatesConsistency = .verified && 0 < decisionReadySnapshotCount &&
    invalidIntegrityCount = 0
  let publicV3Promotion := gate publicV3Ready
  let publicSplitPromotion := gate (publicV3Ready && compatibleTemporalPair)
  { scopeLabel := "current-search-result-set"
    analyzedHotelCount := if 0 ≤ analyzedHotelCount then analyzedHotelCount else 0
    mappedHotelCount := (snapshots.map (·.hotelId)).dedup.length
    offerSnapshotCount := snapshots.length
    exactStayScopeCount
    knownTotalCostCount
    completeCostIntegrityCount
    knownTaxCount := count fun s => s.cost.taxes.state = .known
    knownOrNotApplicableFeeCount := count fun s =>
      s.cost.fees.state = .known || s.cost.fees.state = .notApplicable
    canonicalRoomCount := count fun s => s.room.state = .known
    canonicalCancellationCount := count fun s => s.cancellation.state = .known
    canonicalPaymentCount := count fun s => s.payment.state = .known
    searchBookableCount := count fun s => s.bookability.searchBookable = some true
    recheckRequiredCount
    completeNightlyEvidenceCount
    decisionReadySnapshotCount
    invalidIntegrityCount
    duplicateCanonicalOfferCount :=
      snapshots.length - (snapshots.map (·.canonicalOfferKey)).dedup.length
    stayScopeCoverage := ratio exactStayScopeCount snapshots.length
    totalCostCoverage := ratio knownTotalCostCount snapshots.length
    nightlyEvidenceCoverage := ratio completeNightlyEvidenceCount snapshots.length
    publicRatesConsistency
    offlineTemporalEvaluation := gate compatibleTemporalPair
    publicV3Promotion
    publicSplitPromotion
    reasonCodes := uniqueSorted (
      ["integrity:coverage-computed"] ++
      (if publicRatesConsistency = .unverified then ["integrity:public-rates-unverified"] else []) ++
      (if publicRatesConsistency = .failed then ["integrity:public-rates-failed"] else []) ++
      (if exactStayScopeCount < snapshots.length then ["integrity:scope-incomplete"] else []) ++
      (if completeCostIntegrityCount < snapshots.length then ["integrity:cost-incomplete"]
        else []) ++
      (if completeNightlyEvidenceCount < snapshots.length then
        [if 0 < invalidIntegrityCount then "integrity:nightly-prices-invalid"
          else "integrity:nightly-prices-not-provided"]
        else if 0 < snapshots.length then ["integrity:temporal-evidence-complete"] else []) ++
      (if !compatibleTemporalPair then ["integrity:compatible-temporal-pair-unavailable"]
        else []) ++
      (if 0 < recheckRequiredCount then ["integrity:availability-recheck-required"] else []) ++
      (if publicV3Promotion = .blocked then ["integrity:public-v3-promotion-blocked"] else []) ++
      (if publicSplitPromotion = .blocked then ["integrity:public-split-promotion-blocked"]
        else [])) }

end SmartStay.Integrity
