import SmartStay.SplitF0.Offers

/-!
# Comparable offers

Which single stay the costs of a split are held against, and which two offers for the parts of a
stay may be compared with it.

1. `eligibleFixedSingleOffers`, `summarizeFixedBaseline`.
2. `assessLocalOutlier`.
3. `paymentCompatibility`, `classifySplitF0OfferComparability`.
-/

namespace SmartStay.SplitF0

open Contract

/-! ## 1. The fixed baseline -/

/-- `NON_ESSENTIAL_FIXED_BASELINE_ISSUES`. -/
def nonEssentialFixedBaselineIssues : List ComparabilityIssue :=
  [.boardIncompatible, .cancellationIncompatible]

/-- The cost in minor units of an offer that has passed the check of its cost. -/
def costOf (offer : OfferSnapshot) : ℤ := (totalCostMinorUnits offer).getD 0

/-- Cheaper offers first, and offers of one cost by their ids. -/
def compareCosts (rt : Runtime) (left right : OfferSnapshot) : Ordering :=
  (compare (costOf left) (costOf right)).then
    (rt.localeCompare left.offerSnapshotId right.offerSnapshotId)

def isEligible (rt : Runtime) (scenario : Scenario) (offer : OfferSnapshot) : Bool :=
  (validateOfferForPeriod rt scenario offer scenario.period .singlePeriodInvalid).all
    (· ∈ nonEssentialFixedBaselineIssues)

def eligibleFixedSingleOffers (rt : Runtime) (scenario : Scenario) (offers : List OfferSnapshot) :
    List OfferSnapshot :=
  JsSort.sortBy (compareCosts rt) (offers.filter (isEligible rt scenario))

def selectSplitF0FixedSingleBaseline (rt : Runtime) (scenario : Scenario)
    (offers : List OfferSnapshot) : Option OfferSnapshot :=
  (eligibleFixedSingleOffers rt scenario offers).head?

def fixedBaselineEvidenceLimits (offer : OfferSnapshot) : List String :=
  uniqueSorted <|
    (if offer.boardClass = .unknown then ["fixed-baseline-board-unknown"] else []) ++
    (if offer.cancellationClass = .unknown then ["fixed-baseline-cancellation-unknown"] else []) ++
    (if offer.paymentTiming = .unknown then ["payment-timing-unknown"] else []) ++
    (if offer.roomClass = .unknown || offer.roomClass = .other then
      ["fixed-baseline-room-class-incomplete"] else [])

/-- `SplitF0FixedBaselineBucketV1`; the completeness of the cost is always `complete`. -/
structure FixedBaselineBucket where
  currency : String
  occupancy : String
  boardClass : BoardClass
  cancellationClass : CancellationClass
  paymentTiming : PaymentTiming
  roomClass : RoomClass

/-- `SplitF0FixedSingleBaselineV1`. -/
structure FixedSingleBaseline where
  offerSnapshotId : String
  total : ℚ
  totalMinorUnits : ℤ
  totalFormatted : String
  perNight : ℚ
  perNightMinorUnits : ℤ
  perNightFormatted : String
  bucket : FixedBaselineBucket
  evidenceLimits : List String
  eligibleFullStayOfferCount : Nat
  cheaperEligibleFullStayOfferCount : Nat
  selectedPercentile : ℚ
  localMedianTotal : ℚ
  localMedianTotalMinorUnits : ℤ
  localMedianTotalFormatted : String

/-- The place of an offer among `count` sorted ones, from 0 to 1. -/
def percentileOf (index count : Nat) : ℚ := if count = 1 then 0 else index / (count - 1)

def summarizeFixedBaseline (rt : Runtime) (scenario : Scenario) (offers : List OfferSnapshot)
    (selected : OfferSnapshot) : Except String FixedSingleBaseline := do
  let eligible := eligibleFixedSingleOffers rt scenario offers
  match eligible.findIdx? (·.offerSnapshotId = selected.offerSnapshotId) with
  | none => throw "split-f0-fixed-baseline-not-eligible"
  | some selectedIndex => do
    let totalMinorUnits ← splitF0MoneyToMinorUnits selected.totalCost
    let medianMinor ← medianMinorUnits
      (← eligible.mapM fun o => splitF0MoneyToMinorUnits o.totalCost)
    let perNightMinorUnits := JsNumber.round (totalMinorUnits / scenario.nights)
    return {
      offerSnapshotId := selected.offerSnapshotId
      total := ← minorUnitsToNumber totalMinorUnits
      totalMinorUnits
      totalFormatted := ← splitF0MinorUnitsToMoney totalMinorUnits
      perNight := ← minorUnitsToNumber perNightMinorUnits
      perNightMinorUnits
      perNightFormatted := ← splitF0MinorUnitsToMoney perNightMinorUnits
      bucket :=
        { currency := selected.currency
          occupancy := occupancyKey rt selected.occupancy
          boardClass := selected.boardClass
          cancellationClass := selected.cancellationClass
          paymentTiming := selected.paymentTiming
          roomClass := selected.roomClass }
      evidenceLimits := fixedBaselineEvidenceLimits selected
      eligibleFullStayOfferCount := eligible.length
      cheaperEligibleFullStayOfferCount := selectedIndex
      selectedPercentile := percentileOf selectedIndex eligible.length
      localMedianTotal := ← minorUnitsToNumber medianMinor
      localMedianTotalMinorUnits := medianMinor
      localMedianTotalFormatted := ← splitF0MinorUnitsToMoney medianMinor }

/-! ## 2. Outliers -/

/-- `SplitF0OutlierFlagV1`. -/
inductive OutlierFlag
  | priceLevelOutlier | savingRatioOutlier | crossCaptureInstability
deriving DecidableEq, Repr

def OutlierFlag.text : OutlierFlag → String
  | .priceLevelOutlier => "PRICE_LEVEL_OUTLIER"
  | .savingRatioOutlier => "SAVING_RATIO_OUTLIER"
  | .crossCaptureInstability => "CROSS_CAPTURE_INSTABILITY"

/-- `SplitF0OutlierClassificationV1`. -/
inductive OutlierClassification
  | none | flag (flag : OutlierFlag) | multipleFlags
deriving DecidableEq, Repr

def outlierClassification (flags : List OutlierFlag) : OutlierClassification :=
  match uniqueSortedBy (·.text) flags with
  | [] => .none
  | [flag] => .flag flag
  | _ => .multipleFlags

/-- `SplitF0OutlierAssessmentV1`. -/
structure OutlierAssessment where
  classification : OutlierClassification
  flags : List OutlierFlag
  selectedPricePerNight : Option ℚ
  localMedianPricePerNight : Option ℚ
  selectedPercentile : Option ℚ
  grossSavingRatio : Option ℚ
  productionReconfirmationRequired : Bool

/-- The assessment without a single stay. -/
def noOutlier (grossSavingRatio : Option ℚ) : OutlierAssessment :=
  ⟨.none, [], none, none, none, grossSavingRatio, false⟩

/-- The flags of a selected single stay among the sorted eligible ones. -/
def outlierFlags (count : Nat) (selectedPercentile : Option ℚ) (selectedMinor medianMinor : ℤ)
    (grossSavingRatio : Option ℚ) : List OutlierFlag :=
  let priceLevelOutlier := 5 ≤ count && selectedPercentile.any (9 / 10 ≤ ·) &&
    medianMinor * 3 ≤ selectedMinor
  uniqueSortedBy (·.text) <|
    (if priceLevelOutlier then [OutlierFlag.priceLevelOutlier] else []) ++
    (if grossSavingRatio.any (1 / 2 ≤ ·) &&
        (priceLevelOutlier || selectedPercentile.any (9 / 10 ≤ ·)) then
      [OutlierFlag.savingRatioOutlier] else [])

def assessLocalOutlier (rt : Runtime) (scenario : Scenario)
    (fixedBaseline : Option FixedSingleBaseline) (selectedSingle : Option OfferSnapshot)
    (eligibleSingles : List OfferSnapshot) (grossSavingRatio : Option ℚ) :
    Except String OutlierAssessment :=
  match selectedSingle with
  | none => .ok (noOutlier grossSavingRatio)
  | some selectedSingle => do
    if eligibleSingles = [] then return noOutlier grossSavingRatio
    let ordered := JsSort.sortBy (compareCosts rt) eligibleSingles
    let selectedIndex := ordered.findIdx? (·.offerSnapshotId = selectedSingle.offerSnapshotId)
    let selectedMinor ← splitF0MoneyToMinorUnits selectedSingle.totalCost
    let medianMinor ← medianMinorUnits
      (← ordered.mapM fun o => splitF0MoneyToMinorUnits o.totalCost)
    let selectedPercentile := selectedIndex.map (percentileOf · ordered.length)
    let selectedPricePerNight ←
      minorUnitsToNumber (JsNumber.round (selectedMinor / scenario.nights))
    let localMedianPricePerNight ←
      minorUnitsToNumber (JsNumber.round (medianMinor / scenario.nights))
    -- The baseline itself is never an outlier.
    let flags :=
      if fixedBaseline.any (·.offerSnapshotId = selectedSingle.offerSnapshotId) then []
      else outlierFlags ordered.length selectedPercentile selectedMinor medianMinor grossSavingRatio
    return ⟨outlierClassification flags, flags, some selectedPricePerNight,
      some localMedianPricePerNight, selectedPercentile, grossSavingRatio, 0 < flags.length⟩

/-! ## 3. Comparability -/

/-- `COMPARABLE_ROOM_CLASSES`. -/
def comparableRoomClasses : List RoomClass := [.standard, .superior, .suite, .apartment]

/-- `SplitF0ComparabilityLevelV1` of what is comparable. -/
inductive ComparabilityLevel
  | strict | conditional
deriving DecidableEq, Repr

structure PaymentCompatibility where
  level : Option ComparabilityLevel
  bucketValue : PaymentTiming
  evidenceLimits : List String

/-- `paymentCompatibility`; the offers are compatible when they have a level. -/
def paymentCompatibility (offers : List OfferSnapshot) : PaymentCompatibility :=
  let values := offers.map (·.paymentTiming)
  match uniqueSortedBy (·.text) (values.filter (· ≠ .unknown)) with
  | [] => ⟨some .conditional, .unknown, ["payment-timing-unknown"]⟩
  | [known] =>
    if values.all (· ≠ .unknown) then ⟨some .strict, known, []⟩
    else ⟨some .conditional, .unknown, ["payment-timing-known-unknown"]⟩
  | _ => ⟨none, .unknown, []⟩

/-- `SplitF0ComparabilityBucketV1`; the completeness of the cost is always `complete`. -/
structure ComparabilityBucket where
  currency : String
  occupancy : String
  boardClass : BoardClass
  cancellationClass : CancellationClass
  paymentTiming : PaymentTiming
  minimumRating : ℚ
  minimumReviewCount : ℚ
  maximumDistanceKm : ℚ
  roomClass : RoomClass

/-- `SplitF0ComparabilityResultV1`: a level and a bucket, or issues, which are also the known
    incompatibilities. -/
structure ComparabilityResult where
  comparable : Option (ComparabilityLevel × ComparabilityBucket)
  issues : List ComparabilityIssue
  evidenceLimits : List String

/-- The issues of one of the split offers beside the single one. -/
def splitOfferIssues (rt : Runtime) (singleOffer splitOffer : OfferSnapshot) :
    List ComparabilityIssue :=
  (if splitOffer.currency ≠ singleOffer.currency then [ComparabilityIssue.currencyMismatch] else []) ++
  (if !sameOccupancy rt splitOffer.occupancy singleOffer.occupancy then [ComparabilityIssue.occupancyMismatch]
    else []) ++
  (if splitOffer.boardClass ≠ singleOffer.boardClass then [ComparabilityIssue.boardIncompatible] else []) ++
  (if splitOffer.cancellationClass ≠ singleOffer.cancellationClass then
    [ComparabilityIssue.cancellationIncompatible] else []) ++
  (if singleOffer.roomClass ∉ comparableRoomClasses ||
      splitOffer.roomClass ∉ comparableRoomClasses ||
      singleOffer.roomClass ≠ splitOffer.roomClass then [ComparabilityIssue.roomClassIncompatible] else [])

def segmentsCover (scenario : Scenario) (segments : Period × Period) : Bool :=
  segments.1.checkIn = scenario.checkIn && segments.1.checkOut = segments.2.checkIn &&
    segments.2.checkOut = scenario.checkOut && 2 ≤ segments.1.nights && 2 ≤ segments.2.nights &&
    segments.1.nights + segments.2.nights = scenario.nights

/-- The issues of `classifySplitF0OfferComparabilityV1`. -/
def comparabilityIssues (rt : Runtime) (scenario : Scenario) (segments : Period × Period)
    (singleOffer : OfferSnapshot) (splitOffers : OfferSnapshot × OfferSnapshot) :
    List ComparabilityIssue :=
  uniqueSortedBy (·.text) <|
    (if ¬ scenario.Valid then [ComparabilityIssue.scenarioInvalid] else []) ++
    (if !segmentsCover scenario segments then [ComparabilityIssue.segmentCoverageInvalid] else []) ++
    validateOfferForPeriod rt scenario singleOffer scenario.period .singlePeriodInvalid ++
    validateOfferForPeriod rt scenario splitOffers.1 segments.1 .splitPeriodInvalid ++
    validateOfferForPeriod rt scenario splitOffers.2 segments.2 .splitPeriodInvalid ++
    (if splitOffers.1.propertyId = splitOffers.2.propertyId then [ComparabilityIssue.duplicateHotel] else []) ++
    splitOfferIssues rt singleOffer splitOffers.1 ++
    splitOfferIssues rt singleOffer splitOffers.2 ++
    (if (paymentCompatibility [singleOffer, splitOffers.1, splitOffers.2]).level.isNone then
      [ComparabilityIssue.paymentIncompatible] else [])

def classifySplitF0OfferComparability (rt : Runtime) (scenario : Scenario)
    (segments : Period × Period) (singleOffer : OfferSnapshot)
    (splitOffers : OfferSnapshot × OfferSnapshot) : ComparabilityResult :=
  let payment := paymentCompatibility [singleOffer, splitOffers.1, splitOffers.2]
  let issues := comparabilityIssues rt scenario segments singleOffer splitOffers
  { comparable :=
      if 0 < issues.length then none
      else payment.level.map fun level => (level,
        { currency := singleOffer.currency
          occupancy := occupancyKey rt singleOffer.occupancy
          boardClass := singleOffer.boardClass
          cancellationClass := singleOffer.cancellationClass
          paymentTiming := payment.bucketValue
          minimumRating := scenario.constraints.minimumRating
          minimumReviewCount := scenario.constraints.minimumReviewCount
          maximumDistanceKm := scenario.constraints.maximumDistanceKm
          roomClass := singleOffer.roomClass })
    issues
    evidenceLimits := uniqueSorted payment.evidenceLimits }

end SmartStay.SplitF0
