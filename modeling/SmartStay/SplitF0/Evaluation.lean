import SmartStay.Lib.HashIndex
import SmartStay.SplitF0.Comparability

/-!
# The economic evaluation of a split

What a stay costs in two parts beside what it costs in one: against the fixed baseline, and as a
diagnostic within each bucket of comparable offers.

1. `Candidate`, `sortCandidates`.
2. `structuralKey`, `buildMatchedBucketDiagnostic`.
3. `evaluateSplitF0EconomicOpportunity`.
-/

namespace SmartStay.SplitF0

open Contract

/-! ## 1. Candidates -/

/-- `SplitF0CandidateV1`. -/
structure Candidate where
  single : OfferSnapshot
  split : OfferSnapshot × OfferSnapshot
  bucket : ComparabilityBucket
  singleTotalMinorUnits : ℤ
  splitTotalMinorUnits : ℤ
  grossSavingMinorUnits : ℤ
  comparabilityLevel : ComparabilityLevel
  evidenceLimits : List String

/-- The costs of comparable offers are amounts of money. The sums that a double rounds are larger
    than all others, and `minorUnitsToNumber` refuses them. -/
def candidateFromClassification (single : OfferSnapshot) (split : OfferSnapshot × OfferSnapshot)
    (classification : ComparabilityResult) : Option Candidate :=
  classification.comparable.map fun comparable =>
    let singleTotalMinorUnits := costOf single
    let splitTotalMinorUnits := costOf split.1 + costOf split.2
    { single
      split
      bucket := comparable.2
      singleTotalMinorUnits
      splitTotalMinorUnits
      grossSavingMinorUnits := singleTotalMinorUnits - splitTotalMinorUnits
      comparabilityLevel := comparable.1
      evidenceLimits := classification.evidenceLimits }

/-- `Number(level !== "STRICT_COMPARABLE")`. -/
def ComparabilityLevel.rank : ComparabilityLevel → Nat
  | .strict => 0
  | .conditional => 1

/-- Strictly comparable candidates first, then the larger saving, the cheaper split, the ids. -/
def sortCandidates (rt : Runtime) (left right : Candidate) : Ordering :=
  (compare left.comparabilityLevel.rank right.comparabilityLevel.rank).then <|
  (compare right.grossSavingMinorUnits left.grossSavingMinorUnits).then <|
  (compare left.splitTotalMinorUnits right.splitTotalMinorUnits).then <|
  (rt.localeCompare left.single.offerSnapshotId right.single.offerSnapshotId).then <|
  (rt.localeCompare left.split.1.offerSnapshotId right.split.1.offerSnapshotId).then <|
  rt.localeCompare left.split.2.offerSnapshotId right.split.2.offerSnapshotId

/-! ## 2. The matched-bucket diagnostic -/

/-- `JSON.stringify` of what comparable offers have in common. -/
def structuralKey (rt : Runtime) (scenario : Scenario) (period : Period)
    (periodIssue : ComparabilityIssue) (offer : OfferSnapshot) : Option String :=
  if 0 < (validateOfferForPeriod rt scenario offer period periodIssue).length ||
      offer.roomClass ∉ comparableRoomClasses then none
  else some (stableSerialize rt (.texts [offer.currency, occupancyKey rt offer.occupancy,
    offer.boardClass.text, offer.cancellationClass.text, offer.roomClass.text]))

/-- `singlesByStructuralKey`. -/
def indexSingles (rt : Runtime) (scenario : Scenario) (singles : List OfferSnapshot) :
    List (String × List OfferSnapshot) :=
  HashIndex.build (structuralKey rt scenario scenario.period .singlePeriodInvalid) singles

def classifyCandidate (rt : Runtime) (scenario : Scenario) (segments : Period × Period)
    (single : OfferSnapshot) (split : OfferSnapshot × OfferSnapshot) : Option Candidate :=
  candidateFromClassification single split
    (classifySplitF0OfferComparability rt scenario segments single split)

/-- The candidates that the index leads to. -/
def indexedCandidates (rt : Runtime) (scenario : Scenario) (segments : Period × Period)
    (singles firsts seconds : List OfferSnapshot) : List Candidate :=
  let index := indexSingles rt scenario singles
  firsts.flatMap fun first =>
    match structuralKey rt scenario segments.1 .splitPeriodInvalid first with
    | none => []
    | some firstKey => seconds.flatMap fun second =>
      if structuralKey rt scenario segments.2 .splitPeriodInvalid second = some firstKey then
        (HashIndex.get index firstKey).filterMap fun single =>
          classifyCandidate rt scenario segments single (first, second)
      else []

/-- `JSON.stringify(bucket)`. -/
def bucketKey (rt : Runtime) (bucket : ComparabilityBucket) : String :=
  let fields : List (String × Json) :=
    [("currency", .str bucket.currency), ("occupancy", .str bucket.occupancy),
      ("boardClass", .str bucket.boardClass.text),
      ("cancellationClass", .str bucket.cancellationClass.text),
      ("paymentTiming", .str bucket.paymentTiming.text), ("totalCostCompleteness", .str "complete"),
      ("minimumRating", .num bucket.minimumRating),
      ("minimumReviewCount", .num bucket.minimumReviewCount),
      ("maximumDistanceKm", .num bucket.maximumDistanceKm),
      ("roomClass", .str bucket.roomClass.text)]
  "\x7b" ++ ",".intercalate (fields.map fun field =>
    quote field.1 ++ ":" ++ stableSerialize rt field.2) ++ "\x7d"

/-- `cheapestSingleByBucket`. -/
def cheapestSingleByBucket (rt : Runtime) (candidates : List Candidate) : List (String × ℤ) :=
  Grouping.groupInto (fun c => bucketKey rt c.bucket) (·.singleTotalMinorUnits)
    (Grouping.keepLess (·.singleTotalMinorUnits)) candidates

/-- The first of the candidates with the cheapest single stay of their bucket. -/
def selectMatched (rt : Runtime) (candidates : List Candidate) : Option Candidate :=
  let cheapest := cheapestSingleByBucket rt candidates
  let ofCheapest := candidates.filter fun c =>
    (cheapest.find? (·.1 == bucketKey rt c.bucket)).map Prod.snd = some c.singleTotalMinorUnits
  (JsSort.sortBy (sortCandidates rt) ofCheapest).head?

/-- `SplitF0MatchedBucketDiagnosticV1`. -/
structure MatchedBucketDiagnostic where
  comparabilityLevel : ComparabilityLevel
  bucket : ComparabilityBucket
  singleOfferSnapshotId : String
  splitOfferSnapshotIds : String × String
  singleTotal : ℚ
  splitTotal : ℚ
  grossSavingAmount : ℚ
  grossSavingRatio : ℚ
  evidenceLimits : List String
  outlierAssessment : OutlierAssessment

/-- What the diagnostic says of the selected candidate. -/
def describeMatched (rt : Runtime) (scenario : Scenario) (singles : List OfferSnapshot)
    (fixedBaseline : Option FixedSingleBaseline) (selected : Candidate) :
    Except String MatchedBucketDiagnostic := do
  let grossSavingRatio : ℚ := selected.grossSavingMinorUnits / selected.singleTotalMinorUnits
  return {
    comparabilityLevel := selected.comparabilityLevel
    bucket := selected.bucket
    singleOfferSnapshotId := selected.single.offerSnapshotId
    splitOfferSnapshotIds := (selected.split.1.offerSnapshotId, selected.split.2.offerSnapshotId)
    singleTotal := ← minorUnitsToNumber selected.singleTotalMinorUnits
    splitTotal := ← minorUnitsToNumber selected.splitTotalMinorUnits
    grossSavingAmount := ← minorUnitsToNumber selected.grossSavingMinorUnits
    grossSavingRatio
    evidenceLimits := uniqueSorted (["matched-bucket-diagnostic-only",
      "not-best-single-stay-headline"] ++ selected.evidenceLimits)
    outlierAssessment := ← assessLocalOutlier rt scenario fixedBaseline (some selected.single)
      (eligibleFixedSingleOffers rt scenario singles) (some grossSavingRatio) }

def buildMatchedBucketDiagnostic (rt : Runtime) (scenario : Scenario) (segments : Period × Period)
    (singles firsts seconds : List OfferSnapshot) (fixedBaseline : Option FixedSingleBaseline) :
    Except String (Option MatchedBucketDiagnostic) :=
  match selectMatched rt (indexedCandidates rt scenario segments singles firsts seconds) with
  | none => .ok none
  | some selected => (describeMatched rt scenario singles fixedBaseline selected).map some

/-! ## 3. The evaluation -/

/-- `SplitF0EconomicSignalV1`. -/
inductive EconomicSignal
  | noComparableData | noGrossSaving | positiveBelow50 | positive50To149 | positive150To299
  | positive300Plus
deriving DecidableEq, Repr

def economicSignal (grossSavingMinorUnits : ℤ) : EconomicSignal :=
  if grossSavingMinorUnits ≤ 0 then .noGrossSaving
  else if grossSavingMinorUnits < 5000 then .positiveBelow50
  else if grossSavingMinorUnits < 15000 then .positive50To149
  else if grossSavingMinorUnits < 30000 then .positive150To299
  else .positive300Plus

/-- `SplitF0FrictionSensitivityResultV1`. -/
structure FrictionSensitivity where
  hypotheticalFrictionEur : ℚ
  netSavingAtFriction : ℚ
  netSavingAtFrictionMinorUnits : ℤ
  netSavingAtFrictionFormatted : String

inductive Comparability
  | comparable | noComparableData
deriving DecidableEq, Repr

/-- `SplitF0ComparisonResultV1`, whose issues are also its known incompatibilities. -/
structure ComparisonResult where
  scenarioId : String
  splitPointId : String
  technicalValidity : Bool
  comparability : Comparability
  comparabilityLevel : Option ComparabilityLevel
  issues : List String
  bucket : Option ComparabilityBucket
  fixedBaseline : Option FixedSingleBaseline
  singleOfferSnapshotId : Option String
  splitOfferSnapshotIds : Option (String × String)
  singleTotal : Option ℚ
  singleTotalMinorUnits : Option ℤ
  singleTotalFormatted : Option String
  splitTotal : Option ℚ
  splitTotalMinorUnits : Option ℤ
  splitTotalFormatted : Option String
  grossSavingAmount : Option ℚ
  grossSavingMinorUnits : Option ℤ
  grossSavingAmountFormatted : Option String
  grossSavingRatio : Option ℚ
  frictionSensitivity : List FrictionSensitivity
  economicSignal : EconomicSignal
  matchedBucketDiagnostic : Option MatchedBucketDiagnostic
  outlierAssessment : OutlierAssessment
  evidenceLimits : List String

def noComparableResult (scenarioId splitPointId : String) (issues : List String)
    (technicalValidity : Bool) (fixedBaseline : Option FixedSingleBaseline)
    (matchedBucketDiagnostic : Option MatchedBucketDiagnostic) : ComparisonResult where
  scenarioId := scenarioId
  splitPointId := splitPointId
  technicalValidity := technicalValidity
  comparability := .noComparableData
  comparabilityLevel := none
  issues := uniqueSorted issues
  bucket := none
  fixedBaseline := fixedBaseline
  singleOfferSnapshotId := fixedBaseline.map (·.offerSnapshotId)
  splitOfferSnapshotIds := none
  singleTotal := fixedBaseline.map (·.total)
  singleTotalMinorUnits := fixedBaseline.map (·.totalMinorUnits)
  singleTotalFormatted := fixedBaseline.map (·.totalFormatted)
  splitTotal := none
  splitTotalMinorUnits := none
  splitTotalFormatted := none
  grossSavingAmount := none
  grossSavingMinorUnits := none
  grossSavingAmountFormatted := none
  grossSavingRatio := none
  frictionSensitivity := []
  economicSignal := .noComparableData
  matchedBucketDiagnostic := matchedBucketDiagnostic
  outlierAssessment := noOutlier none
  evidenceLimits := ["calibration-set-not-market-evidence", "no-public-or-policy-use"] ++
    (fixedBaseline.map (·.evidenceLimits)).getD []

/-- `SplitF0EconomicEvaluationInputV1`; a baseline may be given, also as `null`. -/
structure EvaluationInput where
  scenario : Scenario
  splitPointId : String
  singleStayOffers : List OfferSnapshot
  fixedSingleBaseline : Option (Option OfferSnapshot)
  firstSegmentOffers : List OfferSnapshot
  secondSegmentOffers : List OfferSnapshot

/-- `SPLIT_F0_FRICTION_SENSITIVITY_EUR_V1`. -/
def frictionSensitivityEur : List ℚ := [0, 25, 50, 75, 100, 150]

def netSavingAt (grossSavingMinorUnits : ℤ) (friction : ℚ) : Except String FrictionSensitivity := do
  let net := grossSavingMinorUnits - (← splitF0MoneyToMinorUnits friction)
  return ⟨friction, ← minorUnitsToNumber net, net, ← splitF0MinorUnitsToMoney net⟩

/-- The result for the selected pair of offers. -/
def comparableResult (rt : Runtime) (input : EvaluationInput) (fixedBaseline : FixedSingleBaseline)
    (matchedBucketDiagnostic : Option MatchedBucketDiagnostic)
    (eligibleSingles : List OfferSnapshot) (selected : Candidate) :
    Except String ComparisonResult := do
  let grossSavingRatio : ℚ := selected.grossSavingMinorUnits / selected.singleTotalMinorUnits
  let outlierAssessment ← assessLocalOutlier rt input.scenario (some fixedBaseline)
    (some selected.single) eligibleSingles (some grossSavingRatio)
  return {
    scenarioId := input.scenario.scenarioId
    splitPointId := input.splitPointId
    technicalValidity := true
    comparability := .comparable
    comparabilityLevel := some selected.comparabilityLevel
    issues := []
    bucket := some selected.bucket
    fixedBaseline := some fixedBaseline
    singleOfferSnapshotId := some selected.single.offerSnapshotId
    splitOfferSnapshotIds :=
      some (selected.split.1.offerSnapshotId, selected.split.2.offerSnapshotId)
    singleTotal := some (← minorUnitsToNumber selected.singleTotalMinorUnits)
    singleTotalMinorUnits := some selected.singleTotalMinorUnits
    singleTotalFormatted := some (← splitF0MinorUnitsToMoney selected.singleTotalMinorUnits)
    splitTotal := some (← minorUnitsToNumber selected.splitTotalMinorUnits)
    splitTotalMinorUnits := some selected.splitTotalMinorUnits
    splitTotalFormatted := some (← splitF0MinorUnitsToMoney selected.splitTotalMinorUnits)
    grossSavingAmount := some (← minorUnitsToNumber selected.grossSavingMinorUnits)
    grossSavingMinorUnits := some selected.grossSavingMinorUnits
    grossSavingAmountFormatted := some (← splitF0MinorUnitsToMoney selected.grossSavingMinorUnits)
    grossSavingRatio := some grossSavingRatio
    frictionSensitivity :=
      ← frictionSensitivityEur.mapM (netSavingAt selected.grossSavingMinorUnits)
    economicSignal := economicSignal selected.grossSavingMinorUnits
    matchedBucketDiagnostic
    outlierAssessment
    evidenceLimits := uniqueSorted (["calibration-set-not-market-evidence",
      "hypothetical-friction-not-scientifically-calibrated",
      "production-read-only-results-required-for-economic-feasibility",
      "no-public-or-policy-use"] ++
      fixedBaseline.evidenceLimits ++ selected.evidenceLimits ++
      (if outlierAssessment.productionReconfirmationRequired then
        ["outlier-production-reconfirmation-required"] else [])) }

/-- The pairs of offers for the parts of the stay. -/
def offerPairs (input : EvaluationInput) : List (OfferSnapshot × OfferSnapshot) :=
  input.firstSegmentOffers.flatMap fun first => input.secondSegmentOffers.map (first, ·)

/-- `candidates` of the comparison with the fixed single stay. -/
def pairCandidates (rt : Runtime) (input : EvaluationInput) (segments : Period × Period)
    (fixedSingle : OfferSnapshot) : List Candidate :=
  (offerPairs input).filterMap (classifyCandidate rt input.scenario segments fixedSingle)

/-- `rejectedIssues`: the issues of the pairs that are no candidates. -/
def rejectedIssues (rt : Runtime) (input : EvaluationInput) (segments : Period × Period)
    (fixedSingle : OfferSnapshot) : List ComparabilityIssue :=
  ((offerPairs input).filter fun pair =>
    (classifyCandidate rt input.scenario segments fixedSingle pair).isNone).flatMap fun pair =>
      (classifySplitF0OfferComparability rt input.scenario segments fixedSingle pair).issues

/-- The issues of a result without candidates. -/
def noSplitIssues (rejected : List ComparabilityIssue) : List String :=
  "NO_COMPARABLE_SPLIT_FOR_FIXED_BASELINE" ::
    if 0 < rejected.length then (uniqueSortedBy ComparabilityIssue.text rejected).map (·.text)
    else ["no-offers"]

/-- The comparison with the fixed single stay. -/
def compareWithFixed (rt : Runtime) (input : EvaluationInput) (segments : Period × Period)
    (eligibleSingles : List OfferSnapshot) (fixedSingle : OfferSnapshot)
    (fixedBaseline : FixedSingleBaseline)
    (matchedBucketDiagnostic : Option MatchedBucketDiagnostic) : Except String ComparisonResult :=
  let candidates := pairCandidates rt input segments fixedSingle
  match (JsSort.sortBy (sortCandidates rt) candidates).head? with
  | none => .ok (noComparableResult input.scenario.scenarioId input.splitPointId
      (noSplitIssues (rejectedIssues rt input segments fixedSingle)) true (some fixedBaseline)
      matchedBucketDiagnostic)
  | some selected =>
    comparableResult rt input fixedBaseline matchedBucketDiagnostic eligibleSingles selected

/-- The evaluation of a valid scenario whose split point is known. -/
def evaluateSegments (rt : Runtime) (input : EvaluationInput) (segments : Period × Period) :
    Except String ComparisonResult := do
  let eligibleSingles := eligibleFixedSingleOffers rt input.scenario input.singleStayOffers
  let fixedSingle := input.fixedSingleBaseline.getD eligibleSingles.head?
  if fixedSingle.any fun fixed =>
      !eligibleSingles.any (·.offerSnapshotId = fixed.offerSnapshotId) then
    return noComparableResult input.scenario.scenarioId input.splitPointId
      ["fixed-single-baseline-invalid"] false none none
  match fixedSingle with
  | none => do
    let diagnostic ← buildMatchedBucketDiagnostic rt input.scenario segments input.singleStayOffers
      input.firstSegmentOffers input.secondSegmentOffers none
    return noComparableResult input.scenario.scenarioId input.splitPointId
      ["no-eligible-fixed-single-baseline"] true none diagnostic
  | some fixedSingle => do
    let fixedBaseline ← summarizeFixedBaseline rt input.scenario input.singleStayOffers fixedSingle
    let diagnostic ← buildMatchedBucketDiagnostic rt input.scenario segments input.singleStayOffers
      input.firstSegmentOffers input.secondSegmentOffers (some fixedBaseline)
    compareWithFixed rt input segments eligibleSingles fixedSingle fixedBaseline diagnostic

def evaluateSplitF0EconomicOpportunity (rt : Runtime) (input : EvaluationInput) :
    Except String ComparisonResult :=
  if ¬ input.scenario.Valid then
    .ok (noComparableResult input.scenario.scenarioId input.splitPointId
      (validateSplitF0Scenario input.scenario) false none none)
  else
    match buildSplitF0Segments input.scenario input.splitPointId with
    | .error message => .ok (noComparableResult input.scenario.scenarioId input.splitPointId
        [message] false none none)
    | .ok segments => evaluateSegments rt input segments

end SmartStay.SplitF0
