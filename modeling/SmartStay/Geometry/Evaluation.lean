import SmartStay.Geometry.Relations

/-!
# The decision geometry

1. `createTradeOffThresholds`: the highest price at which a hotel keeps up with another.
2. `createMarginalValueSegments`, `createDecisionMap`.
3. The evaluation as a record and its fingerprint.
4. `evaluateDecisionGeometry`, `validateDecisionGeometry`.
-/

namespace SmartStay.Geometry

open Contract JsSort

/-! ## 1. Thresholds -/

/-- `StayOptiThresholdResolutionStatusV3`. -/
inductive ThresholdStatus
  | available | unattainable | unboundedByUtility | unavailable
deriving DecidableEq, Repr

def ThresholdStatus.text : ThresholdStatus → String
  | .available => "available"
  | .unattainable => "unattainable"
  | .unboundedByUtility => "unbounded-by-utility"
  | .unavailable => "unavailable"

structure MaximumSensiblePrice where
  status : ThresholdStatus
  amount : Option ℚ
  currency : Option String
  againstHotelId : String

/-- `createBudgetUtilityV3` on a positive cost and budget. -/
def createBudgetUtility (rt : Runtime) (totalCost totalBudget : ℚ) : ℚ :=
  let utilization := totalCost / totalBudget
  if utilization ≤ 1 then round (100 - 35 * rt.power utilization (135 / 100)) 6
  else round (max 0 (65 - 100 * rt.power (utilization - 1) (85 / 100))) 6

def utilityAtHypotheticalPrice (rt : Runtime) (candidate : NormalizedCandidate) (totalCost : ℚ) :
    Option ℚ := do
  let budget ← normalizeFinitePositive candidate.source.utility.totalBudget
  let price ← priceContribution? candidate
  if !price.available || price.normalizedAvailableWeight ≤ 0 then none else
  let nonPriceUtility := ((candidate.source.utility.contributions.filter fun c =>
    c.dimension ≠ .priceValue).map (·.weightedValue)).sum
  some (nonPriceUtility +
    createBudgetUtility rt totalCost budget * price.normalizedAvailableWeight)

/-- The rounds of the bisection: the last price known to be sensible. -/
def bisect (utilityAt : ℚ → Option ℚ) (referenceUtility : ℚ) : Nat → ℚ → ℚ → Option ℚ
  | 0, low, _ => some low
  | rounds + 1, low, high => do
    let middle := (low + high) / 2
    let utility ← utilityAt middle
    if referenceUtility ≤ utility then bisect utilityAt referenceUtility rounds middle high
    else bisect utilityAt referenceUtility rounds low middle

/-- The outcome of the search when all of its data is there. -/
def searchSensiblePrice (rt : Runtime) (candidate : NormalizedCandidate)
    (candidateBudget referenceUtility : ℚ) : Option (ThresholdStatus × Option ℚ) := do
  let lowerPrice := max (1 / 1000000) (candidateBudget * (1 / 1000000))
  let upperPrice := candidateBudget * 2
  let maximumUtility ← utilityAtHypotheticalPrice rt candidate lowerPrice
  let minimumUtility ← utilityAtHypotheticalPrice rt candidate upperPrice
  if maximumUtility + 1 / 1000000 < referenceUtility then some (.unattainable, none)
  else if referenceUtility ≤ minimumUtility + 1 / 1000000 then some (.unboundedByUtility, none)
  else
    let low ← bisect (utilityAtHypotheticalPrice rt candidate) referenceUtility 80 lowerPrice
      upperPrice
    some (.available, some (round low 2))

def solveMaximumSensiblePrice (rt : Runtime) (candidate reference : NormalizedCandidate) :
    MaximumSensiblePrice :=
  let outcome : Option (ThresholdStatus × Option ℚ) := do
    let candidateBudget ← normalizeFinitePositive candidate.source.utility.totalBudget
    let referenceBudget ← normalizeFinitePositive reference.source.utility.totalBudget
    let referenceUtility ← reference.utilityScore
    if !comparable candidate reference || 1 / 100 < |candidateBudget - referenceBudget| ||
        candidate.currency.isNone || candidate.currency ≠ reference.currency then none
    else searchSensiblePrice rt candidate candidateBudget referenceUtility
  let (status, amount) := outcome.getD (.unavailable, none)
  ⟨status, amount, candidate.currency, reference.hotelId⟩

/-- `StayOptiThresholdVerdictV3`. -/
inductive ThresholdVerdict
  | worthwhile | notJustified | unavailable
deriving DecidableEq, Repr

def ThresholdVerdict.text : ThresholdVerdict → String
  | .worthwhile => "worthwhile"
  | .notJustified => "not-justified"
  | .unavailable => "unavailable"

def thresholdVerdict (maximum : MaximumSensiblePrice) (actualPrice : ℚ) : ThresholdVerdict :=
  match maximum.status with
  | .unavailable => .unavailable
  | .unattainable => .notJustified
  | .unboundedByUtility => .worthwhile
  | .available =>
    if actualPrice ≤ maximum.amount.getD 0 + 1 / 100 then .worthwhile else .notJustified

structure TradeOffThreshold where
  thresholdId : String
  lowerCostHotelId : String
  higherCostHotelId : String
  currency : Option String
  actualPremiumAmount : ℚ
  higherCostMaximumSensiblePrice : MaximumSensiblePrice
  upgradeThresholdAmount : Option ℚ
  upgradeVerdict : ThresholdVerdict
  actualSavingAmount : ℚ
  lowerCostMaximumSensiblePrice : MaximumSensiblePrice
  savingThresholdAmount : Option ℚ
  savingVerdict : ThresholdVerdict
  exact : Bool
  reasonCodes : List String

def thresholdId (rt : Runtime) (lower higher : NormalizedCandidate) : String :=
  createStableHash rt (.obj [("lowerCostHotelId", .str lower.hotelId),
    ("higherCostHotelId", .str higher.hotelId), ("lowerCost", .num? lower.totalCost),
    ("higherCost", .num? higher.totalCost), ("lowerUtility", .num? lower.utilityScore),
    ("higherUtility", .num? higher.utilityScore)]) "stayopti-v3-trade-off-threshold"

def createTradeOffThreshold (rt : Runtime) (first second : NormalizedCandidate) :
    Option TradeOffThreshold := do
  let firstCost ← first.totalCost
  let secondCost ← second.totalCost
  if !comparable first second || first.currency.isNone || first.currency ≠ second.currency ||
      |firstCost - secondCost| ≤ 1 / 100 then none else
  let (lower, lowerCost, higher, higherCost) :=
    if firstCost < secondCost then (first, firstCost, second, secondCost)
    else (second, secondCost, first, firstCost)
  let actualPremiumAmount := round (higherCost - lowerCost) 2
  let higherMaximum := solveMaximumSensiblePrice rt higher lower
  let lowerMaximum := solveMaximumSensiblePrice rt lower higher
  let exact := higherMaximum.status = .available || lowerMaximum.status = .available
  some
    { thresholdId := thresholdId rt lower higher
      lowerCostHotelId := lower.hotelId
      higherCostHotelId := higher.hotelId
      currency := lower.currency
      actualPremiumAmount
      higherCostMaximumSensiblePrice := higherMaximum
      upgradeThresholdAmount :=
        match higherMaximum.status with
        | .available => some (round (max 0 (higherMaximum.amount.getD 0 - lowerCost)) 2)
        | .unattainable => some 0
        | _ => none
      upgradeVerdict := thresholdVerdict higherMaximum higherCost
      actualSavingAmount := actualPremiumAmount
      lowerCostMaximumSensiblePrice := lowerMaximum
      savingThresholdAmount :=
        match lowerMaximum.status with
        | .available => some (round (max 0 (higherCost - lowerMaximum.amount.getD 0)) 2)
        | .unboundedByUtility => some 0
        | _ => none
      savingVerdict := thresholdVerdict lowerMaximum lowerCost
      exact
      reasonCodes :=
        [if exact then "geometry:threshold-available" else "geometry:threshold-unavailable"] }

def createTradeOffThresholds (rt : Runtime) (candidates : List NormalizedCandidate)
    (comparisons : List PairwiseComparison) : List TradeOffThreshold :=
  let candidateByHotelId := fun id : String => candidates.find? fun c => c.hotelId = id
  sortBy (fun first second => (rt.localeCompare first.lowerCostHotelId second.lowerCostHotelId).then
      (rt.localeCompare first.higherCostHotelId second.higherCostHotelId))
    ((comparisons.filter fun c => c.outcome ≠ .incomparable).filterMap fun comparison => do
      let first ← candidateByHotelId comparison.firstHotelId
      let second ← candidateByHotelId comparison.secondHotelId
      createTradeOffThreshold rt first second)

/-! ## 2. Marginal value -/

/-- `StayOptiMarginalTrendV3`. -/
inductive MarginalTrend
  | baseline | increasingReturn | stableReturn | diminishingReturn | negativeReturn
deriving DecidableEq, Repr

def MarginalTrend.text : MarginalTrend → String
  | .baseline => "baseline"
  | .increasingReturn => "increasing-return"
  | .stableReturn => "stable-return"
  | .diminishingReturn => "diminishing-return"
  | .negativeReturn => "negative-return"

/-- `segmentWithoutId`. -/
structure SegmentValues where
  peerGroupId : String
  lowerCostHotelId : String
  higherCostHotelId : String
  incrementalCost : ℚ
  incrementalUtility : ℚ
  marginalUtilityPerCurrencyUnit : ℚ
  marginalUtilityPer100Currency : ℚ
  trend : MarginalTrend

def SegmentValues.fields (s : SegmentValues) : List (String × Json) :=
  [("peerGroupId", .str s.peerGroupId), ("lowerCostHotelId", .str s.lowerCostHotelId),
    ("higherCostHotelId", .str s.higherCostHotelId), ("incrementalCost", .num s.incrementalCost),
    ("incrementalUtility", .num s.incrementalUtility),
    ("marginalUtilityPerCurrencyUnit", .num s.marginalUtilityPerCurrencyUnit),
    ("marginalUtilityPer100Currency", .num s.marginalUtilityPer100Currency),
    ("trend", .str s.trend.text)]

structure MarginalValueSegment extends SegmentValues where
  segmentId : String
  reasonCodes : List String

def marginalTrend (previousSlope : Option ℚ) (slope : ℚ) : MarginalTrend :=
  if slope < 0 then .negativeReturn
  else
    match previousSlope with
    | none => .baseline
    | some previous =>
      if slope < previous - 1 / 10 ^ 8 then .diminishingReturn
      else if previous + 1 / 10 ^ 8 < slope then .increasingReturn
      else .stableReturn

/-- A diminishing or negative return. -/
def MarginalTrend.declines (t : MarginalTrend) : Bool :=
  t = .diminishingReturn || t = .negativeReturn

/-- A candidate of a group with its cost and utility. -/
abbrev Point := NormalizedCandidate × ℚ × ℚ

/-- The loop over consecutive points. A skipped point is still the lower end of the next
    segment. -/
def segmentsFrom (rt : Runtime) (peerGroupId : String) :
    Option ℚ → Point → List Point → List MarginalValueSegment
  | _, _, [] => []
  | previousSlope, lower, higher :: rest =>
    let incrementalCost := higher.2.1 - lower.2.1
    if incrementalCost ≤ 1 / 100 || !comparable lower.1 higher.1 then
      segmentsFrom rt peerGroupId previousSlope higher rest
    else
      let incrementalUtility := higher.2.2 - lower.2.2
      let slope := incrementalUtility / incrementalCost
      let trend := marginalTrend previousSlope slope
      let values : SegmentValues :=
        { peerGroupId
          lowerCostHotelId := lower.1.hotelId
          higherCostHotelId := higher.1.hotelId
          incrementalCost := round incrementalCost 2
          incrementalUtility := round incrementalUtility 6
          marginalUtilityPerCurrencyUnit := round slope 8
          marginalUtilityPer100Currency := round (slope * 100) 6
          trend }
      { values with
        segmentId :=
          createStableHash rt (.obj values.fields) "stayopti-v3-marginal-value-segment"
        reasonCodes := uniqueSorted ("geometry:marginal-value-evaluated" ::
          if trend.declines then ["geometry:diminishing-returns"] else []) } ::
        segmentsFrom rt peerGroupId (some slope) higher rest

/-- The frontier points of a peer group by cost. -/
def groupPoints (candidates : List NormalizedCandidate) (evaluations : List CandidateEvaluation)
    (peerGroupId : String) : List Point :=
  sortBy (fun first second : Point =>
    (compare first.2.1 second.2.1).then (compare second.2.2 first.2.2))
      ((candidates.filter fun c => c.peerAssignment.groupId = some peerGroupId &&
        hasStatus evaluations .frontier c).filterMap fun c => do
          let cost ← c.totalCost
          let utility ← c.utilityScore
          some (c, cost, utility))

def createMarginalValueSegments (rt : Runtime) (candidates : List NormalizedCandidate)
    (evaluations : List CandidateEvaluation) : List MarginalValueSegment :=
  let groupIds := uniqueSorted ((candidates.filter fun c =>
    c.peerAssignment.directComparisonAllowed && hasStatus evaluations .frontier c).filterMap
      fun c => c.peerAssignment.groupId)
  sortBy (fun first second => (((rt.localeCompare first.peerGroupId second.peerGroupId).then
      (compare first.incrementalCost second.incrementalCost)).then
      (rt.localeCompare first.lowerCostHotelId second.lowerCostHotelId)).then
      (rt.localeCompare first.higherCostHotelId second.higherCostHotelId))
    (groupIds.flatMap fun peerGroupId =>
      match groupPoints candidates evaluations peerGroupId with
      | [] => []
      | first :: rest => segmentsFrom rt peerGroupId none first rest)

/-- `StayOptiDecisionMapZoneV3`. -/
inductive DecisionMapZone
  | savingEdge | efficientFrontier | diminishingReturns | unsupportedPremium | dominated
  | insufficientEvidence
deriving DecidableEq, Repr

def DecisionMapZone.text : DecisionMapZone → String
  | .savingEdge => "saving-edge"
  | .efficientFrontier => "efficient-frontier"
  | .diminishingReturns => "diminishing-returns"
  | .unsupportedPremium => "unsupported-premium"
  | .dominated => "dominated"
  | .insufficientEvidence => "insufficient-evidence"

structure DecisionMapPoint where
  hotelId : String
  totalCost : Option ℚ
  utilityScore : Option ℚ
  zone : DecisionMapZone
  incomingMarginalSegmentIds : List String
  reasonCodes : List String

def createDecisionMapPoint (segments : List MarginalValueSegment)
    (candidate : CandidateEvaluation) : DecisionMapPoint :=
  let incoming := segments.filter fun s => s.higherCostHotelId = candidate.hotelId
  let zone : DecisionMapZone :=
    match candidate.strongParetoStatus with
    | .unknown => .insufficientEvidence
    | .dominated => .dominated
    | .frontier =>
      if incoming.any fun s => s.trend = .negativeReturn then .unsupportedPremium
      else if incoming.any fun s => s.trend = .diminishingReturn then .diminishingReturns
      else if incoming.length = 0 then .savingEdge
      else .efficientFrontier
  { hotelId := candidate.hotelId
    totalCost := candidate.totalCost
    utilityScore := candidate.utilityScore
    zone
    incomingMarginalSegmentIds := (incoming.map (·.segmentId)).insertionSort JsText.Le
    reasonCodes := uniqueSorted ("geometry:decision-map-internal" ::
      ((if zone = .diminishingReturns || zone = .unsupportedPremium then
          ["geometry:diminishing-returns"] else []) ++
        if zone = .insufficientEvidence then ["geometry:missing-data-not-disadvantage"]
        else [])) }

/-! ## 3. The record -/

/-- `StayOptiDecisionGeometryV3` without its fingerprint. -/
structure GeometryCore where
  evaluationId : String
  phase : String
  rankingApplication : String
  status : String
  dimensions : List GeometryDimension
  candidates : List CandidateEvaluation
  strongParetoFrontierHotelIds : List String
  weakParetoFrontierHotelIds : List String
  dominanceRelations : List DominanceRelation
  pairwiseFinalistComparisons : List PairwiseComparison
  marginalValueSegments : List MarginalValueSegment
  tradeOffThresholds : List TradeOffThreshold
  internalOnly : Bool
  points : List DecisionMapPoint
  exactThresholdCount : Nat
  reasonCodes : List String

/-- `StayOptiDecisionGeometryV3`. -/
structure DecisionGeometry extends GeometryCore where
  fingerprint : String

def CandidateStatus.text : CandidateStatus → String
  | .comparable => "comparable"
  | .ineligible => "ineligible"
  | .incomplete => "incomplete"
  | .peerUnavailable => "peer-unavailable"

def dimensionTexts (dimensions : List GeometryDimension) : Json :=
  .texts (dimensions.map (·.text))

def CandidateEvaluation.toJson (c : CandidateEvaluation) : Json :=
  .obj [("hotelId", .str c.hotelId), ("solutionId", .text? c.solutionId),
    ("status", .str c.status.text), ("totalCost", .num? c.totalCost),
    ("currency", .text? c.currency), ("utilityScore", .num? c.utilityScore),
    ("strongParetoStatus", .str c.strongParetoStatus.text),
    ("weakParetoStatus", .str c.weakParetoStatus.text),
    ("availableDimensions", dimensionTexts c.availableDimensions),
    ("missingDimensions", dimensionTexts c.missingDimensions),
    ("comparablePeerHotelIds", .texts c.comparablePeerHotelIds),
    ("dominatedByHotelIds", .texts c.dominatedByHotelIds),
    ("strictlyDominatedByHotelIds", .texts c.strictlyDominatedByHotelIds),
    ("dominatesHotelIds", .texts c.dominatesHotelIds),
    ("primaryEliminationVariable", .text? (c.primaryEliminationVariable.map (·.text))),
    ("reasonCodes", .texts c.reasonCodes)]

def DominanceRelation.toJson (r : DominanceRelation) : Json :=
  .obj [("dominantHotelId", .str r.dominantHotelId), ("dominatedHotelId", .str r.dominatedHotelId),
    ("kinds", .texts r.kinds), ("comparedDimensions", dimensionTexts r.comparedDimensions),
    ("betterDimensions", dimensionTexts r.betterDimensions),
    ("equivalentDimensions", dimensionTexts r.equivalentDimensions),
    ("decisiveDimension", .text? (r.decisiveDimension.map (·.text))),
    ("reasonCodes", .texts r.reasonCodes)]

def PairwiseComparison.toJson (c : PairwiseComparison) : Json :=
  .obj [("comparisonId", .str c.comparisonId), ("firstHotelId", .str c.firstHotelId),
    ("secondHotelId", .str c.secondHotelId), ("outcome", .str c.outcome.text),
    ("preferredHotelId", .text? c.preferredHotelId),
    ("decisiveDimension", .text? (c.decisiveDimension.map (·.text))),
    ("utilityDeltaFirstMinusSecond", .num? c.utilityDeltaFirstMinusSecond),
    ("dominanceKind", .text? c.dominanceKind), ("reasonCodes", .texts c.reasonCodes)]

def MarginalValueSegment.toJson (s : MarginalValueSegment) : Json :=
  .obj (("segmentId", .str s.segmentId) :: s.fields ++ [("reasonCodes", .texts s.reasonCodes)])

def MaximumSensiblePrice.toJson (m : MaximumSensiblePrice) : Json :=
  .obj [("status", .str m.status.text), ("amount", .num? m.amount),
    ("currency", .text? m.currency), ("againstHotelId", .str m.againstHotelId)]

def TradeOffThreshold.toJson (t : TradeOffThreshold) : Json :=
  .obj [("thresholdId", .str t.thresholdId), ("lowerCostHotelId", .str t.lowerCostHotelId),
    ("higherCostHotelId", .str t.higherCostHotelId), ("currency", .text? t.currency),
    ("actualPremiumAmount", .num t.actualPremiumAmount),
    ("higherCostMaximumSensiblePrice", t.higherCostMaximumSensiblePrice.toJson),
    ("upgradeThresholdAmount", .num? t.upgradeThresholdAmount),
    ("upgradeVerdict", .str t.upgradeVerdict.text),
    ("actualSavingAmount", .num t.actualSavingAmount),
    ("lowerCostMaximumSensiblePrice", t.lowerCostMaximumSensiblePrice.toJson),
    ("savingThresholdAmount", .num? t.savingThresholdAmount),
    ("savingVerdict", .str t.savingVerdict.text), ("exact", .bool t.exact),
    ("reasonCodes", .texts t.reasonCodes)]

def DecisionMapPoint.toJson (p : DecisionMapPoint) : Json :=
  .obj [("hotelId", .str p.hotelId), ("totalCost", .num? p.totalCost),
    ("utilityScore", .num? p.utilityScore), ("zone", .str p.zone.text),
    ("incomingMarginalSegmentIds", .texts p.incomingMarginalSegmentIds),
    ("reasonCodes", .texts p.reasonCodes)]

def GeometryCore.toJson (g : GeometryCore) : Json :=
  .obj [("evaluationId", .str g.evaluationId), ("phase", .str g.phase),
    ("rankingApplication", .str g.rankingApplication), ("status", .str g.status),
    ("dimensions", dimensionTexts g.dimensions),
    ("candidates", .arr (g.candidates.map (·.toJson))),
    ("strongParetoFrontierHotelIds", .texts g.strongParetoFrontierHotelIds),
    ("weakParetoFrontierHotelIds", .texts g.weakParetoFrontierHotelIds),
    ("dominanceRelations", .arr (g.dominanceRelations.map (·.toJson))),
    ("pairwiseFinalistComparisons", .arr (g.pairwiseFinalistComparisons.map (·.toJson))),
    ("marginalValueSegments", .arr (g.marginalValueSegments.map (·.toJson))),
    ("tradeOffThresholds", .arr (g.tradeOffThresholds.map (·.toJson))),
    ("decisionMap", .obj [("internalOnly", .bool g.internalOnly),
      ("points", .arr (g.points.map (·.toJson)))]),
    ("exactThresholdCount", .num g.exactThresholdCount), ("reasonCodes", .texts g.reasonCodes)]

def createFingerprint (rt : Runtime) (g : GeometryCore) : String :=
  createStableHash rt g.toJson "stayopti-v3-decision-geometry"

/-! ## 4. Evaluation and validation -/

/-- The ids of the candidates whose status is `frontier`. -/
def frontierHotelIds (status : CandidateEvaluation → ParetoStatus)
    (evaluations : List CandidateEvaluation) : List String :=
  (evaluations.filter fun c => status c = .frontier).map (·.hotelId)

/-- The body of `evaluateDecisionGeometryV3` on normalized candidates with unique ids. -/
def createGeometry (rt : Runtime) (o : ResolvedOptions) (candidates : List NormalizedCandidate) :
    GeometryCore :=
  let relations := createDominanceRelations rt o candidates
  let evaluations := candidates.map (createCandidateEvaluation rt candidates relations)
  let comparisons := createPairwiseComparisons rt o candidates evaluations relations
  let thresholds := createTradeOffThresholds rt candidates comparisons
  let segments := createMarginalValueSegments rt candidates evaluations
  let known := (evaluations.filter fun c => c.strongParetoStatus ≠ .unknown).length
  let status :=
    if candidates.length = 0 || known = 0 then "unavailable"
    else if known = candidates.length then "usable"
    else "partial"
  let exactThresholdCount := (thresholds.filter (·.exact)).length
  { evaluationId := createStableHash rt (.obj
      [("hotelIds", .texts (candidates.map (·.hotelId))),
        ("utilityFingerprints", .texts (candidates.map (·.source.utility.fingerprint))),
        ("peerFingerprints", .texts (candidates.map (·.peerAssignment.fingerprint))),
        ("resolvedOptions", o.toJson)]) "stayopti-v3-decision-geometry-id"
    phase := "v3-04"
    rankingApplication := "shadow-only"
    status
    dimensions := allDimensions
    candidates := evaluations
    strongParetoFrontierHotelIds := frontierHotelIds (·.strongParetoStatus) evaluations
    weakParetoFrontierHotelIds := frontierHotelIds (·.weakParetoStatus) evaluations
    dominanceRelations := relations
    pairwiseFinalistComparisons := comparisons
    marginalValueSegments := segments
    tradeOffThresholds := thresholds
    internalOnly := true
    points := evaluations.map (createDecisionMapPoint segments)
    exactThresholdCount
    reasonCodes := uniqueSorted (["geometry:shadow-only", "geometry:commercially-neutral",
      "geometry:decision-map-internal", "geometry:missing-data-not-disadvantage",
      (if status = "usable" then "geometry:evaluated"
        else if status = "partial" then "geometry:partial" else "geometry:unavailable"),
      (if 0 < exactThresholdCount then "geometry:threshold-available"
        else "geometry:threshold-unavailable")] ++
      (if 0 < segments.length then ["geometry:marginal-value-evaluated"] else []) ++
      if segments.any (·.trend.declines) then ["geometry:diminishing-returns"] else []) }

def evaluateDecisionGeometry (rt : Runtime) (inputCandidates : List Candidate)
    (options : GeometryOptions) : Except String DecisionGeometry := do
  let resolvedOptions ← resolveOptions options
  let normalized ← inputCandidates.mapM (normalizeCandidate rt)
  let candidates := sortBy (fun first second =>
    rt.localeCompare first.hotelId second.hotelId) normalized
  if ¬ (candidates.map (·.hotelId)).Nodup then
    .error "Decision Geometry requires unique hotel IDs."
  else
    let core := createGeometry rt resolvedOptions candidates
    .ok { core with fingerprint := createFingerprint rt core }

def relationValid (candidateIds : List String) (r : DominanceRelation) : Bool :=
  r.dominantHotelId ≠ r.dominatedHotelId && candidateIds.contains r.dominantHotelId &&
    candidateIds.contains r.dominatedHotelId && r.kinds.contains "pareto-non-worse" &&
    0 < r.betterDimensions.length && r.comparedDimensions.length = allDimensions.length &&
    (!r.kinds.contains "strict-all" || r.betterDimensions.length = allDimensions.length)

/-- The clauses for a comparison besides the uniqueness of its id. -/
def comparisonValid (candidateIds : List String) (c : PairwiseComparison) : Bool :=
  c.firstHotelId ≠ c.secondHotelId && candidateIds.contains c.firstHotelId &&
    candidateIds.contains c.secondHotelId &&
    (c.preferredHotelId.isNone || c.preferredHotelId = some c.firstHotelId ||
      c.preferredHotelId = some c.secondHotelId) &&
    (if c.outcome = .incomparable then
      c.utilityDeltaFirstMinusSecond.isNone && c.preferredHotelId.isNone
    else c.utilityDeltaFirstMinusSecond.isSome)

/-- The clauses for a segment besides the uniqueness of its id; all numbers are finite. -/
def segmentValid (candidateIds : List String) (s : MarginalValueSegment) : Bool :=
  s.lowerCostHotelId ≠ s.higherCostHotelId && candidateIds.contains s.lowerCostHotelId &&
    candidateIds.contains s.higherCostHotelId && 0 < s.incrementalCost

/-- The clauses for a threshold besides the uniqueness of its id. -/
def thresholdValid (candidateIds : List String) (t : TradeOffThreshold) : Bool :=
  t.lowerCostHotelId ≠ t.higherCostHotelId && candidateIds.contains t.lowerCostHotelId &&
    candidateIds.contains t.higherCostHotelId && 0 < t.actualPremiumAmount &&
    t.actualSavingAmount = t.actualPremiumAmount &&
    (!t.exact || t.higherCostMaximumSensiblePrice.status = .available ||
      t.lowerCostMaximumSensiblePrice.status = .available)

/-- `values.every(...)` with a set of the ids seen so far. -/
def allUnique {α : Type} (id : α → String) (valid : α → Bool) (values : List α) : Bool :=
  decide (values.map id).Nodup && values.all valid

def validateDecisionGeometry (rt : Runtime) (g : DecisionGeometry) : Bool :=
  let candidateIds := g.candidates.map (·.hotelId)
  g.fingerprint = createFingerprint rt g.toGeometryCore && g.phase = "v3-04" &&
    g.rankingApplication = "shadow-only" && g.internalOnly &&
    decide candidateIds.Nodup &&
    g.exactThresholdCount = (g.tradeOffThresholds.filter (·.exact)).length &&
    candidateIds.insertionSort JsText.Le =
      (g.points.map (·.hotelId)).insertionSort JsText.Le &&
    g.dominanceRelations.all (relationValid candidateIds) &&
    allUnique (·.comparisonId) (comparisonValid candidateIds) g.pairwiseFinalistComparisons &&
    allUnique (·.segmentId) (segmentValid candidateIds) g.marginalValueSegments &&
    allUnique (·.thresholdId) (thresholdValid candidateIds) g.tradeOffThresholds

def assertDecisionGeometry (rt : Runtime) (g : DecisionGeometry) : Except String DecisionGeometry :=
  if validateDecisionGeometry rt g then .ok g
  else .error "Invalid StayOpti Decision Geometry V3 evaluation."

end SmartStay.Geometry
