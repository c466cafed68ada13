import SmartStay.Geometry.Candidates

/-!
# Dominance and comparisons in the decision geometry

1. `createDominanceRelations`, `createCandidateEvaluations`.
2. `createPairwiseComparisons`.
-/

namespace SmartStay.Geometry

open Contract JsSort

/-! ## 1. Dominance -/

/-- The flag of `pairComparability`. -/
def comparable (first second : NormalizedCandidate) : Bool :=
  first.status = .comparable && second.status = .comparable && first.currency.isSome &&
    first.currency = second.currency && first.peerAssignment.directComparisonAllowed &&
    second.peerAssignment.directComparisonAllowed &&
    first.peerAssignment.memberHotelIds.contains second.hotelId &&
    second.peerAssignment.memberHotelIds.contains first.hotelId

/-- The reason codes of `pairComparability` for a pair that is not comparable. -/
def incomparableReasonCodes : List String :=
  uniqueSorted ["geometry:comparison-incomparable", "geometry:missing-data-not-disadvantage"]

structure DominanceRelation where
  dominantHotelId : String
  dominatedHotelId : String
  strictAll : Bool
  comparedDimensions : List GeometryDimension
  betterDimensions : List GeometryDimension
  equivalentDimensions : List GeometryDimension
  decisiveDimension : Option GeometryDimension
  reasonCodes : List String

/-- `kinds`: every relation is `pareto-non-worse`. -/
def DominanceRelation.kinds (r : DominanceRelation) : List String :=
  uniqueSorted ("pareto-non-worse" :: if r.strictAll then ["strict-all"] else [])

/-- The loop of `createDominanceRelation`: the advantages on the benefits, unless a score is
    missing or too much worse. -/
def benefitAdvantages (o : ResolvedOptions) (possibleDominator possibleDominated :
    NormalizedCandidate) : List BenefitDimension → Option (List (GeometryDimension × ℚ))
  | [] => some []
  | dimension :: rest => do
    let dominant ← possibleDominator.benefits dimension
    let dominated ← possibleDominated.benefits dimension
    let advantage := dominant.score - dominated.score
    if advantage < -o.benefitNonWorseTolerance then none else
    let advantages ← benefitAdvantages o possibleDominator possibleDominated rest
    some ((.benefit dimension, advantage) :: advantages)

/-- The cost below which the dominated candidate counts as materially dearer. -/
def materialCostImprovement (o : ResolvedOptions) (dominatedCost : ℚ) : ℚ :=
  max 1 (dominatedCost * o.costMaterialImprovementRatio)

/-- `betterDimensions` with their normalized advantages. -/
def betterAdvantages (o : ResolvedOptions) (dominatedCost costAdvantage : ℚ)
    (advantages : List (GeometryDimension × ℚ)) : List (GeometryDimension × ℚ) :=
  (if materialCostImprovement o dominatedCost ≤ costAdvantage then
    [(.totalCost, if 0 < dominatedCost then costAdvantage / dominatedCost * 100 else 0)]
  else []) ++ advantages.filter fun a => o.benefitMaterialImprovement ≤ a.2

def createDominanceRelation (rt : Runtime) (o : ResolvedOptions)
    (possibleDominator possibleDominated : NormalizedCandidate) : Option DominanceRelation :=
  if !comparable possibleDominator possibleDominated then none else do
  -- a comparable candidate has a cost
  let dominatorCost ← possibleDominator.totalCost
  let dominatedCost ← possibleDominated.totalCost
  let costAdvantage := dominatedCost - dominatorCost
  if costAdvantage < -o.costNonWorseTolerance then none else
  let advantages ← benefitAdvantages o possibleDominator possibleDominated benefitDimensions
  let better := betterAdvantages o dominatedCost costAdvantage advantages
  if better.length = 0 then none else
  let decisive := (sortBy (fun first second : GeometryDimension × ℚ =>
    (compare second.2 first.2).then (rt.localeCompare first.1.text second.1.text)) better).head?
  some
    { dominantHotelId := possibleDominator.hotelId
      dominatedHotelId := possibleDominated.hotelId
      strictAll := better.length = allDimensions.length
      comparedDimensions := allDimensions
      betterDimensions := uniqueSortedDimensions (better.map Prod.fst)
      equivalentDimensions := uniqueSortedDimensions
        (allDimensions.filter fun d => d ∉ better.map Prod.fst)
      decisiveDimension := decisive.map Prod.fst
      reasonCodes := ["geometry:evaluated"] }

def createDominanceRelations (rt : Runtime) (o : ResolvedOptions)
    (candidates : List NormalizedCandidate) : List DominanceRelation :=
  sortBy (fun first second => (rt.localeCompare first.dominantHotelId second.dominantHotelId).then
      (rt.localeCompare first.dominatedHotelId second.dominatedHotelId))
    (candidates.flatMap fun possibleDominator =>
      (candidates.filter fun c => possibleDominator.hotelId ≠ c.hotelId).filterMap
        (createDominanceRelation rt o possibleDominator))

/-- `StayOptiParetoStatusV3`. -/
inductive ParetoStatus
  | frontier | dominated | unknown
deriving DecidableEq, Repr

def ParetoStatus.text : ParetoStatus → String
  | .frontier => "frontier"
  | .dominated => "dominated"
  | .unknown => "unknown"

structure CandidateEvaluation where
  hotelId : String
  solutionId : Option String
  status : CandidateStatus
  totalCost : Option ℚ
  currency : Option String
  utilityScore : Option ℚ
  strongParetoStatus : ParetoStatus
  weakParetoStatus : ParetoStatus
  availableDimensions : List GeometryDimension
  missingDimensions : List GeometryDimension
  comparablePeerHotelIds : List String
  dominatedByHotelIds : List String
  strictlyDominatedByHotelIds : List String
  dominatesHotelIds : List String
  primaryEliminationVariable : Option GeometryDimension
  reasonCodes : List String

/-- The status of a candidate whose geometry is known, with these incoming relations. -/
def paretoStatus (geometryKnown : Bool) (incoming : List DominanceRelation) : ParetoStatus :=
  if !geometryKnown then .unknown else if 0 < incoming.length then .dominated else .frontier

/-- The text of a dimension that is missing only where nothing sorts by it. -/
def dimensionText (d : Option GeometryDimension) : String := (d.map (·.text)).getD ""

def createCandidateEvaluation (rt : Runtime) (candidates : List NormalizedCandidate)
    (relations : List DominanceRelation) (candidate : NormalizedCandidate) : CandidateEvaluation :=
  let comparablePeerHotelIds := ((candidates.filter fun other =>
    other.hotelId ≠ candidate.hotelId && comparable candidate other).map
      (·.hotelId)).insertionSort JsText.Le
  let incoming := relations.filter fun r => r.dominatedHotelId = candidate.hotelId
  let outgoing := relations.filter fun r => r.dominantHotelId = candidate.hotelId
  let strictIncoming := incoming.filter (·.strictAll)
  let geometryKnown : Bool := candidate.status = .comparable && 0 < comparablePeerHotelIds.length
  let strongParetoStatus := paretoStatus geometryKnown incoming
  let weakParetoStatus := paretoStatus geometryKnown strictIncoming
  let firstIncoming := (sortBy (fun first second : DominanceRelation =>
    (rt.localeCompare (dimensionText first.decisiveDimension)
      (dimensionText second.decisiveDimension)).then
        (rt.localeCompare first.dominantHotelId second.dominantHotelId)) incoming).head?
  { hotelId := candidate.hotelId
    solutionId := candidate.solutionId
    status := candidate.status
    totalCost := candidate.totalCost
    currency := candidate.currency
    utilityScore := candidate.utilityScore
    strongParetoStatus
    weakParetoStatus
    availableDimensions := candidate.availableDimensions
    missingDimensions := candidate.missingDimensions
    comparablePeerHotelIds
    dominatedByHotelIds := uniqueSorted (incoming.map (·.dominantHotelId))
    strictlyDominatedByHotelIds := uniqueSorted (strictIncoming.map (·.dominantHotelId))
    dominatesHotelIds := uniqueSorted (outgoing.map (·.dominatedHotelId))
    primaryEliminationVariable := firstIncoming.bind (·.decisiveDimension)
    reasonCodes := uniqueSorted ("geometry:missing-data-not-disadvantage" ::
      if !geometryKnown then ["geometry:comparison-incomparable"]
      else
        [if strongParetoStatus = .frontier then "geometry:strong-pareto-frontier"
          else "geometry:strong-pareto-dominated",
        if weakParetoStatus = .frontier then "geometry:weak-pareto-frontier"
          else "geometry:weak-pareto-dominated"]) }

/-! ## 2. Comparisons of finalists -/

/-- `StayOptiPairwiseOutcomeV3`. -/
inductive PairwiseOutcome
  | firstPreferred | secondPreferred | utilityEquivalent | incomparable
deriving DecidableEq, Repr

def PairwiseOutcome.text : PairwiseOutcome → String
  | .firstPreferred => "first-preferred"
  | .secondPreferred => "second-preferred"
  | .utilityEquivalent => "utility-equivalent"
  | .incomparable => "incomparable"

structure PairwiseComparison where
  comparisonId : String
  firstHotelId : String
  secondHotelId : String
  outcome : PairwiseOutcome
  preferredHotelId : Option String
  decisiveDimension : Option GeometryDimension
  utilityDeltaFirstMinusSecond : Option ℚ
  dominanceKind : Option String
  reasonCodes : List String

/-- The first contribution to the price. -/
def priceContribution? (candidate : NormalizedCandidate) : Option UtilityContribution :=
  candidate.source.utility.contributions.find? fun c => c.dimension = .priceValue

def selectDecisiveUtilityDimension (rt : Runtime) (preferred alternative : NormalizedCandidate) :
    Option GeometryDimension :=
  let price : List (GeometryDimension × ℚ) :=
    match priceContribution? preferred, priceContribution? alternative with
    | some p, some a => [(.totalCost, p.weightedValue - a.weightedValue)]
    | _, _ => []
  let benefits := benefitDimensions.filterMap fun d => do
    let p ← preferred.benefits d
    let a ← alternative.benefits d
    some (GeometryDimension.benefit d, p.weightedValue - a.weightedValue)
  ((sortBy (fun first second : GeometryDimension × ℚ =>
    (compare second.2 first.2).then (rt.localeCompare first.1.text second.1.text))
      ((price ++ benefits).filter fun d => 0 < d.2)).head?).map Prod.fst

/-- The id of a comparison. -/
def comparisonId (rt : Runtime) (firstHotelId secondHotelId : String) : String :=
  createStableHash rt (.obj [("firstHotelId", .str firstHotelId),
    ("secondHotelId", .str secondHotelId)]) "stayopti-v3-pairwise-comparison"

def createPairwiseComparison (rt : Runtime) (o : ResolvedOptions)
    (relations : List DominanceRelation) (first second : NormalizedCandidate) :
    PairwiseComparison :=
  let id := comparisonId rt first.hotelId second.hotelId
  if !comparable first second then
    { comparisonId := id
      firstHotelId := first.hotelId
      secondHotelId := second.hotelId
      outcome := .incomparable
      preferredHotelId := none
      decisiveDimension := none
      utilityDeltaFirstMinusSecond := none
      dominanceKind := none
      reasonCodes := incomparableReasonCodes }
  else
    let directRelation :=
      (relations.find? fun r =>
        r.dominantHotelId = first.hotelId && r.dominatedHotelId = second.hotelId).or
      (relations.find? fun r =>
        r.dominantHotelId = second.hotelId && r.dominatedHotelId = first.hotelId)
    -- a comparable candidate has a utility score
    let utilityDelta := round (first.utilityScore.getD 0 - second.utilityScore.getD 0) 6
    let preferredHotelId :=
      match directRelation with
      | some r => some r.dominantHotelId
      | none =>
        if o.pairwiseUtilityTolerance < utilityDelta then some first.hotelId
        else if utilityDelta < -o.pairwiseUtilityTolerance then some second.hotelId
        else none
    let outcome : PairwiseOutcome :=
      match preferredHotelId with
      | none => .utilityEquivalent
      | some id => if id = first.hotelId then .firstPreferred else .secondPreferred
    { comparisonId := id
      firstHotelId := first.hotelId
      secondHotelId := second.hotelId
      outcome
      preferredHotelId
      decisiveDimension := (directRelation.bind (·.decisiveDimension)).or
        (preferredHotelId.bind fun id =>
          if id = first.hotelId then selectDecisiveUtilityDimension rt first second
          else selectDecisiveUtilityDimension rt second first)
      utilityDeltaFirstMinusSecond := some utilityDelta
      dominanceKind := directRelation.map fun r =>
        if r.strictAll then "strict-all" else "pareto-non-worse"
      reasonCodes := uniqueSorted ["geometry:evaluated",
        if outcome = .utilityEquivalent then "geometry:pairwise-equivalent"
        else "geometry:pairwise-preferred"] }

/-- The pairs that the two loops over the finalists visit. -/
def pairs {α : Type} : List α → List (α × α)
  | [] => []
  | first :: rest => rest.map (first, ·) ++ pairs rest

def hasStatus (evaluations : List CandidateEvaluation) (status : ParetoStatus)
    (candidate : NormalizedCandidate) : Bool :=
  evaluations.any fun e => e.hotelId = candidate.hotelId && e.strongParetoStatus = status

def createPairwiseComparisons (rt : Runtime) (o : ResolvedOptions)
    (candidates : List NormalizedCandidate) (evaluations : List CandidateEvaluation)
    (relations : List DominanceRelation) : List PairwiseComparison :=
  (pairs (candidates.filter (hasStatus evaluations .frontier))).map fun pair =>
    createPairwiseComparison rt o relations pair.1 pair.2

end SmartStay.Geometry
