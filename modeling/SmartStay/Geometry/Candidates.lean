import SmartStay.Contract.StableHash

/-!
# Candidates of the decision geometry

`engine-v3/geometry/decisionGeometryV3.ts`: the candidates with their linked evidence, a
personal utility evaluation and a peer assignment. Numbers are rationals; `none` is `null`.
Fields of the linked records that only their fingerprints read are kept as JSON.

1. Dimensions.
2. The linked records and their validators.
3. Candidates, options, `resolveOptions`.
4. `normalizeCandidate`.
-/

namespace SmartStay.Geometry

open Contract

/-! ## 1. Dimensions -/

/-- `StayOptiGeometryBenefitDimensionV3`. -/
inductive BenefitDimension
  | quality | location | comfort | flexibility | categoryFit | userFit
deriving DecidableEq, Repr

/-- `STAYOPTI_GEOMETRY_BENEFIT_DIMENSIONS_V3`. -/
def benefitDimensions : List BenefitDimension :=
  [.quality, .location, .comfort, .flexibility, .categoryFit, .userFit]

def BenefitDimension.text : BenefitDimension → String
  | .quality => "quality"
  | .location => "location"
  | .comfort => "comfort"
  | .flexibility => "flexibility"
  | .categoryFit => "categoryFit"
  | .userFit => "userFit"

/-- `StayOptiUtilityDimensionV3`. -/
inductive UtilityDimension
  | priceValue
  | benefit (d : BenefitDimension)
deriving DecidableEq, Repr

def UtilityDimension.text : UtilityDimension → String
  | .priceValue => "priceValue"
  | .benefit d => d.text

/-- `DIMENSIONS` of the utility engine. -/
def utilityDimensions : List UtilityDimension := .priceValue :: benefitDimensions.map .benefit

/-- `StayOptiGeometryDimensionV3`. -/
inductive GeometryDimension
  | totalCost
  | benefit (d : BenefitDimension)
deriving DecidableEq, Repr

def GeometryDimension.text : GeometryDimension → String
  | .totalCost => "totalCost"
  | .benefit d => d.text

/-- `ALL_DIMENSIONS`. -/
def allDimensions : List GeometryDimension := .totalCost :: benefitDimensions.map .benefit

/-- `uniqueSorted` on dimensions. -/
def uniqueSortedDimensions (dimensions : List GeometryDimension) : List GeometryDimension :=
  dimensions.dedup.insertionSort fun first second => JsText.Le first.text second.text

theorem mem_benefitDimensions (d : BenefitDimension) : d ∈ benefitDimensions := by
  cases d <;> decide

/-! ## 2. Linked evidence -/

structure UtilityContribution where
  dimension : UtilityDimension
  available : Bool
  transformedScore : Option ℚ
  confidence : ℚ
  normalizedAvailableWeight : ℚ
  weightedValue : ℚ
  other : List (String × Json) := []

def UtilityContribution.toJson (c : UtilityContribution) : Json :=
  .obj ([("dimension", .str c.dimension.text), ("available", .bool c.available),
    ("transformedScore", .num? c.transformedScore), ("confidence", .num c.confidence),
    ("normalizedAvailableWeight", .num c.normalizedAvailableWeight),
    ("weightedValue", .num c.weightedValue)] ++ c.other)

/-- `StayOptiPersonalUtilityEvaluationV3`; `totalBudget` is that of its context. -/
structure PersonalUtilityEvaluation where
  hotelId : String
  totalBudget : Option ℚ
  otherContext : List (String × Json) := []
  weights : UtilityDimension → ℚ
  contributions : List UtilityContribution
  utilityScore : Option ℚ
  scoreConfidence : ℚ
  evidenceCoverage : ℚ
  other : List (String × Json) := []
  fingerprint : String

/-- The evaluation without its fingerprint. -/
def PersonalUtilityEvaluation.toJson (u : PersonalUtilityEvaluation) : Json :=
  .obj ([("hotelId", .str u.hotelId),
    ("context", .obj (("totalBudget", .num? u.totalBudget) :: u.otherContext)),
    ("weights", .obj (utilityDimensions.map fun d => (d.text, .num (u.weights d)))),
    ("contributions", .arr (u.contributions.map (·.toJson))),
    ("utilityScore", .num? u.utilityScore), ("scoreConfidence", .num u.scoreConfidence),
    ("evidenceCoverage", .num u.evidenceCoverage)] ++ u.other)

def validatePersonalUtilityEvaluation (rt : Runtime) (u : PersonalUtilityEvaluation) : Bool :=
  let weightSum := (utilityDimensions.map u.weights).sum
  u.fingerprint = createStableHash rt u.toJson "stayopti-v3-personal-utility" &&
    0 < (JsText.trim u.hotelId).length && |weightSum - 1| ≤ 1 / 1000000 &&
    (match u.utilityScore with
      | none => true
      | some score => 0 ≤ score && score ≤ 100) &&
    0 ≤ u.scoreConfidence && u.scoreConfidence ≤ 1 &&
    0 ≤ u.evidenceCoverage && u.evidenceCoverage ≤ 1

/-- `StayOptiPeerGroupModeV3`. -/
inductive PeerGroupMode
  | exactContext | compatibleContext | declaredFallback | unavailable
deriving DecidableEq, Repr

def PeerGroupMode.text : PeerGroupMode → String
  | .exactContext => "exact-context"
  | .compatibleContext => "compatible-context"
  | .declaredFallback => "declared-fallback"
  | .unavailable => "unavailable"

/-- `StayOptiPeerAssignmentV3`. -/
structure PeerAssignment where
  hotelId : String
  groupId : Option String
  mode : PeerGroupMode
  directComparisonAllowed : Bool
  memberHotelIds : List String
  sampleSize : ℚ
  confidence : ℚ
  other : List (String × Json) := []
  fingerprint : String

/-- The assignment without its fingerprint. -/
def PeerAssignment.toJson (p : PeerAssignment) : Json :=
  .obj ([("hotelId", .str p.hotelId), ("groupId", .text? p.groupId), ("mode", .str p.mode.text),
    ("directComparisonAllowed", .bool p.directComparisonAllowed),
    ("memberHotelIds", .texts p.memberHotelIds), ("sampleSize", .num p.sampleSize),
    ("confidence", .num p.confidence)] ++ p.other)

def validatePeerAssignment (rt : Runtime) (p : PeerAssignment) : Bool :=
  let uniqueMembers := JsText.uniqueSorted p.memberHotelIds
  p.fingerprint = createStableHash rt p.toJson "stayopti-v3-peer-assignment" &&
    0 < (JsText.trim p.hotelId).length && p.sampleSize = p.memberHotelIds.length &&
    p.sampleSize = uniqueMembers.length && 0 ≤ p.confidence && p.confidence ≤ 1 &&
    (if p.directComparisonAllowed then p.mode = .exactContext || p.mode = .compatibleContext
      else p.mode = .declaredFallback || p.mode = .unavailable) &&
    (if p.mode = .unavailable then p.groupId.isNone && p.sampleSize = 0
      else p.groupId.isSome && 0 < p.sampleSize)

/-! ## 3. Candidates and options -/

inductive CostIntegrityStatus
  | complete | provisional | incomplete | conflicting
deriving DecidableEq, Repr

/-- `EvaluateStayOptiDecisionGeometryCandidateV3`. -/
structure Candidate where
  hotelId : String
  solutionId : Option String := none
  eligible : Bool
  totalCost : Option ℚ
  currency : Option String
  costIntegrityStatus : CostIntegrityStatus
  utility : PersonalUtilityEvaluation
  peerAssignment : PeerAssignment

/-- `StayOptiDecisionGeometryOptionsV3`; `none` is absent or not a finite number. -/
structure GeometryOptions where
  benefitNonWorseTolerance : Option ℚ := none
  benefitMaterialImprovement : Option ℚ := none
  costNonWorseTolerance : Option ℚ := none
  costMaterialImprovementRatio : Option ℚ := none
  pairwiseUtilityTolerance : Option ℚ := none

/-- The options that `resolveOptions` lets through. -/
structure ResolvedOptions where
  benefitNonWorseTolerance : ℚ
  benefitMaterialImprovement : ℚ
  costNonWorseTolerance : ℚ
  costMaterialImprovementRatio : ℚ
  pairwiseUtilityTolerance : ℚ
  benefitNonWorseTolerance_nonneg : 0 ≤ benefitNonWorseTolerance
  benefitNonWorseTolerance_lt : benefitNonWorseTolerance < benefitMaterialImprovement
  costNonWorseTolerance_nonneg : 0 ≤ costNonWorseTolerance

def ResolvedOptions.toJson (o : ResolvedOptions) : Json :=
  .obj [("benefitNonWorseTolerance", .num o.benefitNonWorseTolerance),
    ("benefitMaterialImprovement", .num o.benefitMaterialImprovement),
    ("costNonWorseTolerance", .num o.costNonWorseTolerance),
    ("costMaterialImprovementRatio", .num o.costMaterialImprovementRatio),
    ("pairwiseUtilityTolerance", .num o.pairwiseUtilityTolerance)]

def normalizeFiniteNonNegative (value : Option ℚ) (fallback : ℚ) : ℚ :=
  match value with
  | none => fallback
  | some value => if 0 ≤ value then value else fallback

theorem normalizeFiniteNonNegative_nonneg {value : Option ℚ} {fallback : ℚ} (h : 0 ≤ fallback) :
    0 ≤ normalizeFiniteNonNegative value fallback := by
  unfold normalizeFiniteNonNegative
  split
  · exact h
  · split
    · next hvalue => exact hvalue
    · exact h

def normalizeFinitePositive (value : Option ℚ) : Option ℚ := value.filter (0 < ·)

def resolveOptions (options : GeometryOptions) : Except String ResolvedOptions :=
  let benefitNonWorseTolerance :=
    normalizeFiniteNonNegative options.benefitNonWorseTolerance (1 / 4)
  let benefitMaterialImprovement :=
    normalizeFiniteNonNegative options.benefitMaterialImprovement 1
  if hlt : benefitNonWorseTolerance < benefitMaterialImprovement then
    .ok
      { benefitNonWorseTolerance
        benefitMaterialImprovement
        costNonWorseTolerance := normalizeFiniteNonNegative options.costNonWorseTolerance (1 / 100)
        costMaterialImprovementRatio :=
          normalizeFiniteNonNegative options.costMaterialImprovementRatio (5 / 1000)
        pairwiseUtilityTolerance :=
          normalizeFiniteNonNegative options.pairwiseUtilityTolerance (1 / 4)
        benefitNonWorseTolerance_nonneg := normalizeFiniteNonNegative_nonneg (by norm_num)
        benefitNonWorseTolerance_lt := hlt
        costNonWorseTolerance_nonneg := normalizeFiniteNonNegative_nonneg (by norm_num) }
  else .error "Decision Geometry material improvement must exceed the non-worse tolerance."

/-! ## 4. Normalization -/

/-- `StayOptiGeometryCandidateStatusV3`. -/
inductive CandidateStatus
  | comparable | ineligible | incomplete | peerUnavailable
deriving DecidableEq, Repr

structure NormalizedBenefit where
  score : ℚ
  confidence : ℚ
  weightedValue : ℚ

structure NormalizedCandidate where
  source : Candidate
  hotelId : String
  solutionId : Option String
  status : CandidateStatus
  totalCost : Option ℚ
  currency : Option String
  utilityScore : Option ℚ
  benefits : BenefitDimension → Option NormalizedBenefit
  availableDimensions : List GeometryDimension
  missingDimensions : List GeometryDimension
  peerAssignment : PeerAssignment

/-- `value?.trim() || null`. -/
def trimmed? (value : Option String) : Option String := (value.map JsText.trim).filter (· ≠ "")

/-- The benefit that the last contribution to the dimension gives, when it is available. -/
def normalizeBenefit (utility : PersonalUtilityEvaluation) (dimension : BenefitDimension) :
    Option NormalizedBenefit := do
  let contribution ← utility.contributions.reverse.find? fun c => c.dimension = .benefit dimension
  let score ← contribution.transformedScore
  if contribution.available && 0 < contribution.confidence then
    some ⟨score, contribution.confidence, contribution.weightedValue⟩
  else none

/-- The candidate that `normalizeCandidate` makes of valid linked evidence. -/
def normalizedCandidate (rt : Runtime) (candidate : Candidate) (hotelId : String) :
    NormalizedCandidate :=
  let totalCost := normalizeFinitePositive candidate.totalCost
  let currency := ((candidate.currency.map JsText.trim).map rt.toUpperCase).filter (· ≠ "")
  let benefits := normalizeBenefit candidate.utility
  let availableDimensions :=
    (if totalCost.isSome && currency.isSome && candidate.costIntegrityStatus = .complete then
      [GeometryDimension.totalCost] else []) ++
    (benefitDimensions.filter fun d => (benefits d).isSome).map .benefit
  let missingDimensions := allDimensions.filter fun d => d ∉ availableDimensions
  let status : CandidateStatus :=
    if !candidate.eligible then .ineligible
    else if 0 < missingDimensions.length || candidate.utility.utilityScore.isNone then .incomplete
    else if !candidate.peerAssignment.directComparisonAllowed then .peerUnavailable
    else .comparable
  { source := candidate
    hotelId
    solutionId := trimmed? candidate.solutionId
    status
    totalCost
    currency
    utilityScore := candidate.utility.utilityScore
    benefits
    availableDimensions := uniqueSortedDimensions availableDimensions
    missingDimensions := uniqueSortedDimensions missingDimensions
    peerAssignment := candidate.peerAssignment }

def normalizeCandidate (rt : Runtime) (candidate : Candidate) : Except String NormalizedCandidate :=
  let hotelId := JsText.trim candidate.hotelId
  if hotelId = "" then .error "Decision Geometry requires a hotelId."
  else if candidate.utility.hotelId ≠ hotelId || candidate.peerAssignment.hotelId ≠ hotelId ||
      !validatePersonalUtilityEvaluation rt candidate.utility ||
      !validatePeerAssignment rt candidate.peerAssignment then
    .error ("Decision Geometry received invalid linked evidence for " ++ hotelId ++ ".")
  else .ok (normalizedCandidate rt candidate hotelId)

end SmartStay.Geometry
