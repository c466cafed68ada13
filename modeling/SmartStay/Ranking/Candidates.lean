import SmartStay.Contract.StableHash
import SmartStay.Pareto.Frontier

/-!
# Candidates of the ranking engine

`engine-v2/ranking/rankingStabilityDiversityEngine.ts`: the candidates with the evaluations
that they were given, the options, and what the engine reads of both. Numbers are rationals;
`none` is a number that is missing or not finite.

1. `Platform`: letter case and logarithms of the JavaScript runtime.
2. Candidates and options.
3. `resolveOptions`, `validateInput`.
4. `normalizeCandidate`.
-/

namespace SmartStay.Ranking

open Pareto (DimensionCode PreferenceId UtilityStatus normalizeRatio normalizeNonNegativeNumber)

/-! ## 1. The platform -/

/-- `toLowerCase`, `toUpperCase` and `Math.log`. -/
structure Platform where
  toLowerCase : String → String
  toUpperCase : String → String
  log : ℚ → ℚ

/-! ## 2. Input -/

/-- `SmartStayRecommendationRoleV2`. -/
inductive RecommendationRole
  | unassigned | bestChoice | bestSensibleSaving | worthwhileComfortUpgrade | bestLocation
deriving DecidableEq, Repr

/-- `PRIMARY_ROLE_ORDER`. -/
def primaryRoleOrder : List RecommendationRole :=
  [.bestChoice, .bestSensibleSaving, .worthwhileComfortUpgrade]

/-- `SmartStayRiskLevelV2`. -/
inductive RiskLevel
  | low | medium | high
deriving DecidableEq, Repr

/-- `SmartStayAccommodationCategory`. -/
inductive AccommodationCategory
  | hotel | bedAndBreakfast | apartment | vacationRental | aparthotel | hostel | guesthouse | villa
  | resort | camping | other | unknown
deriving DecidableEq, Repr

/-- `SmartStayUnitType`. -/
inductive UnitType
  | entirePlace | privateRoom | sharedRoom | hotelRoom | unknown
deriving DecidableEq, Repr

/-- `SmartStayPriceValueStatusV2` and `SmartStayLocationStatusV2`. -/
inductive EvidenceStatus
  | invalid | unavailable | usable | strongData
deriving DecidableEq, Repr

/-- `SmartStayUserUtilityEvaluationV2`. -/
structure UtilityEvaluation extends Pareto.UserUtilityEvaluation where
  scoreConfidence : Option ℚ
  evidenceCoverage : Option ℚ
  evidenceIds : List String := []

/-- `SmartStayRecommendationEvaluationV2`; `smartScore` and `metricsUtilityScore` are its
    metrics. -/
structure RecommendationEvaluation where
  hotelId : String
  role : RecommendationRole
  primaryInGroup : Bool
  smartScore : Option ℚ
  metricsUtilityScore : Option ℚ
  evidenceIds : List String := []

structure AccommodationProfile where
  category : AccommodationCategory
  unitType : UnitType
  evidenceIds : List String := []

structure RiskAssessment where
  score : Option ℚ
  level : RiskLevel
  evidenceIds : List String := []

structure PriceValueEvaluation where
  hotelId : String
  status : EvidenceStatus
  totalCost : Option ℚ
  currency : Option String
  evidenceIds : List String := []

structure LocationEvaluation where
  hotelId : String
  status : EvidenceStatus
  selectedDistanceKm : Option ℚ
  confidence : Option ℚ
  evidenceIds : List String := []

/-- `SmartStayRankingStabilityDiversityCandidateV2`; absent reason codes are an empty list. -/
structure Candidate where
  hotelId : String
  eligibleForRanking : Bool
  recommendation : RecommendationEvaluation
  utility : UtilityEvaluation
  accommodation : AccommodationProfile
  risk : RiskAssessment
  priceValue : Option PriceValueEvaluation := none
  location : Option LocationEvaluation := none
  sourceProvider : Option String := none
  propertyIdentityKey : Option String := none
  offerIdentityKey : Option String := none
  exclusionReasonCodes : List String := []

/-- `SmartStayRankingStabilityDiversityInputV2`; an absent previous ranking is an empty list. -/
structure RankingInput where
  candidates : List Candidate
  previousRankingHotelIds : List String := []

/-- `SmartStayRankingStabilityDiversityOptionsV2`. -/
structure RankingOptions where
  maximumVisibleResults : Option ℚ := none
  scoreEquivalenceTolerance : Option ℚ := none
  confidenceEquivalenceTolerance : Option ℚ := none
  coverageEquivalenceTolerance : Option ℚ := none
  riskEquivalenceTolerance : Option ℚ := none
  priceEquivalenceRatio : Option ℚ := none
  maximumDiversityScoreSacrifice : Option ℚ := none
  diversityPenaltyScale : Option ℚ := none
  maximumSameCategoryVisible : Option ℚ := none
  maximumSameUnitTypeVisible : Option ℚ := none
  maximumSameProviderVisible : Option ℚ := none
  maximumVisiblePerNearDuplicateGroup : Option ℚ := none
  priceBandRatio : Option ℚ := none
  distanceBandKm : Option ℚ := none
  minimumStrongConfidence : Option ℚ := none
  minimumStrongCoverage : Option ℚ := none
  protectPrimaryRecommendationRoles : Option Bool := none

/-! ## 3. Options and checks -/

structure ResolvedOptions where
  maximumVisibleResults : Nat
  scoreEquivalenceTolerance : ℚ
  confidenceEquivalenceTolerance : ℚ
  coverageEquivalenceTolerance : ℚ
  riskEquivalenceTolerance : ℚ
  priceEquivalenceRatio : ℚ
  maximumDiversityScoreSacrifice : ℚ
  diversityPenaltyScale : ℚ
  maximumSameCategoryVisible : Nat
  maximumSameUnitTypeVisible : Nat
  maximumSameProviderVisible : Nat
  maximumVisiblePerNearDuplicateGroup : Nat
  priceBandRatio : ℚ
  distanceBandKm : ℚ
  minimumStrongConfidence : ℚ
  minimumStrongCoverage : ℚ
  protectPrimaryRecommendationRoles : Bool

def normalizePositiveNumber (value : Option ℚ) (fallback : ℚ) : ℚ :=
  (value.filter (0 < ·)).getD fallback

def normalizePositiveInteger (value : Option ℚ) (fallback maximum : Nat) : Nat :=
  match value with
  | none => fallback
  | some value => min (max (JsNumber.round value) 1).toNat maximum

def resolveOptions (options : RankingOptions) : ResolvedOptions where
  maximumVisibleResults := normalizePositiveInteger options.maximumVisibleResults 10 100
  scoreEquivalenceTolerance :=
    normalizeNonNegativeNumber options.scoreEquivalenceTolerance (75 / 100)
  confidenceEquivalenceTolerance :=
    normalizeRatio options.confidenceEquivalenceTolerance (8 / 100)
  coverageEquivalenceTolerance := normalizeRatio options.coverageEquivalenceTolerance (8 / 100)
  riskEquivalenceTolerance := normalizeNonNegativeNumber options.riskEquivalenceTolerance 6
  priceEquivalenceRatio := normalizeRatio options.priceEquivalenceRatio (3 / 100)
  maximumDiversityScoreSacrifice :=
    normalizeNonNegativeNumber options.maximumDiversityScoreSacrifice 3
  diversityPenaltyScale := normalizeNonNegativeNumber options.diversityPenaltyScale 6
  maximumSameCategoryVisible := normalizePositiveInteger options.maximumSameCategoryVisible 4 100
  maximumSameUnitTypeVisible := normalizePositiveInteger options.maximumSameUnitTypeVisible 4 100
  maximumSameProviderVisible := normalizePositiveInteger options.maximumSameProviderVisible 4 100
  maximumVisiblePerNearDuplicateGroup :=
    normalizePositiveInteger options.maximumVisiblePerNearDuplicateGroup 1 20
  priceBandRatio := normalizePositiveNumber options.priceBandRatio (15 / 100)
  distanceBandKm := normalizePositiveNumber options.distanceBandKm 1
  minimumStrongConfidence := normalizeRatio options.minimumStrongConfidence (8 / 10)
  minimumStrongCoverage := normalizeRatio options.minimumStrongCoverage (8 / 10)
  protectPrimaryRecommendationRoles := options.protectPrimaryRecommendationRoles.getD true

def createPreferenceSignature (utility : UtilityEvaluation) : String :=
  let weights := "|".intercalate ((Pareto.uniqueSortedCodes Pareto.defaultDimensionCodes).map
    fun dimension => dimension.text ++ ":" ++
      match utility.preference.weights dimension with
      | some weight => JsNumber.toFixed6 weight
      | none => "NaN")
  "::".intercalate [utility.preference.id.text, weights]

/-- The ids of the evaluations that a candidate carries. -/
def componentHotelIds (candidate : Candidate) : List String :=
  [candidate.utility.hotelId, candidate.recommendation.hotelId] ++
    (candidate.priceValue.map (·.hotelId)).toList ++ (candidate.location.map (·.hotelId)).toList

/-- The first loop of `validateInput`, with the ids seen so far and the signature of the first
    candidate. -/
def validateCandidates :
    List Candidate → List String → Option String → Except String Unit
  | [], _, _ => .ok ()
  | candidate :: rest, hotelIds, preferenceSignature =>
    let hotelId := JsText.trim candidate.hotelId
    let signature := createPreferenceSignature candidate.utility
    if hotelId = "" then .error "Ranking Stability & Diversity candidate requires a hotelId."
    else if hotelIds.contains hotelId then
      .error ("Ranking Stability & Diversity received duplicate hotelId: " ++ hotelId)
    else if (componentHotelIds candidate).any (· ≠ hotelId) then
      .error ("Ranking Stability & Diversity candidate hotelId mismatch: " ++ hotelId)
    else if preferenceSignature.any (· ≠ signature) then
      .error "Ranking Stability & Diversity candidates must use the same utility preference and weights."
    else validateCandidates rest (hotelIds ++ [hotelId]) (some signature)

/-- The second loop of `validateInput`. -/
def validatePrevious : List String → List String → Except String Unit
  | [], _ => .ok ()
  | value :: rest, previousSet =>
    let hotelId := JsText.trim value
    if hotelId = "" then .error "Previous ranking contains an invalid hotelId."
    else if previousSet.contains hotelId then
      .error ("Previous ranking contains duplicate hotelId: " ++ hotelId)
    else validatePrevious rest (previousSet ++ [hotelId])

def validateInput (input : RankingInput) : Except String Unit := do
  validateCandidates input.candidates [] none
  validatePrevious input.previousRankingHotelIds []

/-! ## 4. Normalization -/

structure ComparableCost where
  amount : ℚ
  currency : String
deriving DecidableEq

structure NormalizedCandidate where
  hotelId : String
  source : Candidate
  eligible : Bool
  score : Option ℚ
  confidence : ℚ
  coverage : ℚ
  riskScore : ℚ
  cost : Option ComparableCost
  distanceKm : Option ℚ
  provider : Option String
  category : AccommodationCategory
  unitType : UnitType
  nearDuplicateKey : Option String
  roleAnchor : Bool
  exclusionReasonCodes : List String
  evidenceIds : List String

def normalizeOptionalKey (pf : Platform) (value : Option String) : Option String :=
  ((value.map JsText.trim).filter (· ≠ "")).map fun text =>
    String.ofList (JsText.collapseSpaces (pf.toLowerCase text).toList)

def normalizeCurrency (pf : Platform) (value : Option String) : Option String :=
  (value.map fun text => pf.toUpperCase (JsText.trim text)).filter fun normalized =>
    normalized.length = 3 && normalized.toList.all Char.isUpper

def getComparableCost (pf : Platform) (evaluation : Option PriceValueEvaluation) :
    Option ComparableCost := do
  let evaluation ← evaluation
  if evaluation.status = .invalid || evaluation.status = .unavailable then none else
  let totalCost ← evaluation.totalCost
  if totalCost ≤ 0 then none else
  let currency ← normalizeCurrency pf evaluation.currency
  some ⟨totalCost, currency⟩

def getComparableDistance (evaluation : Option LocationEvaluation) : Option ℚ := do
  let evaluation ← evaluation
  if evaluation.status = .invalid || evaluation.status = .unavailable then none else
  let distance ← evaluation.selectedDistanceKm
  let confidence ← evaluation.confidence
  if distance < 0 || confidence < 55 / 100 then none else some distance

def getCandidateScore (candidate : Candidate) : Option ℚ :=
  ((candidate.recommendation.smartScore.or candidate.recommendation.metricsUtilityScore).or
    candidate.utility.utilityScore).map fun score => JsNumber.clamp score 0 100

def isPrimaryRole (role : RecommendationRole) : Bool := primaryRoleOrder.contains role

def normalizeCandidate (pf : Platform) (candidate : Candidate) : NormalizedCandidate :=
  let hotelId := JsText.trim candidate.hotelId
  let score := getCandidateScore candidate
  let riskScore := JsNumber.clamp (candidate.risk.score.getD 100) 0 100
  let nearDuplicateKey :=
    ((normalizeOptionalKey pf candidate.propertyIdentityKey).map ("property:" ++ ·)).or
      ((normalizeOptionalKey pf candidate.offerIdentityKey).map ("offer:" ++ ·))
  { hotelId
    source := candidate
    eligible := candidate.eligibleForRanking && candidate.utility.eligibleForPrimaryRanking &&
      candidate.utility.status ≠ .invalid && candidate.utility.status ≠ .unavailable &&
      score.isSome && candidate.risk.level ≠ .high && riskScore < 60
    score
    confidence := normalizeRatio candidate.utility.scoreConfidence 0
    coverage := normalizeRatio candidate.utility.evidenceCoverage 0
    riskScore
    cost := getComparableCost pf candidate.priceValue
    distanceKm := getComparableDistance candidate.location
    provider := normalizeOptionalKey pf candidate.sourceProvider
    category := candidate.accommodation.category
    unitType := candidate.accommodation.unitType
    nearDuplicateKey
    roleAnchor := candidate.recommendation.primaryInGroup &&
      isPrimaryRole candidate.recommendation.role
    exclusionReasonCodes := JsText.uniqueSorted candidate.exclusionReasonCodes
    evidenceIds := JsText.uniqueSorted (candidate.utility.evidenceIds ++
      candidate.recommendation.evidenceIds ++ candidate.risk.evidenceIds ++
      candidate.accommodation.evidenceIds ++
      ((candidate.priceValue.map (·.evidenceIds)).getD []) ++
      ((candidate.location.map (·.evidenceIds)).getD [])) }

end SmartStay.Ranking
