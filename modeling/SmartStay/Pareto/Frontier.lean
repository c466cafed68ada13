import SmartStay.Lib.Number
import SmartStay.Lib.Text

/-!
# The Pareto frontier engine

`engine-v2/pareto/paretoFrontierEngine.ts`: which hotels another one is at least as good as
on every known dimension and better on one. Scores, weights and thresholds are rationals;
`none` stands for a number that is missing or not finite.

1. Candidates and options.
2. `resolveOptions`, `normalizeCandidate`, `compareDominance`.
3. `evaluateParetoFrontierV2`.
-/

namespace SmartStay.Pareto

/-! ## 1. Input -/

/-- `SmartStayUtilityDimensionCodeV2`. -/
inductive DimensionCode
  | priceValue | quality | location | comfort | flexibility | categoryFit | userFit
deriving DecidableEq, Repr

/-- `DEFAULT_DIMENSION_CODES`. -/
def defaultDimensionCodes : List DimensionCode :=
  [.priceValue, .quality, .location, .comfort, .flexibility, .categoryFit, .userFit]

def DimensionCode.text : DimensionCode → String
  | .priceValue => "priceValue"
  | .quality => "quality"
  | .location => "location"
  | .comfort => "comfort"
  | .flexibility => "flexibility"
  | .categoryFit => "categoryFit"
  | .userFit => "userFit"

/-- `isDimensionCode`: the code with this text. -/
def dimensionCode? (value : String) : Option DimensionCode :=
  defaultDimensionCodes.find? fun code => code.text = value

/-- `SmartStayUtilityPreferenceIdV2`. -/
inductive PreferenceId
  | maximumComfort | comfort | balanced | savings | maximumSavings
deriving DecidableEq, Repr

def PreferenceId.text : PreferenceId → String
  | .maximumComfort => "maximum-comfort"
  | .comfort => "comfort"
  | .balanced => "balanced"
  | .savings => "savings"
  | .maximumSavings => "maximum-savings"

/-- `SmartStayUtilityStatusV2`. -/
inductive UtilityStatus
  | invalid | unavailable | usable | strongData
deriving DecidableEq, Repr

structure UtilityPreference where
  id : PreferenceId
  weights : DimensionCode → Option ℚ

structure UtilityContribution where
  dimension : DimensionCode
  available : Bool
  score : Option ℚ
  confidence : Option ℚ

structure UserUtilityEvaluation where
  hotelId : String
  status : UtilityStatus
  eligibleForPrimaryRanking : Bool
  preference : UtilityPreference
  utilityScore : Option ℚ
  contributions : List UtilityContribution

/-- `SmartStayParetoCandidateV2`; absent reason codes are an empty list. -/
structure Candidate where
  hotelId : String
  utility : UserUtilityEvaluation
  eligibleForPrimaryRanking : Bool
  exclusionReasonCodes : List String := []

structure FrontierOptions where
  dimensionCodes : Option (List String) := none
  minimumDimensionConfidence : Option ℚ := none
  minimumComparableDimensions : Option ℚ := none
  nonWorseTolerance : Option ℚ := none
  minimumImprovement : Option ℚ := none

/-! ## 2. One candidate, one pair -/

/-- `uniqueSorted` on dimension codes. -/
def uniqueSortedCodes (codes : List DimensionCode) : List DimensionCode :=
  codes.dedup.insertionSort fun first second => JsText.Le first.text second.text

/-- The options that `resolveOptions` lets through. -/
structure ResolvedOptions where
  dimensionCodes : List DimensionCode
  minimumDimensionConfidence : ℚ
  minimumComparableDimensions : ℚ
  nonWorseTolerance : ℚ
  minimumImprovement : ℚ
  dimensionCodes_nodup : dimensionCodes.Nodup
  nonWorseTolerance_nonneg : 0 ≤ nonWorseTolerance
  nonWorseTolerance_lt : nonWorseTolerance < minimumImprovement

def normalizeRatio (value : Option ℚ) (fallback : ℚ) : ℚ :=
  match value with
  | none => fallback
  | some value => JsNumber.clamp value 0 1

def normalizeNonNegativeNumber (value : Option ℚ) (fallback : ℚ) : ℚ :=
  match value with
  | none => fallback
  | some value => if value < 0 then fallback else value

theorem normalizeNonNegativeNumber_nonneg {value : Option ℚ} {fallback : ℚ} (h : 0 ≤ fallback) :
    0 ≤ normalizeNonNegativeNumber value fallback := by
  unfold normalizeNonNegativeNumber
  split
  · exact h
  · split
    · exact h
    · next hneg => exact not_lt.mp hneg

theorem uniqueSortedCodes_nodup (codes : List DimensionCode) : (uniqueSortedCodes codes).Nodup :=
  (List.perm_insertionSort _ _).nodup_iff.mpr (List.nodup_dedup codes)

def resolveOptions (options : FrontierOptions) : Except String ResolvedOptions :=
  let requestedDimensions := options.dimensionCodes.getD (defaultDimensionCodes.map (·.text))
  let dimensionCodes := uniqueSortedCodes (requestedDimensions.filterMap dimensionCode?)
  if dimensionCodes.length = 0 then
    .error "Pareto Frontier requires at least one valid dimension."
  else
    let minimumComparableDimensions : ℚ :=
      match options.minimumComparableDimensions with
      | some minimum => JsNumber.clamp (JsNumber.round minimum) 1 dimensionCodes.length
      | none => min 3 dimensionCodes.length
    let nonWorseTolerance := normalizeNonNegativeNumber options.nonWorseTolerance 1
    let minimumImprovement := normalizeNonNegativeNumber options.minimumImprovement 2
    if hlt : nonWorseTolerance < minimumImprovement then
      .ok
        { dimensionCodes
          minimumDimensionConfidence := normalizeRatio options.minimumDimensionConfidence (55 / 100)
          minimumComparableDimensions
          nonWorseTolerance
          minimumImprovement
          dimensionCodes_nodup := uniqueSortedCodes_nodup _
          nonWorseTolerance_nonneg := normalizeNonNegativeNumber_nonneg zero_le_one
          nonWorseTolerance_lt := hlt }
    else .error "Pareto minimumImprovement must be greater than nonWorseTolerance."

def createPreferenceSignature (utility : UserUtilityEvaluation)
    (dimensionCodes : List DimensionCode) : String :=
  let weightSignature := "|".intercalate (dimensionCodes.map fun dimension =>
    dimension.text ++ ":" ++
      match utility.preference.weights dimension with
      | some weight => JsNumber.toFixed6 weight
      | none => "invalid")
  utility.preference.id.text ++ "::" ++ weightSignature

structure NormalizedDimension where
  score : ℚ
  confidence : ℚ

structure NormalizedCandidate where
  hotelId : String
  utility : UserUtilityEvaluation
  eligible : Bool
  availableDimensions : List (DimensionCode × NormalizedDimension)
  excludedDimensionCodes : List DimensionCode
  exclusionReasonCodes : List String

/-- The keys of the map `availableDimensions`. -/
def NormalizedCandidate.dimensions (c : NormalizedCandidate) : List DimensionCode :=
  c.availableDimensions.map Prod.fst

/-- What a candidate knows about a dimension with a positive weight: the last contribution
    to it, when it is available, in range and confident enough. -/
def normalizeDimension (utility : UserUtilityEvaluation) (options : ResolvedOptions)
    (dimension : DimensionCode) : Option NormalizedDimension := do
  let configuredWeight ← utility.preference.weights dimension
  if configuredWeight ≤ 0 then none else
  let contribution ← utility.contributions.reverse.find? fun c => c.dimension = dimension
  let score ← contribution.score
  let confidence ← contribution.confidence
  if contribution.available && 0 ≤ score && score ≤ 100 &&
      options.minimumDimensionConfidence ≤ confidence then
    some ⟨score, confidence⟩
  else none

def normalizeCandidate (options : ResolvedOptions) (candidate : Candidate) :
    Except String NormalizedCandidate :=
  let hotelId := JsText.trim candidate.hotelId
  if hotelId = "" then .error "Pareto candidate requires a hotelId."
  else if candidate.utility.hotelId ≠ hotelId then
    .error ("Pareto candidate hotelId mismatch: " ++ hotelId)
  else
    .ok
      { hotelId
        utility := candidate.utility
        eligible := candidate.eligibleForPrimaryRanking &&
          candidate.utility.eligibleForPrimaryRanking && candidate.utility.utilityScore.isSome &&
          candidate.utility.status ≠ .invalid && candidate.utility.status ≠ .unavailable
        availableDimensions := options.dimensionCodes.filterMap fun dimension =>
          (normalizeDimension candidate.utility options dimension).map (dimension, ·)
        excludedDimensionCodes := uniqueSortedCodes (options.dimensionCodes.filter fun dimension =>
          (normalizeDimension candidate.utility options dimension).isNone)
        exclusionReasonCodes := JsText.uniqueSorted candidate.exclusionReasonCodes }

structure DominanceComparison where
  dominantHotelId : String
  dominatedHotelId : String
  comparedDimensionCodes : List DimensionCode
  betterDimensionCodes : List DimensionCode
  equivalentDimensionCodes : List DimensionCode
deriving DecidableEq

/-- The loop of `compareDominance`: the better and the equivalent dimensions, unless one is
    worse. -/
def compareDimensions (options : ResolvedOptions) (possibleDominator possibleDominated :
    NormalizedCandidate) : List DimensionCode → Option (List DimensionCode × List DimensionCode)
  | [] => some ([], [])
  | dimension :: rest => do
    let dominator ← possibleDominator.availableDimensions.lookup dimension
    let dominated ← possibleDominated.availableDimensions.lookup dimension
    let difference := dominator.score - dominated.score
    if difference < -options.nonWorseTolerance then none else
    let (better, equivalent) ← compareDimensions options possibleDominator possibleDominated rest
    if options.minimumImprovement ≤ difference then some (dimension :: better, equivalent)
    else some (better, dimension :: equivalent)

def compareDominance (options : ResolvedOptions)
    (possibleDominator possibleDominated : NormalizedCandidate) : Option DominanceComparison :=
  if !possibleDominator.eligible || !possibleDominated.eligible then none else
  let dominatedDimensions := possibleDominated.dimensions.insertionSort fun first second =>
    JsText.Le first.text second.text
  if dominatedDimensions.length < options.minimumComparableDimensions then none else
  if !dominatedDimensions.all (· ∈ possibleDominator.dimensions) then none else do
  let (better, equivalent) ←
    compareDimensions options possibleDominator possibleDominated dominatedDimensions
  if better.length = 0 then none else
  some
    { dominantHotelId := possibleDominator.hotelId
      dominatedHotelId := possibleDominated.hotelId
      comparedDimensionCodes := uniqueSortedCodes dominatedDimensions
      betterDimensionCodes := uniqueSortedCodes better
      equivalentDimensionCodes := uniqueSortedCodes equivalent }

/-! ## 3. All candidates -/

/-- `SmartStayParetoStatus`. -/
inductive ParetoStatus
  | frontier | dominated | unknown
deriving DecidableEq, Repr

structure CandidateEvaluation where
  hotelId : String
  status : ParetoStatus
  eligibleForFrontier : Bool
  dominatedByHotelIds : List String
  dominatesHotelIds : List String
  reasonCodes : List String
  availableDimensionCodes : List DimensionCode
  excludedDimensionCodes : List DimensionCode

structure FrontierEvaluation where
  preferenceId : String
  dimensionCodes : List DimensionCode
  frontierHotelIds : List String
  dominatedHotelIds : List String
  unknownHotelIds : List String
  evaluations : List CandidateEvaluation
  dominanceComparisons : List DominanceComparison

/-- The comparisons of all ordered pairs of different hotels that find dominance. -/
def dominanceComparisons (options : ResolvedOptions) (candidates : List NormalizedCandidate) :
    List DominanceComparison :=
  (candidates.flatMap fun possibleDominator =>
    (candidates.filter fun c => possibleDominator.hotelId ≠ c.hotelId).filterMap
      (compareDominance options possibleDominator)).insertionSort fun first second =>
        first.dominantHotelId ≠ second.dominantHotelId ∧
            JsText.Le first.dominantHotelId second.dominantHotelId ∨
          first.dominantHotelId = second.dominantHotelId ∧
            JsText.Le first.dominatedHotelId second.dominatedHotelId

def evaluateCandidate (options : ResolvedOptions) (comparisons : List DominanceComparison)
    (candidate : NormalizedCandidate) : CandidateEvaluation :=
  let dominatedByHotelIds := JsText.uniqueSorted ((comparisons.filter fun c =>
    c.dominatedHotelId = candidate.hotelId).map (·.dominantHotelId))
  let dominatesHotelIds := JsText.uniqueSorted ((comparisons.filter fun c =>
    c.dominantHotelId = candidate.hotelId).map (·.dominatedHotelId))
  let availableDimensionCodes := uniqueSortedCodes candidate.dimensions
  let enoughComparableData : Bool :=
    options.minimumComparableDimensions ≤ availableDimensionCodes.length
  let (status, reasonCode) : ParetoStatus × String :=
    if !candidate.eligible then (.unknown, "pareto-not-eligible")
    else if !enoughComparableData then (.unknown, "pareto-insufficient-comparable-data")
    else if 0 < dominatedByHotelIds.length then (.dominated, "pareto-dominated")
    else (.frontier, "pareto-frontier")
  { hotelId := candidate.hotelId
    status
    eligibleForFrontier := candidate.eligible && enoughComparableData
    dominatedByHotelIds
    dominatesHotelIds
    reasonCodes := JsText.uniqueSorted (candidate.exclusionReasonCodes ++ [reasonCode] ++
      (if 0 < dominatesHotelIds.length then ["pareto-dominates-alternative"] else []) ++
      (if 0 < candidate.excludedDimensionCodes.length then ["pareto-dimensions-excluded"] else []))
    availableDimensionCodes
    excludedDimensionCodes := candidate.excludedDimensionCodes }

/-- The hotels with a status. -/
def hotelsWith (status : ParetoStatus) (evaluations : List CandidateEvaluation) : List String :=
  (evaluations.filter (·.status = status)).map (·.hotelId)

def evaluateParetoFrontierV2 (candidates : List Candidate) (options : FrontierOptions) :
    Except String FrontierEvaluation := do
  let resolvedOptions ← resolveOptions options
  let normalized ← candidates.mapM (normalizeCandidate resolvedOptions)
  let normalizedCandidates := normalized.insertionSort fun first second =>
    JsText.Le first.hotelId second.hotelId
  if ¬ (normalizedCandidates.map (·.hotelId)).Nodup then
    .error "Pareto Frontier received duplicate hotelIds."
  else
    let signature := fun candidate : NormalizedCandidate =>
      createPreferenceSignature candidate.utility resolvedOptions.dimensionCodes
    match normalizedCandidates with
    | [] => .ok ⟨"unknown", resolvedOptions.dimensionCodes, [], [], [], [], []⟩
    | first :: _ =>
      if normalizedCandidates.any fun candidate => signature candidate ≠ signature first then
        .error "Pareto candidates must use the same utility preference and weights."
      else
        let comparisons := dominanceComparisons resolvedOptions normalizedCandidates
        let evaluations := normalizedCandidates.map (evaluateCandidate resolvedOptions comparisons)
        .ok
          { preferenceId := first.utility.preference.id.text
            dimensionCodes := resolvedOptions.dimensionCodes
            frontierHotelIds := hotelsWith .frontier evaluations
            dominatedHotelIds := hotelsWith .dominated evaluations
            unknownHotelIds := hotelsWith .unknown evaluations
            evaluations
            dominanceComparisons := comparisons }

end SmartStay.Pareto
