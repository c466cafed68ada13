import SmartStay.Intent.Market

/-!
# The budget intent engine

`evaluateBudgetIntentV2` of `engine-v2/intent/budgetIntentEngine.ts`: what a budget asks of a hotel.
The best experience, the highest tier and the market positions of the hotels within the budget set
floors for the best choice.

1. `BudgetIntentPolicy`, `createPolicy`.
2. `createExperienceScore`, `classifyExperienceTier`, `createCandidateSignals`.
3. The floors: `resolveTargetTierRank`, `resolveMinimumBestChoiceMarketPositionPercentile`.
4. `evaluateBudgetIntentV2`.
-/

namespace SmartStay.Intent

open Contract JsSort Market WeightedMean
open Pareto (PreferenceId)
open Recommendation (BudgetIntentLevel ExperienceTier)
open Upgrade (normalizeCurrency)

/-! ## 1. Policies -/

structure BudgetIntentPolicy where
  active : Bool
  experiencePriority : ℚ
  maximumBestChoiceExperienceLoss : ℚ
  maximumSavingExperienceLoss : ℚ
  minimumBestChoiceTierRank : ℕ
  experienceTargetRequired : Bool
  savingRequiresExperienceParity : Bool

def createNeutralPolicy : BudgetIntentPolicy where
  active := false
  experiencePriority := 0
  maximumBestChoiceExperienceLoss := 100
  maximumSavingExperienceLoss := 100
  minimumBestChoiceTierRank := 0
  experienceTargetRequired := false
  savingRequiresExperienceParity := false

structure PolicyValues where
  priority : ℚ
  bestLoss : ℚ
  savingLoss : ℚ
  tier : ℕ

def maximumComfortValues : BudgetIntentLevel → PolicyValues
  | .constrained => ⟨78 / 100, 10, 8, 1⟩
  | .value => ⟨82 / 100, 8, 7, 1⟩
  | .balanced => ⟨85 / 100, 7, 6, 2⟩
  | .premium => ⟨89 / 100, 5, 5, 3⟩
  | .luxury => ⟨93 / 100, 4, 4, 3⟩

def comfortValues : BudgetIntentLevel → PolicyValues
  | .constrained => ⟨55 / 100, 14, 14, 1⟩
  | .value => ⟨6 / 10, 12, 12, 1⟩
  | .balanced => ⟨65 / 100, 10, 10, 1⟩
  | .premium => ⟨72 / 100, 8, 9, 2⟩
  | .luxury => ⟨78 / 100, 7, 8, 2⟩

def PolicyValues.policy (values : PolicyValues) (savingRequiresExperienceParity : Bool) :
    BudgetIntentPolicy where
  active := true
  experiencePriority := values.priority
  maximumBestChoiceExperienceLoss := values.bestLoss
  maximumSavingExperienceLoss := values.savingLoss
  minimumBestChoiceTierRank := values.tier
  experienceTargetRequired := true
  savingRequiresExperienceParity

def createPolicy (preferenceId : PreferenceId) (level : BudgetIntentLevel) (active : Bool) :
    BudgetIntentPolicy :=
  if !active then createNeutralPolicy
  else match preferenceId with
    | .maximumComfort => (maximumComfortValues level).policy true
    | .comfort => (comfortValues level).policy (level = .premium || level = .luxury)
    | _ => createNeutralPolicy

/-! ## 2. Signals -/

/-- `EXPERIENCE_TIER_RANK`. -/
def experienceTierRank : ExperienceTier → ℕ
  | .unknown => 0
  | .essential => 1
  | .standard => 2
  | .premium => 3
  | .luxury => 4

structure ExperienceWeights where
  quality : ℚ
  comfort : ℚ
  location : ℚ
  flexibility : ℚ
  stars : ℚ
  categoryFit : ℚ
  userFit : ℚ

/-- `EXPERIENCE_WEIGHTS`. -/
def experienceWeights : PreferenceId → ExperienceWeights
  | .maximumComfort =>
    ⟨27 / 100, 25 / 100, 13 / 100, 8 / 100, 20 / 100, 4 / 100, 3 / 100⟩
  | .comfort => ⟨28 / 100, 23 / 100, 16 / 100, 8 / 100, 15 / 100, 4 / 100, 6 / 100⟩
  | .balanced => ⟨25 / 100, 18 / 100, 20 / 100, 8 / 100, 10 / 100, 7 / 100, 12 / 100⟩
  | .savings => ⟨27 / 100, 15 / 100, 18 / 100, 8 / 100, 7 / 100, 7 / 100, 18 / 100⟩
  | .maximumSavings => ⟨27 / 100, 12 / 100, 16 / 100, 7 / 100, 5 / 100, 7 / 100, 26 / 100⟩

def normalizeScore : Option JsFloat → Option ℚ
  | some (.finite x) => if 0 ≤ x ∧ x ≤ 100 then some x else none
  | _ => none

def normalizeDimensionScore (score confidence : Option JsFloat) : Option ℚ :=
  match confidence with
  | some (.finite x) => if 55 / 100 ≤ x then normalizeScore score else none
  | _ => none

def calculateWeightedScore (values : List (Option ℚ × ℚ)) : Option ℚ :=
  let available : List (ℚ × ℚ) := values.filterMap fun value =>
    if 0 < value.2 then value.1.map fun score => (score, value.2) else none
  let totalWeight : ℚ := (available.map (·.2)).sum
  if totalWeight ≤ 0 then none else some (weightedMean available (·.1) (·.2))

def createExperienceScore (candidate : BudgetIntentCandidate) (preferenceId : PreferenceId) :
    Option ℚ :=
  let weights := experienceWeights preferenceId
  let quality := candidate.quality
  (calculateWeightedScore
    [(normalizeDimensionScore quality.score quality.confidence, weights.quality),
      (normalizeDimensionScore candidate.comfort.score candidate.comfort.confidence,
        weights.comfort),
      (normalizeDimensionScore candidate.location.score candidate.location.confidence,
        weights.location),
      (normalizeDimensionScore candidate.flexibility.score candidate.flexibility.confidence,
        weights.flexibility),
      (normalizeDimensionScore quality.starQuality.normalizedScore quality.starQuality.confidence,
        weights.stars),
      (normalizeDimensionScore candidate.categoryFit.score candidate.categoryFit.confidence,
        weights.categoryFit),
      (normalizeDimensionScore candidate.userFit.score candidate.userFit.confidence,
        weights.userFit)]).map (round · 4)

/-- `typeof value === "number" && value >= bound`. -/
def atLeast (value : Option JsFloat) (bound : ℚ) : Bool :=
  value.any fun x => JsFloat.le (.finite bound) x

def classifyExperienceTier (candidate : BudgetIntentCandidate) (experienceScore : Option ℚ) :
    ExperienceTier :=
  match experienceScore with
  | none => .unknown
  | some experienceScore =>
    let stars := candidate.quality.starQuality.stars
    let quality := candidate.quality.score
    let comfort := candidate.comfort.score
    let category := (candidate.accommodationCategory.map
      fun text => JsText.toLowerCase (JsText.trim text)).getD ""
    let premiumCategory := category = "resort" || category = "villa" || category = "aparthotel"
    if atLeast stars (45 / 10) && 82 ≤ experienceScore || premiumCategory && 92 ≤ experienceScore ||
        95 ≤ experienceScore && atLeast quality 92 && atLeast comfort 90 then .luxury
    else if atLeast stars 4 && 76 ≤ experienceScore ||
        90 ≤ experienceScore && atLeast quality 88 && atLeast comfort 85 then .premium
    else if 70 ≤ experienceScore then .standard
    else .essential

structure CandidateSignal where
  source : BudgetIntentCandidate
  totalCost : Option ℚ
  currency : Option String
  utilityScore : Option ℚ
  experienceScore : Option ℚ
  experienceTier : ExperienceTier
  experienceTierRank : ℕ
  marketPositionPercentile : Option ℚ

variable (rt : Runtime)

def calculateMarketPositionPercentile (totalCost : Option ℚ) (currency : Option String)
    (candidates : List BudgetIntentCandidate) (marketCurrency : Option String) : Option ℚ := do
  let totalCost ← totalCost
  let currency ← currency
  let marketCurrency ← marketCurrency
  if currency ≠ marketCurrency then none
  else
    let costs := sortBy compare ((candidates.filter (·.pricedIn rt (some marketCurrency))).filterMap
      fun candidate => normalizePositiveNumber candidate.totalCost)
    if costs.length = 0 then none
    else some (round (((costs.filter (· ≤ totalCost)).length : ℚ) / costs.length * 100) 2)

def createCandidateSignal (candidates : List BudgetIntentCandidate) (preferenceId : PreferenceId)
    (marketCurrency : Option String) (candidate : BudgetIntentCandidate) : CandidateSignal :=
  let totalCost := normalizePositiveNumber candidate.totalCost
  let currency := normalizeCurrency rt.toUpperCase candidate.currency
  let experienceScore := createExperienceScore candidate preferenceId
  let experienceTier := classifyExperienceTier candidate experienceScore
  { source := candidate
    totalCost
    currency
    utilityScore := normalizeScore candidate.utilityScore
    experienceScore
    experienceTier
    experienceTierRank := experienceTierRank experienceTier
    marketPositionPercentile :=
      calculateMarketPositionPercentile rt totalCost currency candidates marketCurrency }

def createCandidateSignals (candidates : List BudgetIntentCandidate) (preferenceId : PreferenceId)
    (marketCurrency : Option String) : List CandidateSignal :=
  candidates.map (createCandidateSignal rt candidates preferenceId marketCurrency)

/-! ## 3. Floors -/

def CandidateSignal.withinBudget (signal : CandidateSignal) (totalBudget : Option ℚ)
    (marketCurrency : Option String) : Bool :=
  match signal.totalCost, totalBudget with
  | some totalCost, some totalBudget => totalCost ≤ totalBudget && signal.currency = marketCurrency
  | _, _ => false

/-- The signals of `withinBudgetSignals` and of `resolveHighestAvailableTierRank`. -/
def CandidateSignal.available (signal : CandidateSignal) (totalBudget : Option ℚ)
    (marketCurrency : Option String) : Bool :=
  signal.source.eligibleForPrimaryRanking && signal.withinBudget totalBudget marketCurrency &&
    signal.experienceScore.isSome

def resolveHighestAvailableTierRank (signals : List CandidateSignal) (totalBudget : Option ℚ)
    (marketCurrency : Option String) : ℕ :=
  (((signals.filter (·.available totalBudget marketCurrency)).map
    (·.experienceTierRank)).max?).getD 0

def resolveTargetTierRank (preferenceId : PreferenceId) (highestAvailableTierRank : ℕ)
    (policy : BudgetIntentPolicy) : ℕ :=
  if !policy.experienceTargetRequired then 0
  else
    let preferenceTarget := match preferenceId with
      | .maximumComfort => highestAvailableTierRank
      | .comfort => max (highestAvailableTierRank - 1) 1
      | _ => 0
    min (max policy.minimumBestChoiceTierRank preferenceTarget) 4

/-- `tierFromRank`: the first tier of this rank. -/
def tierFromRank (rank : ℕ) : ExperienceTier :=
  ([ExperienceTier.unknown, .essential, .standard, .premium, .luxury].find?
    fun tier => experienceTierRank tier = rank).getD .unknown

/-- Farther up the market first; among equals the better experience. -/
def compareMarketPosition (first second : CandidateSignal) : Ordering :=
  let position := fun signal : CandidateSignal => signal.marketPositionPercentile.getD (-1)
  let experience := fun signal : CandidateSignal => signal.experienceScore.getD (-1)
  (compare (position second) (position first)).then
    ((compare (experience second) (experience first)).then
      (rt.localeCompare first.source.hotelId second.source.hotelId))

/-- The second half of `resolveMinimumBestChoiceMarketPositionPercentile`. -/
def aspirationalFloor (coherentLuxurySignals : List CandidateSignal) : Option ℚ := do
  let cohortSize := min 3 coherentLuxurySignals.length
  let highestPosition ← coherentLuxurySignals[0]?.bind (·.marketPositionPercentile)
  let cohortFloor := (coherentLuxurySignals[cohortSize - 1]?.bind
    (·.marketPositionPercentile)).getD highestPosition
  return round (min highestPosition (max 85 cohortFloor)) 2

def resolveMinimumBestChoiceMarketPositionPercentile (signals : List CandidateSignal)
    (preferenceId : PreferenceId) (intentLevel : BudgetIntentLevel)
    (targetExperienceFloor : Option ℚ) (targetTierRank : ℕ) : Option ℚ := do
  let targetExperienceFloor ← targetExperienceFloor
  if preferenceId ≠ .maximumComfort ∨ intentLevel ≠ .luxury then none
  else
    aspirationalFloor (sortBy (compareMarketPosition rt) (signals.filter fun signal =>
      signal.source.eligibleForPrimaryRanking &&
        signal.experienceScore.any (targetExperienceFloor ≤ ·) &&
        targetTierRank ≤ signal.experienceTierRank && signal.marketPositionPercentile.isSome))

def createAdjustedScore (signal : CandidateSignal) (policy : BudgetIntentPolicy)
    (targetExperienceFloor : Option ℚ) (targetTierRank : ℕ) : Option ℚ := do
  if !policy.active || policy.experiencePriority ≤ 0 then none
  else
    let utilityScore ← signal.utilityScore
    let experienceScore ← signal.experienceScore
    let blendedScore := experienceScore * policy.experiencePriority +
      utilityScore * (1 - policy.experiencePriority)
    let experienceGap : ℚ := match targetExperienceFloor with
      | none => 0
      | some floor => max (floor - experienceScore) 0
    let tierGap : ℚ := max ((targetTierRank : ℚ) - signal.experienceTierRank) 0
    let coherencePenalty : ℚ := if policy.experienceTargetRequired
      then experienceGap * (15 / 10) + tierGap * 6 else 0
    return round (JsNumber.clamp (blendedScore - coherencePenalty) 0 100) 4

/-! ## 4. The engine -/

/-- `SmartStayBudgetIntentStatusV2`. -/
inductive BudgetIntentStatus
  | unavailable | usable | strongData
deriving DecidableEq, Repr

/-- `SmartStayBudgetIntentCandidateEvaluationV2`. -/
structure CandidateEvaluation where
  hotelId : String
  preferenceId : PreferenceId
  intentAdjustedScore : Option ℚ
  experienceScore : Option ℚ
  experienceTier : ExperienceTier
  experienceTierRank : ℕ
  marketPositionPercentile : Option ℚ
  minimumBestChoiceMarketPositionPercentile : Option ℚ
  meetsAspirationalMarketFloor : Bool
  bestChoiceEligible : Bool
  savingEligible : Bool
  maximumSavingExperienceLoss : ℚ
  minimumSavingTierRank : ℕ
  savingRequiresExperienceParity : Bool
  intentLevel : BudgetIntentLevel
  experienceGapFromBest : Option ℚ
  reasonCodes : List String

/-- `SmartStayBudgetIntentInputV2`; the preference is `none` when it is no text. -/
structure BudgetIntentInput where
  candidates : List BudgetIntentCandidate
  totalBudget : Option JsFloat := none
  nights : Option JsFloat := none
  rooms : Option JsFloat := none
  preferenceId : Option String := none
  marketContext : Option MarketContext := none

/-- `SmartStayBudgetIntentEvaluationV2`. -/
structure BudgetIntentEvaluation where
  status : BudgetIntentStatus
  preferenceId : PreferenceId
  level : BudgetIntentLevel
  totalBudget : Option ℚ
  nights : ℕ
  rooms : ℕ
  budgetPerRoomNight : Option ℚ
  market : BudgetIntentMarket
  policy : BudgetIntentPolicy
  bestAvailableExperienceScore : Option ℚ
  targetExperienceFloor : Option ℚ
  targetExperienceTier : ExperienceTier
  minimumBestChoiceMarketPositionPercentile : Option ℚ
  candidateEvaluations : List CandidateEvaluation
  reasonCodes : List String

def levelText : BudgetIntentLevel → String
  | .constrained => "constrained"
  | .value => "value"
  | .balanced => "balanced"
  | .premium => "premium"
  | .luxury => "luxury"

def tierText : ExperienceTier → String
  | .essential => "essential"
  | .standard => "standard"
  | .premium => "premium"
  | .luxury => "luxury"
  | .unknown => "unknown"

def marketSourceText : Option MarketContextSource → String
  | none => "candidate-fallback"
  | some .unavailable => "unavailable"
  | some .currentSearch => "current-search"
  | some .localMemory => "local-memory"
  | some .localSeed => "local-seed"
  | some .hybrid => "hybrid"

def normalizePreferenceId (value : Option String) (candidates : List BudgetIntentCandidate) :
    PreferenceId :=
  let preferenceIds : List PreferenceId :=
    [.maximumComfort, .comfort, .balanced, .savings, .maximumSavings]
  match value.bind fun value => preferenceIds.find? fun id => id.text = value with
  | some id => id
  | none => (candidates.head?.map (·.utilityPreferenceId)).getD .balanced

def resolveStatus (market : BudgetIntentMarket) (budgetPerRoomNight : Option ℚ) :
    BudgetIntentStatus :=
  if budgetPerRoomNight = none ∨ market.distribution.sampleSize < 3 then .unavailable
  else if 8 ≤ market.distribution.sampleSize ∧ 6 / 10 ≤ market.confidence then .strongData
  else .usable

/-- What the loop over the signals uses of the values computed before it. -/
structure Targets where
  preferenceId : PreferenceId
  level : BudgetIntentLevel
  policy : BudgetIntentPolicy
  totalBudget : Option ℚ
  marketCurrency : Option String
  bestAvailableExperienceScore : Option ℚ
  targetExperienceFloor : Option ℚ
  targetTierRank : ℕ
  minimumBestChoiceMarketPositionPercentile : Option ℚ

namespace Targets

variable (targets : Targets) (signal : CandidateSignal)

def meetsExperienceFloor : Bool :=
  !targets.policy.experienceTargetRequired ||
    signal.experienceScore.any fun score => targets.targetExperienceFloor.any (· ≤ score)

def meetsTierFloor : Bool :=
  !targets.policy.experienceTargetRequired ||
    targets.targetTierRank ≤ signal.experienceTierRank

def baseEligible : Bool :=
  signal.source.eligibleForPrimaryRanking &&
    signal.withinBudget targets.totalBudget targets.marketCurrency && signal.utilityScore.isSome

def meetsAspirationalMarketFloor : Bool :=
  targets.minimumBestChoiceMarketPositionPercentile.all fun floor =>
    signal.marketPositionPercentile.any (floor ≤ ·)

def bestChoiceEligible : Bool :=
  targets.baseEligible signal && targets.meetsExperienceFloor signal &&
    targets.meetsTierFloor signal && targets.meetsAspirationalMarketFloor signal

def minimumSavingTierRank : ℕ :=
  if targets.policy.savingRequiresExperienceParity then targets.targetTierRank else 0

def savingEligible : Bool :=
  targets.baseEligible signal && (!targets.policy.savingRequiresExperienceParity ||
    signal.experienceScore.isSome && targets.minimumSavingTierRank ≤ signal.experienceTierRank)

def marketPositionReason : String :=
  match signal.marketPositionPercentile with
  | none => "luxury-market-position:unavailable"
  | some position =>
    if 90 ≤ position then "luxury-market-position:top-decile"
    else if 75 ≤ position then "luxury-market-position:upper-quartile"
    else "luxury-market-position:main-market"

def reasonCodes : List String :=
  let policy := targets.policy
  JsText.uniqueSorted
    ["budget-intent-level:" ++ levelText targets.level,
      "budget-intent-preference:" ++ targets.preferenceId.text,
      "experience-tier:" ++ tierText signal.experienceTier,
      marketPositionReason signal,
      if policy.active then "budget-intent-policy-active" else "budget-intent-policy-inactive",
      if policy.experienceTargetRequired then "experience-target-required"
      else "experience-target-not-required",
      if targets.meetsExperienceFloor signal then "experience-floor-satisfied"
      else "experience-floor-not-satisfied",
      if targets.meetsTierFloor signal then "experience-tier-floor-satisfied"
      else "experience-tier-floor-not-satisfied",
      if targets.meetsAspirationalMarketFloor signal
      then "luxury-aspirational-market-floor-satisfied"
      else "luxury-aspirational-market-floor-not-satisfied",
      if targets.bestChoiceEligible signal then "experience-target-satisfied"
      else "experience-target-not-satisfied",
      if targets.savingEligible signal then "saving-experience-coherent"
      else "saving-experience-incoherent"]

def candidateEvaluation : CandidateEvaluation where
  hotelId := signal.source.hotelId
  preferenceId := targets.preferenceId
  intentAdjustedScore := createAdjustedScore signal targets.policy targets.targetExperienceFloor
    targets.targetTierRank
  experienceScore := signal.experienceScore
  experienceTier := signal.experienceTier
  experienceTierRank := signal.experienceTierRank
  marketPositionPercentile := signal.marketPositionPercentile
  minimumBestChoiceMarketPositionPercentile := targets.minimumBestChoiceMarketPositionPercentile
  meetsAspirationalMarketFloor := targets.meetsAspirationalMarketFloor signal
  bestChoiceEligible := targets.bestChoiceEligible signal
  savingEligible := targets.savingEligible signal
  maximumSavingExperienceLoss := targets.policy.maximumSavingExperienceLoss
  minimumSavingTierRank := targets.minimumSavingTierRank
  savingRequiresExperienceParity := targets.policy.savingRequiresExperienceParity
  intentLevel := targets.level
  experienceGapFromBest := do
    let score ← signal.experienceScore
    let best ← targets.bestAvailableExperienceScore
    return round (best - score) 4
  reasonCodes := targets.reasonCodes signal

end Targets

/-- The values that `evaluateBudgetIntentV2` computes before it looks at single hotels. -/
structure Setting where
  totalBudget : Option ℚ
  nights : ℕ
  rooms : ℕ
  preferenceId : PreferenceId
  budgetPerRoomNight : Option ℚ
  market : BudgetIntentMarket
  status : BudgetIntentStatus
  level : BudgetIntentLevel
  policy : BudgetIntentPolicy
  signals : List CandidateSignal

def createSetting (input : BudgetIntentInput) : Setting :=
  let totalBudget := normalizePositiveNumber input.totalBudget
  let nights := normalizePositiveInteger input.nights 1
  let rooms := normalizePositiveInteger input.rooms 1
  let preferenceId := normalizePreferenceId input.preferenceId input.candidates
  let budgetPerRoomNight := totalBudget.map (· / (nights * rooms : ℚ))
  let market := createMarket rt input.candidates budgetPerRoomNight nights rooms input.marketContext
  let status := resolveStatus market budgetPerRoomNight
  let level := resolveIntentLevel market budgetPerRoomNight
  { totalBudget, nights, rooms, preferenceId, budgetPerRoomNight, market, status, level
    policy := createPolicy preferenceId level (status ≠ .unavailable)
    signals := createCandidateSignals rt input.candidates preferenceId market.currency }

def Setting.withinBudgetSignals (setting : Setting) : List CandidateSignal :=
  setting.signals.filter (·.available setting.totalBudget setting.market.currency)

def Setting.targets (setting : Setting) : Targets :=
  let policy := setting.policy
  let withinBudgetSignals := setting.withinBudgetSignals
  let bestAvailableExperienceScore := (withinBudgetSignals.filterMap (·.experienceScore)).max?
  let targetExperienceFloor := if !policy.experienceTargetRequired then none
    else bestAvailableExperienceScore.map fun best =>
      max (best - policy.maximumBestChoiceExperienceLoss) 0
  let targetTierRank := resolveTargetTierRank setting.preferenceId
    (resolveHighestAvailableTierRank setting.signals setting.totalBudget setting.market.currency)
    policy
  { preferenceId := setting.preferenceId
    level := setting.level
    policy
    totalBudget := setting.totalBudget
    marketCurrency := setting.market.currency
    bestAvailableExperienceScore
    targetExperienceFloor
    targetTierRank
    minimumBestChoiceMarketPositionPercentile :=
      resolveMinimumBestChoiceMarketPositionPercentile rt withinBudgetSignals setting.preferenceId
        setting.level targetExperienceFloor targetTierRank }

def evaluateBudgetIntentV2 (input : BudgetIntentInput) : BudgetIntentEvaluation :=
  let setting := createSetting rt input
  let targets := setting.targets rt
  let policy := setting.policy
  { status := setting.status
    preferenceId := setting.preferenceId
    level := setting.level
    totalBudget := setting.totalBudget.map (round · 2)
    nights := setting.nights
    rooms := setting.rooms
    budgetPerRoomNight := setting.budgetPerRoomNight.map (round · 2)
    market := setting.market
    policy
    bestAvailableExperienceScore := targets.bestAvailableExperienceScore.map (round · 4)
    targetExperienceFloor := targets.targetExperienceFloor.map (round · 4)
    targetExperienceTier := tierFromRank targets.targetTierRank
    minimumBestChoiceMarketPositionPercentile := targets.minimumBestChoiceMarketPositionPercentile
    candidateEvaluations :=
      sortBy (fun first second => rt.localeCompare first.hotelId second.hotelId)
        (setting.signals.map targets.candidateEvaluation)
    reasonCodes := JsText.uniqueSorted
      ["budget-intent-level:" ++ levelText setting.level,
        "budget-intent-preference:" ++ setting.preferenceId.text,
        "budget-intent-market-basis:per-room-night",
        "budget-intent-market-source:" ++ marketSourceText setting.market.source,
        if setting.market.seasonalIndex.isNone then "budget-intent-seasonality-unavailable"
        else "budget-intent-seasonality-available",
        if policy.active then "budget-intent-policy-active" else "budget-intent-policy-inactive",
        if policy.experienceTargetRequired then "budget-intent-experience-target-active"
        else "budget-intent-experience-target-inactive",
        if policy.savingRequiresExperienceParity then "budget-intent-saving-parity-required"
        else "budget-intent-saving-parity-not-required"] }

end SmartStay.Intent
