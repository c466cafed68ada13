import SmartStay.Ranking.Candidates

/-!
# Base order, stability bands, diversity

1. `compareBaseCandidates`, `candidatesEquivalent`.
2. `createStabilityBands`: runs of equivalent candidates, sorted by the previous ranking.
3. `calculateDiversitySelection`: the penalty of a candidate beside those selected.
4. `selectRoleAnchors`, `diversifyCandidates`.
-/

namespace SmartStay.Ranking

open JsSort

/-! ## 1. The base order -/

/-- Ascending amounts with a missing cost as infinity; two missing costs compare equal. -/
def compareCosts (first second : Option ComparableCost) : Ordering :=
  compare (α := WithTop ℚ) (first.map (·.amount)) (second.map (·.amount))

/-- The eligible candidates before the others. -/
def compareEligible (first second : NormalizedCandidate) : Ordering :=
  if first.eligible = second.eligible then .eq else if first.eligible then .lt else .gt

def compareStrings (first second : String) : Ordering :=
  compare (JsText.utf16 first) (JsText.utf16 second)

def compareBaseCandidates (first second : NormalizedCandidate) : Ordering :=
  (compareEligible first second).then <|
  (compare (second.score.getD (-1)) (first.score.getD (-1))).then <|
  (compare second.confidence first.confidence).then <|
  (compare second.coverage first.coverage).then <|
  (compare first.riskScore second.riskScore).then <|
  (compareCosts first.cost second.cost).then <|
  compareStrings first.hotelId second.hotelId

def costsEquivalent (first second : Option ComparableCost) (maximumRatio : ℚ) : Bool :=
  match first, second with
  | some first, some second => first.currency = second.currency &&
      |first.amount - second.amount| / max (max first.amount second.amount) 1 ≤ maximumRatio
  | _, _ => true

def candidatesEquivalent (o : ResolvedOptions) (anchor candidate : NormalizedCandidate) : Bool :=
  anchor.eligible && candidate.eligible &&
  match anchor.score, candidate.score with
  | some anchorScore, some candidateScore =>
    |anchorScore - candidateScore| ≤ o.scoreEquivalenceTolerance &&
    |anchor.confidence - candidate.confidence| ≤ o.confidenceEquivalenceTolerance &&
    |anchor.coverage - candidate.coverage| ≤ o.coverageEquivalenceTolerance &&
    |anchor.riskScore - candidate.riskScore| ≤ o.riskEquivalenceTolerance &&
    costsEquivalent anchor.cost candidate.cost o.priceEquivalenceRatio
  | _, _ => false

/-! ## 2. Stability bands -/

/-- `SmartStayRankingStabilityBandV2`. -/
structure StabilityBand where
  id : String
  anchorHotelId : String
  memberHotelIds : List String
  minimumScore : ℚ
  maximumScore : ℚ
  previousOrderApplied : Bool

structure StableCandidate extends NormalizedCandidate where
  baseRank : Nat
  stableRank : Nat
  stabilityBandId : String

/-- The loop that fills `grouped`, in the group of `anchor` that holds `current` so far. -/
def groupFrom (o : ResolvedOptions) (anchor : NormalizedCandidate)
    (current : List NormalizedCandidate) :
    List NormalizedCandidate → List (List NormalizedCandidate)
  | [] => [current]
  | candidate :: rest =>
    if candidatesEquivalent o anchor candidate then
      groupFrom o anchor (current ++ [candidate]) rest
    else current :: groupFrom o candidate [candidate] rest

/-- `grouped`. -/
def groupEquivalent (o : ResolvedOptions) :
    List NormalizedCandidate → List (List NormalizedCandidate)
  | [] => []
  | candidate :: rest => groupFrom o candidate [candidate] rest

/-- `previousOrder.get(hotelId)`; the ids of a previous ranking are distinct. -/
def previousIndex (previous : List String) (hotelId : String) : Option Nat :=
  previous.idxOf? hotelId

/-- The comparator of `orderedMembers`. -/
def compareMembers (previous : List String) (members : List NormalizedCandidate)
    (first second : NormalizedCandidate) : Ordering :=
  match previousIndex previous first.hotelId, previousIndex previous second.hotelId with
  | some firstPrevious, some secondPrevious => compare firstPrevious secondPrevious
  | some _, none => .lt
  | none, some _ => .gt
  | none, none => compare ((members.map (·.hotelId)).idxOf first.hotelId)
      ((members.map (·.hotelId)).idxOf second.hotelId)

def orderMembers (previous : List String) (members : List NormalizedCandidate) :
    List NormalizedCandidate :=
  sortBy (compareMembers previous members) members

def bandId (members : List NormalizedCandidate) : String :=
  "stability:" ++ "|".intercalate (JsText.uniqueSorted (members.map (·.hotelId)))

def createBand (previous : List String) (members : List NormalizedCandidate) : StabilityBand :=
  let scores := members.map fun member => member.score.getD 0
  { id := bandId members
    anchorHotelId := ((members.head?).map (·.hotelId)).getD ""
    memberHotelIds := (orderMembers previous members).map (·.hotelId)
    minimumScore := Contract.round (scores.min?.getD 0) 4
    maximumScore := Contract.round (scores.max?.getD 0) 4
    previousOrderApplied :=
      1 < (members.filter fun member => (previousIndex previous member.hotelId).isSome).length }

/-- The stable candidates: the members of the bands in order, numbered from 1. -/
def createStableCandidates (o : ResolvedOptions) (baseEligible : List NormalizedCandidate)
    (previous : List String) : List StableCandidate :=
  let members := (groupEquivalent o baseEligible).flatMap fun members =>
    (orderMembers previous members).map fun member => (member, bandId members)
  members.mapIdx fun index member =>
    { member.1 with
      baseRank := (baseEligible.map (·.hotelId)).idxOf member.1.hotelId + 1
      stableRank := index + 1
      stabilityBandId := member.2 }

def createStabilityBands (o : ResolvedOptions) (baseEligible : List NormalizedCandidate)
    (previous : List String) : List StabilityBand × List StableCandidate :=
  ((groupEquivalent o baseEligible).map (createBand previous),
    createStableCandidates o baseEligible previous)

/-! ## 3. Diversity -/

/-- `SmartStayRankingDiversityDimensionV2`. -/
inductive DiversityDimension
  | category | unitType | provider | priceBand | distanceBand
deriving DecidableEq, Repr

def DiversityDimension.text : DiversityDimension → String
  | .category => "category"
  | .unitType => "unit-type"
  | .provider => "provider"
  | .priceBand => "price-band"
  | .distanceBand => "distance-band"

/-- `uniqueSorted` on diversity dimensions. -/
def uniqueSortedDimensions (dimensions : List DiversityDimension) : List DiversityDimension :=
  dimensions.dedup.insertionSort fun first second => JsText.Le first.text second.text

structure DiversitySelection where
  candidate : StableCandidate
  penalty : ℚ
  dimensionCodes : List DiversityDimension
  nearDuplicateFallback : Bool

def getPriceBand (pf : Platform) (ratio : ℚ) (candidate : NormalizedCandidate) : Option String :=
  candidate.cost.map fun cost =>
    let logarithmicBase := pf.log (1 + ratio)
    cost.currency ++ ":" ++
      if 0 < logarithmicBase then toString ⌊pf.log cost.amount / logarithmicBase⌋
      else toString (JsNumber.round cost.amount)

def getDistanceBand (bandKm : ℚ) (candidate : NormalizedCandidate) : Option String :=
  candidate.distanceKm.map fun distanceKm => toString ⌊distanceKm / bandKm⌋

/-- `countSelectedBy`: the selected with the value of the selector, none for no value. -/
def countSelectedBy {κ : Type} [DecidableEq κ] (selected : List NormalizedCandidate)
    (selector : NormalizedCandidate → Option κ) (value : Option κ) : Nat :=
  if value.isNone then 0 else (selected.filter fun entry => selector entry = value).length

/-- What a dimension contributes: a penalty when a selected candidate has the same value, its
    code when the candidate has a new one and `comparable` holds. -/
structure DimensionEffect where
  penalty : ℚ
  dimensions : List DiversityDimension

def dimensionEffect (dimension : DiversityDimension) (weight : ℚ) (known comparable : Bool)
    (sameCount : Nat) : DimensionEffect :=
  if known && 0 < sameCount then ⟨weight, []⟩
  else if known && comparable then ⟨0, [dimension]⟩
  else ⟨0, []⟩

/-- `nearDuplicateCounts.get(key) ?? 0`: the selected with this key. -/
def nearDuplicateCount (selected : List NormalizedCandidate) (key : Option String) : Nat :=
  countSelectedBy selected (·.nearDuplicateKey) key

/-- `nearDuplicateKey?.startsWith("property:") === true`. -/
def isPropertyDuplicate (candidate : NormalizedCandidate) : Bool :=
  candidate.nearDuplicateKey.any ("property:").isPrefixOf

/-- The penalty, the new dimensions and the flag of `calculateDiversitySelection`. -/
structure DiversityScore where
  penalty : ℚ
  dimensionCodes : List DiversityDimension
  nearDuplicateFallback : Bool

def diversityScore (pf : Platform) (o : ResolvedOptions) (candidate : NormalizedCandidate)
    (selected : List NormalizedCandidate) (allowNearDuplicateFallback : Bool) :
    Option DiversityScore :=
  let exceedsNearDuplicateLimit := candidate.nearDuplicateKey.isSome &&
    o.maximumVisiblePerNearDuplicateGroup ≤ nearDuplicateCount selected candidate.nearDuplicateKey
  if exceedsNearDuplicateLimit && (isPropertyDuplicate candidate || !allowNearDuplicateFallback)
  then none
  else
    let sameCategoryCount := countSelectedBy selected (some ·.category) (some candidate.category)
    let sameUnitTypeCount := countSelectedBy selected (some ·.unitType) (some candidate.unitType)
    let sameProviderCount := countSelectedBy selected (·.provider) candidate.provider
    let priceBand := getPriceBand pf o.priceBandRatio
    let samePriceBandCount := countSelectedBy selected priceBand (priceBand candidate)
    let distanceBand := getDistanceBand o.distanceBandKm
    let sameDistanceBandCount := countSelectedBy selected distanceBand (distanceBand candidate)
    let effects :=
      [dimensionEffect .category 1 true (0 < selected.length) sameCategoryCount,
        dimensionEffect .unitType 1 true (0 < selected.length) sameUnitTypeCount,
        dimensionEffect .provider (3 / 4) candidate.provider.isSome
          (selected.any (·.provider.isSome)) sameProviderCount,
        dimensionEffect .priceBand (3 / 4) (priceBand candidate).isSome
          (selected.any fun entry => (priceBand entry).isSome) samePriceBandCount,
        dimensionEffect .distanceBand (1 / 2) (distanceBand candidate).isSome
          (selected.any fun entry => (distanceBand entry).isSome) sameDistanceBandCount]
    let rawPenalty := (effects.map (·.penalty)).sum +
      (if o.maximumSameCategoryVisible ≤ sameCategoryCount then 3 else 0) +
      (if o.maximumSameUnitTypeVisible ≤ sameUnitTypeCount then 3 else 0) +
      (if candidate.provider.isSome && o.maximumSameProviderVisible ≤ sameProviderCount then 5 / 2
        else 0) +
      (if exceedsNearDuplicateLimit then 20 else 0)
    some ⟨Contract.round (rawPenalty * o.diversityPenaltyScale) 4,
      uniqueSortedDimensions (effects.flatMap (·.dimensions)), exceedsNearDuplicateLimit⟩

def calculateDiversitySelection (pf : Platform) (o : ResolvedOptions)
    (selected : List StableCandidate) (allowNearDuplicateFallback : Bool)
    (candidate : StableCandidate) : Option DiversitySelection :=
  (diversityScore pf o candidate.toNormalizedCandidate
    (selected.map (·.toNormalizedCandidate)) allowNearDuplicateFallback).map fun score =>
      ⟨candidate, score.penalty, score.dimensionCodes, score.nearDuplicateFallback⟩

/-! ## 4. The diversified ranking -/

/-- The loop over `PRIMARY_ROLE_ORDER`, with the anchors selected so far. -/
def anchorsFrom (candidates : List StableCandidate) :
    List RecommendationRole → List StableCandidate → List StableCandidate
  | [], selected => selected
  | role :: rest, selected =>
    let usedNearDuplicateKeys := selected.filterMap (·.nearDuplicateKey)
    match candidates.find? fun entry => entry.roleAnchor &&
        entry.source.recommendation.role = role &&
        (entry.nearDuplicateKey.isNone ||
          entry.nearDuplicateKey.all (!usedNearDuplicateKeys.contains ·)) with
    | none => anchorsFrom candidates rest selected
    | some candidate => anchorsFrom candidates rest (selected ++ [candidate])

def selectRoleAnchors (o : ResolvedOptions) (candidates : List StableCandidate) :
    List StableCandidate :=
  if !o.protectPrimaryRecommendationRoles then []
  else anchorsFrom candidates primaryRoleOrder []

/-- The comparator of the selections: lowest penalty, highest score, best stable rank. -/
def compareSelections (first second : DiversitySelection) : Ordering :=
  (compare first.penalty second.penalty).then <|
  (compare (second.candidate.score.getD (-1)) (first.candidate.score.getD (-1))).then <|
  (compare first.candidate.stableRank second.candidate.stableRank).then <|
  compareStrings first.candidate.hotelId second.candidate.hotelId

/-- `selectableRemaining`: without properties that are shown often enough. -/
def selectableRemaining (o : ResolvedOptions) (selected remaining : List StableCandidate) :
    List StableCandidate :=
  remaining.filter fun candidate => !isPropertyDuplicate candidate.toNormalizedCandidate ||
    nearDuplicateCount (selected.map (·.toNormalizedCandidate)) candidate.nearDuplicateKey <
      o.maximumVisiblePerNearDuplicateGroup

/-- `qualityWindow`: the candidates within the score sacrifice of the best. -/
def qualityWindow (o : ResolvedOptions) (candidates : List StableCandidate) :
    List StableCandidate :=
  let highestRemainingScore := ((candidates.map fun c => c.score.getD (-1)).max?).getD (-1)
  candidates.filter fun candidate =>
    highestRemainingScore - o.maximumDiversityScoreSacrifice ≤ candidate.score.getD (-1)

/-- `next` of one round. -/
def nextSelection (pf : Platform) (o : ResolvedOptions) (selected remaining : List StableCandidate) :
    Option DiversitySelection :=
  let window := qualityWindow o (selectableRemaining o selected remaining)
  let selections := window.filterMap (calculateDiversitySelection pf o selected false)
  if selections.length = 0 then
    ((sortBy compareSelections
      (window.filterMap (calculateDiversitySelection pf o selected true))).head?).map
        fun next => { next with nearDuplicateFallback := true }
  else (sortBy compareSelections selections).head?

/-- The rounds of the selection; each takes one of the free slots. -/
def selectionRounds (pf : Platform) (o : ResolvedOptions) :
    Nat → List DiversitySelection → List StableCandidate → List DiversitySelection
  | 0, selected, _ => selected
  | slots + 1, selected, remaining =>
    match nextSelection pf o (selected.map (·.candidate)) remaining with
    | none => selected
    | some next => selectionRounds pf o slots (selected ++ [next])
        (remaining.eraseP fun c => c.hotelId = next.candidate.hotelId)

structure Diversified where
  visible : List StableCandidate
  additional : List StableCandidate
  selected : List DiversitySelection

def diversifyCandidates (pf : Platform) (o : ResolvedOptions)
    (stableCandidates : List StableCandidate) : Diversified :=
  let anchors := selectRoleAnchors o stableCandidates
  let remaining := stableCandidates.filter fun c => c.hotelId ∉ anchors.map (·.hotelId)
  let slots := min o.maximumVisibleResults stableCandidates.length - anchors.length
  let selected := selectionRounds pf o slots (anchors.map fun c => ⟨c, 0, [], false⟩) remaining
  let visible := (selected.map (·.candidate)).take o.maximumVisibleResults
  { visible
    additional := stableCandidates.filter fun c => c.hotelId ∉ visible.map (·.hotelId)
    selected }

end SmartStay.Ranking
