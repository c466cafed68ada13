import SmartStay.Ranking.Ordering

/-!
# The ranking evaluation

1. `createNearDuplicateGroups`.
2. The evaluation of a candidate.
3. `evaluateRankingStabilityDiversityV2`.
-/

namespace SmartStay.Ranking

open JsSort

/-! ## 1. Near duplicates -/

/-- `SmartStayRankingNearDuplicateGroupV2`. -/
structure NearDuplicateGroup where
  id : String
  identityKey : String
  primaryHotelId : String
  memberHotelIds : List String
  suppressedHotelIds : List String

/-- The group of the candidates with one key. -/
def nearDuplicateGroup (visibleHotelIds : List String) (identityKey : String)
    (members : List StableCandidate) : NearDuplicateGroup :=
  let ordered := sortBy (fun first second : StableCandidate =>
    (compare first.stableRank second.stableRank).then
      (compareStrings first.hotelId second.hotelId)) members
  let visibleMembers := ordered.filter fun member => visibleHotelIds.contains member.hotelId
  { id := "duplicate:" ++ identityKey
    identityKey
    primaryHotelId := (((visibleMembers.head?).or ordered.head?).map (·.hotelId)).getD ""
    memberHotelIds := ordered.map (·.hotelId)
    suppressedHotelIds := (ordered.filter fun member =>
      !visibleHotelIds.contains member.hotelId).map (·.hotelId) }

def createNearDuplicateGroups (stableCandidates : List StableCandidate)
    (visibleHotelIds : List String) : List NearDuplicateGroup :=
  let members := fun key => stableCandidates.filter fun c => c.nearDuplicateKey = some key
  let keys := ((stableCandidates.filterMap (·.nearDuplicateKey)).dedup).filter fun key =>
    1 < (members key).length
  (keys.insertionSort JsText.Le).map fun key =>
    nearDuplicateGroup visibleHotelIds key (members key)

/-! ## 2. Candidates -/

/-- `SmartStayRankBand`. -/
inductive RankBand
  | top | strong | acceptable | weak | excluded
deriving DecidableEq, Repr

def getRankBand (eligible : Bool) (visibleRank : Option Nat) (score : Option ℚ) : RankBand :=
  if !eligible then .excluded
  else
    match visibleRank with
    | some rank => if rank ≤ 3 then .top else .strong
    | none => if 65 ≤ score.getD 0 then .acceptable else .weak

/-- `SmartStayRankingCandidateEvaluationV2`. -/
structure CandidateEvaluation where
  hotelId : String
  eligible : Bool
  baseScore : Option ℚ
  baseRank : Option Nat
  stableRank : Option Nat
  diversifiedRank : Option Nat
  visibleRank : Option Nat
  visible : Bool
  rankBand : RankBand
  stabilityBandId : Option String
  nearDuplicateGroupId : Option String
  roleAnchor : Bool
  diversityPenalty : ℚ
  suppressedByHotelId : Option String
  deterministicKey : String
  diversityDimensionCodes : List DiversityDimension
  reasonCodes : List String
  evidenceIds : List String

/-- The rank of an id in a ranking, from 1. -/
def rankIn (ranking : List String) (hotelId : String) : Option Nat :=
  (ranking.idxOf? hotelId).map (· + 1)

/-- What the evaluations of all candidates read. -/
structure RankingParts where
  bands : List StabilityBand
  stableCandidates : List StableCandidate
  selected : List DiversitySelection
  visibleHotelIds : List String
  diversifiedRankingHotelIds : List String
  nearDuplicateGroups : List NearDuplicateGroup

def evaluateCandidate (parts : RankingParts) (candidate : NormalizedCandidate) :
    CandidateEvaluation :=
  let stable := parts.stableCandidates.find? fun c => c.hotelId = candidate.hotelId
  let visibleRank := rankIn parts.visibleHotelIds candidate.hotelId
  let metadata := parts.selected.find? fun s => s.candidate.hotelId = candidate.hotelId
  let duplicateGroup := parts.nearDuplicateGroups.find? fun g =>
    g.memberHotelIds.contains candidate.hotelId
  let suppressedByHotelId := (duplicateGroup.filter fun _ =>
    !parts.visibleHotelIds.contains candidate.hotelId).map (·.primaryHotelId)
  let inEquivalenceBand := stable.any fun c =>
    1 < ((parts.bands.find? fun band => band.id = c.stabilityBandId).map
      (·.memberHotelIds.length)).getD 0
  let reasonCodes := candidate.exclusionReasonCodes ++
    [if candidate.eligible then "ranking-candidate-eligible" else "ranking-candidate-excluded"] ++
    (if inEquivalenceBand then ["ranking-equivalence-band"] else []) ++
    (if metadata.any fun m => 0 < m.dimensionCodes.length then
      ["ranking-diversity-contribution"] else []) ++
    (if metadata.any (·.nearDuplicateFallback) then ["ranking-near-duplicate-fallback"] else []) ++
    (if candidate.roleAnchor && visibleRank.isSome then ["ranking-primary-role-protected"]
      else []) ++
    (if suppressedByHotelId.any (· ≠ "") then ["ranking-near-duplicate-suppressed"] else []) ++
    (if visibleRank.isSome then ["ranking-visible"]
      else if candidate.eligible then ["ranking-additional-result"] else [])
  { hotelId := candidate.hotelId
    eligible := candidate.eligible
    baseScore := candidate.score.map fun score => Contract.round score 4
    baseRank := stable.map (·.baseRank)
    stableRank := stable.map (·.stableRank)
    diversifiedRank := rankIn parts.diversifiedRankingHotelIds candidate.hotelId
    visibleRank
    visible := visibleRank.isSome
    rankBand := getRankBand candidate.eligible visibleRank candidate.score
    stabilityBandId := stable.map (·.stabilityBandId)
    nearDuplicateGroupId := duplicateGroup.map (·.id)
    roleAnchor := candidate.roleAnchor
    diversityPenalty := (metadata.map (·.penalty)).getD 0
    suppressedByHotelId
    deterministicKey := "::".intercalate
      ["ranking-v2", (stable.map (·.stabilityBandId)).getD "excluded", candidate.hotelId]
    diversityDimensionCodes := (metadata.map (·.dimensionCodes)).getD []
    reasonCodes := JsText.uniqueSorted reasonCodes
    evidenceIds := candidate.evidenceIds }

/-- Evaluations by diversified rank, a missing rank last, then by id. -/
def compareEvaluations (first second : CandidateEvaluation) : Ordering :=
  (match first.diversifiedRank, second.diversifiedRank with
    | some first, some second => compare first second
    | some _, none => .lt
    | none, some _ => .gt
    | none, none => .eq).then (compareStrings first.hotelId second.hotelId)

/-! ## 3. The ranking -/

/-- `SmartStayRankingStabilityDiversityStatusV2`. -/
inductive RankingStatus
  | unavailable | usable | strongData
deriving DecidableEq, Repr

/-- `SmartStayRankingStabilityDiversityEvaluationV2`. -/
structure RankingEvaluation where
  status : RankingStatus
  baseRankingHotelIds : List String
  stableRankingHotelIds : List String
  diversifiedRankingHotelIds : List String
  visibleHotelIds : List String
  additionalHotelIds : List String
  excludedHotelIds : List String
  stabilityBands : List StabilityBand
  nearDuplicateGroups : List NearDuplicateGroup
  evaluations : List CandidateEvaluation
  stabilityApplied : Bool
  diversityApplied : Bool
  reasonCodes : List String

/-- The evaluation of normalized candidates in base order. -/
def createRanking (pf : Platform) (o : ResolvedOptions) (normalized : List NormalizedCandidate)
    (previous : List String) : RankingEvaluation :=
  let eligible := normalized.filter (·.eligible)
  let excluded := normalized.filter (!·.eligible)
  let (bands, stableCandidates) := createStabilityBands o eligible previous
  let diversified := diversifyCandidates pf o stableCandidates
  let visibleHotelIds := diversified.visible.map (·.hotelId)
  let excludedHotelIds := excluded.map (·.hotelId)
  let diversifiedRankingHotelIds :=
    (diversified.visible ++ diversified.additional).map (·.hotelId) ++ excludedHotelIds
  let nearDuplicateGroups := createNearDuplicateGroups stableCandidates visibleHotelIds
  let parts : RankingParts :=
    { bands
      stableCandidates
      selected := diversified.selected
      visibleHotelIds
      diversifiedRankingHotelIds
      nearDuplicateGroups }
  let baseRankingHotelIds := normalized.map (·.hotelId)
  let stableRankingHotelIds := stableCandidates.map (·.hotelId) ++ excludedHotelIds
  let stabilityApplied :=
    bands.any (·.previousOrderApplied) && stableRankingHotelIds ≠ baseRankingHotelIds
  let stableVisibleBaseline :=
    (stableCandidates.take o.maximumVisibleResults).map (·.hotelId)
  let diversityApplied := decide (visibleHotelIds ≠ stableVisibleBaseline) ||
    nearDuplicateGroups.any fun g => 0 < g.suppressedHotelIds.length
  let strongData := 0 < diversified.visible.length && diversified.visible.all fun candidate =>
    o.minimumStrongConfidence ≤ candidate.confidence && o.minimumStrongCoverage ≤ candidate.coverage
  { status :=
      if eligible.length = 0 then .unavailable else if strongData then .strongData else .usable
    baseRankingHotelIds
    stableRankingHotelIds
    diversifiedRankingHotelIds
    visibleHotelIds
    additionalHotelIds := diversified.additional.map (·.hotelId)
    excludedHotelIds
    stabilityBands := bands
    nearDuplicateGroups
    evaluations := sortBy compareEvaluations (normalized.map (evaluateCandidate parts))
    stabilityApplied
    diversityApplied
    reasonCodes := JsText.uniqueSorted (
      [if eligible.length = 0 then "ranking-no-eligible-candidates"
        else "ranking-deterministic-order"] ++
      (if bands.any fun band => 1 < band.memberHotelIds.length then
        ["ranking-equivalence-bands-created"] else []) ++
      (if stabilityApplied then ["ranking-previous-order-preserved-within-equivalence"] else []) ++
      (if diversityApplied then ["ranking-diversity-applied"] else []) ++
      (if 0 < nearDuplicateGroups.length then ["ranking-near-duplicates-grouped"] else []) ++
      (if diversified.visible.any (·.roleAnchor) then
        ["ranking-primary-recommendation-roles-protected"] else [])) }

def evaluateRankingStabilityDiversityV2 (pf : Platform) (input : RankingInput)
    (options : RankingOptions) : Except String RankingEvaluation := do
  validateInput input
  return createRanking pf (resolveOptions options)
    (sortBy compareBaseCandidates (input.candidates.map (normalizeCandidate pf)))
    (input.previousRankingHotelIds.map JsText.trim)

end SmartStay.Ranking
