import SmartStay.Integrity.Solutions
import SmartStay.Orchestrator.Shadow

/-!
# Decisions and their safety signals

`engine-v3/contract/stayOptiDecisionV3.ts` as far as prices go, and the signals that
`engine-v3/orchestrator/independentDecisionEngineV3.ts` derives of a decision.

1. `StayOptiDecision`, `validateStayOptiDecision`.
2. `createIndependentV3ComparableDecision`.
3. `derivePriceIntegrity`, `deriveBoundPublicRateConsistency`.
4. `deriveIndependentShadowSafetySignals`.
-/

namespace SmartStay.Orchestrator

open Contract Promotion Integrity

/-! ## 1. Decisions -/

inductive DecisionMode
  | compatibilityV2 | nativeV3
deriving DecidableEq, Repr

inductive TemporalOptimizationStatus
  | notEvaluated | noValuableSplit | splitRecommended
deriving DecidableEq, Repr

/-- `StayOptiAbstentionCodeV3`. -/
inductive AbstentionCode
  | noFeasibleSolution | insufficientEvidence | noGoodOption | indistinguishableOptions
  | unstableChoice
deriving DecidableEq, Repr

/-- A candidate of the robustness evaluation, with whether its status is `usable`. -/
structure RobustnessCandidate where
  hotelId : String
  usable : Bool

/-- What is read of `StayOptiDecisionRobustnessV3` here. -/
structure DecisionRobustness where
  abstains : Bool
  abstentionCode : Option AbstentionCode
  policyPreferredHotelId : Option String
  robustChoiceHotelId : Option String
  candidates : List RobustnessCandidate
  reasonCodes : List String

/-- `StayOptiDecisionV3`. The sections that carry no price are `sections`. -/
structure StayOptiDecision (Sections : Type) where
  versions : List String
  configHash : String
  inputFingerprint : String
  decisionFingerprint : String
  mode : DecisionMode
  status : DecisionStatus
  analyzedHotelCount : ℤ
  offerSnapshots : List StayOfferIntegritySnapshot
  integrityCoverage : CoverageReport
  solutions : List StaySolution
  candidateSolutionIds : List String
  recommendedSolutionId : Option String
  bestAlternativeSolutionId : Option String
  temporalStatus : TemporalOptimizationStatus
  splitSolutionId : Option String
  robustness : DecisionRobustness
  geometryReasonCodes : List String
  contextualReasonCodes : List String
  sections : Sections

variable {Sections : Type}

/-- The code that looks at a whole decision but at no price: the checks of the other sections
    and the two firewalls. -/
structure DecisionChecks (Sections : Type) where
  sectionsValid : StayOptiDecision Sections → Bool
  commercialFirewallPassed : StayOptiDecision Sections → Bool
  piiFree : StayOptiDecision Sections → Bool

/-- The schema, engine, policy, evidence and adapter versions. -/
def decisionVersions : List String :=
  ["3.0.0-decision.10", engineVersionV3, policyVersionV3, "3.0.0-evidence.10",
    "3.0.0-v2-adapter.10"]

/-- The snapshots are valid, their ids unique and the report is that of the snapshots. -/
def validIntegrity (rt : Runtime) (decision : StayOptiDecision Sections) : Bool :=
  decision.offerSnapshots.all (validateStayOfferIntegritySnapshot rt) &&
    decide (decision.offerSnapshots.map (·.snapshotId)).Nodup &&
    createStayIntegrityCoverageReport decision.analyzedHotelCount decision.offerSnapshots
      decision.integrityCoverage.publicRatesConsistency = decision.integrityCoverage &&
    (decision.mode ≠ .compatibilityV2 ||
      decision.integrityCoverage.publicRatesConsistency = .unverified &&
        decision.integrityCoverage.publicV3Promotion = .blocked &&
        decision.integrityCoverage.publicSplitPromotion = .blocked)

/-- Every segment of a solution refers to a snapshot of its hotel and its offer. -/
def hasSnapshot (decision : StayOptiDecision Sections) (segment : SolutionSegment) : Bool :=
  segment.offerId.any fun offerId => decision.offerSnapshots.any fun snapshot =>
    snapshot.hotelId = segment.hotelId && snapshot.offerId = offerId

/-- The solutions are valid, their ids unique, and what refers to one finds it. -/
def validSolutions (decision : StayOptiDecision Sections) : Bool :=
  let solutionIds := decision.solutions.map (·.solutionId)
  decision.solutions.all validateStaySolution && decide solutionIds.Nodup &&
    (decision.solutions.all fun solution => solution.segments.all (hasSnapshot decision)) &&
    decision.candidateSolutionIds.all solutionIds.contains &&
    (if decision.status = .recommended then
      decision.recommendedSolutionId.any solutionIds.contains
      else decision.recommendedSolutionId.isNone) &&
    (decision.bestAlternativeSolutionId.all fun id =>
      solutionIds.contains id && decision.recommendedSolutionId ≠ some id) &&
    (decision.temporalStatus ≠ .splitRecommended || decision.splitSolutionId.any fun id =>
      (decision.solutions.reverse.find? (·.solutionId = id)).any (·.kind = .split))

/-- `validateStayOptiDecisionV3(decision).valid`. -/
def validateStayOptiDecision (rt : Runtime) (checks : DecisionChecks Sections)
    (decision : StayOptiDecision Sections) : Bool :=
  decision.versions = decisionVersions && isStableHash decision.configHash &&
    isStableHash decision.inputFingerprint && isStableHash decision.decisionFingerprint &&
    validIntegrity rt decision && validSolutions decision &&
    checks.sectionsValid decision && checks.commercialFirewallPassed decision

/-! ## 2. The comparable decision -/

def findSingleSolutionForHotel (decision : StayOptiDecision Sections) (hotelId : String) :
    Option StaySolution :=
  match decision.solutions.filter fun solution => solution.kind = .single &&
      solution.segments.length = 1 && solution.segments.head?.any (·.hotelId = hotelId) with
  | [solution] => some solution
  | _ => none

def resolveIndependentRole (decision : StayOptiDecision Sections) (selectedHotelId : String)
    (v2HotelId : Option String) : DecisionRole :=
  match v2HotelId with
  | none => .bestChoice
  | some v2HotelId =>
    if selectedHotelId = v2HotelId then .bestChoice
    else
      match (findSingleSolutionForHotel decision selectedHotelId).map (·.totalCost),
          (findSingleSolutionForHotel decision v2HotelId).map (·.totalCost) with
      | some selected, some v2 =>
        match selected.amount, v2.amount with
        | some selectedAmount, some v2Amount =>
          if selected.currency.isNone || selected.currency ≠ v2.currency then .bestChoice
          else if selectedAmount < v2Amount then .bestSensibleSaving
          else if v2Amount < selectedAmount then .worthwhileComfortUpgrade
          else .bestChoice
        | _, _ => .bestChoice
      | _, _ => .bestChoice

/-- The status, the token, the role and the reason codes of a V3 decision, with its
    fingerprint. -/
def createV3Comparable (rt : Runtime) (decision : StayOptiDecision Sections)
    (status : DecisionStatus) (selectedSolutionToken : Option String) (role : Option DecisionRole)
    (reasonCodes : List String) : ComparableDecision :=
  createComparableDecision rt
    { engine := .v3
      engineVersion := engineVersionV3
      policyVersion := policyVersionV3
      decisionFingerprint := ""
      status
      selectedSolutionToken
      role
      reasonCodes := uniqueSorted reasonCodes }
    "stayopti-v3-independent-comparable-decision" (some decision.decisionFingerprint)

/-- `createIndependentV3ComparableDecisionV3` where the policy recommends. -/
def recommendedComparable (rt : Runtime) (decision : StayOptiDecision Sections)
    (v2HotelId : Option String) : Except String ComparableDecision :=
  match decision.robustness.policyPreferredHotelId with
  | none => .error "Independent V3 recommendation lacks a consistent robust hotel selection."
  | some selectedHotelId =>
    if decision.robustness.robustChoiceHotelId ≠ some selectedHotelId then
      .error "Independent V3 recommendation lacks a consistent robust hotel selection."
    else if (findSingleSolutionForHotel decision selectedHotelId).all
          (fun solution => solution.feasibility ≠ .feasible) ||
        (decision.robustness.candidates.find? (·.hotelId = selectedHotelId)).all
          (fun candidate => !candidate.usable) then
      .error "Independent V3 recommendation is not backed by one feasible eligible single-stay solution."
    else do
      let token ← createHotelSelectionToken rt selectedHotelId
      return createV3Comparable rt decision .recommended (some token)
        (some (resolveIndependentRole decision selectedHotelId v2HotelId))
        (["independent:recommended", "independent:single-stay-only"] ++
          decision.robustness.reasonCodes ++ decision.geometryReasonCodes ++
          decision.contextualReasonCodes)

def createIndependentV3ComparableDecision (rt : Runtime) (decision : StayOptiDecision Sections)
    (v2HotelId : Option String) : Except String ComparableDecision :=
  if decision.temporalStatus = .splitRecommended || decision.splitSolutionId.isSome then
    .error "Independent V3 shadow comparison blocks SPLIT until the dedicated temporal gate is complete."
  else if decision.robustness.abstains then
    let status : DecisionStatus :=
      if decision.robustness.abstentionCode = some .noFeasibleSolution then .noFeasibleSolution
      else .abstained
    .ok (createV3Comparable rt decision status none none
      (["independent:" ++ status.text, "independent:single-stay-only"] ++
        decision.robustness.reasonCodes))
  else recommendedComparable rt decision v2HotelId

/-! ## 3. Prices -/

/-- The part of `derivePriceIntegrity` about the snapshot of the selected segment. -/
def snapshotIntegrity (snapshot : StayOfferIntegritySnapshot) : PriceIntegrity :=
  if isInvalidIntegrity snapshot then .fail
  else if snapshot.scope.status = .exact && snapshot.cost.integrityStatus = .complete &&
      snapshot.cost.total.state = .known then .pass
  else .unknown

/-- The snapshot that is found for the segment of a solution. -/
def snapshotOf (decision : StayOptiDecision Sections) (solution : StaySolution) :
    Option StayOfferIntegritySnapshot := do
  let segment ← solution.segments.head?
  decision.offerSnapshots.find? fun candidate =>
    candidate.hotelId = segment.hotelId && some candidate.offerId = segment.offerId

def derivePriceIntegrity (decision : StayOptiDecision Sections) (comparable : ComparableDecision) :
    PriceIntegrity :=
  if 0 < decision.integrityCoverage.invalidIntegrityCount then .fail
  else if comparable.status ≠ .recommended then
    if decision.integrityCoverage.offerSnapshotCount = 0 then .unknown else .pass
  else
    match decision.robustness.policyPreferredHotelId.bind (findSingleSolutionForHotel decision) with
    | none => .fail
    | some solution =>
      if solution.feasibility ≠ .feasible then .fail
      else if solution.totalCost.amount.isNone || solution.totalCost.currency.isNone ||
          solution.totalCost.completeness ≠ .reportedComplete then .unknown
      else ((snapshotOf decision solution).map snapshotIntegrity).getD .unknown

/-- `STAYOPTI_PUBLIC_RATE_MAX_DELTA_V3`. -/
def publicRateMaxDelta : ℚ := 2 / 100

/-- `StayOptiBoundPublicRateEvidenceV3` without its fingerprint. -/
structure RateEvidenceCore where
  decisionFingerprint : String
  hotelSelectionToken : String
  currency : String
  ratesTotal : ℚ
  prebookTotal : ℚ
  retrievedPrebookTotal : ℚ

structure RateEvidence extends RateEvidenceCore where
  evidenceFingerprint : String

/-- `StayOptiBoundPublicRateAbstentionEvidenceV3` without its fingerprint. -/
structure AbstentionEvidenceCore where
  decisionFingerprint : String
  comparableDecisionFingerprint : String
  comparableStatus : DecisionStatus

structure AbstentionEvidence extends AbstentionEvidenceCore where
  evidenceFingerprint : String

/-- `StayOptiBoundPublicRateEvidenceInputV3`; a record with other keys has no value here. -/
inductive PublicRateEvidence
  | rates (evidence : RateEvidence)
  | abstention (evidence : AbstentionEvidence)

def createPublicRateEvidenceFingerprint (rt : Runtime) (evidence : RateEvidenceCore) : String :=
  createStableHash rt
    (.obj [("evidenceType", .str "rates-prebook-get-prebook"),
      ("decisionFingerprint", .str evidence.decisionFingerprint),
      ("hotelSelectionToken", .str evidence.hotelSelectionToken),
      ("currency", .str evidence.currency), ("ratesTotal", .num evidence.ratesTotal),
      ("prebookTotal", .num evidence.prebookTotal),
      ("retrievedPrebookTotal", .num evidence.retrievedPrebookTotal)])
    "stayopti-v3-bound-public-rate-evidence"

def createPublicRateAbstentionEvidenceFingerprint (rt : Runtime)
    (evidence : AbstentionEvidenceCore) : String :=
  createStableHash rt
    (.obj [("evidenceType", .str "v3-abstention-no-selected-rate"),
      ("decisionFingerprint", .str evidence.decisionFingerprint),
      ("comparableDecisionFingerprint", .str evidence.comparableDecisionFingerprint),
      ("comparableStatus", .str evidence.comparableStatus.text), ("hotelSelectionToken", .null)])
    "stayopti-v3-bound-public-rate-abstention-evidence"

/-- The evidence belongs to the selected rate and its totals are positive. -/
def boundToSelection (rt : Runtime) (decision : StayOptiDecision Sections)
    (comparable : ComparableDecision) (evidence : RateEvidence) : Bool :=
  evidence.evidenceFingerprint =
      createPublicRateEvidenceFingerprint rt evidence.toRateEvidenceCore &&
    evidence.decisionFingerprint = decision.decisionFingerprint &&
    comparable.status = .recommended &&
    comparable.selectedSolutionToken = some evidence.hotelSelectionToken &&
    (evidence.currency.toList.length = 3 && evidence.currency.toList.all Char.isUpper) &&
    0 < evidence.ratesTotal && 0 < evidence.prebookTotal && 0 < evidence.retrievedPrebookTotal

/-- The three comparisons of the totals. -/
def totalsAgree (amount : ℚ) (evidence : RateEvidence) : Bool :=
  |amount - evidence.ratesTotal| ≤ publicRateMaxDelta &&
    evidence.prebookTotal ≤ evidence.ratesTotal + publicRateMaxDelta &&
    |evidence.retrievedPrebookTotal - evidence.prebookTotal| ≤ publicRateMaxDelta

def deriveBoundPublicRateConsistency (rt : Runtime) (decision : StayOptiDecision Sections)
    (comparable : ComparableDecision) : Option PublicRateEvidence → PublicRateConsistency
  | none => .unverified
  | some (.abstention evidence) =>
    if evidence.evidenceFingerprint =
          createPublicRateAbstentionEvidenceFingerprint rt evidence.toAbstentionEvidenceCore &&
        evidence.decisionFingerprint = decision.decisionFingerprint &&
        evidence.comparableDecisionFingerprint = comparable.decisionFingerprint &&
        evidence.comparableStatus = comparable.status &&
        comparable.selectedSolutionToken.isNone && decision.robustness.abstains &&
        decision.robustness.policyPreferredHotelId.isNone then .notApplicable
    else .failed
  | some (.rates evidence) =>
    if !boundToSelection rt decision comparable evidence then .failed
    else
      match decision.robustness.policyPreferredHotelId.bind
          (findSingleSolutionForHotel decision) with
      | none => .failed
      | some solution =>
        if solution.totalCost.currency = some evidence.currency &&
            solution.totalCost.amount.any (totalsAgree · evidence) then .verified
        else .failed

/-! ## 4. Signals -/

def selectedRecommendationIsSafe (decision : StayOptiDecision Sections)
    (comparable : ComparableDecision) : Bool :=
  if comparable.status ≠ .recommended then
    decision.robustness.abstains && decision.robustness.policyPreferredHotelId.isNone
  else
    !decision.robustness.abstains && decision.robustness.policyPreferredHotelId.any fun hotelId =>
      decision.robustness.robustChoiceHotelId = some hotelId &&
        (findSingleSolutionForHotel decision hotelId).any (fun solution =>
          solution.kind = .single && solution.feasibility = .feasible) &&
        (decision.robustness.candidates.find? (·.hotelId = hotelId)).any (·.usable)

def passFail (passed : Bool) : PassFail := if passed then .pass else .fail

def deriveIndependentShadowSafetySignals (rt : Runtime) (checks : DecisionChecks Sections)
    (decision : StayOptiDecision Sections) (comparable : ComparableDecision)
    (publicRateEvidence : Option PublicRateEvidence) (deterministicReplayMatches : Bool) :
    SafetySignals :=
  let recommendationSafe := validateStayOptiDecision rt checks decision &&
    selectedRecommendationIsSafe decision comparable
  { priceIntegrity := derivePriceIntegrity decision comparable
    publicRateConsistency :=
      deriveBoundPublicRateConsistency rt decision comparable publicRateEvidence
    commercialFirewall := passFail (checks.commercialFirewallPassed decision)
    privacyFirewall := passFail (checks.piiFree decision)
    deterministicReplay := passFail deterministicReplayMatches
    hardConstraints := passFail recommendationSafe
    recommendationSafety := passFail recommendationSafe }

end SmartStay.Orchestrator
