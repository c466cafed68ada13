import SmartStay.Utility.Personal

/-!
# The risk of a candidate

`engine-v3/robustness/decisionRobustnessV3.ts`: what the choice of a candidate risks, and how much
is known of it.

1. `RobustnessOptions`, `resolveOptions`.
2. `RiskSignal`, `createRiskSignals`, `canonicalRiskFloor`.
3. `createCandidateEvaluation`.
4. `choiceRiskScore_within`, `evidenceStrength_within`, `candidateStatus_usable`.

The numbers of an input are finite: the hash of its evaluation refuses others.
-/

namespace SmartStay.Robustness

open Contract JsSort PersonalUtility Integrity

/-! ## 1. Options -/

/-- `StayOptiDecisionRobustnessOptionsV3`. -/
structure RobustnessOptions where
  riskPenaltyMaximum : Option ℚ := none
  uncertaintyWidthMaximum : Option ℚ := none
  scenarioTieTolerance : Option ℚ := none
  nearTieTolerance : Option ℚ := none
  indistinguishableTolerance : Option ℚ := none
  noGoodUtilityThreshold : Option ℚ := none
  minimumEvidenceStrength : Option ℚ := none
  minimumRelaxationGain : Option ℚ := none

structure ResolvedOptions where
  riskPenaltyMaximum : ℚ
  uncertaintyWidthMaximum : ℚ
  scenarioTieTolerance : ℚ
  nearTieTolerance : ℚ
  indistinguishableTolerance : ℚ
  noGoodUtilityThreshold : ℚ
  minimumEvidenceStrength : ℚ
  minimumRelaxationGain : ℚ

def ResolvedOptions.toJson (o : ResolvedOptions) : Json :=
  .obj [("riskPenaltyMaximum", .num o.riskPenaltyMaximum),
    ("uncertaintyWidthMaximum", .num o.uncertaintyWidthMaximum),
    ("scenarioTieTolerance", .num o.scenarioTieTolerance),
    ("nearTieTolerance", .num o.nearTieTolerance),
    ("indistinguishableTolerance", .num o.indistinguishableTolerance),
    ("noGoodUtilityThreshold", .num o.noGoodUtilityThreshold),
    ("minimumEvidenceStrength", .num o.minimumEvidenceStrength),
    ("minimumRelaxationGain", .num o.minimumRelaxationGain)]

/-- `{ ...DEFAULT_OPTIONS, ...options }`. -/
def withDefaults (options : RobustnessOptions) : ResolvedOptions where
  riskPenaltyMaximum := options.riskPenaltyMaximum.getD 14
  uncertaintyWidthMaximum := options.uncertaintyWidthMaximum.getD 12
  scenarioTieTolerance := options.scenarioTieTolerance.getD (75 / 100)
  nearTieTolerance := options.nearTieTolerance.getD (15 / 10)
  indistinguishableTolerance := options.indistinguishableTolerance.getD (5 / 10)
  noGoodUtilityThreshold := options.noGoodUtilityThreshold.getD 45
  minimumEvidenceStrength := options.minimumEvidenceStrength.getD (35 / 100)
  minimumRelaxationGain := options.minimumRelaxationGain.getD 2

/-- `positiveKeys`, with their values. -/
def positiveOptions (o : ResolvedOptions) : List (String × ℚ) :=
  [("riskPenaltyMaximum", o.riskPenaltyMaximum),
    ("uncertaintyWidthMaximum", o.uncertaintyWidthMaximum),
    ("scenarioTieTolerance", o.scenarioTieTolerance), ("nearTieTolerance", o.nearTieTolerance),
    ("indistinguishableTolerance", o.indistinguishableTolerance),
    ("noGoodUtilityThreshold", o.noGoodUtilityThreshold),
    ("minimumRelaxationGain", o.minimumRelaxationGain)]

def resolveOptions (options : RobustnessOptions) : Except String ResolvedOptions :=
  let resolved := withDefaults options
  match (positiveOptions resolved).find? fun option => option.2 < 0 with
  | some option => .error ("Invalid V3-05 robustness option: " ++ option.1 ++ ".")
  | none =>
    if resolved.minimumEvidenceStrength < 0 ∨ 1 < resolved.minimumEvidenceStrength ∨
        resolved.nearTieTolerance < resolved.indistinguishableTolerance then
      .error "Invalid V3-05 evidence or near-tie thresholds."
    else .ok resolved

theorem resolveOptions_ok {options : RobustnessOptions} {resolved : ResolvedOptions}
    (h : resolveOptions options = .ok resolved) :
    0 ≤ resolved.riskPenaltyMaximum ∧ 0 ≤ resolved.uncertaintyWidthMaximum ∧
      0 ≤ resolved.scenarioTieTolerance := by
  unfold resolveOptions at h
  dsimp only at h
  split at h
  · cases h
  · next hnone =>
    obtain ⟨-, heq⟩ := Fallible.errorIf_ok.mp h
    cases heq
    have hall : ∀ option ∈ positiveOptions (withDefaults options), ¬ option.2 < 0 :=
      fun option hoption => by simpa using List.find?_eq_none.mp hnone option hoption
    simp only [positiveOptions, List.forall_mem_cons, not_lt] at hall
    exact ⟨hall.1, hall.2.1, hall.2.2.1⟩

/-! ## 2. Risk signals -/

/-- `StayOptiRiskSignalCodeV3`. -/
inductive RiskSignalCode
  | sourceChoiceRisk | costProvisional | costIncomplete | costConflicting | taxesEstimated
  | taxesUnknown | taxesConflicting | feesUnknown | cancellationConditional
  | cancellationNonRefundable | cancellationUnknown | payNowNonRefundable | bookabilityRecheck
  | bookabilityUnknown | bookabilitySoldOut | offerStale | offerSnapshotMissing
deriving DecidableEq

def RiskSignalCode.text : RiskSignalCode → String
  | .sourceChoiceRisk => "source-choice-risk"
  | .costProvisional => "cost-provisional"
  | .costIncomplete => "cost-incomplete"
  | .costConflicting => "cost-conflicting"
  | .taxesEstimated => "taxes-estimated"
  | .taxesUnknown => "taxes-unknown"
  | .taxesConflicting => "taxes-conflicting"
  | .feesUnknown => "fees-unknown"
  | .cancellationConditional => "cancellation-conditional"
  | .cancellationNonRefundable => "cancellation-non-refundable"
  | .cancellationUnknown => "cancellation-unknown"
  | .payNowNonRefundable => "pay-now-non-refundable"
  | .bookabilityRecheck => "bookability-recheck"
  | .bookabilityUnknown => "bookability-unknown"
  | .bookabilitySoldOut => "bookability-sold-out"
  | .offerStale => "offer-stale"
  | .offerSnapshotMissing => "offer-snapshot-missing"

/-- `StayOptiRiskSignalV3`. -/
structure RiskSignal where
  code : RiskSignalCode
  severity : ℚ
  evidenceIds : List String

def RiskSignal.toJson (s : RiskSignal) : Json :=
  .obj [("code", .str s.code.text), ("severity", .num s.severity),
    ("evidenceIds", .texts s.evidenceIds)]

/-- `StayOptiGeometryCandidateEvaluationV3`, as far as it is read. -/
structure GeometryCandidate where
  hotelId : String
  comparablePeerHotelIds : List String

/-- `EvaluateStayOptiRobustnessCandidateV3`. -/
structure CandidateInput where
  hotelId : String
  solutionId : Option String
  eligible : Bool
  utility : PersonalUtilityEvaluation
  geometry : GeometryCandidate
  offerSnapshot : Option StayOfferIntegritySnapshot
  sourceRiskScore : Option ℚ
  sourceRiskLevel : Option String

def normalizeScore (value : Option ℚ) : Option ℚ := value.map (JsNumber.clamp · 0 100)

/-- `addRiskSignal`. -/
def riskSignal (code : RiskSignalCode) (severity : ℚ) (evidenceIds : List String) : RiskSignal :=
  ⟨code, JsNumber.clamp severity 0 100, uniqueSorted evidenceIds⟩

/-- What a snapshot risks, in the order in which it is noticed. -/
def snapshotSignals (snapshot : StayOfferIntegritySnapshot) : List RiskSignal :=
  let costEvidenceIds := uniqueSorted (snapshot.cost.total.evidenceIds ++
    snapshot.cost.taxes.evidenceIds ++ snapshot.cost.fees.evidenceIds)
  (match snapshot.cost.integrityStatus with
    | .provisional => [riskSignal .costProvisional 35 costEvidenceIds]
    | .incomplete => [riskSignal .costIncomplete 75 costEvidenceIds]
    | .conflicting => [riskSignal .costConflicting 100 costEvidenceIds]
    | .complete => []) ++
  (match snapshot.cost.taxes.state with
    | .estimated => [riskSignal .taxesEstimated 15 snapshot.cost.taxes.evidenceIds]
    | .unknown => [riskSignal .taxesUnknown 35 snapshot.cost.taxes.evidenceIds]
    | .conflicting => [riskSignal .taxesConflicting 80 snapshot.cost.taxes.evidenceIds]
    | _ => []) ++
  (if snapshot.cost.fees.state = .unknown then
    [riskSignal .feesUnknown 20 snapshot.cost.fees.evidenceIds] else []) ++
  (if snapshot.cancellation.status = "conditional" then
    [riskSignal .cancellationConditional 20 []]
  else if snapshot.cancellation.status = "non-refundable" then
    [riskSignal .cancellationNonRefundable 40 []]
  else if snapshot.cancellation.status = "unknown" then
    [riskSignal .cancellationUnknown 30 []] else []) ++
  (if snapshot.cancellation.status = "non-refundable" ∧ snapshot.payment.timing = "pay-now" then
    [riskSignal .payNowNonRefundable 45 []] else []) ++
  (match snapshot.bookability.status with
    | .recheckRequired => [riskSignal .bookabilityRecheck 35 snapshot.bookability.evidenceIds]
    | .unknown => [riskSignal .bookabilityUnknown 55 snapshot.bookability.evidenceIds]
    | .soldOut => [riskSignal .bookabilitySoldOut 100 snapshot.bookability.evidenceIds]
    | .bookable => []) ++
  (if snapshot.bookability.freshness = "stale" then
    [riskSignal .offerStale 35 snapshot.bookability.evidenceIds] else [])

/-- The larger severities first, then by code. -/
def compareSignals (rt : Runtime) : RiskSignal → RiskSignal → Ordering :=
  compareLex (fun first second => compare second.severity first.severity)
    (Contextual.byText rt fun signal => signal.code.text)

def createRiskSignals (rt : Runtime) (candidate : CandidateInput) : List RiskSignal :=
  let source := match normalizeScore candidate.sourceRiskScore with
    | some score => if 0 < score then [riskSignal .sourceChoiceRisk score []] else []
    | none => []
  match candidate.offerSnapshot with
  | none => source ++ [riskSignal .offerSnapshotMissing 55 []]
  | some snapshot => sortBy (compareSignals rt) (source ++ snapshotSignals snapshot)

/-- The first canonical severity with an eighth, about, of each other. -/
def canonicalRiskFloor (signals : List RiskSignal) : ℚ :=
  match (signals.filter fun signal => signal.code ≠ .sourceChoiceRisk).map RiskSignal.severity with
  | [] => 0
  | largest :: remaining =>
    round (JsNumber.clamp (largest + (remaining.map (· * (12 / 100))).sum) 0 100) 4

/-! ## 3. Candidates -/

def costStrength : Integrity.CostIntegrityStatus → ℚ
  | .complete => 1
  | .provisional => 7 / 10
  | .incomplete => 3 / 10
  | .conflicting => 0

def bookabilityStrength (bookability : BookabilityEvidence) : ℚ :=
  match bookability.status with
  | .bookable => if bookability.freshness = "fresh" then 1 else 75 / 100
  | .recheckRequired => 65 / 100
  | .unknown => 35 / 100
  | .soldOut => 0

def snapshotEvidenceStrength : Option StayOfferIntegritySnapshot → ℚ
  | none => 25 / 100
  | some snapshot => round ((costStrength snapshot.cost.integrityStatus +
      bookabilityStrength snapshot.bookability) / 2) 6

inductive CandidateStatus
  | usable | ineligible | incomplete
deriving DecidableEq

def CandidateStatus.text : CandidateStatus → String
  | .usable => "usable"
  | .ineligible => "ineligible"
  | .incomplete => "incomplete"

/-- `StayOptiRobustnessCandidateEvaluationV3`. -/
structure CandidateEvaluation where
  hotelId : String
  solutionId : Option String
  status : CandidateStatus
  utilityScore : Option ℚ
  sourceRiskScore : Option ℚ
  canonicalRiskFloor : ℚ
  choiceRiskScore : ℚ
  choiceRiskLevel : String
  riskPenalty : ℚ
  evidenceStrength : ℚ
  uncertaintyWidth : ℚ
  riskAdjustedUtility : Option ℚ
  downsideUtility : Option ℚ
  comparablePeerHotelIds : List String
  riskSignals : List RiskSignal
  reasonCodes : List String

def CandidateEvaluation.toJson (c : CandidateEvaluation) : Json :=
  .obj [("hotelId", .str c.hotelId), ("solutionId", .text? c.solutionId),
    ("status", .str c.status.text), ("utilityScore", .num? c.utilityScore),
    ("sourceRiskScore", .num? c.sourceRiskScore), ("canonicalRiskFloor", .num c.canonicalRiskFloor),
    ("choiceRiskScore", .num c.choiceRiskScore), ("choiceRiskLevel", .str c.choiceRiskLevel),
    ("riskPenalty", .num c.riskPenalty), ("evidenceStrength", .num c.evidenceStrength),
    ("uncertaintyWidth", .num c.uncertaintyWidth),
    ("riskAdjustedUtility", .num? c.riskAdjustedUtility),
    ("downsideUtility", .num? c.downsideUtility),
    ("comparablePeerHotelIds", .texts c.comparablePeerHotelIds),
    ("riskSignals", .arr (c.riskSignals.map RiskSignal.toJson)),
    ("reasonCodes", .texts c.reasonCodes)]

def candidateInvalid (rt : Runtime) (candidate : CandidateInput) : Bool :=
  (JsText.trim candidate.hotelId).length = 0 || candidate.utility.hotelId ≠ candidate.hotelId ||
    candidate.geometry.hotelId ≠ candidate.hotelId ||
    !validatePersonalUtilityEvaluation rt candidate.utility ||
    candidate.offerSnapshot.any fun snapshot => snapshot.hotelId ≠ candidate.hotelId

/-- The snapshot is there, with a cost that counts, and is not sold out. -/
def snapshotUsable (snapshot : Option StayOfferIntegritySnapshot) : Bool :=
  snapshot.any fun snapshot => snapshot.cost.integrityStatus ≠ .incomplete &&
    snapshot.cost.integrityStatus ≠ .conflicting && snapshot.bookability.status ≠ .soldOut

def candidateStatus (candidate : CandidateInput) : CandidateStatus :=
  if !candidate.eligible then .ineligible
  else if candidate.utility.utilityScore = none ∨ !candidate.utility.usable ∨
      !snapshotUsable candidate.offerSnapshot then .incomplete
  else .usable

section

variable (rt : NumericRuntime) (candidate : CandidateInput) (options : ResolvedOptions)

def choiceRiskScore : ℚ :=
  round (max ((normalizeScore candidate.sourceRiskScore).getD 0)
    (canonicalRiskFloor (createRiskSignals rt.toRuntime candidate))) 4

def evidenceStrength : ℚ :=
  round (JsNumber.clamp (rt.sqrt (candidate.utility.scoreConfidence *
    (candidate.utility.evidenceCoverage * (6 / 10) +
      snapshotEvidenceStrength candidate.offerSnapshot * (4 / 10)))) 0 1) 6

def riskPenalty : ℚ := round (choiceRiskScore rt candidate / 100 * options.riskPenaltyMaximum) 6

def uncertaintyWidth : ℚ :=
  round ((1 - evidenceStrength rt candidate) * options.uncertaintyWidthMaximum) 6

def riskAdjustedUtility : Option ℚ :=
  if candidateStatus candidate = .usable then candidate.utility.utilityScore.map fun utilityScore =>
    round (JsNumber.clamp (utilityScore - riskPenalty rt candidate options) 0 100) 6
  else none

/-- What `createCandidateEvaluation` returns. -/
def candidateEvaluation : CandidateEvaluation where
  hotelId := candidate.hotelId
  solutionId := candidate.solutionId
  status := candidateStatus candidate
  utilityScore := candidate.utility.utilityScore
  sourceRiskScore := normalizeScore candidate.sourceRiskScore
  canonicalRiskFloor := canonicalRiskFloor (createRiskSignals rt.toRuntime candidate)
  choiceRiskScore := choiceRiskScore rt candidate
  choiceRiskLevel := if 70 ≤ choiceRiskScore rt candidate then "high"
    else if 35 ≤ choiceRiskScore rt candidate then "medium" else "low"
  riskPenalty := riskPenalty rt candidate options
  evidenceStrength := evidenceStrength rt candidate
  uncertaintyWidth := uncertaintyWidth rt candidate options
  riskAdjustedUtility := riskAdjustedUtility rt candidate options
  downsideUtility := (riskAdjustedUtility rt candidate options).map fun utility =>
    round (JsNumber.clamp (utility - uncertaintyWidth rt candidate options) 0 100) 6
  comparablePeerHotelIds := uniqueSorted candidate.geometry.comparablePeerHotelIds
  riskSignals := createRiskSignals rt.toRuntime candidate
  reasonCodes := uniqueSorted (["risk:shadow-only",
    if candidateStatus candidate = .usable then "risk:evaluated"
      else "risk:insufficient-evidence"] ++
    (if (normalizeScore candidate.sourceRiskScore).isSome then ["risk:source-score-used"]
      else []) ++
    (if 0 < canonicalRiskFloor (createRiskSignals rt.toRuntime candidate) then
      ["risk:canonical-floor-applied"] else []) ++ ["risk:uncertainty-separate"])

def createCandidateEvaluation : Except String CandidateEvaluation :=
  if candidateInvalid rt.toRuntime candidate then
    .error ("Invalid V3-05 candidate evidence for " ++
      (if candidate.hotelId = "" then "<missing>" else candidate.hotelId) ++ ".")
  else .ok (candidateEvaluation rt candidate options)

end

/-! ## 4. Bounds -/

theorem round_within {x bound : ℚ} {digits : Nat} {n : ℤ} (hbound : bound = n / 10 ^ digits)
    (hdigits : digits ≤ 15) (h : 0 ≤ x ∧ x ≤ bound) :
    0 ≤ round x digits ∧ round x digits ≤ bound := by
  refine ⟨round_nonneg h.1 digits, (round_mono h.2 digits).trans_eq ?_⟩
  rw [hbound]
  exact round_of_decimal hdigits

theorem normalizeScore_within {value : Option ℚ} :
    0 ≤ (normalizeScore value).getD 0 ∧ (normalizeScore value).getD 0 ≤ 100 := by
  cases value with
  | none => exact ⟨le_rfl, by norm_num [normalizeScore]⟩
  | some score => exact JsNumber.clamp_mem (by norm_num)

theorem canonicalRiskFloor_within (signals : List RiskSignal) :
    0 ≤ canonicalRiskFloor signals ∧ canonicalRiskFloor signals ≤ 100 := by
  unfold canonicalRiskFloor
  split
  · exact ⟨le_rfl, by norm_num⟩
  · exact round_within (n := 1000000) (by norm_num) (by norm_num)
      (JsNumber.clamp_mem (by norm_num))

variable {rt : NumericRuntime} {candidate : CandidateInput} {options : ResolvedOptions}

theorem choiceRiskScore_within :
    0 ≤ choiceRiskScore rt candidate ∧ choiceRiskScore rt candidate ≤ 100 :=
  round_within (n := 1000000) (by norm_num) (by norm_num)
    ⟨le_max_of_le_left normalizeScore_within.1,
      max_le normalizeScore_within.2 (canonicalRiskFloor_within _).2⟩

theorem evidenceStrength_within :
    0 ≤ evidenceStrength rt candidate ∧ evidenceStrength rt candidate ≤ 1 :=
  round_within (n := 1000000) (by norm_num) (by norm_num) (JsNumber.clamp_mem (by norm_num))

theorem riskPenalty_nonneg (h : 0 ≤ options.riskPenaltyMaximum) :
    0 ≤ riskPenalty rt candidate options :=
  round_nonneg (mul_nonneg (div_nonneg choiceRiskScore_within.1 (by norm_num)) h) 6

theorem uncertaintyWidth_nonneg (h : 0 ≤ options.uncertaintyWidthMaximum) :
    0 ≤ uncertaintyWidth rt candidate options :=
  round_nonneg (mul_nonneg (sub_nonneg.mpr evidenceStrength_within.2) h) 6

/-- The utilities that are shown are clamped. -/
theorem clamped_within (x : ℚ) :
    0 ≤ round (JsNumber.clamp x 0 100) 6 ∧ round (JsNumber.clamp x 0 100) 6 ≤ 100 :=
  round_within (n := 100000000) (by norm_num) (by norm_num) (JsNumber.clamp_mem (by norm_num))

theorem riskAdjustedUtility_within {utility : ℚ}
    (h : riskAdjustedUtility rt candidate options = some utility) :
    0 ≤ utility ∧ utility ≤ 100 := by
  unfold riskAdjustedUtility at h
  split at h
  · obtain ⟨score, -, rfl⟩ := Option.map_eq_some_iff.mp h
    exact clamped_within _
  · cases h

theorem candidateStatus_usable : candidateStatus candidate = .usable ↔
    candidate.eligible = true ∧ candidate.utility.usable = true ∧
      candidate.utility.utilityScore.isSome = true ∧
      snapshotUsable candidate.offerSnapshot = true := by
  unfold candidateStatus
  cases candidate.eligible <;> cases candidate.utility.usable <;>
    cases snapshotUsable candidate.offerSnapshot <;> cases candidate.utility.utilityScore <;> simp

end SmartStay.Robustness
