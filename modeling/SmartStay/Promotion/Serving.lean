import SmartStay.Promotion.Dashboard

/-!
# Reviews, authorizations and serving assignments

`engine-v3/promotion/shadowCanaryPromotionV3.ts`: a review collects the gates of the three
stages, an authorization lets one stage begin after a manual approval, a kill switch takes it
back, and an assignment says which engine serves one exposure.

1. Stages, gates and their evidence.
2. `createPromotionReview`, `validatePromotionReview`.
3. `createPromotionAuthorization`, `validatePromotionAuthorization`.
4. `evaluatePromotionKillSwitch`, `validateKillSwitchState`.
5. `createServingAssignment`, `validateServingAssignment`.

The closed values of the records are types here. A number that is not finite, or not an integer
where one is wanted, is rejected by every function below and has no value here.
-/

namespace SmartStay.Promotion

open Contract

/-! ## 1. Gates -/

/-- `StayOptiPromotionStageV3` without `off`. -/
inductive Stage
  | shadow | canary | publicStage
deriving DecidableEq, Repr

def Stage.text : Stage → String
  | .shadow => "shadow"
  | .canary => "canary"
  | .publicStage => "public"

/-- `STAGE_RANK`; `none` is `off`. -/
def stageRank : Option Stage → Nat
  | none => 0
  | some .shadow => 1
  | some .canary => 2
  | some .publicStage => 3

inductive GateStatus
  | pass | fail | pending
deriving DecidableEq, Repr

def GateStatus.text : GateStatus → String
  | .pass => "pass"
  | .fail => "fail"
  | .pending => "pending"

inductive GateId
  | evaluationCalibration | publicRateConsistency | invariants | security | humanEvaluation
  | shadowDashboard | monitoring | canaryEvidence
deriving DecidableEq, Repr

def GateId.text : GateId → String
  | .evaluationCalibration => "evaluation-calibration"
  | .publicRateConsistency => "public-rate-consistency"
  | .invariants => "invariants"
  | .security => "security"
  | .humanEvaluation => "human-evaluation"
  | .shadowDashboard => "shadow-dashboard"
  | .monitoring => "monitoring"
  | .canaryEvidence => "canary-evidence"

/-- `Object.keys(PROMOTION_GATE_REQUIREMENTS)`. -/
def expectedGateIds : List GateId :=
  [.evaluationCalibration, .publicRateConsistency, .invariants, .security, .humanEvaluation,
    .shadowDashboard, .monitoring, .canaryEvidence]

/-- `PROMOTION_GATE_REQUIREMENTS`. -/
def gateRequirements : GateId → List Stage
  | .evaluationCalibration => [.shadow, .canary, .publicStage]
  | .publicRateConsistency => [.shadow, .canary, .publicStage]
  | .invariants => [.shadow, .canary, .publicStage]
  | .security => [.shadow, .canary, .publicStage]
  | .humanEvaluation => [.shadow, .canary, .publicStage]
  | .shadowDashboard => [.canary, .publicStage]
  | .monitoring => [.canary, .publicStage]
  | .canaryEvidence => [.publicStage]

/-- `/^sha256-[0-9a-f]{64}$/`. -/
def isSha256Fingerprint (value : String) : Bool :=
  value.toList.take 7 = "sha256-".toList && (value.toList.drop 7).length = 64 &&
    (value.toList.drop 7).all JsText.isLowerHex

def isEvidenceFingerprint (value : Option String) : Bool :=
  value.any fun text => isStableHash text || isSha256Fingerprint text

/-- `StayOptiPromotionGateEvidenceV3`. -/
structure GateEvidence where
  status : GateStatus
  evidenceFingerprint : Option String

/-- A pending gate has no evidence, any other has. -/
def linked (status : GateStatus) (evidenceFingerprint : Option String) : Bool :=
  if status = .pending then evidenceFingerprint.isNone
  else isEvidenceFingerprint evidenceFingerprint

def validateGateEvidence (evidence : GateEvidence) (label : String) : Except String Unit :=
  if linked evidence.status evidence.evidenceFingerprint then .ok ()
  else .error (label ++ " has invalid evidence linkage.")

/-- `StayOptiPromotionExternalGatesV3`. -/
structure ExternalGates where
  publicRateConsistency : GateEvidence
  invariants : GateEvidence
  security : GateEvidence
  humanEvaluation : GateEvidence
  monitoring : GateEvidence

def validateExternalGates (gates : ExternalGates) : Except String Unit := do
  validateGateEvidence gates.publicRateConsistency "publicRateConsistency"
  validateGateEvidence gates.invariants "invariants"
  validateGateEvidence gates.security "security"
  validateGateEvidence gates.humanEvaluation "humanEvaluation"
  validateGateEvidence gates.monitoring "monitoring"

inductive RunStatus
  | notRun | pass | fail
deriving DecidableEq, Repr

/-- `StayOptiCanaryEvidenceV3`. -/
structure CanaryEvidence where
  status : RunStatus
  observationCount : ℤ
  monitoredHours : ℚ
  errorRateRegression : Option ℚ
  p95LatencyRegressionMs : Option ℚ
  criticalRegressionCount : ℤ
  rollbackDrill : RunStatus
  evidenceFingerprint : Option String

/-- `STAYOPTI_PROMOTION_THRESHOLDS_V3`, as far as reviews and assignments read it. -/
def maximumInitialCanaryBasisPoints : ℤ := 500
def minimumCanaryObservationCount : ℤ := 500
def minimumCanaryMonitoredHours : ℚ := 24
def maximumCanaryErrorRateRegression : ℚ := 2 / 1000
def maximumCanaryP95LatencyRegressionMs : ℚ := 100

def canaryEvidencePasses (evidence : CanaryEvidence) : Bool :=
  evidence.status = .pass && minimumCanaryObservationCount ≤ evidence.observationCount &&
    minimumCanaryMonitoredHours ≤ evidence.monitoredHours &&
    evidence.errorRateRegression.any (· ≤ maximumCanaryErrorRateRegression) &&
    evidence.p95LatencyRegressionMs.any (· ≤ maximumCanaryP95LatencyRegressionMs) &&
    evidence.criticalRegressionCount = 0 && evidence.rollbackDrill = .pass &&
    isEvidenceFingerprint evidence.evidenceFingerprint

def validateCanaryEvidence (evidence : CanaryEvidence) : Except String Unit := do
  if evidence.observationCount < 0 || evidence.monitoredHours < 0 ||
      evidence.criticalRegressionCount < 0 ||
      [evidence.errorRateRegression, evidence.p95LatencyRegressionMs].any (·.any (· < 0)) then
    throw "Canary evidence contains invalid values."
  let valid := if evidence.status = .notRun then evidence.evidenceFingerprint.isNone
    else isEvidenceFingerprint evidence.evidenceFingerprint
  if !valid then throw "Canary evidence linkage is invalid."

/-! ### Results of the evaluation -/

inductive EvaluationStatus
  | pass | fail | insufficientData
deriving DecidableEq, Repr

def EvaluationStatus.text : EvaluationStatus → String
  | .pass => "pass"
  | .fail => "fail"
  | .insufficientData => "insufficient-data"

/-- A gate of an evaluation, with the fields that only its fingerprint reads. -/
structure EvaluationGate where
  status : EvaluationStatus
  rest : List (String × Json)

/-- `StayOptiEvaluationCalibrationResultV3` without its fingerprint; `rest` are the fields that
    only the fingerprint reads. -/
structure EvaluationCore where
  version : String
  phase : String
  evaluationApplication : String
  status : EvaluationStatus
  protocolFingerprint : String
  thresholdFingerprint : String
  datasetFingerprint : String
  blindEvaluationFingerprint : String
  thresholdsFrozenBeforeResults : Bool
  gates : List EvaluationGate
  candidateState : String
  productionPromotionAllowed : Bool
  automaticPromotionAllowed : Bool
  publicV3Enabled : Bool
  nextGate : String
  rest : List (String × Json)

structure EvaluationResult extends EvaluationCore where
  fingerprint : String

def EvaluationCore.fields (r : EvaluationCore) : List (String × Json) :=
  [("version", .str r.version), ("phase", .str r.phase),
    ("evaluationApplication", .str r.evaluationApplication), ("status", .str r.status.text),
    ("protocolFingerprint", .str r.protocolFingerprint),
    ("thresholdFingerprint", .str r.thresholdFingerprint),
    ("datasetFingerprint", .str r.datasetFingerprint),
    ("blindEvaluationFingerprint", .str r.blindEvaluationFingerprint),
    ("thresholdsFrozenBeforeResults", .bool r.thresholdsFrozenBeforeResults),
    ("gates", .arr (r.gates.map fun g => .obj (("status", .str g.status.text) :: g.rest))),
    ("candidatePolicy", .obj [("state", .str r.candidateState),
      ("productionPromotionAllowed", .bool r.productionPromotionAllowed),
      ("automaticPromotionAllowed", .bool r.automaticPromotionAllowed),
      ("publicV3Enabled", .bool r.publicV3Enabled), ("nextGate", .str r.nextGate)])] ++ r.rest

/-- `validateEvaluationCalibrationResultV3(result).valid`. -/
def validateEvaluationCalibrationResult (rt : Runtime) (result : EvaluationResult) : Bool :=
  let expectedStatus : EvaluationStatus :=
    if result.gates.any (·.status = .insufficientData) then .insufficientData
    else if result.gates.any (·.status = .fail) then .fail
    else .pass
  result.version = "3.0.0-evaluation-calibration.1" && result.phase = "v3-10" &&
    result.evaluationApplication = "offline-only" && result.thresholdsFrozenBeforeResults &&
    !result.productionPromotionAllowed && !result.automaticPromotionAllowed &&
    !result.publicV3Enabled && result.nextGate = "v3-11-shadow" &&
    result.status = expectedStatus && isStableHash result.protocolFingerprint &&
    isStableHash result.thresholdFingerprint && isStableHash result.datasetFingerprint &&
    isStableHash result.blindEvaluationFingerprint &&
    (decide (result.status = .pass) ==
      decide (result.candidateState = "eligible-for-v3-11-shadow-gate")) &&
    result.fingerprint = createStableHash rt (.obj result.fields)
      "stayopti-v3-evaluation-calibration-result"

/-- The dashboard with its id, which its fingerprint covers. -/
def ShadowRegressionDashboard.fields (d : ShadowRegressionDashboard) : List (String × Json) :=
  ("dashboardId", .str d.dashboardId) :: d.toDashboardCore.fields

/-- `validateShadowRegressionDashboardV3(dashboard).valid`. -/
def validateShadowRegressionDashboard (rt : Runtime) (dashboard : ShadowRegressionDashboard) :
    Bool :=
  dashboard.version = shadowPromotionVersionV3 &&
    dashboard.application = "internal-promotion-dashboard" &&
    dashboard.publicServingEngine = "v2" && !dashboard.rawDecisionPayloadStored &&
    !dashboard.piiAllowed && !dashboard.commercialFieldsAllowed &&
    isStableHash dashboard.dashboardId && isAuditIdentityValid dashboard.audit &&
    ["collecting-shadow-evidence", "blocked-by-regression", "ready-for-canary-review"].contains
      dashboard.status &&
    dashboard.fingerprint = createStableHash rt (.obj dashboard.fields)
      "stayopti-v3-shadow-dashboard" &&
    (findForbiddenFieldPaths (.obj (dashboard.fields ++
      [("fingerprint", .str dashboard.fingerprint)])) "root").length = 0

/-! ## 2. Reviews -/

/-- `StayOptiPromotionGateResultV3`. -/
structure GateResult where
  gateId : GateId
  status : GateStatus
  requiredFor : List Stage
  evidenceFingerprint : Option String

def GateResult.toJson (g : GateResult) : Json :=
  .obj [("gateId", .str g.gateId.text), ("status", .str g.status.text),
    ("requiredFor", .texts (g.requiredFor.map (·.text))),
    ("evidenceFingerprint", .text? g.evidenceFingerprint)]

structure StageEligibility where
  shadow : Bool
  canary : Bool
  publicStage : Bool

/-- `core` of a review. -/
structure ReviewCore where
  version : String
  phase : String
  publicServingEngine : String
  publicV3Enabled : Bool
  automaticPromotionAllowed : Bool
  manualApprovalRequired : Bool
  highestEligibleStage : Option Stage
  stageEligibility : StageEligibility
  gateResults : List GateResult
  reasonCodes : List String
  audit : AuditIdentity

def ReviewCore.fields (r : ReviewCore) : List (String × Json) :=
  [("version", .str r.version), ("phase", .str r.phase),
    ("publicServingEngine", .str r.publicServingEngine),
    ("publicV3Enabled", .bool r.publicV3Enabled),
    ("automaticPromotionAllowed", .bool r.automaticPromotionAllowed),
    ("manualApprovalRequired", .bool r.manualApprovalRequired),
    ("highestEligibleStage", .str (r.highestEligibleStage.elim "off" (·.text))),
    ("stageEligibility", .obj [("shadow", .bool r.stageEligibility.shadow),
      ("canary", .bool r.stageEligibility.canary), ("public", .bool r.stageEligibility.publicStage)]),
    ("gateResults", .arr (r.gateResults.map (·.toJson))), ("reasonCodes", .texts r.reasonCodes),
    ("audit", r.audit.toJson)]

/-- `StayOptiPromotionReviewV3`. -/
structure PromotionReview extends ReviewCore where
  reviewId : String
  fingerprint : String

def createPromotionReviewFingerprint (rt : Runtime) (reviewId : String) (core : ReviewCore) :
    String :=
  createStableHash rt (.obj (("reviewId", .str reviewId) :: core.fields))
    "stayopti-v3-promotion-review"

/-- The input of `createPromotionReviewV3`. -/
structure ReviewInput where
  evaluationResult : Option EvaluationResult
  shadowDashboard : Option ShadowRegressionDashboard
  externalGates : ExternalGates
  canaryEvidence : CanaryEvidence

/-- `pass`, or `pending` without a record and `fail` with one. -/
def recordStatus (passes missing : Bool) : GateStatus :=
  if passes then .pass else if missing then .pending else .fail

def evaluationPass (rt : Runtime) (input : ReviewInput) : Bool :=
  input.evaluationResult.any fun result => validateEvaluationCalibrationResult rt result &&
    result.status = .pass && result.candidateState = "eligible-for-v3-11-shadow-gate"

def dashboardPass (rt : Runtime) (input : ReviewInput) : Bool :=
  input.shadowDashboard.any fun dashboard => validateShadowRegressionDashboard rt dashboard &&
    dashboard.status = "ready-for-canary-review"

/-- `gateResults`. -/
def createGateResults (rt : Runtime) (input : ReviewInput) : List GateResult :=
  let external (gateId : GateId) (evidence : GateEvidence) : GateResult :=
    ⟨gateId, evidence.status, gateRequirements gateId, evidence.evidenceFingerprint⟩
  [⟨.evaluationCalibration, recordStatus (evaluationPass rt input) input.evaluationResult.isNone,
      gateRequirements .evaluationCalibration, input.evaluationResult.map (·.fingerprint)⟩,
    external .publicRateConsistency input.externalGates.publicRateConsistency,
    external .invariants input.externalGates.invariants,
    external .security input.externalGates.security,
    external .humanEvaluation input.externalGates.humanEvaluation,
    ⟨.shadowDashboard, recordStatus (dashboardPass rt input) input.shadowDashboard.isNone,
      gateRequirements .shadowDashboard, input.shadowDashboard.map (·.fingerprint)⟩,
    external .monitoring input.externalGates.monitoring,
    ⟨.canaryEvidence, recordStatus (canaryEvidencePasses input.canaryEvidence)
        (input.canaryEvidence.status = .notRun), gateRequirements .canaryEvidence,
      input.canaryEvidence.evidenceFingerprint⟩]

/-- `passFor(stage)`. -/
def passFor (gateResults : List GateResult) (stage : Stage) : Bool :=
  (gateResults.filter fun gate => gate.requiredFor.contains stage).all fun gate =>
    gate.status = .pass

def highestEligibleStage (eligibility : StageEligibility) : Option Stage :=
  if eligibility.publicStage then some .publicStage
  else if eligibility.canary then some .canary
  else if eligibility.shadow then some .shadow
  else none

def reviewReasonCodes (rt : Runtime) (input : ReviewInput) (eligibility : StageEligibility) :
    List String :=
  uniqueSorted ([
    "promotion:v2-public-authority", "promotion:public-disabled",
    "promotion:no-automatic-promotion", "promotion:manual-approval-required",
    "promotion:policy-audit-visible", "promotion:kill-switch-armed",
    if evaluationPass rt input then "evaluation:gate-pass"
      else "promotion:calibration-gate-required",
    if input.externalGates.humanEvaluation.status = .pass then "evaluation:blind-human-required"
      else "promotion:human-gate-required",
    if input.externalGates.publicRateConsistency.status = .pass then
      "promotion:public-rates-verified" else "integrity:public-rates-unverified",
    if input.externalGates.monitoring.status = .pass then "promotion:policy-audit-visible"
      else "promotion:monitoring-required",
    if eligibility.canary then "promotion:canary-eligible" else "promotion:canary-blocked"] ++
    if 0 < (input.shadowDashboard.map (·.counts.criticalRegressions)).getD 0 then
      ["promotion:critical-regression-blocked"] else [])

def createPromotionReview (rt : Runtime) (input : ReviewInput) :
    Except String PromotionReview := do
  validateExternalGates input.externalGates
  validateCanaryEvidence input.canaryEvidence
  let gateResults := createGateResults rt input
  let stageEligibility : StageEligibility :=
    ⟨passFor gateResults .shadow, passFor gateResults .canary, passFor gateResults .publicStage⟩
  let core : ReviewCore :=
    { version := shadowPromotionVersionV3
      phase := "v3-11"
      publicServingEngine := "v2"
      publicV3Enabled := false
      automaticPromotionAllowed := false
      manualApprovalRequired := true
      highestEligibleStage := highestEligibleStage stageEligibility
      stageEligibility
      gateResults
      reasonCodes := reviewReasonCodes rt input stageEligibility
      audit := createAuditIdentity }
  let reviewId := createStableHash rt (.obj core.fields) "stayopti-v3-promotion-review-id"
  return { core with
    reviewId
    fingerprint := createPromotionReviewFingerprint rt reviewId core }

/-- `gatePassesFor(stage)` of the validator. -/
def gatePassesFor (review : PromotionReview) (stage : Stage) : Bool :=
  (expectedGateIds.filter fun gateId => (gateRequirements gateId).contains stage).all
    fun gateId => (review.gateResults.find? (·.gateId = gateId)).any (·.status = .pass)

/-- `validatePromotionReviewV3(review).valid`; `isReasonCode` is `isSmartStayReasonCodeV3`. -/
def validatePromotionReview (rt : Runtime) (isReasonCode : String → Bool)
    (review : PromotionReview) : Bool :=
  let gateIds := review.gateResults.map (·.gateId)
  review.version = shadowPromotionVersionV3 && review.phase = "v3-11" &&
    review.publicServingEngine = "v2" && !review.publicV3Enabled &&
    !review.automaticPromotionAllowed && review.manualApprovalRequired &&
    isStableHash review.reviewId && isAuditIdentityValid review.audit &&
    review.reasonCodes.all isReasonCode &&
    gateIds.length = expectedGateIds.length && decide gateIds.Nodup &&
    expectedGateIds.all gateIds.contains &&
    (review.gateResults.all fun gate => gate.requiredFor = gateRequirements gate.gateId &&
      linked gate.status gate.evidenceFingerprint) &&
    review.stageEligibility.shadow = gatePassesFor review .shadow &&
    review.stageEligibility.canary = gatePassesFor review .canary &&
    review.stageEligibility.publicStage = gatePassesFor review .publicStage &&
    review.highestEligibleStage = highestEligibleStage review.stageEligibility &&
    review.fingerprint = createPromotionReviewFingerprint rt review.reviewId review.toReviewCore

/-! ## 3. Authorizations -/

inductive AuthorizationStatus
  | authorized | blocked
deriving DecidableEq, Repr

def AuthorizationStatus.text : AuthorizationStatus → String
  | .authorized => "authorized"
  | .blocked => "blocked"

/-- `publicServingEngine` of an authorization. -/
inductive AuthorizedEngine
  | v2 | mixedCanary | v3
deriving DecidableEq, Repr

def AuthorizedEngine.text : AuthorizedEngine → String
  | .v2 => "v2"
  | .mixedCanary => "mixed-canary"
  | .v3 => "v3"

/-- The engine that an authorization names. -/
def authorizedEngine (status : AuthorizationStatus) (targetStage : Stage) : AuthorizedEngine :=
  if status = .authorized ∧ targetStage = .publicStage then .v3
  else if status = .authorized ∧ targetStage = .canary then .mixedCanary
  else .v2

/-- `StayOptiPromotionAuthorizationV3` without its fingerprint. -/
structure AuthorizationCore where
  authorizationId : String
  version : String
  targetStage : Stage
  status : AuthorizationStatus
  reviewFingerprint : String
  manualApprovalRecorded : Bool
  automaticPromotion : Bool
  publicServingEngine : AuthorizedEngine
  canaryAllocationLimitBasisPoints : ℤ
  killSwitch : String
  audit : AuditIdentity

def AuthorizationCore.fields (a : AuthorizationCore) : List (String × Json) :=
  [("authorizationId", .str a.authorizationId), ("version", .str a.version),
    ("targetStage", .str a.targetStage.text), ("status", .str a.status.text),
    ("reviewFingerprint", .str a.reviewFingerprint),
    ("manualApprovalRecorded", .bool a.manualApprovalRecorded),
    ("automaticPromotion", .bool a.automaticPromotion),
    ("publicServingEngine", .str a.publicServingEngine.text),
    ("canaryAllocationLimitBasisPoints", .num a.canaryAllocationLimitBasisPoints),
    ("killSwitch", .str a.killSwitch), ("audit", a.audit.toJson)]

structure PromotionAuthorization extends AuthorizationCore where
  fingerprint : String

def createAuthorizationFingerprint (rt : Runtime) (authorization : AuthorizationCore) : String :=
  createStableHash rt (.obj authorization.fields) "stayopti-v3-promotion-authorization"

def createPromotionAuthorization (rt : Runtime) (isReasonCode : String → Bool)
    (review : PromotionReview) (targetStage : Stage) (manualApprovalToken : Option String) :
    Except String PromotionAuthorization := do
  if !validatePromotionReview rt isReasonCode review then
    throw "Promotion authorization requires a valid review."
  let manualApprovalRecorded := manualApprovalToken.isSome
  if manualApprovalRecorded then
    requireOpaqueToken manualApprovalToken "manualApprovalToken"
  let eligible : Bool := stageRank (some targetStage) ≤ stageRank review.highestEligibleStage
  let status : AuthorizationStatus :=
    if eligible && manualApprovalRecorded then .authorized else .blocked
  let approvalFingerprint := manualApprovalToken.map fun token =>
    createStableHash rt (.str token) "stayopti-v3-manual-approval"
  let core : AuthorizationCore :=
    { authorizationId := createStableHash rt (.obj
        [("reviewFingerprint", .str review.fingerprint), ("targetStage", .str targetStage.text),
          ("approvalFingerprint", .text? approvalFingerprint)])
        "stayopti-v3-promotion-authorization-id"
      version := shadowPromotionVersionV3
      targetStage
      status
      reviewFingerprint := review.fingerprint
      manualApprovalRecorded
      automaticPromotion := false
      publicServingEngine := authorizedEngine status targetStage
      canaryAllocationLimitBasisPoints := maximumInitialCanaryBasisPoints
      killSwitch := "armed"
      audit := createAuditIdentity }
  return { core with fingerprint := createAuthorizationFingerprint rt core }

def validatePromotionAuthorization (rt : Runtime) (authorization : PromotionAuthorization) :
    Bool :=
  authorization.version = shadowPromotionVersionV3 &&
    isStableHash authorization.authorizationId && isStableHash authorization.reviewFingerprint &&
    (authorization.status ≠ .authorized || authorization.manualApprovalRecorded) &&
    !authorization.automaticPromotion && authorization.killSwitch = "armed" &&
    authorization.canaryAllocationLimitBasisPoints = maximumInitialCanaryBasisPoints &&
    authorization.publicServingEngine =
      authorizedEngine authorization.status authorization.targetStage &&
    isAuditIdentityValid authorization.audit &&
    authorization.fingerprint = createAuthorizationFingerprint rt authorization.toAuthorizationCore

/-! ## 4. The kill switch -/

inductive KillSwitchTrigger
  | manualTrigger | priceIntegrity | publicRateIntegrity | criticalRegression | errorRateRegression
  | latencyRegression
deriving DecidableEq, Repr

def KillSwitchTrigger.text : KillSwitchTrigger → String
  | .manualTrigger => "manual-trigger"
  | .priceIntegrity => "price-integrity"
  | .publicRateIntegrity => "public-rate-integrity"
  | .criticalRegression => "critical-regression"
  | .errorRateRegression => "error-rate-regression"
  | .latencyRegression => "latency-regression"

/-- The input of `evaluatePromotionKillSwitchV3`; `publicRateConsistency` passes when it is
    `verified`. -/
structure KillSwitchTelemetry where
  manualTrigger : Bool
  priceIntegrity : PassFail
  publicRateConsistency : PassFail
  criticalRegressionCount : ℤ
  errorRateRegression : ℚ
  p95LatencyRegressionMs : ℚ

/-- A trigger of the kill switch holds. -/
def KillSwitchTelemetry.triggers (t : KillSwitchTelemetry) : KillSwitchTrigger → Bool
  | .manualTrigger => t.manualTrigger
  | .priceIntegrity => t.priceIntegrity = .fail
  | .publicRateIntegrity => t.publicRateConsistency = .fail
  | .criticalRegression => 0 < t.criticalRegressionCount
  | .errorRateRegression => maximumCanaryErrorRateRegression < t.errorRateRegression
  | .latencyRegression => maximumCanaryP95LatencyRegressionMs < t.p95LatencyRegressionMs

/-- The order in which the triggers are pushed. -/
def killSwitchTriggers : List KillSwitchTrigger :=
  [.manualTrigger, .priceIntegrity, .publicRateIntegrity, .criticalRegression,
    .errorRateRegression, .latencyRegression]

/-- `core` of a kill-switch state. -/
structure KillSwitchCore where
  version : String
  armed : Bool
  active : Bool
  rollbackRequired : Bool
  triggerCodes : List KillSwitchTrigger
  audit : AuditIdentity

def KillSwitchCore.fields (s : KillSwitchCore) : List (String × Json) :=
  [("version", .str s.version), ("armed", .bool s.armed), ("active", .bool s.active),
    ("rollbackRequired", .bool s.rollbackRequired),
    ("triggerCodes", .texts (s.triggerCodes.map (·.text))), ("audit", s.audit.toJson)]

/-- `StayOptiKillSwitchStateV3`. -/
structure KillSwitchState extends KillSwitchCore where
  stateId : String
  fingerprint : String

def createKillSwitchFingerprint (rt : Runtime) (stateId : String) (core : KillSwitchCore) :
    String :=
  createStableHash rt (.obj (("stateId", .str stateId) :: core.fields)) "stayopti-v3-kill-switch"

def evaluatePromotionKillSwitch (rt : Runtime) (telemetry : KillSwitchTelemetry) :
    Except String KillSwitchState :=
  if telemetry.criticalRegressionCount < 0 || telemetry.errorRateRegression < 0 ||
      telemetry.p95LatencyRegressionMs < 0 then
    .error "Kill-switch telemetry is invalid."
  else
    let triggerCodes := killSwitchTriggers.filter telemetry.triggers
    let active : Bool := 0 < triggerCodes.length
    let core : KillSwitchCore :=
      { version := shadowPromotionVersionV3
        armed := true
        active
        rollbackRequired := active
        triggerCodes
        audit := createAuditIdentity }
    let stateId := createStableHash rt (.obj core.fields) "stayopti-v3-kill-switch-id"
    .ok { core with stateId, fingerprint := createKillSwitchFingerprint rt stateId core }

def validateKillSwitchState (rt : Runtime) (state : KillSwitchState) : Bool :=
  state.version = shadowPromotionVersionV3 && state.armed &&
    state.active = decide (0 < state.triggerCodes.length) &&
    state.rollbackRequired = state.active && state.triggerCodes.all killSwitchTriggers.contains &&
    decide state.triggerCodes.Nodup && isAuditIdentityValid state.audit &&
    isStableHash state.stateId &&
    state.fingerprint = createKillSwitchFingerprint rt state.stateId state.toKillSwitchCore

/-! ## 5. Serving assignments -/

inductive ServingReason
  | authorizationBlocked | shadowV2Authoritative | canaryV2Control | canaryV3Assigned
  | publicV3Authorized | killSwitchV2Fallback
deriving DecidableEq, Repr

def ServingReason.text : ServingReason → String
  | .authorizationBlocked => "authorization-blocked"
  | .shadowV2Authoritative => "shadow-v2-authoritative"
  | .canaryV2Control => "canary-v2-control"
  | .canaryV3Assigned => "canary-v3-assigned"
  | .publicV3Authorized => "public-v3-authorized"
  | .killSwitchV2Fallback => "kill-switch-v2-fallback"

/-- `StayOptiServingAssignmentV3` without its fingerprint. -/
structure AssignmentCore where
  assignmentId : String
  version : String
  targetStage : Stage
  servingEngine : ServingEngine
  canaryBucket : Option ℤ
  canaryAllocationBasisPoints : ℤ
  killSwitchActive : Bool
  rollbackRequired : Bool
  reason : ServingReason
  audit : AuditIdentity

def AssignmentCore.fields (a : AssignmentCore) : List (String × Json) :=
  [("assignmentId", .str a.assignmentId), ("version", .str a.version),
    ("targetStage", .str a.targetStage.text), ("servingEngine", .str a.servingEngine.text),
    ("canaryBucket", .num? (a.canaryBucket.map fun bucket => (bucket : ℚ))),
    ("canaryAllocationBasisPoints", .num a.canaryAllocationBasisPoints),
    ("killSwitchActive", .bool a.killSwitchActive),
    ("rollbackRequired", .bool a.rollbackRequired), ("reason", .str a.reason.text),
    ("audit", a.audit.toJson)]

structure ServingAssignment extends AssignmentCore where
  fingerprint : String

def createAssignmentFingerprint (rt : Runtime) (assignment : AssignmentCore) : String :=
  createStableHash rt (.obj assignment.fields) "stayopti-v3-serving-assignment"

/-- The value of a lower-case hexadecimal digit. -/
def hexValue (c : Char) : Nat := if c.isDigit then c.toNat - 48 else c.toNat - 87

/-- `Number.parseInt(text, 16)` of hexadecimal digits. -/
def parseHex (digits : List Char) : Nat := digits.foldl (fun n c => n * 16 + hexValue c) 0

/-- The bucket of an exposure token. -/
def canaryBucketOf (rt : Runtime) (exposureToken : String) : ℤ :=
  let hash := createStableHash rt (.str exposureToken) "stayopti-v3-canary-bucket"
  (parseHex (hash.toList.drop (hash.toList.length - 8)) % 10000 : Nat)

/-- What is assigned: the engine, the reason, the bucket and the allocation. -/
structure Assigned where
  servingEngine : ServingEngine
  reason : ServingReason
  canaryBucket : Option ℤ := none
  canaryAllocationBasisPoints : ℤ := 0

/-- The cascade of `createServingAssignmentV3`. -/
def assign (killSwitchActive : Bool) (status : AuthorizationStatus) (targetStage : Stage)
    (bucket canaryAllocationBasisPoints : ℤ) : Assigned :=
  if killSwitchActive then { servingEngine := .v2, reason := .killSwitchV2Fallback }
  else if status ≠ .authorized then { servingEngine := .v2, reason := .authorizationBlocked }
  else
    match targetStage with
    | .shadow => { servingEngine := .v2, reason := .shadowV2Authoritative }
    | .canary =>
      if bucket < canaryAllocationBasisPoints then
        ⟨.v3, .canaryV3Assigned, some bucket, canaryAllocationBasisPoints⟩
      else ⟨.v2, .canaryV2Control, some bucket, canaryAllocationBasisPoints⟩
    | .publicStage => { servingEngine := .v3, reason := .publicV3Authorized }

def createServingAssignment (rt : Runtime) (authorization : PromotionAuthorization)
    (exposureToken : String) (canaryAllocationBasisPoints : ℤ) (killSwitch : KillSwitchState) :
    Except String ServingAssignment := do
  if !validatePromotionAuthorization rt authorization then
    throw "Serving assignment requires a valid promotion authorization."
  if !validateKillSwitchState rt killSwitch then
    throw "Serving assignment requires a valid kill-switch state."
  requireOpaqueToken (some exposureToken) "exposureToken"
  if canaryAllocationBasisPoints < 0 ||
      maximumInitialCanaryBasisPoints < canaryAllocationBasisPoints then
    throw "Canary allocation exceeds the frozen initial limit."
  let assigned := assign killSwitch.active authorization.status authorization.targetStage
    (canaryBucketOf rt exposureToken) canaryAllocationBasisPoints
  let core : AssignmentCore :=
    { assignmentId := createStableHash rt (.obj
        [("authorizationFingerprint", .str authorization.fingerprint),
          ("exposureFingerprint",
            .str (createStableHash rt (.str exposureToken) "stayopti-v3-canary-exposure")),
          ("killSwitchFingerprint", .str killSwitch.fingerprint),
          ("canaryAllocationBasisPoints", .num assigned.canaryAllocationBasisPoints)])
        "stayopti-v3-serving-assignment-id"
      version := shadowPromotionVersionV3
      targetStage := authorization.targetStage
      servingEngine := assigned.servingEngine
      canaryBucket := assigned.canaryBucket
      canaryAllocationBasisPoints := assigned.canaryAllocationBasisPoints
      killSwitchActive := killSwitch.active
      rollbackRequired := killSwitch.rollbackRequired
      reason := assigned.reason
      audit := createAuditIdentity }
  return { core with fingerprint := createAssignmentFingerprint rt core }

/-- `validReasonEnginePair`. -/
def validReasonEnginePair (assignment : AssignmentCore) : Bool :=
  if assignment.reason ∈ [ServingReason.authorizationBlocked, .shadowV2Authoritative,
      .canaryV2Control, .killSwitchV2Fallback] then assignment.servingEngine = .v2
  else assignment.servingEngine = .v3

/-- `validKillSwitchFallback`. -/
def validKillSwitchFallback (assignment : AssignmentCore) : Bool :=
  if assignment.killSwitchActive then
    assignment.servingEngine = .v2 && assignment.reason = .killSwitchV2Fallback
  else assignment.reason ≠ .killSwitchV2Fallback

def validateServingAssignment (rt : Runtime) (assignment : ServingAssignment) : Bool :=
  assignment.version = shadowPromotionVersionV3 && isStableHash assignment.assignmentId &&
    0 ≤ assignment.canaryAllocationBasisPoints &&
    assignment.canaryAllocationBasisPoints ≤ maximumInitialCanaryBasisPoints &&
    assignment.canaryBucket.all (fun bucket => 0 ≤ bucket && bucket < 10000) &&
    validReasonEnginePair assignment.toAssignmentCore &&
    validKillSwitchFallback assignment.toAssignmentCore &&
    assignment.rollbackRequired = assignment.killSwitchActive &&
    isAuditIdentityValid assignment.audit &&
    assignment.fingerprint = createAssignmentFingerprint rt assignment.toAssignmentCore

end SmartStay.Promotion
