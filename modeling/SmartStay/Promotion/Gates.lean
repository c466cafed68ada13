import SmartStay.Promotion.HashedIds
import SmartStay.Promotion.Serving

/-!
# What serves the new engine

1. `accepted_v3`: what the validator says of an assignment that serves V3.
2. `authorized_gates`: an authorization of a created review is given for passed gates.
3. `assign_v3`, `assign_mono`: when the cascade assigns V3.
4. `v3_served_through_gates`.
-/

namespace SmartStay.Promotion

open Contract

variable {rt : Runtime}

/-! ## 1. Accepted assignments -/

/-- V3 is served to everyone, or to a canary whose bucket is below the allocation, and the kill
    switch is inactive. -/
def ServedThroughGate (a : AssignmentCore) : Prop :=
  a.killSwitchActive = false ∧
    (a.targetStage = .publicStage ∧ a.reason = .publicV3Authorized ∨
      a.targetStage = .canary ∧
        ∃ bucket, a.canaryBucket = some bucket ∧ bucket < a.canaryAllocationBasisPoints)

/-- The assignments that the validator does not tell from those: of the shadow stage, of the
    public stage for a canary's reason, of the canary stage without a bucket below the
    allocation. -/
def Unmatched (a : AssignmentCore) : Prop :=
  a.targetStage = .shadow ∨ (a.targetStage = .publicStage ∧ a.reason = .canaryV3Assigned) ∨
    (a.targetStage = .canary ∧
      ∀ bucket, a.canaryBucket = some bucket → a.canaryAllocationBasisPoints ≤ bucket)

theorem accepted_v3 {a : ServingAssignment} (h : validateServingAssignment rt a = true)
    (hengine : a.servingEngine = .v3) : a.killSwitchActive = false ∧
      (a.reason = .canaryV3Assigned ∨ a.reason = .publicV3Authorized) := by
  simp only [validateServingAssignment, Bool.and_eq_true] at h
  obtain ⟨⟨⟨⟨⟨-, hpair⟩, hswitch⟩, -⟩, -⟩, -⟩ := h
  unfold validReasonEnginePair at hpair
  unfold validKillSwitchFallback at hswitch
  constructor
  · cases hactive : a.killSwitchActive with
    | false => rfl
    | true => simp [hactive, hengine] at hswitch
  · cases hreason : a.reason <;> simp_all

theorem servedThroughGate_iff {a : ServingAssignment}
    (h : validateServingAssignment rt a = true) (hengine : a.servingEngine = .v3) :
    ServedThroughGate a.toAssignmentCore ↔ ¬ Unmatched a.toAssignmentCore := by
  obtain ⟨hswitch, hreason⟩ := accepted_v3 h hengine
  unfold ServedThroughGate Unmatched
  cases hstage : a.targetStage with
  | shadow => simp
  | publicStage => rcases hreason with hreason | hreason <;> simp [hswitch, hreason]
  | canary => cases hbucket : a.canaryBucket <;> simp [hswitch]

/-! ## 2. Authorizations -/

/-- A stage that is not above the highest eligible one is eligible itself. -/
theorem passFor_of_rank {gates : List GateResult}
    (hcanary : passFor gates .publicStage = true → passFor gates .canary = true)
    (hshadow : passFor gates .canary = true → passFor gates .shadow = true) {stage : Stage}
    (h : stageRank (some stage) ≤ stageRank (highestEligibleStage
      ⟨passFor gates .shadow, passFor gates .canary, passFor gates .publicStage⟩)) :
    passFor gates stage = true := by
  unfold highestEligibleStage at h
  dsimp only at h
  cases hp : passFor gates .publicStage with
  | true =>
    have hc := hcanary hp
    cases stage with
    | shadow => exact hshadow hc
    | canary => exact hc
    | publicStage => exact hp
  | false =>
    cases hc : passFor gates .canary with
    | true =>
      cases stage with
      | shadow => exact hshadow hc
      | canary => exact hc
      | publicStage => simp [hp, hc, stageRank] at h
    | false =>
      cases hs : passFor gates .shadow with
      | true =>
        cases stage with
        | shadow => exact hs
        | canary => simp [hp, hc, hs, stageRank] at h
        | publicStage => simp [hp, hc, hs, stageRank] at h
      | false => cases stage <;> simp [hp, hc, hs, stageRank] at h

theorem passFor_iff {gates : List GateResult} {stage : Stage} : passFor gates stage = true ↔
    ∀ gate ∈ gates, stage ∈ gate.requiredFor → gate.status = .pass := by
  simp only [passFor, List.all_eq_true, List.mem_filter, List.contains_eq_mem, decide_eq_true_eq,
    and_imp]

/-- A later stage requires at least the gates of an earlier one. -/
theorem passFor_earlier {gates : List GateResult} {earlier later : Stage}
    (hlater : passFor gates later = true)
    (hsub : ∀ gate ∈ gates, earlier ∈ gate.requiredFor → later ∈ gate.requiredFor) :
    passFor gates earlier = true := by
  rw [passFor_iff] at hlater ⊢
  exact fun gate hgate hrequired => hlater gate hgate (hsub gate hgate hrequired)

theorem createGateResults_requirements {input : ReviewInput} :
    ∀ gate ∈ createGateResults rt input, gate.requiredFor = gateRequirements gate.gateId := by
  simp [createGateResults]

theorem gateRequirements_mono (id : GateId) :
    (.shadow ∈ gateRequirements id → .canary ∈ gateRequirements id) ∧
      (.canary ∈ gateRequirements id → .publicStage ∈ gateRequirements id) := by
  cases id <;> decide

theorem createPromotionReview_ok {input : ReviewInput} {review : PromotionReview}
    (h : createPromotionReview rt input = .ok review) :
    review.gateResults = createGateResults rt input ∧
      review.highestEligibleStage = highestEligibleStage
        ⟨passFor review.gateResults .shadow, passFor review.gateResults .canary,
          passFor review.gateResults .publicStage⟩ ∧
      review.reasonCodes = reviewReasonCodes rt input review.stageEligibility := by
  unfold createPromotionReview at h
  obtain ⟨-, -, h⟩ := Fallible.bind_ok.mp h
  obtain ⟨-, -, h⟩ := Fallible.bind_ok.mp h
  cases h
  exact ⟨rfl, rfl, by simp only⟩

theorem createPromotionAuthorization_ok {isReasonCode : String → Bool} {review : PromotionReview}
    {stage : Stage} {token : Option String} {authorization : PromotionAuthorization}
    (h : createPromotionAuthorization rt isReasonCode review stage token = .ok authorization) :
    authorization.targetStage = stage ∧ (authorization.status = .authorized →
      stageRank (some stage) ≤ stageRank review.highestEligibleStage ∧ token.isSome = true) := by
  unfold createPromotionAuthorization at h
  obtain ⟨-, h⟩ := Fallible.throwIf_bind_ok.mp h
  have hcore : authorization.targetStage = stage ∧ authorization.status =
      if decide (stageRank (some stage) ≤ stageRank review.highestEligibleStage) && token.isSome then
        .authorized else .blocked := by
    dsimp only at h
    split at h
    · obtain ⟨-, -, h⟩ := Fallible.bind_ok.mp h
      cases h
      exact ⟨rfl, rfl⟩
    · cases h
      exact ⟨rfl, rfl⟩
  refine ⟨hcore.1, fun hauthorized => ?_⟩
  rw [hcore.2] at hauthorized
  split at hauthorized
  · rename_i hboth
    simpa using hboth
  · cases hauthorized

/-- The gates of a stage that was authorized on a created review have passed. -/
theorem authorized_gates {input : ReviewInput} {review : PromotionReview}
    (hreview : createPromotionReview rt input = .ok review) {stage : Stage}
    (hrank : stageRank (some stage) ≤ stageRank review.highestEligibleStage) :
    ∀ gate ∈ review.gateResults, stage ∈ gateRequirements gate.gateId → gate.status = .pass := by
  obtain ⟨hgates, hhighest, -⟩ := createPromotionReview_ok hreview
  have hrequired : ∀ gate ∈ review.gateResults,
      gate.requiredFor = gateRequirements gate.gateId := by
    rw [hgates]
    exact createGateResults_requirements
  rw [hhighest] at hrank
  have hpass := passFor_of_rank (fun hp => passFor_earlier hp fun gate hgate hmem => by
      rw [hrequired gate hgate] at hmem ⊢
      exact (gateRequirements_mono gate.gateId).2 hmem)
    (fun hp => passFor_earlier hp fun gate hgate hmem => by
      rw [hrequired gate hgate] at hmem ⊢
      exact (gateRequirements_mono gate.gateId).1 hmem) hrank
  intro gate hgate hmem
  refine passFor_iff.mp hpass gate hgate ?_
  rwa [hrequired gate hgate]

/-! ## 3. Assignments -/

theorem assign_v3 {active : Bool} {status : AuthorizationStatus} {stage : Stage}
    {bucket allocation : ℤ} (h : (assign active status stage bucket allocation).servingEngine = .v3) :
    active = false ∧ status = .authorized ∧
      (stage = .canary ∧ bucket < allocation ∨ stage = .publicStage) := by
  unfold assign at h
  split at h
  · cases h
  rename_i hactive
  split at h
  · cases h
  rename_i hstatus
  refine ⟨by simpa using hactive, not_not.mp hstatus, ?_⟩
  cases stage with
  | shadow => cases h
  | canary =>
    dsimp only at h
    split at h
    · rename_i hlt
      exact .inl ⟨rfl, hlt⟩
    · cases h
  | publicStage => exact .inr rfl

/-- A larger allocation serves V3 to whom a smaller one serves it. -/
theorem assign_mono {active : Bool} {status : AuthorizationStatus} {stage : Stage}
    {bucket allocation allocation' : ℤ} (hle : allocation ≤ allocation')
    (h : (assign active status stage bucket allocation).servingEngine = .v3) :
    (assign active status stage bucket allocation').servingEngine = .v3 := by
  obtain ⟨rfl, rfl, ⟨rfl, hlt⟩ | rfl⟩ := assign_v3 h
  · simp [assign, hlt.trans_le hle]
  · rfl

/-- The assignment records what was assigned. -/
def Records (core : AssignmentCore) (assigned : Assigned) : Prop :=
  core.servingEngine = assigned.servingEngine ∧ core.reason = assigned.reason ∧
    core.canaryBucket = assigned.canaryBucket ∧
    core.canaryAllocationBasisPoints = assigned.canaryAllocationBasisPoints

theorem createServingAssignment_ok {authorization : PromotionAuthorization}
    {exposureToken : String} {allocation : ℤ} {killSwitch : KillSwitchState}
    {assignment : ServingAssignment}
    (h : createServingAssignment rt authorization exposureToken allocation killSwitch =
      .ok assignment) :
    Records assignment.toAssignmentCore (assign killSwitch.active authorization.status
        authorization.targetStage (canaryBucketOf rt exposureToken) allocation) ∧
      assignment.killSwitchActive = killSwitch.active ∧
      assignment.targetStage = authorization.targetStage := by
  unfold createServingAssignment at h
  obtain ⟨-, h⟩ := Fallible.throwIf_bind_ok.mp h
  obtain ⟨-, h⟩ := Fallible.throwIf_bind_ok.mp h
  obtain ⟨-, -, h⟩ := Fallible.bind_ok.mp h
  obtain ⟨-, h⟩ := Fallible.throwIf_bind_ok.mp h
  cases h
  exact ⟨⟨rfl, rfl, rfl, rfl⟩, rfl, rfl⟩

theorem evaluatePromotionKillSwitch_inactive {telemetry : KillSwitchTelemetry}
    {killSwitch : KillSwitchState}
    (h : evaluatePromotionKillSwitch rt telemetry = .ok killSwitch)
    (hinactive : killSwitch.active = false) (trigger : KillSwitchTrigger) :
    telemetry.triggers trigger = false := by
  unfold evaluatePromotionKillSwitch at h
  split at h
  · cases h
  · cases h
    have hnone : killSwitchTriggers.filter telemetry.triggers = [] := by simpa using hinactive
    have hmem : trigger ∈ killSwitchTriggers := by cases trigger <;> decide
    simpa using List.filter_eq_nil_iff.mp hnone trigger hmem

/-! ## 4. The gates -/

theorem v3_served_through_gates (rt : Runtime) (isReasonCode : String → Bool) :
    (∀ a, validateServingAssignment rt a = true → a.servingEngine = .v3 →
      (ServedThroughGate a.toAssignmentCore ↔ ¬ Unmatched a.toAssignmentCore)) ∧
    ∀ input review stage token authorization telemetry killSwitch exposureToken allocation
        assignment,
      createPromotionReview rt input = .ok review →
      createPromotionAuthorization rt isReasonCode review stage token = .ok authorization →
      evaluatePromotionKillSwitch rt telemetry = .ok killSwitch →
      createServingAssignment rt authorization exposureToken allocation killSwitch =
        .ok assignment →
      assignment.servingEngine = .v3 →
      token.isSome = true ∧
      (∀ gate ∈ review.gateResults, stage ∈ gateRequirements gate.gateId → gate.status = .pass) ∧
      (∀ trigger, telemetry.triggers trigger = false) ∧
      ∀ allocation' assignment', allocation ≤ allocation' →
        createServingAssignment rt authorization exposureToken allocation' killSwitch =
          .ok assignment' → assignment'.servingEngine = .v3 := by
  refine ⟨fun a haccepted hengine => servedThroughGate_iff haccepted hengine, ?_⟩
  intro input review stage token authorization telemetry killSwitch exposureToken allocation
    assignment hreview hauthorization hkill hassignment hengine
  rw [(createServingAssignment_ok hassignment).1.1] at hengine
  obtain ⟨hinactive, hstatus, -⟩ := assign_v3 hengine
  obtain ⟨-, hauthorized⟩ := createPromotionAuthorization_ok hauthorization
  obtain ⟨hrank, htoken⟩ := hauthorized hstatus
  refine ⟨htoken, authorized_gates hreview hrank,
    evaluatePromotionKillSwitch_inactive hkill hinactive, ?_⟩
  intro allocation' assignment' hle hassignment'
  rw [(createServingAssignment_ok hassignment').1.1]
  exact assign_mono hle hengine

theorem isAuditIdentityValid_create : isAuditIdentityValid createAuditIdentity = true := by
  simp [isAuditIdentityValid, createAuditIdentity]

/-- The validator accepts an assignment of the shadow stage that serves V3. -/
def shadowAssignment : AssignmentCore where
  assignmentId := "fnv1a32-00000000"
  version := shadowPromotionVersionV3
  targetStage := .shadow
  servingEngine := .v3
  canaryBucket := none
  canaryAllocationBasisPoints := 0
  killSwitchActive := false
  rollbackRequired := false
  reason := .publicV3Authorized
  audit := createAuditIdentity

theorem shadow_assignment_serves_v3 :
    ¬ ∀ rt a, validateServingAssignment rt a = true → a.servingEngine = .v3 →
      ServedThroughGate a.toAssignmentCore := by
  intro hall
  have haccepted : validateServingAssignment plainRuntime { shadowAssignment with
      fingerprint := createAssignmentFingerprint plainRuntime shadowAssignment } = true := by
    have hhash : isStableHash "fnv1a32-00000000" = true := by decide
    simp [validateServingAssignment, shadowAssignment, hhash, validReasonEnginePair,
      validKillSwitchFallback, isAuditIdentityValid_create, maximumInitialCanaryBasisPoints]
  have hgate := hall _ _ haccepted rfl
  simp [ServedThroughGate, shadowAssignment] at hgate

/-! ### A chain that serves V3 -/

def passedCore : EvaluationCore where
  version := "3.0.0-evaluation-calibration.1"
  phase := "v3-10"
  evaluationApplication := "offline-only"
  status := .pass
  protocolFingerprint := "fnv1a32-00000001"
  thresholdFingerprint := "fnv1a32-00000002"
  datasetFingerprint := "fnv1a32-00000003"
  blindEvaluationFingerprint := "fnv1a32-00000004"
  thresholdsFrozenBeforeResults := true
  gates := []
  candidateState := "eligible-for-v3-11-shadow-gate"
  productionPromotionAllowed := false
  automaticPromotionAllowed := false
  publicV3Enabled := false
  nextGate := "v3-11-shadow"
  rest := []

def passedEvaluation (rt : Runtime) : EvaluationResult :=
  { passedCore with
    fingerprint := createStableHash rt (.obj passedCore.fields)
      "stayopti-v3-evaluation-calibration-result" }

def readyCore : DashboardCore :=
  { dashboardCore [] with status := "ready-for-canary-review" }

def readyDashboard (rt : Runtime) : ShadowRegressionDashboard :=
  { readyCore with
    dashboardId := "fnv1a32-00000005"
    fingerprint := createStableHash rt
      (.obj (("dashboardId", .str "fnv1a32-00000005") :: readyCore.fields))
      "stayopti-v3-shadow-dashboard" }

def passedGate : GateEvidence := ⟨.pass, some "fnv1a32-00000006"⟩

def passedInput (rt : Runtime) : ReviewInput where
  evaluationResult := some (passedEvaluation rt)
  shadowDashboard := some (readyDashboard rt)
  externalGates := ⟨passedGate, passedGate, passedGate, passedGate, passedGate⟩
  canaryEvidence := ⟨.pass, 500, 24, some 0, some 0, 0, .pass, some "fnv1a32-00000007"⟩

theorem evaluationPass_passed (rt : Runtime) : evaluationPass rt (passedInput rt) = true := by
  have hhashes : ∀ h ∈ ["fnv1a32-00000001", "fnv1a32-00000002", "fnv1a32-00000003",
      "fnv1a32-00000004"], isStableHash h = true := by
    decide
  simp only [List.forall_mem_cons] at hhashes
  -- the fingerprint is the hash that the validator computes again
  have hfingerprint : createStableHash rt (.obj (passedEvaluation rt).fields)
      "stayopti-v3-evaluation-calibration-result" = (passedEvaluation rt).fingerprint := rfl
  have hvalid : validateEvaluationCalibrationResult rt (passedEvaluation rt) = true := by
    unfold validateEvaluationCalibrationResult
    rw [hfingerprint]
    simp only [decide_true, Bool.and_true]
    simp [passedEvaluation, passedCore, hhashes]
  have hstatus : (passedEvaluation rt).status = .pass ∧
      (passedEvaluation rt).candidateState = "eligible-for-v3-11-shadow-gate" := ⟨rfl, rfl⟩
  have hresult : (passedInput rt).evaluationResult = some (passedEvaluation rt) := rfl
  rw [evaluationPass, hresult, Option.any_some, hvalid, hstatus.1, hstatus.2, decide_eq_true rfl,
    decide_eq_true rfl]
  rfl

theorem clean_readyDashboard (rt : Runtime) : Clean (.obj ((readyDashboard rt).fields ++
    [("fingerprint", .str (readyDashboard rt).fingerprint)])) := by
  have hnum : ∀ x, Clean (.num x) := fun _ _ => rfl
  have hcounts : Clean readyCore.counts.toJson := by
    refine clean_obj ["observations", "comparisons", "executionErrors", "exactDecisionAgreements",
      "selectionDivergences", "statusDivergences", "abstentionDivergences", "criticalRegressions"]
      (by decide +kernel) rfl ?_
    simp [hnum]
  have hrates : Clean readyCore.rates.toJson := by
    have hnum? : ∀ x, Clean (.num? x) := by
      rintro (_ | x) path <;> rfl
    refine clean_obj ["executionErrorRate", "exactDecisionAgreementRate", "selectionAgreementRate",
      "statusAgreementRate", "exactReasonAgreementRate"] (by decide +kernel) rfl ?_
    simp [hnum, hnum?]
  have hsummary : Clean readyCore.gateSummary.toJson := by
    refine clean_obj ["minimumObservationCountMet", "minimumComparisonCountMet",
      "executionErrorRateWithinLimit", "zeroCriticalRegressions", "observedSegmentGroupsSufficient"]
      (by decide +kernel) rfl ?_
    simp [clean_bool]
  have hlists : readyCore.criticalRegressionCounts = [] ∧ readyCore.reasonDiffCounts = [] ∧
      readyCore.segmentMetrics = [] := ⟨by decide, rfl, rfl⟩
  have hnone : Clean (.arr []) := fun _ => rfl
  refine clean_obj ["dashboardId", "version", "application", "publicServingEngine",
    "rawDecisionPayloadStored", "piiAllowed", "commercialFieldsAllowed", "counts", "rates",
    "criticalRegressionCounts", "reasonDiffCounts", "segmentMetrics", "gateSummary", "status",
    "audit", "fingerprint"] (by decide +kernel) rfl ?_
  simp [ShadowRegressionDashboard.fields, DashboardCore.fields, readyDashboard, clean_str,
    clean_bool, hcounts, hrates, hsummary, hlists, hnone, clean_audit]

theorem dashboardPass_passed (rt : Runtime) : dashboardPass rt (passedInput rt) = true := by
  have hhash : isStableHash "fnv1a32-00000005" = true := by decide
  have hvalid : validateShadowRegressionDashboard rt (readyDashboard rt) = true := by
    unfold validateShadowRegressionDashboard
    rw [clean_readyDashboard]
    simp [ShadowRegressionDashboard.fields, readyDashboard, hhash, readyCore, dashboardCore,
      isAuditIdentityValid_create]
  have hstatus : (readyDashboard rt).status = "ready-for-canary-review" := rfl
  have hdashboard : (passedInput rt).shadowDashboard = some (readyDashboard rt) := rfl
  rw [dashboardPass, hdashboard, Option.any_some, hvalid, hstatus, decide_eq_true rfl]
  rfl

/-! ### The validators accept what is created -/

theorem createGateResults_ids {input : ReviewInput} :
    (createGateResults rt input).map (·.gateId) = expectedGateIds := rfl

theorem gatePassesFor_created {input : ReviewInput} {review : PromotionReview}
    (h : review.gateResults = createGateResults rt input) (stage : Stage) :
    gatePassesFor review stage = passFor review.gateResults stage := by
  unfold gatePassesFor passFor
  rw [h]
  cases stage <;> simp [createGateResults, expectedGateIds, gateRequirements]

theorem createPromotionReview_accepted {isReasonCode : String → Bool} {input : ReviewInput}
    {review : PromotionReview} (h : createPromotionReview rt input = .ok review)
    (hcodes : review.reasonCodes.all isReasonCode = true)
    (hlinked : ∀ gate ∈ review.gateResults, linked gate.status gate.evidenceFingerprint = true) :
    validatePromotionReview rt isReasonCode review = true := by
  have hgates := (createPromotionReview_ok h).1
  have hids : review.gateResults.map (·.gateId) = expectedGateIds := by
    rw [hgates, createGateResults_ids]
  have hrequired : (review.gateResults.all fun gate =>
      gate.requiredFor = gateRequirements gate.gateId &&
        linked gate.status gate.evidenceFingerprint) = true := by
    rw [List.all_eq_true]
    intro gate hgate
    have hrow := createGateResults_requirements gate (hgates ▸ hgate)
    simp [hrow, hlinked gate hgate]
  have hnodup : expectedGateIds.Nodup := by decide
  unfold createPromotionReview at h
  obtain ⟨-, -, h⟩ := Fallible.bind_ok.mp h
  obtain ⟨-, -, h⟩ := Fallible.bind_ok.mp h
  unfold validatePromotionReview
  simp only [hids, hrequired, hcodes, gatePassesFor_created hgates, hnodup]
  cases h
  simp [isStableHash_createStableHash, isAuditIdentityValid_create]

theorem createPromotionAuthorization_accepted {isReasonCode : String → Bool}
    {review : PromotionReview} {stage : Stage} {token : Option String}
    {authorization : PromotionAuthorization}
    (h : createPromotionAuthorization rt isReasonCode review stage token = .ok authorization) :
    validatePromotionAuthorization rt authorization = true := by
  unfold createPromotionAuthorization at h
  obtain ⟨hreview, h⟩ := Fallible.throwIf_bind_ok.mp h
  have hfingerprint : isStableHash review.fingerprint = true := by
    simp only [validatePromotionReview, Bool.not_eq_true', Bool.not_eq_false, Bool.and_eq_true,
      decide_eq_true_eq] at hreview
    rw [hreview.2, createPromotionReviewFingerprint]
    exact isStableHash_createStableHash _ _ _
  dsimp only at h
  split at h
  · rename_i hrecorded
    obtain ⟨-, -, h⟩ := Fallible.bind_ok.mp h
    cases h
    simp [validatePromotionAuthorization, hfingerprint, isStableHash_createStableHash,
      isAuditIdentityValid_create, hrecorded]
  · rename_i hrecorded
    cases h
    simp [validatePromotionAuthorization, hfingerprint, isStableHash_createStableHash,
      isAuditIdentityValid_create, hrecorded]

theorem evaluatePromotionKillSwitch_accepted {telemetry : KillSwitchTelemetry}
    {killSwitch : KillSwitchState}
    (h : evaluatePromotionKillSwitch rt telemetry = .ok killSwitch) :
    validateKillSwitchState rt killSwitch = true := by
  unfold evaluatePromotionKillSwitch at h
  split at h
  · cases h
  · cases h
    have hnodup : (killSwitchTriggers.filter telemetry.triggers).Nodup :=
      List.Nodup.filter _ (by decide)
    have hmem : ∀ trigger, trigger ∈ killSwitchTriggers := by
      intro trigger
      cases trigger <;> decide
    simp [validateKillSwitchState, hnodup, hmem, isStableHash_createStableHash,
      isAuditIdentityValid_create]

/-- The cascade gives a reason that goes with the engine and with the kill switch, and a bucket
    and an allocation in their ranges. -/
theorem assign_accepted {core : AssignmentCore} {active : Bool} {status : AuthorizationStatus}
    {stage : Stage} {bucket allocation : ℤ} (hbucket : 0 ≤ bucket ∧ bucket < 10000)
    (hallocation : 0 ≤ allocation ∧ allocation ≤ maximumInitialCanaryBasisPoints)
    (hrecords : Records core (assign active status stage bucket allocation))
    (hactive : core.killSwitchActive = active) :
    0 ≤ core.canaryAllocationBasisPoints ∧
      core.canaryAllocationBasisPoints ≤ maximumInitialCanaryBasisPoints ∧
      core.canaryBucket.all (fun b => 0 ≤ b && b < 10000) = true ∧
      validReasonEnginePair core = true ∧ validKillSwitchFallback core = true := by
  obtain ⟨hengine, hreason, hcanary, hlimit⟩ := hrecords
  unfold validReasonEnginePair validKillSwitchFallback
  rw [hlimit, hcanary, hengine, hreason, hactive]
  have hzero : (0 : ℤ) ≤ maximumInitialCanaryBasisPoints := by decide
  unfold assign
  cases active with
  | true => simp [hzero]
  | false =>
    cases status with
    | blocked => simp [hzero]
    | authorized =>
      cases stage with
      | shadow => simp [hzero]
      | publicStage => simp [hzero]
      | canary => by_cases hlt : bucket < allocation <;> simp [hlt, hbucket, hallocation]

theorem createServingAssignment_accepted {authorization : PromotionAuthorization}
    {exposureToken : String} {allocation : ℤ} {killSwitch : KillSwitchState}
    {assignment : ServingAssignment}
    (h : createServingAssignment rt authorization exposureToken allocation killSwitch =
      .ok assignment) : validateServingAssignment rt assignment = true := by
  obtain ⟨hrecords, hactive, -⟩ := createServingAssignment_ok h
  unfold createServingAssignment at h
  obtain ⟨-, h⟩ := Fallible.throwIf_bind_ok.mp h
  obtain ⟨hkill, h⟩ := Fallible.throwIf_bind_ok.mp h
  obtain ⟨-, -, h⟩ := Fallible.bind_ok.mp h
  obtain ⟨hlimit, h⟩ := Fallible.throwIf_bind_ok.mp h
  have hrollback : killSwitch.rollbackRequired = killSwitch.active := by
    simp only [validateKillSwitchState, Bool.not_eq_true', Bool.not_eq_false, Bool.and_eq_true,
      decide_eq_true_eq] at hkill
    exact hkill.1.1.1.1.1.2
  have hallocation : 0 ≤ allocation ∧ allocation ≤ maximumInitialCanaryBasisPoints := by
    simpa using hlimit
  have hbucket : 0 ≤ canaryBucketOf rt exposureToken ∧ canaryBucketOf rt exposureToken < 10000 := by
    unfold canaryBucketOf
    dsimp only
    omega
  obtain ⟨hlow, hhigh, hrange, hpair, hswitch⟩ :=
    assign_accepted hbucket hallocation hrecords hactive
  simp only [validateServingAssignment, hlow, hhigh, hrange, hpair, hswitch]
  cases h
  simp [isStableHash_createStableHash, isAuditIdentityValid_create, hrollback]

/-! ### The chain -/

/-- The reason codes of `reviewReasonCodes`. -/
def reviewCodes : List String :=
  ["promotion:v2-public-authority", "promotion:public-disabled",
    "promotion:no-automatic-promotion", "promotion:manual-approval-required",
    "promotion:policy-audit-visible", "promotion:kill-switch-armed", "evaluation:gate-pass",
    "promotion:calibration-gate-required", "evaluation:blind-human-required",
    "promotion:human-gate-required", "promotion:public-rates-verified",
    "integrity:public-rates-unverified", "promotion:monitoring-required",
    "promotion:canary-eligible", "promotion:canary-blocked",
    "promotion:critical-regression-blocked"]

theorem reviewReasonCodes_known (input : ReviewInput) (eligibility : StageEligibility) :
    ∀ code ∈ reviewReasonCodes rt input eligibility, code ∈ reviewCodes := by
  intro code hcode
  simp only [reviewReasonCodes, mem_uniqueSorted, List.mem_append] at hcode
  rcases hcode with hcode | hcode
  · simp only [List.mem_cons, List.not_mem_nil, or_false] at hcode
    unfold reviewCodes
    rcases hcode with h | h | h | h | h | h | h | h | h | h | h <;> rw [h]
    on_goal 7 => split
    on_goal 9 => split
    on_goal 11 => split
    on_goal 13 => split
    on_goal 15 => split
    all_goals simp only [List.mem_cons, true_or, or_true]
  · split at hcode
    · rw [List.mem_singleton.mp hcode]
      simp [reviewCodes]
    · cases hcode

def quietTelemetry : KillSwitchTelemetry where
  manualTrigger := false
  priceIntegrity := .pass
  publicRateConsistency := .pass
  criticalRegressionCount := 0
  errorRateRegression := 0
  p95LatencyRegressionMs := 0

theorem quietTelemetry_triggers (trigger : KillSwitchTrigger) :
    quietTelemetry.triggers trigger = false := by
  cases trigger with
  | errorRateRegression =>
    norm_num [KillSwitchTelemetry.triggers, quietTelemetry, maximumCanaryErrorRateRegression]
  | latencyRegression =>
    norm_num [KillSwitchTelemetry.triggers, quietTelemetry, maximumCanaryP95LatencyRegressionMs]
  | _ => decide

theorem passedGates (rt : Runtime) : ∀ gate ∈ createGateResults rt (passedInput rt),
    gate.status = .pass ∧ linked gate.status gate.evidenceFingerprint = true := by
  have hlinked : ∀ fingerprint, isStableHash fingerprint = true →
      linked .pass (some fingerprint) = true := by
    intro fingerprint hhash
    simp [linked, isEvidenceFingerprint, hhash]
  have hevidence : isStableHash "fnv1a32-00000006" = true ∧
      isStableHash "fnv1a32-00000007" = true := by
    decide
  have hcanary : canaryEvidencePasses (passedInput rt).canaryEvidence = true := by
    have hrates : (0 : ℚ) ≤ maximumCanaryErrorRateRegression ∧
        (0 : ℚ) ≤ maximumCanaryP95LatencyRegressionMs := by
      norm_num [maximumCanaryErrorRateRegression, maximumCanaryP95LatencyRegressionMs]
    simp [canaryEvidencePasses, passedInput, minimumCanaryObservationCount,
      minimumCanaryMonitoredHours, hrates, isEvidenceFingerprint, hevidence]
  simp only [createGateResults, evaluationPass_passed, dashboardPass_passed, hcanary, recordStatus,
    if_true, List.forall_mem_cons]
  simp [passedInput, passedGate, passedEvaluation, readyDashboard, hlinked, hevidence,
    isStableHash_createStableHash]

theorem passed_review (rt : Runtime) : ∃ review,
    createPromotionReview rt (passedInput rt) = .ok review ∧
      validatePromotionReview rt reviewCodes.contains review = true ∧
      review.highestEligibleStage = some .publicStage := by
  have hexternal : validateExternalGates (passedInput rt).externalGates = .ok () := by
    have hgate : ∀ label, validateGateEvidence passedGate label = .ok () := by
      intro label
      have hlinked : linked passedGate.status passedGate.evidenceFingerprint = true := by decide
      rw [validateGateEvidence, if_pos hlinked]
    simp only [validateExternalGates, passedInput, hgate]
    rfl
  have hcanary : validateCanaryEvidence (passedInput rt).canaryEvidence = .ok () := by
    have hhash : isStableHash "fnv1a32-00000007" = true := by decide
    simp [validateCanaryEvidence, passedInput, isEvidenceFingerprint, hhash]
    rfl
  obtain ⟨review, hreview⟩ : ∃ review, createPromotionReview rt (passedInput rt) = .ok review := by
    unfold createPromotionReview
    rw [hexternal, hcanary]
    exact ⟨_, rfl⟩
  obtain ⟨hgates, hhighest, hcodes⟩ := createPromotionReview_ok hreview
  refine ⟨review, hreview, createPromotionReview_accepted hreview ?_ ?_, ?_⟩
  · rw [hcodes, List.all_eq_true]
    exact fun code hcode => by simpa using reviewReasonCodes_known _ _ code hcode
  · rw [hgates]
    exact fun gate hgate => (passedGates rt gate hgate).2
  · have hpass : passFor review.gateResults .publicStage = true := by
      rw [passFor_iff, hgates]
      exact fun gate hgate _ => (passedGates rt gate hgate).1
    simp [hhighest, highestEligibleStage, hpass]

theorem passed_authorization {review : PromotionReview}
    (hreview : validatePromotionReview rt reviewCodes.contains review = true)
    (hstage : review.highestEligibleStage = some .publicStage) : ∃ authorization,
    createPromotionAuthorization rt reviewCodes.contains review .publicStage
        (some "operator-approval-1") = .ok authorization ∧
      authorization.targetStage = .publicStage ∧ authorization.status = .authorized := by
  have htoken : requireOpaqueToken (some "operator-approval-1") "manualApprovalToken" = .ok () :=
    requireOpaqueToken_ok.mpr (by decide)
  simp only [createPromotionAuthorization, hreview, Option.isSome_some, htoken]
  exact ⟨_, rfl, rfl, by simp [hstage]⟩

theorem created_assignment {authorization : PromotionAuthorization} {killSwitch : KillSwitchState}
    {exposureToken : String} {allocation : ℤ}
    (hauthorization : validatePromotionAuthorization rt authorization = true)
    (hkill : validateKillSwitchState rt killSwitch = true)
    (htoken : requireOpaqueToken (some exposureToken) "exposureToken" = .ok ())
    (hallocation : 0 ≤ allocation ∧ allocation ≤ maximumInitialCanaryBasisPoints) :
    ∃ assignment, createServingAssignment rt authorization exposureToken allocation killSwitch =
      .ok assignment := by
  have hlimit : ¬ (allocation < 0 || maximumInitialCanaryBasisPoints < allocation) = true := by
    simpa using hallocation
  simp only [createServingAssignment, hauthorization, hkill, htoken, if_neg hlimit]
  exact ⟨_, rfl⟩

theorem v3_served_through_gates_public : ∃ review authorization assignment killSwitch,
    createPromotionReview plainRuntime (passedInput plainRuntime) = .ok review ∧
      createPromotionAuthorization plainRuntime reviewCodes.contains review .publicStage
        (some "operator-approval-1") = .ok authorization ∧
      evaluatePromotionKillSwitch plainRuntime quietTelemetry = .ok killSwitch ∧
      createServingAssignment plainRuntime authorization "exposure-token-1" 100 killSwitch =
        .ok assignment ∧ ServedThroughGate assignment.toAssignmentCore ∧
      ∀ trigger, quietTelemetry.triggers trigger = false := by
  obtain ⟨review, hreview, hvalid, hhighest⟩ := passed_review plainRuntime
  obtain ⟨authorization, hauthorization, hstage, hstatus⟩ := passed_authorization hvalid hhighest
  obtain ⟨killSwitch, hkill, hinactive⟩ : ∃ killSwitch,
      evaluatePromotionKillSwitch plainRuntime quietTelemetry = .ok killSwitch ∧
        killSwitch.active = false := by
    have hquiet : killSwitchTriggers.filter quietTelemetry.triggers = [] := by
      rw [List.filter_eq_nil_iff]
      exact fun trigger _ => by simp [quietTelemetry_triggers]
    refine ⟨_, rfl, ?_⟩
    dsimp only
    rw [hquiet]
    rfl
  have htoken : requireOpaqueToken (some "exposure-token-1") "exposureToken" = .ok () :=
    requireOpaqueToken_ok.mpr (by decide)
  have hallocation : (0 : ℤ) ≤ 100 ∧ 100 ≤ maximumInitialCanaryBasisPoints := by decide
  obtain ⟨assignment, hassignment⟩ := created_assignment
    (createPromotionAuthorization_accepted hauthorization)
    (evaluatePromotionKillSwitch_accepted hkill) htoken hallocation
  obtain ⟨hrecords, -, htarget⟩ := createServingAssignment_ok hassignment
  rw [hinactive, hstage, hstatus] at hrecords
  have hengine : assignment.servingEngine = .v3 := hrecords.1
  have hreason : assignment.reason = .publicV3Authorized := hrecords.2.1
  have hmatched : ¬ Unmatched assignment.toAssignmentCore := by
    simp [Unmatched, htarget, hstage, hreason]
  have hgate := (v3_served_through_gates plainRuntime reviewCodes.contains).1 assignment
    (createServingAssignment_accepted hassignment) hengine
  have hchain := (v3_served_through_gates plainRuntime reviewCodes.contains).2 _ _ _ _ _ _ _ _ _ _
    hreview hauthorization hkill hassignment hengine
  exact ⟨review, authorization, assignment, killSwitch, hreview, hauthorization, hkill,
    hassignment, hgate.mpr hmatched, hchain.2.2.1⟩

end SmartStay.Promotion
