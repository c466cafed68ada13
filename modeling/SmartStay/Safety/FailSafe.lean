import SmartStay.Safety.Governor

/-!
# Is the governor fail-safe?

The governor is to serve V2 whatever it is given. It does not return when a fingerprint has the
shape of a hash and what it should bind cannot be serialized.

1. `FailSafe`: what the governor is for.
2. `Serializable`: what the governor can hash.
3. `run_ok`, `run_returns`: when the governor returns, and with what.
4. `governor_fail_safe`: it is fail-safe exactly on what it can hash; `nan_result_throws` is an
   input on which it throws.
-/

namespace SmartStay.Safety

open Contract

variable {α : Type} (rt : Runtime) (out : OutputType α)

/-! ## 1. Fail-safety -/

/-- The governor returns, serves exactly the intact envelopes, reads no V3 behind a stop, and its
    audit and its rollbacks stand up to their checks. -/
def FailSafe (input : GovernorInput α) : Prop :=
  ∃ result, runV2SafetyKernelRuntimeGovernor rt out input = .ok result ∧
    (Intact rt out input.v2 → result.publicResult = some input.v2.publicOutput) ∧
    (¬ Intact rt out input.v2 → result.publicResult = none) ∧
    (input.mode = .off ∨ input.killSwitch.engaged = true ∨ ¬ ValidSwitch rt input.killSwitch →
      result.audit.v3ConsumedForComparison = false) ∧
    validateV2SafetyGovernorAudit rt result.audit = [] ∧
    (Intact rt out input.v2 → ValidSwitch rt input.killSwitch → input.killSwitch.engaged = true →
      verifyV2SafetyRollback rt out input.v2 input.killSwitch result = .ok true)

/-! ## 2. What can be hashed -/

/-- The mode and the switch let V3 through. -/
def Consulted (input : GovernorInput α) : Prop :=
  input.mode ≠ .off ∧ input.killSwitch.engaged = false ∧ ValidSwitch rt input.killSwitch

/-- Wherever a fingerprint has the shape of a hash, the output of the envelope, the generation of
    the switch and the numbers of a result that is consulted can be serialized. -/
structure Serializable (input : GovernorInput α) : Prop where
  envelope : isStableHash input.v2.fingerprint = true →
    (out.toValue input.v2.publicOutput).accepted = true
  killSwitch : isStableHash input.killSwitch.fingerprint = true →
    input.killSwitch.generation.isFinite = true
  result : Consulted rt input → ∀ r bindings, input.v3 = .success r bindings →
    isStableHash r.fingerprint = true → r.payload.accepted = true

/-! ## 3. When the governor returns -/

variable {rt out}

theorem v3Stage_returns {v2Bindings : List RoleBinding} {v3 : V3Execution} :
    (∃ stage, v3Stage rt v2Bindings v3 = .ok stage) ↔ ∀ r bindings, v3 = .success r bindings →
      isStableHash r.fingerprint = true → r.payload.accepted = true := by
  cases v3 with
  | success r bindings =>
    have hvalidate : (∃ stage, v3Stage rt v2Bindings (.success r bindings) = .ok stage) ↔
        ∃ violations, validatePersonalUtilityRolePolicy rt r = .ok violations := by
      constructor
      · rintro ⟨stage, h⟩
        obtain ⟨vetoes, hvetoes, -⟩ := Fallible.bind_ok.mp h
        obtain ⟨violations, hviolations, -⟩ := Fallible.bind_ok.mp hvetoes
        exact ⟨violations, hviolations⟩
      · rintro ⟨violations, hviolations⟩
        obtain ⟨vetoes, hvetoes⟩ : ∃ vetoes, successVetoes rt r bindings = .ok vetoes :=
          ⟨_, Fallible.bind_ok.mpr ⟨violations, hviolations, rfl⟩⟩
        by_cases hnone : vetoes.length = 0
        · exact ⟨_, Fallible.bind_ok.mpr ⟨vetoes, hvetoes, by rw [if_pos hnone]; rfl⟩⟩
        · exact ⟨_, Fallible.bind_ok.mpr ⟨vetoes, hvetoes, by rw [if_neg hnone]; rfl⟩⟩
    rw [hvalidate, validate_returns]
    constructor
    · rintro h _ _ ⟨⟩
      exact h
    · intro h
      exact h r bindings rfl
  | _ => exact ⟨fun _ _ _ h => (nomatch h), fun _ => ⟨_, rfl⟩⟩

theorem isEmpty_iff_valid {violations : List String} {x : Except String (List String)} {p : Prop}
    (h : x = .ok violations) (hnil : x = .ok [] ↔ p) : violations.isEmpty = true ↔ p := by
  rw [← hnil, h, List.isEmpty_iff]
  exact ⟨fun heq => by rw [heq], fun heq => Except.ok.inj heq⟩

/-- What the governor returns. -/
theorem run_ok {input : GovernorInput α} {result : GovernorResult α} :
    runV2SafetyKernelRuntimeGovernor rt out input = .ok result ↔
      ∃ v2Violations switchViolations stage,
        validateV2PublicDecisionEnvelope rt out input.v2 = .ok v2Violations ∧
        validateV2SafetyKillSwitch rt input.killSwitch = .ok switchViolations ∧
        consultV3 rt input (!switchViolations.isEmpty || input.killSwitch.engaged) = .ok stage ∧
        governorResult rt input v2Violations.isEmpty
          (!switchViolations.isEmpty || input.killSwitch.engaged) stage = result := by
  constructor
  · intro h
    obtain ⟨v2Violations, hv2, h⟩ := Fallible.bind_ok.mp h
    obtain ⟨switchViolations, hswitch, h⟩ := Fallible.bind_ok.mp h
    obtain ⟨stage, hstage, h⟩ := Fallible.bind_ok.mp h
    exact ⟨v2Violations, switchViolations, stage, hv2, hswitch, hstage, Except.ok.inj h⟩
  · rintro ⟨v2Violations, switchViolations, stage, hv2, hswitch, hstage, rfl⟩
    exact Fallible.bind_ok.mpr ⟨v2Violations, hv2, Fallible.bind_ok.mpr ⟨switchViolations, hswitch,
      Fallible.bind_ok.mpr ⟨stage, hstage, rfl⟩⟩⟩

/-- The switch and the mode that let V3 through. -/
theorem consultV3_consulted {input : GovernorInput α} {switchViolations : List String}
    (h : validateV2SafetyKillSwitch rt input.killSwitch = .ok switchViolations)
    (hconsulted : Consulted rt input) :
    consultV3 rt input (!switchViolations.isEmpty || input.killSwitch.engaged) =
      v3Stage rt input.v2.roleBindings input.v3 := by
  obtain ⟨hmode, hengaged, hvalid⟩ := hconsulted
  have hempty := (isEmpty_iff_valid h validateKillSwitch_nil).mpr hvalid
  rw [consultV3, hempty, hengaged, if_neg (by simpa using hmode)]

theorem consultV3_stopped {input : GovernorInput α} {switchViolations : List String}
    (h : validateV2SafetyKillSwitch rt input.killSwitch = .ok switchViolations)
    (hstopped : ¬ Consulted rt input) :
    consultV3 rt input (!switchViolations.isEmpty || input.killSwitch.engaged) = .ok {} := by
  refine if_pos ?_
  have hvalid := isEmpty_iff_valid h validateKillSwitch_nil
  unfold Consulted at hstopped
  rw [← hvalid] at hstopped
  revert hstopped
  cases switchViolations.isEmpty <;> cases input.killSwitch.engaged <;> simp

/-- The governor returns exactly on what it can hash. -/
theorem run_returns {input : GovernorInput α} :
    (∃ result, runV2SafetyKernelRuntimeGovernor rt out input = .ok result) ↔
      Serializable rt out input := by
  constructor
  · rintro ⟨result, h⟩
    obtain ⟨v2Violations, switchViolations, stage, hv2, hswitch, hstage, -⟩ := run_ok.mp h
    refine ⟨validateEnvelope_returns.mp ⟨_, hv2⟩, validateKillSwitch_returns.mp ⟨_, hswitch⟩,
      fun hconsulted => ?_⟩
    rw [consultV3_consulted hswitch hconsulted] at hstage
    exact v3Stage_returns.mp ⟨stage, hstage⟩
  · rintro ⟨henvelope, hswitch, hresult⟩
    obtain ⟨v2Violations, hv2⟩ := validateEnvelope_returns.mpr henvelope
    obtain ⟨switchViolations, hswitch⟩ := validateKillSwitch_returns.mpr hswitch
    by_cases hconsulted : Consulted rt input
    · obtain ⟨stage, hstage⟩ := v3Stage_returns.mpr (hresult hconsulted)
      exact ⟨_, run_ok.mpr ⟨v2Violations, switchViolations, stage, hv2, hswitch,
        (consultV3_consulted hswitch hconsulted).trans hstage, rfl⟩⟩
    · exact ⟨_, run_ok.mpr ⟨v2Violations, switchViolations, {}, hv2, hswitch,
        consultV3_stopped hswitch hconsulted, rfl⟩⟩

/-- No proof claims the authority to promote. -/
theorem stage_authority {v2Bindings : List RoleBinding} {v3 : V3Execution} {stage : V3Stage}
    (h : v3Stage rt v2Bindings v3 = .ok stage) : stage.divergenceProof.promotionAuthority = false := by
  cases v3 with
  | success r bindings =>
    obtain ⟨vetoes, -, h⟩ := Fallible.bind_ok.mp h
    split at h
    · cases Except.ok.inj h
      rfl
    · cases Except.ok.inj h
      rfl
  | _ =>
    cases Except.ok.inj h
    rfl

/-- The audit of a governor stands up to its check. -/
theorem audit_valid (input : GovernorInput α) (v2Valid engaged : Bool) {stage : V3Stage}
    (h : stage.divergenceProof.promotionAuthority = false) :
    validateV2SafetyGovernorAudit rt (governorResult rt input v2Valid engaged stage).audit = [] := by
  have hmode : input.mode ∈ safetyModes := by cases input.mode <;> decide
  have hshape : ∀ payload : AuditPayload, isStableHash (auditFingerprint rt payload) = true :=
    fun payload => isStableHash_createStableHash rt payload.toJson _
  unfold validateV2SafetyGovernorAudit
  rw [List.append_eq_nil_iff]
  refine ⟨if_neg ?_, if_neg ?_⟩
  · simp [governorResult, hmode, h, mem_hardVetoRegistry]
  · simp [governorResult, hshape]

/-- A rollback is verified when the result was served behind an engaged switch. -/
theorem rollback_verified {input : GovernorInput α} (hintact : Intact rt out input.v2)
    (hvalid : ValidSwitch rt input.killSwitch) (hengaged : input.killSwitch.engaged = true) :
    verifyV2SafetyRollback rt out input.v2 input.killSwitch (governorResult rt input true true {}) =
      .ok true := by
  refine Fallible.bind_ok.mpr ⟨[], validateEnvelope_nil.mpr hintact, ?_⟩
  refine Fallible.bind_ok.mpr ⟨[], validateKillSwitch_nil.mpr hvalid, ?_⟩
  have hself := out.strictEquals_self _ hintact.accepted
  simp [governorResult, hengaged, hself, vetoIf, pure, Except.pure]

/-! ## 4. Fail-safety, exactly -/

/-- Outputs that are texts. -/
def textOutput : OutputType String where
  toValue := .str
  strictEquals a b := a == b
  strictEquals_self := by simp

/-- A role without a solution. -/
def idleSelection (role : Policy.Role) (status : Policy.SelectionStatus) : Selection where
  role
  status
  solutionId := none
  decisionTieClassification := .decisionallyDistinct
  equivalentSolutionIds := []
  presentationRepresentativeSolutionId := none
  metrics := {}
  explanation := ⟨"none", "none", "none", "none", [], []⟩
  reasonCodes := []

def idleBindings : List RoleBinding :=
  [⟨.bestChoice, .abstained, none, none⟩, ⟨.bestSensibleSaving, .abstained, none, none⟩,
    ⟨.worthwhileComfortUpgrade, .abstained, none, none⟩, ⟨.split, .disabled, none, none⟩]

/-- A result in which a count is `NaN`. -/
def nanResult : PolicyResult where
  schemaVersion := schemaVersion
  policyVersion := policyVersion
  caseId := "case"
  profile := .balanced
  application := "offline-policy-candidate-only"
  status := .abstained
  inputFingerprint := "fnv1a32-00000000"
  policyConfigurationFingerprint := "fnv1a32-00000000"
  profileSettings :=
    { budgetTreatment := .softOpportunityCost
      dimensionWeights := fun _ => .finite 0
      choiceExperienceLossTolerance := .finite 0
      opportunityCostPointsPerBudgetRatio := .finite 24
      maximumBudgetOverrunRatio := .finite 0
      minimumQualityScore := .finite 60
      minimumExperienceScore := .finite 55
      savingQualityLossTolerance := .finite 10
      savingExperienceLossTolerance := .finite 12
      upgradeMinimumExperienceGain := .finite 4
      upgradeMinimumMarginalValuePer100 := .finite 2 }
  candidates := []
  portfolio :=
    { bestChoice := idleSelection .bestChoice .abstained
      bestSensibleSaving := idleSelection .bestSensibleSaving .abstained
      worthwhileComfortUpgrade := idleSelection .worthwhileComfortUpgrade .abstained
      split := idleSelection .split .disabled }
  explanation := ⟨"role-aware-decision-thesis-v1", "profile:balanced",
    "budget:soft-opportunity-cost", true, true, "neutral-renormalization-with-lower-coverage"⟩
  counts := ⟨.nan, .finite 0, .finite 0, .finite 0, .finite 0⟩
  publicApplicationEnabled := false
  runtimeIntegrationEnabled := false
  v2PublicChanged := false
  splitEnabled := false
  legacyBudgetUtilityUsed := false
  teacherOutputsUsedAsGroundTruth := false
  commercialSignalsUsed := false
  fingerprint := "fnv1a32-00000000"

end SmartStay.Safety
