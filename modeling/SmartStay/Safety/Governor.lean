import SmartStay.Safety.PolicyResult
import SmartStay.Lib.Distinct

/-!
# The V2 safety governor

`engine-v3/safety/v2SafetyKernelRuntimeGovernorV3.ts`: the public decision of V2 travels in a
fingerprinted envelope, a kill switch blocks V3, and the governor serves V2 whatever V3 did and
writes an audit of it.

1. Vetoes, role bindings.
2. The envelope: `createV2PublicDecisionEnvelope`, `Intact`, `validateEnvelope_nil`.
3. The kill switch: `ValidSwitch`, `validateKillSwitch_nil`.
4. What is read of a V3 result: `successVetoes`, `compareBindings`, `createDivergenceProof`.
5. `runV2SafetyKernelRuntimeGovernor`, its audit and the check of a rollback.
-/

namespace SmartStay.Safety

open Contract JsSort
open Policy (Role SelectionStatus)

def kernelVersion : String := "3.0.0-v2-safety-kernel.1"

def kernelSchemaVersion : String := "3.0.0-v2-safety-kernel-schema.1"

/-! ## 1. Vetoes and bindings -/

/-- `STAYOPTI_V2_SAFETY_ROLES_V3`. -/
def safetyRoles : List Role :=
  [.bestChoice, .bestSensibleSaving, .worthwhileComfortUpgrade, .split]

inductive SafetyMode
  | off | shadow | canary
deriving DecidableEq, Repr

def SafetyMode.text : SafetyMode → String
  | .off => "off"
  | .shadow => "shadow"
  | .canary => "canary"

/-- `STAYOPTI_V2_SAFETY_MODES_V3`. -/
def safetyModes : List SafetyMode := [.off, .shadow, .canary]

/-- `StayOptiV2SafetyHardVetoCodeV3`. -/
inductive HardVeto
  | v2PublicOutputInvalid | killSwitchEngaged | modeOff | v3NotRun | v3ImportFailure | v3Timeout
  | v3Exception | v3ResultInvalid | v3PolicyUnbound | v3BestChoiceMissing
  | v3HardConstraintFailure | v3OfferIntegrityFailure | v3DominatedChoice | v3CommercialSignal
  | divergenceProofInsufficient | publicPromotionDisabled
deriving DecidableEq, Repr

def HardVeto.code : HardVeto → String
  | .v2PublicOutputInvalid => "v2-public-output-invalid"
  | .killSwitchEngaged => "kill-switch-engaged"
  | .modeOff => "mode-off"
  | .v3NotRun => "v3-not-run"
  | .v3ImportFailure => "v3-import-failure"
  | .v3Timeout => "v3-timeout"
  | .v3Exception => "v3-exception"
  | .v3ResultInvalid => "v3-result-invalid"
  | .v3PolicyUnbound => "v3-policy-unbound"
  | .v3BestChoiceMissing => "v3-best-choice-missing"
  | .v3HardConstraintFailure => "v3-hard-constraint-failure"
  | .v3OfferIntegrityFailure => "v3-offer-integrity-failure"
  | .v3DominatedChoice => "v3-dominated-choice"
  | .v3CommercialSignal => "v3-commercial-signal"
  | .divergenceProofInsufficient => "divergence-proof-insufficient"
  | .publicPromotionDisabled => "public-promotion-disabled"

/-- The codes of `STAYOPTI_V2_SAFETY_HARD_VETO_REGISTRY_V3`. -/
def hardVetoRegistry : List HardVeto :=
  [.v2PublicOutputInvalid, .killSwitchEngaged, .modeOff, .v3NotRun, .v3ImportFailure, .v3Timeout,
    .v3Exception, .v3ResultInvalid, .v3PolicyUnbound, .v3BestChoiceMissing,
    .v3HardConstraintFailure, .v3OfferIntegrityFailure, .v3DominatedChoice, .v3CommercialSignal,
    .divergenceProofInsufficient, .publicPromotionDisabled]

theorem mem_hardVetoRegistry (veto : HardVeto) : veto ∈ hardVetoRegistry := by
  cases veto <;> decide

/-- `uniqueSorted`. -/
def uniqueVetoes (rt : Runtime) (vetoes : List HardVeto) : List HardVeto :=
  sortBy (fun left right => rt.localeCompare left.code right.code) vetoes.eraseDups

@[simp] theorem mem_uniqueVetoes {rt : Runtime} {vetoes : List HardVeto} {veto : HardVeto} :
    veto ∈ uniqueVetoes rt vetoes ↔ veto ∈ vetoes := by
  rw [uniqueVetoes, mem_sortBy, List.mem_eraseDups]

/-- `StayOptiComparableRoleBindingV3`. -/
structure RoleBinding where
  role : Role
  status : SelectionStatus
  solutionId : Option String
  solutionFingerprint : Option String

def RoleBinding.toJson (b : RoleBinding) : Json :=
  .obj [("role", .str b.role.text), ("status", .str b.status.text),
    ("solutionId", .text? b.solutionId), ("solutionFingerprint", .text? b.solutionFingerprint)]

/-- `new Map(...).get(role)`: the last binding of a role. -/
def bindingOf (bindings : List RoleBinding) (role : Role) : Option RoleBinding :=
  bindings.reverse.find? fun binding => binding.role = role

def validBinding (b : RoleBinding) : Bool :=
  if b.status = .selected then
    b.solutionId.any (fun id => (JsText.trim id).length ≠ 0) &&
      b.solutionFingerprint.any isStableHash
  else b.solutionId.isNone && b.solutionFingerprint.isNone

def validateBindings (bindings : List RoleBinding) : Bool :=
  bindings.length = safetyRoles.length &&
  (bindings.map (·.role)).eraseDups.length = safetyRoles.length &&
  safetyRoles.all fun role => (bindingOf bindings role).any validBinding

/-- `canonicalBindings`. -/
def canonicalBindings (bindings : List RoleBinding) : List RoleBinding :=
  sortBy (fun left right =>
    compare (safetyRoles.idxOf left.role) (safetyRoles.idxOf right.role)) bindings

/-! ## 2. The envelope -/

/-- A type of public outputs: what the hash reads of a value, and `===`, which holds between a
    value and itself except for `NaN`. -/
structure OutputType (α : Type) where
  toValue : α → Value
  strictEquals : α → α → Bool
  strictEquals_self : ∀ a, (toValue a).accepted = true → strictEquals a a = true

/-- `value === null || value === undefined`. -/
def isNullish : Value → Bool
  | .data .null => true
  | .foreign typeName => typeName = "undefined"
  | _ => false

/-- `StayOptiV2PublicDecisionEnvelopeV3`. -/
structure Envelope (α : Type) where
  schemaVersion : String
  policyVersion : String
  publicOutput : α
  roleBindings : List RoleBinding
  fingerprint : String

section Envelope

variable {α : Type} (rt : Runtime) (out : OutputType α)

/-- The envelope without its fingerprint. -/
def Envelope.payload (e : Envelope α) : Value :=
  .obj [("schemaVersion", .str e.schemaVersion), ("policyVersion", .str e.policyVersion),
    ("publicOutput", out.toValue e.publicOutput),
    ("roleBindings", .data (.arr (e.roleBindings.map (·.toJson))))]

def envelopeNamespace : String := "stayopti-v3-v2-public-decision-envelope"

def createV2PublicDecisionEnvelope (policyVersion : String) (publicOutput : α)
    (roleBindings : List RoleBinding) : Except String (Envelope α) :=
  if isNullish (out.toValue publicOutput) || (JsText.trim policyVersion).length = 0 ||
      !validateBindings roleBindings then
    .error "V2 public decision envelope input is invalid."
  else do
    let envelope : Envelope α :=
      { schemaVersion := kernelSchemaVersion
        policyVersion
        publicOutput
        roleBindings := canonicalBindings roleBindings
        fingerprint := "" }
    let fingerprint ← hashValue rt (envelope.payload out) envelopeNamespace
    pure { envelope with fingerprint }

/-- The fields of an envelope that can be served. -/
def wellFormed (e : Envelope α) : Bool :=
  e.schemaVersion = kernelSchemaVersion && (JsText.trim e.policyVersion).length ≠ 0 &&
  !isNullish (out.toValue e.publicOutput) && validateBindings e.roleBindings

/-- The violations of `validateV2PublicDecisionEnvelopeV3`. -/
def validateV2PublicDecisionEnvelope (e : Envelope α) : Except String (List String) := do
  let bound ← fingerprintBinds rt (e.payload out) envelopeNamespace e.fingerprint
  pure ((if wellFormed out e then [] else ["v2-envelope-invalid"]) ++
    if bound then [] else ["v2-envelope-fingerprint-invalid"])

/-- The fields are those of an envelope and the fingerprint is theirs. -/
structure Intact (e : Envelope α) : Prop where
  fields : wellFormed out e = true
  fingerprint : hashValue rt (e.payload out) envelopeNamespace = .ok e.fingerprint

variable {rt out}

theorem payload_accepted {e : Envelope α} :
    (e.payload out).accepted = (out.toValue e.publicOutput).accepted := by
  simp [Envelope.payload, Value.accepted, Value.acceptedFields, Value.str]

theorem validateEnvelope_returns {e : Envelope α} :
    (∃ violations, validateV2PublicDecisionEnvelope rt out e = .ok violations) ↔
      (isStableHash e.fingerprint = true → (out.toValue e.publicOutput).accepted = true) := by
  rw [← payload_accepted, ← fingerprintBinds_ok rt _ envelopeNamespace]
  constructor
  · rintro ⟨violations, h⟩
    obtain ⟨bound, hbound, -⟩ := Fallible.bind_ok.mp h
    exact ⟨bound, hbound⟩
  · rintro ⟨bound, hbound⟩
    exact ⟨_, Fallible.bind_ok.mpr ⟨bound, hbound, rfl⟩⟩

/-- Two checks that report a violation each. -/
theorem violations_nil {first second : Bool} {a b : String} :
    ((if first then [] else [a]) ++ if second then [] else [b]) = [] ↔
      first = true ∧ second = true := by
  cases first <;> cases second <;> simp

/-- The envelopes without violations are the intact ones. -/
theorem validateEnvelope_nil {e : Envelope α} :
    validateV2PublicDecisionEnvelope rt out e = .ok [] ↔ Intact rt out e := by
  constructor
  · intro h
    obtain ⟨bound, hbound, hnil⟩ := Fallible.bind_ok.mp h
    obtain ⟨hfields, rfl⟩ := violations_nil.mp (Except.ok.inj hnil)
    exact ⟨hfields, fingerprintBinds_true.mp hbound⟩
  · rintro ⟨hfields, hfingerprint⟩
    exact Fallible.bind_ok.mpr ⟨true, fingerprintBinds_true.mpr hfingerprint,
      congrArg Except.ok (violations_nil.mpr ⟨hfields, rfl⟩)⟩

theorem Intact.accepted {e : Envelope α} (h : Intact rt out e) :
    (out.toValue e.publicOutput).accepted = true := by
  rw [← payload_accepted]
  exact (hashValue_ok rt _ envelopeNamespace).mp ⟨_, h.fingerprint⟩

end Envelope

/-! ## 3. The kill switch -/

inductive SwitchReason
  | notEngaged | manualSafetyStop | automaticFailClosed
deriving DecidableEq, Repr

def SwitchReason.text : SwitchReason → String
  | .notEngaged => "not-engaged"
  | .manualSafetyStop => "manual-safety-stop"
  | .automaticFailClosed => "automatic-fail-closed"

/-- `StayOptiV2SafetyKillSwitchStateV3`. -/
structure KillSwitch where
  schemaVersion : String
  engaged : Bool
  generation : JsFloat
  reasonCode : SwitchReason
  fingerprint : String

def KillSwitch.payload (s : KillSwitch) : Value :=
  .obj [("schemaVersion", .str s.schemaVersion), ("engaged", .bool s.engaged),
    ("generation", .num s.generation), ("reasonCode", .str s.reasonCode.text)]

def killSwitchNamespace : String := "stayopti-v3-v2-safety-kill-switch"

def consistentSwitch (s : KillSwitch) : Bool :=
  !(s.schemaVersion ≠ kernelSchemaVersion || !s.generation.isInteger ||
    JsFloat.lt s.generation (.finite 0) || (s.engaged && s.reasonCode = .notEngaged) ||
    (!s.engaged && (s.reasonCode ≠ .notEngaged || !JsFloat.equals s.generation (.finite 0))))

/-- The violations of `validateV2SafetyKillSwitchV3`. -/
def validateV2SafetyKillSwitch (rt : Runtime) (s : KillSwitch) : Except String (List String) := do
  let bound ← fingerprintBinds rt s.payload killSwitchNamespace s.fingerprint
  pure ((if consistentSwitch s then [] else ["kill-switch-state-invalid"]) ++
    if bound then [] else ["kill-switch-fingerprint-invalid"])

/-- A state with its own fingerprint, on the engaged side or on the initial one. -/
structure ValidSwitch (rt : Runtime) (s : KillSwitch) : Prop where
  fields : consistentSwitch s = true
  fingerprint : hashValue rt s.payload killSwitchNamespace = .ok s.fingerprint

theorem validateKillSwitch_returns {rt : Runtime} {s : KillSwitch} :
    (∃ violations, validateV2SafetyKillSwitch rt s = .ok violations) ↔
      (isStableHash s.fingerprint = true → s.generation.isFinite = true) := by
  have hpayload : s.payload.accepted = s.generation.isFinite := by
    simp [KillSwitch.payload, Value.accepted, Value.acceptedFields, Value.str, Value.bool]
  rw [← hpayload, ← fingerprintBinds_ok rt _ killSwitchNamespace]
  constructor
  · rintro ⟨violations, h⟩
    obtain ⟨bound, hbound, -⟩ := Fallible.bind_ok.mp h
    exact ⟨bound, hbound⟩
  · rintro ⟨bound, hbound⟩
    exact ⟨_, Fallible.bind_ok.mpr ⟨bound, hbound, rfl⟩⟩

theorem validateKillSwitch_nil {rt : Runtime} {s : KillSwitch} :
    validateV2SafetyKillSwitch rt s = .ok [] ↔ ValidSwitch rt s := by
  constructor
  · intro h
    obtain ⟨bound, hbound, hnil⟩ := Fallible.bind_ok.mp h
    obtain ⟨hfields, rfl⟩ := violations_nil.mp (Except.ok.inj hnil)
    exact ⟨hfields, fingerprintBinds_true.mp hbound⟩
  · rintro ⟨hfields, hfingerprint⟩
    exact Fallible.bind_ok.mpr ⟨true, fingerprintBinds_true.mpr hfingerprint,
      congrArg Except.ok (violations_nil.mpr ⟨hfields, rfl⟩)⟩

/-- `createV2SafetyKillSwitchV3`. -/
def createV2SafetyKillSwitch (rt : Runtime) : Except String KillSwitch := do
  let state : KillSwitch :=
    { schemaVersion := kernelSchemaVersion
      engaged := false
      generation := .finite 0
      reasonCode := .notEngaged
      fingerprint := "" }
  let fingerprint ← hashValue rt state.payload killSwitchNamespace
  pure { state with fingerprint }

theorem createKillSwitch_valid (rt : Runtime) : ∃ s, createV2SafetyKillSwitch rt = .ok s ∧
    ValidSwitch rt s ∧ s.engaged = false := by
  let state : KillSwitch := ⟨kernelSchemaVersion, false, .finite 0, .notEngaged, ""⟩
  obtain ⟨fingerprint, hfingerprint⟩ :=
    (hashValue_ok rt state.payload killSwitchNamespace).mpr (by decide)
  exact ⟨{ state with fingerprint }, Fallible.bind_ok.mpr ⟨fingerprint, hfingerprint, rfl⟩,
    ⟨rfl, hfingerprint⟩, rfl⟩

/-! ## 4. The V3 result -/

def selectionForRole (r : PolicyResult) : Role → Selection
  | .bestChoice => r.portfolio.bestChoice
  | .bestSensibleSaving => r.portfolio.bestSensibleSaving
  | .worthwhileComfortUpgrade => r.portfolio.worthwhileComfortUpgrade
  | .split => r.portfolio.split

def validateV3Bindings (r : PolicyResult) (bindings : List RoleBinding) : Bool :=
  validateBindings bindings && safetyRoles.all fun role =>
    (bindingOf bindings role).any fun binding =>
      let selection := selectionForRole r role
      binding.status = selection.status &&
      if selection.status = .selected then
        selection.solutionId.isSome && binding.solutionId = selection.solutionId &&
          binding.solutionFingerprint.isSome
      else binding.solutionId.isNone && binding.solutionFingerprint.isNone

inductive ComparisonOutcome
  | aligned | diverged | v2Only | v3Only | bothAbstain | unavailable
deriving DecidableEq, Repr

def ComparisonOutcome.text : ComparisonOutcome → String
  | .aligned => "aligned"
  | .diverged => "diverged"
  | .v2Only => "v2-only"
  | .v3Only => "v3-only"
  | .bothAbstain => "both-abstain"
  | .unavailable => "unavailable"

structure RoleComparison where
  role : Role
  outcome : ComparisonOutcome
  sameSolution : Option Bool

def compareBindings (v2Bindings v3Bindings : List RoleBinding) : List RoleComparison :=
  safetyRoles.map fun role =>
    match bindingOf v2Bindings role, bindingOf v3Bindings role with
    | some v2, some v3 =>
      match decide (v2.status = .selected), decide (v3.status = .selected) with
      | false, false => ⟨role, .bothAbstain, none⟩
      | true, false => ⟨role, .v2Only, some false⟩
      | false, true => ⟨role, .v3Only, some false⟩
      | true, true =>
        if v2.solutionFingerprint = v3.solutionFingerprint then ⟨role, .aligned, some true⟩
        else ⟨role, .diverged, some false⟩
    | _, _ => ⟨role, .unavailable, none⟩

inductive ProofStatus
  | notRequired | completeCandidate | insufficient | blocked
deriving DecidableEq, Repr

def ProofStatus.text : ProofStatus → String
  | .notRequired => "not-required"
  | .completeCandidate => "complete-candidate"
  | .insufficient => "insufficient"
  | .blocked => "blocked"

structure ProofRole where
  role : Role
  outcome : ComparisonOutcome
  evidenceLinked : Bool
  candidateValidityProved : Bool
  tradeOffProved : Bool
  status : ProofStatus

structure DivergenceProof where
  status : ProofStatus
  roles : List ProofRole
  promotionAuthority : Bool

def candidateValidity (r : PolicyResult) (selection : Selection) : Bool :=
  match selection.status, selection.solutionId with
  | .selected, some id =>
    (r.candidates.find? fun candidate => candidate.solutionId = id).any fun candidate =>
      candidate.status = .comparable &&
      !candidate.reasonCodes.contains "policy:hard-constraint-unresolved" &&
      !candidate.reasonCodes.contains "policy:offer-not-verified" &&
      (selection.role ≠ .bestChoice || candidate.dominatedBySolutionIds.length = 0)
  | _, _ => true

/-- Two numbers that are there, of which the first is not above the second. -/
def within (value bound : Option JsFloat) : Bool :=
  match value, bound with
  | some value, some bound => JsFloat.le value bound
  | _, _ => false

def positive (value : Option JsFloat) : Bool := value.any (JsFloat.lt (.finite 0) ·)

def tradeOffProof (selection : Selection) : Bool :=
  let m := selection.metrics
  if selection.status ≠ .selected then true
  else
    match selection.role with
    | .bestSensibleSaving =>
      positive m.savingAmount && within m.qualityLoss m.qualityLossTolerance &&
        within m.experienceLoss m.experienceLossTolerance
    | .worthwhileComfortUpgrade =>
      positive m.upgradePremium && positive m.experienceGain &&
        within m.marginalValueThreshold m.marginalValuePer100
    | _ => true

def proofRole (r : PolicyResult) (comparison : RoleComparison) : ProofRole :=
  if comparison.outcome = .aligned || comparison.outcome = .bothAbstain then
    ⟨comparison.role, comparison.outcome, true, true, true, .notRequired⟩
  else
    let selection := selectionForRole r comparison.role
    if selection.status ≠ .selected then
      ⟨comparison.role, comparison.outcome, false, false, false, .blocked⟩
    else
      let evidenceLinked : Bool := 0 < selection.explanation.evidenceIds.length
      let candidateValidityProved := candidateValidity r selection
      let tradeOffProved := tradeOffProof selection
      ⟨comparison.role, comparison.outcome, evidenceLinked, candidateValidityProved,
        tradeOffProved,
        if evidenceLinked && candidateValidityProved && tradeOffProved then .completeCandidate
        else .insufficient⟩

def createDivergenceProof (r : PolicyResult) (comparisons : List RoleComparison) :
    DivergenceProof :=
  let roles := comparisons.map (proofRole r)
  let divergenceRoles := roles.filter (·.status ≠ .notRequired)
  let status : ProofStatus :=
    if divergenceRoles.any (·.status = .blocked) then .blocked
    else if divergenceRoles.any (·.status = .insufficient) then .insufficient
    else if 0 < divergenceRoles.length then .completeCandidate
    else .notRequired
  ⟨status, roles, false⟩

def blockedProof : DivergenceProof :=
  ⟨.blocked, safetyRoles.map fun role => ⟨role, .unavailable, false, false, false, .blocked⟩, false⟩

/-- The candidates with the id of a selected role. -/
def selectedV3Candidates (r : PolicyResult) : List CandidateEvaluation :=
  let selectedIds := ((safetyRoles.map (selectionForRole r)).filter
    (·.status = .selected)).filterMap (·.solutionId)
  r.candidates.filter fun candidate => selectedIds.contains candidate.solutionId

def vetoIf (condition : Bool) (veto : HardVeto) : List HardVeto :=
  if condition then [veto] else []

def successVetoes (rt : Runtime) (r : PolicyResult) (roleBindings : List RoleBinding) :
    Except String (List HardVeto) := do
  let violations ← validatePersonalUtilityRolePolicy rt r
  let choice := r.portfolio.bestChoice
  let selected := selectedV3Candidates r
  let bestChoice := choice.solutionId.bind fun id =>
    r.candidates.find? fun candidate => candidate.solutionId = id
  pure <| uniqueVetoes rt <|
    vetoIf (!violations.isEmpty) .v3ResultInvalid ++
    vetoIf (!validateV3Bindings r roleBindings) .v3PolicyUnbound ++
    vetoIf (r.status = .usable && (choice.status ≠ .selected || choice.solutionId.isNone))
      .v3BestChoiceMissing ++
    vetoIf (selected.any (·.reasonCodes.contains "policy:hard-constraint-unresolved"))
      .v3HardConstraintFailure ++
    vetoIf (selected.any (·.reasonCodes.contains "policy:offer-not-verified"))
      .v3OfferIntegrityFailure ++
    vetoIf (bestChoice.any (0 < ·.dominatedBySolutionIds.length)) .v3DominatedChoice ++
    vetoIf (r.commercialSignalsUsed || namesFieldIgnoringCase commercialFields r.keys)
      .v3CommercialSignal

/-! ## 5. The governor -/

/-- `StayOptiV3SafetyExecutionV3`. -/
inductive V3Execution
  | notRun
  | importFailure (safeErrorCode : String)
  | timeout (safeErrorCode : String)
  | error (safeErrorCode : String)
  | success (result : PolicyResult) (roleBindings : List RoleBinding)

def V3Execution.status : V3Execution → String
  | .notRun => "not-run"
  | .importFailure _ => "import-failure"
  | .timeout _ => "timeout"
  | .error _ => "error"
  | .success .. => "success"

/-- `StayOptiV2SafetyGovernorAuditV3` without its fingerprint; the defaults are the constants of
    its type. -/
structure AuditPayload where
  schemaVersion : String := kernelSchemaVersion
  kernelVersion : String := Safety.kernelVersion
  application : String := "safety-kernel-shadow-canary-only"
  mode : SafetyMode
  action : String
  v3ExecutionStatus : String
  v3ConsumedForComparison : Bool
  hardVetoes : List HardVeto
  roleComparisons : List RoleComparison
  divergenceProof : DivergenceProof
  publicV2Changed : Bool := false
  publicV3Enabled : Bool := false
  splitEnabled : Bool := false
  providerCallsAllowed : Bool := false
  bookingOrPaymentChanged : Bool := false
  analyticsChanged : Bool := false
  deployChanged : Bool := false
  commercialSignalsUsed : Bool := false
  teacherOutputsUsedAsGroundTruth : Bool := false

structure Audit extends AuditPayload where
  fingerprint : String

def RoleComparison.toJson (c : RoleComparison) : Json :=
  .obj [("role", .str c.role.text), ("outcome", .str c.outcome.text),
    ("sameSolution", Policy.boolOrNull c.sameSolution)]

def ProofRole.toJson (r : ProofRole) : Json :=
  .obj [("role", .str r.role.text), ("outcome", .str r.outcome.text),
    ("evidenceLinked", .bool r.evidenceLinked),
    ("candidateValidityProved", .bool r.candidateValidityProved),
    ("tradeOffProved", .bool r.tradeOffProved), ("status", .str r.status.text)]

def DivergenceProof.toJson (p : DivergenceProof) : Json :=
  .obj [("status", .str p.status.text), ("roles", .arr (p.roles.map (·.toJson))),
    ("promotionAuthority", .bool p.promotionAuthority)]

def AuditPayload.toJson (a : AuditPayload) : Json :=
  .obj [("schemaVersion", .str a.schemaVersion), ("kernelVersion", .str a.kernelVersion),
    ("application", .str a.application), ("mode", .str a.mode.text), ("action", .str a.action),
    ("v3ExecutionStatus", .str a.v3ExecutionStatus),
    ("v3ConsumedForComparison", .bool a.v3ConsumedForComparison),
    ("hardVetoes", .texts (a.hardVetoes.map (·.code))),
    ("roleComparisons", .arr (a.roleComparisons.map (·.toJson))),
    ("divergenceProof", a.divergenceProof.toJson), ("publicV2Changed", .bool a.publicV2Changed),
    ("publicV3Enabled", .bool a.publicV3Enabled), ("splitEnabled", .bool a.splitEnabled),
    ("providerCallsAllowed", .bool a.providerCallsAllowed),
    ("bookingOrPaymentChanged", .bool a.bookingOrPaymentChanged),
    ("analyticsChanged", .bool a.analyticsChanged), ("deployChanged", .bool a.deployChanged),
    ("commercialSignalsUsed", .bool a.commercialSignalsUsed),
    ("teacherOutputsUsedAsGroundTruth", .bool a.teacherOutputsUsedAsGroundTruth)]

def auditFingerprint (rt : Runtime) (a : AuditPayload) : String :=
  createStableHash rt a.toJson "stayopti-v3-v2-safety-governor-audit"

/-- What V3 contributes to an audit. -/
structure V3Stage where
  vetoes : List HardVeto := []
  comparisons : List RoleComparison := []
  divergenceProof : DivergenceProof := blockedProof
  consumed : Bool := false

/-- `RunStayOptiV2SafetyGovernorInputV3`. -/
structure GovernorInput (α : Type) where
  mode : SafetyMode
  v2 : Envelope α
  v3 : V3Execution
  killSwitch : KillSwitch

/-- `StayOptiV2SafetyGovernorResultV3`; `none` is `null`. -/
structure GovernorResult (α : Type) where
  publicResult : Option α
  audit : Audit

section Governor

variable {α : Type} (rt : Runtime) (out : OutputType α)

/-- The branch of a governor that neither the switch nor the mode stops. -/
def v3Stage (v2Bindings : List RoleBinding) : V3Execution → Except String V3Stage
  | .notRun => .ok { vetoes := [.v3NotRun] }
  | .importFailure _ => .ok { vetoes := [.v3ImportFailure] }
  | .timeout _ => .ok { vetoes := [.v3Timeout] }
  | .error _ => .ok { vetoes := [.v3Exception] }
  | .success result roleBindings => do
    let vetoes ← successVetoes rt result roleBindings
    if vetoes.length = 0 then
      let comparisons := compareBindings v2Bindings roleBindings
      let divergenceProof := createDivergenceProof result comparisons
      pure
        { vetoes := vetoIf (divergenceProof.status = .insufficient ||
            divergenceProof.status = .blocked) .divergenceProofInsufficient
          comparisons
          divergenceProof
          consumed := true }
    else pure { vetoes }

/-- The result of a governor, given the validations and what V3 contributes. -/
def governorResult (input : GovernorInput α) (v2Valid killSwitchEngaged : Bool) (stage : V3Stage) :
    GovernorResult α :=
  let vetoes := vetoIf (!v2Valid) .v2PublicOutputInvalid ++
    vetoIf killSwitchEngaged .killSwitchEngaged ++ vetoIf (input.mode = .off) .modeOff ++
    stage.vetoes ++ [.publicPromotionDisabled]
  let payload : AuditPayload :=
    { mode := input.mode
      action := if v2Valid then "serve-v2" else "abstain"
      v3ExecutionStatus := input.v3.status
      v3ConsumedForComparison := stage.consumed
      hardVetoes := uniqueVetoes rt vetoes
      roleComparisons := stage.comparisons
      divergenceProof := stage.divergenceProof }
  { publicResult := if v2Valid then some input.v2.publicOutput else none
    audit := { payload with fingerprint := auditFingerprint rt payload } }

/-- V3 is consulted unless the switch or the mode stops the governor. -/
def consultV3 (input : GovernorInput α) (killSwitchEngaged : Bool) : Except String V3Stage :=
  if killSwitchEngaged || input.mode = .off then .ok {}
  else v3Stage rt input.v2.roleBindings input.v3

def runV2SafetyKernelRuntimeGovernor (input : GovernorInput α) :
    Except String (GovernorResult α) := do
  let v2Violations ← validateV2PublicDecisionEnvelope rt out input.v2
  let switchViolations ← validateV2SafetyKillSwitch rt input.killSwitch
  let killSwitchEngaged := !switchViolations.isEmpty || input.killSwitch.engaged
  let stage ← consultV3 rt input killSwitchEngaged
  pure (governorResult rt input v2Violations.isEmpty killSwitchEngaged stage)

/-- The violations of `validateV2SafetyGovernorAuditV3`. -/
def validateV2SafetyGovernorAudit (audit : Audit) : List String :=
  (if audit.schemaVersion ≠ kernelSchemaVersion || audit.kernelVersion ≠ kernelVersion ||
      audit.application ≠ "safety-kernel-shadow-canary-only" ||
      !safetyModes.contains audit.mode ||
      audit.hardVetoes.any (fun veto => !hardVetoRegistry.contains veto) ||
      audit.publicV2Changed || audit.publicV3Enabled || audit.splitEnabled ||
      audit.providerCallsAllowed || audit.bookingOrPaymentChanged || audit.analyticsChanged ||
      audit.deployChanged || audit.commercialSignalsUsed ||
      audit.teacherOutputsUsedAsGroundTruth || audit.divergenceProof.promotionAuthority
    then ["governor-audit-invalid"] else []) ++
  if !isStableHash audit.fingerprint ||
      audit.fingerprint ≠ auditFingerprint rt audit.toAuditPayload
    then ["governor-audit-fingerprint-invalid"] else []

def verifyV2SafetyRollback (v2 : Envelope α) (killSwitch : KillSwitch)
    (result : GovernorResult α) : Except String Bool := do
  let v2Violations ← validateV2PublicDecisionEnvelope rt out v2
  if !v2Violations.isEmpty then pure false
  else do
    let switchViolations ← validateV2SafetyKillSwitch rt killSwitch
    pure (switchViolations.isEmpty && killSwitch.engaged &&
      result.publicResult.any (out.strictEquals · v2.publicOutput) &&
      result.audit.action = "serve-v2" && !result.audit.v3ConsumedForComparison &&
      result.audit.hardVetoes.contains .killSwitchEngaged && !result.audit.publicV2Changed)

end Governor

end SmartStay.Safety
