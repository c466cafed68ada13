import SmartStay.Contract.Value
import SmartStay.Policy.Run

/-!
# Results of the role policy that are not trusted

`validatePersonalUtilityRolePolicyV3` of `engine-v3/policy/personalUtilityRolePolicyV3.ts` reads
a result that may not come from the policy: its numbers may be `NaN` or infinite, its texts, its
flags and its relations are arbitrary, and it may have properties outside its type.

1. `PolicyResult` and what it is hashed as.
2. `validatePersonalUtilityRolePolicy`.
3. `validate_returns`: when the validation returns.
-/

namespace SmartStay.Safety

open Contract
open Policy (Role SelectionStatus CandidateStatus SolutionType BudgetStatus BudgetTreatment
  ExperienceDimension ContributionAvailability TieClassification Profile Explanation
  experienceDimensions dimensionTexts boolOrNull policyConfigurationFingerprint)

/-! ## 1. Results -/

/-- `StayOptiRolePolicyProfileSettingsV3`. -/
structure ProfileSettings where
  budgetTreatment : BudgetTreatment
  dimensionWeights : ExperienceDimension → JsFloat
  choiceExperienceLossTolerance : JsFloat
  opportunityCostPointsPerBudgetRatio : JsFloat
  maximumBudgetOverrunRatio : JsFloat
  minimumQualityScore : JsFloat
  minimumExperienceScore : JsFloat
  savingQualityLossTolerance : JsFloat
  savingExperienceLossTolerance : JsFloat
  upgradeMinimumExperienceGain : JsFloat
  upgradeMinimumMarginalValuePer100 : JsFloat

def ProfileSettings.toValue (s : ProfileSettings) : Value :=
  .obj [("budgetTreatment", .str s.budgetTreatment.text),
    ("dimensionWeights", .obj (experienceDimensions.map fun d => (d.text, .num (s.dimensionWeights d)))),
    ("choiceExperienceLossTolerance", .num s.choiceExperienceLossTolerance),
    ("opportunityCostPointsPerBudgetRatio", .num s.opportunityCostPointsPerBudgetRatio),
    ("maximumBudgetOverrunRatio", .num s.maximumBudgetOverrunRatio),
    ("minimumQualityScore", .num s.minimumQualityScore),
    ("minimumExperienceScore", .num s.minimumExperienceScore),
    ("savingQualityLossTolerance", .num s.savingQualityLossTolerance),
    ("savingExperienceLossTolerance", .num s.savingExperienceLossTolerance),
    ("upgradeMinimumExperienceGain", .num s.upgradeMinimumExperienceGain),
    ("upgradeMinimumMarginalValuePer100", .num s.upgradeMinimumMarginalValuePer100)]

/-- `StayOptiRolePolicyDimensionContributionV3`. -/
structure DimensionContribution where
  dimension : ExperienceDimension
  availability : ContributionAvailability
  sourceScore : Option JsFloat
  configuredWeight : JsFloat
  normalizedAvailableWeight : JsFloat
  weightedValue : Option JsFloat
  evidenceIds : List String
  transform : String

def DimensionContribution.toValue (c : DimensionContribution) : Value :=
  .obj [("dimension", .str c.dimension.text), ("availability", .str c.availability.text),
    ("sourceScore", .num? c.sourceScore), ("configuredWeight", .num c.configuredWeight),
    ("normalizedAvailableWeight", .num c.normalizedAvailableWeight),
    ("weightedValue", .num? c.weightedValue), ("evidenceIds", .texts c.evidenceIds),
    ("transform", .str c.transform)]

/-- `StayOptiRolePolicyCandidateEvaluationV3`. -/
structure CandidateEvaluation where
  solutionId : String
  solutionType : SolutionType
  status : CandidateStatus
  totalCost : Option JsFloat
  currency : String
  budgetStatus : BudgetStatus
  qualityScore : Option JsFloat
  minimumQualityMet : Option Bool
  experienceScore : Option JsFloat
  opportunityCostPoints : Option JsFloat
  personalUtilityScore : Option JsFloat
  evidenceCoverage : JsFloat
  availableDimensions : List ExperienceDimension
  missingDimensions : List ExperienceDimension
  contributions : List DimensionContribution
  dominatedBySolutionIds : List String
  reasonCodes : List String

def CandidateEvaluation.toValue (c : CandidateEvaluation) : Value :=
  .obj [("solutionId", .str c.solutionId), ("solutionType", .str c.solutionType.text),
    ("status", .str c.status.text), ("totalCost", .num? c.totalCost), ("currency", .str c.currency),
    ("budgetStatus", .str c.budgetStatus.text), ("qualityScore", .num? c.qualityScore),
    ("minimumQualityMet", .data (boolOrNull c.minimumQualityMet)),
    ("experienceScore", .num? c.experienceScore),
    ("opportunityCostPoints", .num? c.opportunityCostPoints),
    ("personalUtilityScore", .num? c.personalUtilityScore),
    ("evidenceCoverage", .num c.evidenceCoverage),
    ("availableDimensions", .data (dimensionTexts c.availableDimensions)),
    ("missingDimensions", .data (dimensionTexts c.missingDimensions)),
    ("contributions", .arr (c.contributions.map (·.toValue))),
    ("dominatedBySolutionIds", .texts c.dominatedBySolutionIds),
    ("reasonCodes", .texts c.reasonCodes)]

/-- `StayOptiRolePolicyMetricsV3`. -/
structure Metrics where
  totalCost : Option JsFloat := none
  experienceScore : Option JsFloat := none
  qualityScore : Option JsFloat := none
  opportunityCostPoints : Option JsFloat := none
  savingAmount : Option JsFloat := none
  qualityLoss : Option JsFloat := none
  experienceLoss : Option JsFloat := none
  qualityLossTolerance : Option JsFloat := none
  experienceLossTolerance : Option JsFloat := none
  upgradePremium : Option JsFloat := none
  experienceGain : Option JsFloat := none
  marginalValuePer100 : Option JsFloat := none
  marginalValueThreshold : Option JsFloat := none

def Metrics.toValue (m : Metrics) : Value :=
  .obj [("totalCost", .num? m.totalCost), ("experienceScore", .num? m.experienceScore),
    ("qualityScore", .num? m.qualityScore), ("opportunityCostPoints", .num? m.opportunityCostPoints),
    ("savingAmount", .num? m.savingAmount), ("qualityLoss", .num? m.qualityLoss),
    ("experienceLoss", .num? m.experienceLoss),
    ("qualityLossTolerance", .num? m.qualityLossTolerance),
    ("experienceLossTolerance", .num? m.experienceLossTolerance),
    ("upgradePremium", .num? m.upgradePremium), ("experienceGain", .num? m.experienceGain),
    ("marginalValuePer100", .num? m.marginalValuePer100),
    ("marginalValueThreshold", .num? m.marginalValueThreshold)]

/-- `StayOptiRolePolicySelectionV3`. -/
structure Selection where
  role : Role
  status : SelectionStatus
  solutionId : Option String
  decisionTieClassification : TieClassification
  equivalentSolutionIds : List String
  presentationRepresentativeSolutionId : Option String
  metrics : Metrics
  explanation : Explanation
  reasonCodes : List String

def Selection.toValue (s : Selection) : Value :=
  .obj [("role", .str s.role.text), ("status", .str s.status.text),
    ("solutionId", .text? s.solutionId),
    ("decisionTieClassification", .str s.decisionTieClassification.text),
    ("equivalentSolutionIds", .texts s.equivalentSolutionIds),
    ("presentationRepresentativeSolutionId", .text? s.presentationRepresentativeSolutionId),
    ("metrics", s.metrics.toValue), ("explanation", .data s.explanation.toJson),
    ("reasonCodes", .texts s.reasonCodes)]

structure Portfolio where
  bestChoice : Selection
  bestSensibleSaving : Selection
  worthwhileComfortUpgrade : Selection
  split : Selection

def Portfolio.toValue (p : Portfolio) : Value :=
  .obj [("bestChoice", p.bestChoice.toValue), ("bestSensibleSaving", p.bestSensibleSaving.toValue),
    ("worthwhileComfortUpgrade", p.worthwhileComfortUpgrade.toValue), ("split", p.split.toValue)]

structure ResultExplanation where
  format : String
  profileSemanticsKey : String
  budgetSemanticsKey : String
  roleSeparationExplicit : Bool
  evidenceLinked : Bool
  missingEvidenceTreatment : String

def ResultExplanation.toValue (e : ResultExplanation) : Value :=
  .data (.obj [("format", .str e.format), ("profileSemanticsKey", .str e.profileSemanticsKey),
    ("budgetSemanticsKey", .str e.budgetSemanticsKey),
    ("roleSeparationExplicit", .bool e.roleSeparationExplicit),
    ("evidenceLinked", .bool e.evidenceLinked),
    ("missingEvidenceTreatment", .str e.missingEvidenceTreatment)])

structure Counts where
  candidates : JsFloat
  comparable : JsFloat
  dominated : JsFloat
  missingEvidence : JsFloat
  selectedRoles : JsFloat

def Counts.toValue (c : Counts) : Value :=
  .obj [("candidates", .num c.candidates), ("comparable", .num c.comparable),
    ("dominated", .num c.dominated), ("missingEvidence", .num c.missingEvidence),
    ("selectedRoles", .num c.selectedRoles)]

inductive PolicyStatus
  | usable | decisionallyEquivalent | abstained
deriving DecidableEq, Repr

def PolicyStatus.text : PolicyStatus → String
  | .usable => "usable"
  | .decisionallyEquivalent => "decisionally-equivalent"
  | .abstained => "abstained"

/-- `StayOptiPersonalUtilityRolePolicyResultV3`; `unknownFields` are data under keys that the type
    does not have. -/
structure PolicyResult where
  schemaVersion : String
  policyVersion : String
  caseId : String
  profile : Profile
  application : String
  status : PolicyStatus
  inputFingerprint : String
  policyConfigurationFingerprint : String
  profileSettings : ProfileSettings
  candidates : List CandidateEvaluation
  portfolio : Portfolio
  explanation : ResultExplanation
  counts : Counts
  publicApplicationEnabled : Bool
  runtimeIntegrationEnabled : Bool
  v2PublicChanged : Bool
  splitEnabled : Bool
  legacyBudgetUtilityUsed : Bool
  teacherOutputsUsedAsGroundTruth : Bool
  commercialSignalsUsed : Bool
  fingerprint : String
  unknownFields : List (String × Json) := []

/-- The properties of a result but its fingerprint. -/
def PolicyResult.payloadFields (r : PolicyResult) : List (String × Value) :=
  [("schemaVersion", .str r.schemaVersion), ("policyVersion", .str r.policyVersion),
    ("caseId", .str r.caseId), ("profile", .str r.profile.text),
    ("application", .str r.application), ("status", .str r.status.text),
    ("inputFingerprint", .str r.inputFingerprint),
    ("policyConfigurationFingerprint", .str r.policyConfigurationFingerprint),
    ("profileSettings", r.profileSettings.toValue),
    ("candidates", .arr (r.candidates.map (·.toValue))),
    ("portfolio", r.portfolio.toValue), ("explanation", r.explanation.toValue),
    ("counts", r.counts.toValue),
    ("publicApplicationEnabled", .bool r.publicApplicationEnabled),
    ("runtimeIntegrationEnabled", .bool r.runtimeIntegrationEnabled),
    ("v2PublicChanged", .bool r.v2PublicChanged), ("splitEnabled", .bool r.splitEnabled),
    ("legacyBudgetUtilityUsed", .bool r.legacyBudgetUtilityUsed),
    ("teacherOutputsUsedAsGroundTruth", .bool r.teacherOutputsUsedAsGroundTruth),
    ("commercialSignalsUsed", .bool r.commercialSignalsUsed)] ++
  r.unknownFields.map fun field => (field.1, .data field.2)

def PolicyResult.payload (r : PolicyResult) : Value := .obj r.payloadFields

/-- The keys in `JSON.stringify(result)`. -/
def PolicyResult.keys (r : PolicyResult) : List String :=
  (Value.obj (("fingerprint", .str r.fingerprint) :: r.payloadFields)).keys

def commercialFields : List String :=
  ["commission", "markup", "affiliateRevenue", "clickProbability", "providerPriority",
    "userEconomicValue"]

/-! ## 2. Validation -/

/-- `StayOptiPersonalUtilityRolePolicyViolationV3`. -/
structure Violation where
  code : String
  entityId : String
  detail : String

/-- `if (condition) add(code, entityId, detail)`. -/
def addIf (condition : Bool) (code entityId detail : String) : List Violation :=
  if condition then [⟨code, entityId, detail⟩] else []

/-- `round`. -/
def roundFloat (value : JsFloat) : JsFloat := value.map fun x => round x 6

/-- `new Map(...).get(id)`: the last candidate of an id; an empty id is falsy and is not looked
    up. -/
def candidateOf (r : PolicyResult) (solutionId : Option String) : Option CandidateEvaluation :=
  match solutionId with
  | none => none
  | some id =>
    if id = "" then none
    else r.candidates.reverse.find? fun candidate => candidate.solutionId = id

/-- A number that is there and below, or not above, a bound. -/
def below (value : Option JsFloat) (bound : JsFloat) : Bool := value.any (JsFloat.lt · bound)

/-- A value or its bound is missing, or the value exceeds the bound. -/
def exceeds (value bound : Option JsFloat) : Bool :=
  match value, bound with
  | some value, some bound => JsFloat.lt bound value
  | _, _ => true

/-- A number is missing or not positive. -/
def notPositive (value : Option JsFloat) : Bool :=
  match value with
  | some value => JsFloat.le value (.finite 0)
  | none => true

/-- Two costs of which one is missing or the first is not below the second. -/
def notCheaper (first second : Option JsFloat) : Bool :=
  match first, second with
  | some first, some second => JsFloat.le second first
  | _, _ => true

def contributionViolations (solutionId : String) (c : DimensionContribution) : List Violation :=
  addIf (c.availability = .missingNeutral &&
      (c.weightedValue.isSome || !JsFloat.equals c.normalizedAvailableWeight (.finite 0)))
    "missing-evidence-penalized" solutionId "Missing evidence must be neutral and reduce coverage only." ++
  addIf (c.availability = .available && c.transform ≠ "identity-premium-preserving")
    "candidate-invalid" solutionId "Available premium-quality evidence must retain its identity scale."

def contributionTotal (candidate : CandidateEvaluation) : JsFloat :=
  roundFloat (candidate.contributions.foldl
    (fun total c => total.add (c.weightedValue.getD (.finite 0))) (.finite 0))

def candidateViolations (candidate : CandidateEvaluation) : List Violation :=
  addIf (candidate.experienceScore.any fun score =>
      JsFloat.lt (.finite (1 / 100000)) (score.sub (contributionTotal candidate)).abs)
    "candidate-invalid" candidate.solutionId
    "Experience score does not equal available weighted contributions." ++
  candidate.contributions.flatMap (contributionViolations candidate.solutionId)

def choiceViolations (r : PolicyResult) : List Violation :=
  let choice := r.portfolio.bestChoice
  let choiceCandidate := candidateOf r choice.solutionId
  match r.status with
  | .usable =>
    addIf (choice.status ≠ .selected || !choiceCandidate.any (·.status = .comparable))
      "choice-invalid" r.caseId "Usable policy requires a comparable Best Choice." ++
    addIf (choiceCandidate.any fun candidate => 0 < candidate.dominatedBySolutionIds.length)
      "dominance-invalid" (choice.solutionId.getD r.caseId)
      "A dominated solution cannot be Best Choice."
  | .decisionallyEquivalent =>
    addIf (choice.status ≠ .decisionallyEquivalent || choice.solutionId.isSome ||
        choice.decisionTieClassification ≠ .decisionallyEquivalent ||
        choice.equivalentSolutionIds.length < 2)
      "choice-invalid" r.caseId
      "Decisionally equivalent policy must expose an equivalence class without a winner."
  | .abstained =>
    addIf (choice.status ≠ .abstained || choice.solutionId.isSome)
      "choice-invalid" r.caseId "Abstained policy cannot expose a Best Choice."

def savingViolations (r : PolicyResult) : List Violation :=
  let saving := r.portfolio.bestSensibleSaving
  let choiceCandidate := candidateOf r r.portfolio.bestChoice.solutionId
  let selected := candidateOf r saving.solutionId
  addIf (saving.status = .selected &&
      (selected.isNone || choiceCandidate.isNone ||
        notCheaper (selected.bind (·.totalCost)) (choiceCandidate.bind (·.totalCost)) ||
        notPositive saving.metrics.savingAmount ||
        exceeds saving.metrics.qualityLoss saving.metrics.qualityLossTolerance ||
        exceeds saving.metrics.experienceLoss saving.metrics.experienceLossTolerance))
    "saving-invalid" (saving.solutionId.getD r.caseId)
    "Saving must be cheaper and stay within explicit quality and experience loss tolerances."

def upgradeViolations (r : PolicyResult) : List Violation :=
  let upgrade := r.portfolio.worthwhileComfortUpgrade
  let choiceCandidate := candidateOf r r.portfolio.bestChoice.solutionId
  let selected := candidateOf r upgrade.solutionId
  addIf (upgrade.status = .selected &&
      (selected.isNone || choiceCandidate.isNone ||
        notCheaper (choiceCandidate.bind (·.totalCost)) (selected.bind (·.totalCost)) ||
        notPositive upgrade.metrics.upgradePremium ||
        upgrade.metrics.experienceGain.isNone ||
        below upgrade.metrics.experienceGain r.profileSettings.upgradeMinimumExperienceGain ||
        exceeds upgrade.metrics.marginalValueThreshold upgrade.metrics.marginalValuePer100))
    "upgrade-invalid" (upgrade.solutionId.getD r.caseId)
    "Upgrade must prove experience gain and profile-calibrated marginal value."

def schemaVersion : String := "3.0.0-personal-utility-role-policy-schema.1"

def policyVersion : String := "3.0.0-personal-utility-role-policy.1"

def countsMatch (r : PolicyResult) : Bool :=
  let count (n : Nat) : JsFloat := .finite n
  let roles := [r.portfolio.bestChoice, r.portfolio.bestSensibleSaving,
    r.portfolio.worthwhileComfortUpgrade, r.portfolio.split]
  r.counts.candidates.equals (count r.candidates.length) &&
  r.counts.comparable.equals (count (r.candidates.countP (·.status = .comparable))) &&
  r.counts.dominated.equals (count (r.candidates.countP (0 < ·.dominatedBySolutionIds.length))) &&
  r.counts.missingEvidence.equals (count (r.candidates.countP (0 < ·.missingDimensions.length))) &&
  r.counts.selectedRoles.equals (count (roles.countP (·.status = .selected)))

/-- The violations of `validatePersonalUtilityRolePolicyV3`; the result is valid if there are
    none. -/
def validatePersonalUtilityRolePolicy (rt : Runtime) (r : PolicyResult) :
    Except String (List Violation) := do
  let bound ← fingerprintBinds rt r.payload "stayopti-v3-personal-utility-role-policy-result"
    r.fingerprint
  pure <|
    addIf (r.schemaVersion ≠ schemaVersion || r.policyVersion ≠ policyVersion ||
        r.application ≠ "offline-policy-candidate-only" ||
        r.policyConfigurationFingerprint ≠ policyConfigurationFingerprint rt)
      "schema-invalid" r.caseId "Policy version, schema or configuration binding is invalid." ++
    addIf (!bound) "fingerprint-invalid" r.caseId
      "Result fingerprint does not bind the policy payload." ++
    addIf ((r.candidates.map (·.solutionId)).eraseDups.length ≠ r.candidates.length)
      "candidate-invalid" r.caseId "Candidate IDs must be unique." ++
    r.candidates.flatMap candidateViolations ++
    choiceViolations r ++ savingViolations r ++ upgradeViolations r ++
    addIf (r.portfolio.bestChoice.role ≠ .bestChoice ||
        r.portfolio.bestSensibleSaving.role ≠ .bestSensibleSaving ||
        r.portfolio.worthwhileComfortUpgrade.role ≠ .worthwhileComfortUpgrade ||
        r.portfolio.split.role ≠ .split || r.portfolio.split.status ≠ .disabled ||
        r.portfolio.split.solutionId.isSome || !r.explanation.roleSeparationExplicit)
      "role-separation-invalid" r.caseId
      "Choice, Saving, Upgrade and disabled SPLIT must remain independent roles." ++
    addIf (r.publicApplicationEnabled || r.runtimeIntegrationEnabled || r.v2PublicChanged ||
        r.splitEnabled || r.legacyBudgetUtilityUsed || r.teacherOutputsUsedAsGroundTruth)
      "public-firewall-open" r.caseId
      "Offline policy must not alter public V2, runtime, SPLIT or elevate teacher output." ++
    addIf r.commercialSignalsUsed "commercial-firewall-open" r.caseId
      "Commercial signals cannot influence policy selection." ++
    addIf (namesField commercialFields r.keys) "commercial-firewall-open" r.caseId
      "Forbidden commercial fields are present in the result." ++
    addIf (!countsMatch r) "schema-invalid" r.caseId
      "Derived counts do not match the policy result."

/-! ## 3. When the validation returns -/

/-- The validation throws on a result with the shape of a fingerprint and a number that is not
    finite. -/
theorem validate_returns {rt : Runtime} {r : PolicyResult} :
    (∃ violations, validatePersonalUtilityRolePolicy rt r = .ok violations) ↔
      (isStableHash r.fingerprint = true → r.payload.accepted = true) := by
  rw [← fingerprintBinds_ok rt _ "stayopti-v3-personal-utility-role-policy-result"]
  constructor
  · rintro ⟨violations, h⟩
    obtain ⟨bound, hbound, -⟩ := Fallible.bind_ok.mp h
    exact ⟨bound, hbound⟩
  · rintro ⟨bound, hbound⟩
    exact ⟨_, Fallible.bind_ok.mpr ⟨bound, hbound, rfl⟩⟩

end SmartStay.Safety
