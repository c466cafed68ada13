import SmartStay.Contract.Spelling
import SmartStay.Policy.Neutrality
import SmartStay.Safety.PolicyResult

/-!
# Results of the policy as its validator reads them

The validator of `engine-v3/policy/personalUtilityRolePolicyV3.ts` takes any result of the type; here it
takes one that `runPersonalUtilityRolePolicyV3` has computed.

1. `resultOf`: the computed result, whose numbers are all finite.
2. `payload_spells`: it is hashed as what the policy hashes.
3. `noCommercialField`: none of its properties is a commercial one.
4. `noCandidateViolations`: the weighted contributions add up to the experience score.
5. `countsMatch_payload`.
-/

namespace SmartStay.Safety

open Contract
open Policy (ExperienceDimension experienceDimensions dimensionTexts boolOrNull Profile SolutionInput
  PolicyInput constantFields policyConfigurationFingerprint resultFingerprint createPayload)

theorem addIf_eq_nil {condition : Bool} {code entityId detail : String} :
    addIf condition code entityId detail = [] ↔ condition = false := by
  cases condition <;> simp [addIf]

/-! ## 1. Computed results -/

def settingsOf (s : Policy.ProfileSettings) : ProfileSettings where
  budgetTreatment := s.budgetTreatment
  dimensionWeights d := .finite (s.dimensionWeights d)
  choiceExperienceLossTolerance := .finite s.choiceExperienceLossTolerance
  opportunityCostPointsPerBudgetRatio := .finite s.opportunityCostPointsPerBudgetRatio
  maximumBudgetOverrunRatio := .finite s.maximumBudgetOverrunRatio
  minimumQualityScore := .finite s.minimumQualityScore
  minimumExperienceScore := .finite s.minimumExperienceScore
  savingQualityLossTolerance := .finite s.savingQualityLossTolerance
  savingExperienceLossTolerance := .finite s.savingExperienceLossTolerance
  upgradeMinimumExperienceGain := .finite s.upgradeMinimumExperienceGain
  upgradeMinimumMarginalValuePer100 := .finite s.upgradeMinimumMarginalValuePer100

def contributionOf (c : Policy.DimensionContribution) : DimensionContribution where
  dimension := c.dimension
  availability := c.availability
  sourceScore := c.sourceScore.map .finite
  configuredWeight := .finite c.configuredWeight
  normalizedAvailableWeight := .finite c.normalizedAvailableWeight
  weightedValue := c.weightedValue.map .finite
  evidenceIds := c.evidenceIds
  transform := c.transform

def evaluationOf (c : Policy.CandidateEvaluation) : CandidateEvaluation where
  solutionId := c.solutionId
  solutionType := c.solutionType
  status := c.status
  totalCost := c.totalCost.map .finite
  currency := c.currency
  budgetStatus := c.budgetStatus
  qualityScore := c.qualityScore.map .finite
  minimumQualityMet := c.minimumQualityMet
  experienceScore := c.experienceScore.map .finite
  opportunityCostPoints := c.opportunityCostPoints.map .finite
  personalUtilityScore := c.personalUtilityScore.map .finite
  evidenceCoverage := .finite c.evidenceCoverage
  availableDimensions := c.availableDimensions
  missingDimensions := c.missingDimensions
  contributions := c.contributions.map contributionOf
  dominatedBySolutionIds := c.dominatedBySolutionIds
  reasonCodes := c.reasonCodes

def metricsOf (m : Policy.Metrics) : Metrics where
  totalCost := m.totalCost.map .finite
  experienceScore := m.experienceScore.map .finite
  qualityScore := m.qualityScore.map .finite
  opportunityCostPoints := m.opportunityCostPoints.map .finite
  savingAmount := m.savingAmount.map .finite
  qualityLoss := m.qualityLoss.map .finite
  experienceLoss := m.experienceLoss.map .finite
  qualityLossTolerance := m.qualityLossTolerance.map .finite
  experienceLossTolerance := m.experienceLossTolerance.map .finite
  upgradePremium := m.upgradePremium.map .finite
  experienceGain := m.experienceGain.map .finite
  marginalValuePer100 := m.marginalValuePer100.map .finite
  marginalValueThreshold := m.marginalValueThreshold.map .finite

def selectionOf (s : Policy.Selection) : Selection where
  role := s.role
  status := s.status
  solutionId := s.solutionId
  decisionTieClassification := s.decisionTieClassification
  equivalentSolutionIds := s.equivalentSolutionIds
  presentationRepresentativeSolutionId := s.presentationRepresentativeSolutionId
  metrics := metricsOf s.metrics
  explanation := s.explanation
  reasonCodes := s.reasonCodes

/-- The status of a text, of which there are three. -/
def statusOf (text : String) : PolicyStatus :=
  if text = "usable" then .usable
  else if text = "decisionally-equivalent" then .decisionallyEquivalent
  else .abstained

/-- A computed result with its constant fields. -/
def resultOf (r : Policy.PolicyResult) : PolicyResult where
  schemaVersion := schemaVersion
  policyVersion := policyVersion
  caseId := r.caseId
  profile := r.profile
  application := "offline-policy-candidate-only"
  status := statusOf r.status
  inputFingerprint := r.inputFingerprint
  policyConfigurationFingerprint := r.policyConfigurationFingerprint
  profileSettings := settingsOf r.profileSettings
  candidates := r.candidates.map evaluationOf
  portfolio :=
    { bestChoice := selectionOf r.bestChoice
      bestSensibleSaving := selectionOf r.bestSensibleSaving
      worthwhileComfortUpgrade := selectionOf r.worthwhileComfortUpgrade
      split := selectionOf r.split }
  explanation :=
    { format := "role-aware-decision-thesis-v1"
      profileSemanticsKey := "profile:" ++ r.profile.text
      budgetSemanticsKey := "budget:" ++ r.profileSettings.budgetTreatment.text
      roleSeparationExplicit := true
      evidenceLinked := true
      missingEvidenceTreatment := "neutral-renormalization-with-lower-coverage" }
  counts :=
    { candidates := .finite r.counts.candidates
      comparable := .finite r.counts.comparable
      dominated := .finite r.counts.dominated
      missingEvidence := .finite r.counts.missingEvidence
      selectedRoles := .finite r.counts.selectedRoles }
  publicApplicationEnabled := false
  runtimeIntegrationEnabled := false
  v2PublicChanged := false
  splitEnabled := false
  legacyBudgetUtilityUsed := false
  teacherOutputsUsedAsGroundTruth := false
  commercialSignalsUsed := false
  fingerprint := r.fingerprint

/-! ## 2. Fingerprints -/

theorem spells_settings (s : Policy.ProfileSettings) : Spells (settingsOf s).toValue s.toJson := by
  refine spells_obj ?_ (by simp)
  have hweights : Spells
      (.obj (experienceDimensions.map fun d => (d.text, .num (.finite (s.dimensionWeights d)))))
      (Policy.dimensionWeightsJson s.dimensionWeights) := by
    refine spells_obj ?_ (by simp [experienceDimensions, ExperienceDimension.text])
    simp [SpellsFields, experienceDimensions]
  simpa [SpellsFields, settingsOf] using hweights

theorem spells_contribution (c : Policy.DimensionContribution) :
    Spells (contributionOf c).toValue c.toJson := by
  refine spells_obj ?_ (by simp)
  simp [SpellsFields, contributionOf]

theorem spells_evaluation (c : Policy.CandidateEvaluation) :
    Spells (evaluationOf c).toValue c.toJson := by
  have hcontributions : Spells (.arr ((c.contributions.map contributionOf).map (·.toValue)))
      (.arr (c.contributions.map (·.toJson))) := by
    rw [List.map_map]
    exact spells_arr fun contribution _ => spells_contribution contribution
  refine spells_obj ?_ (by simp)
  simpa [SpellsFields, evaluationOf] using hcontributions

theorem spells_metrics (m : Policy.Metrics) : Spells (metricsOf m).toValue m.toJson := by
  refine spells_obj ?_ (by simp)
  simp [SpellsFields, metricsOf]

theorem spells_selection (s : Policy.Selection) : Spells (selectionOf s).toValue s.toJson := by
  refine spells_obj ?_ (by simp)
  simpa [SpellsFields, selectionOf] using spells_metrics s.metrics

/-- The properties of a result that are not constant. -/
def computedFields (p : Policy.PolicyPayload) : List (String × Json) :=
  [("caseId", .str p.caseId), ("profile", .str p.profile.text), ("status", .str p.status),
    ("inputFingerprint", .str p.inputFingerprint),
    ("policyConfigurationFingerprint", .str p.policyConfigurationFingerprint),
    ("profileSettings", p.profileSettings.toJson),
    ("candidates", .arr (p.candidates.map (·.toJson))),
    ("portfolio", .obj [("bestChoice", p.bestChoice.toJson),
      ("bestSensibleSaving", p.bestSensibleSaving.toJson),
      ("worthwhileComfortUpgrade", p.worthwhileComfortUpgrade.toJson), ("split", p.split.toJson)]),
    ("explanation", .obj [("format", .str "role-aware-decision-thesis-v1"),
      ("profileSemanticsKey", .str ("profile:" ++ p.profile.text)),
      ("budgetSemanticsKey", .str ("budget:" ++ p.profileSettings.budgetTreatment.text)),
      ("roleSeparationExplicit", .bool true), ("evidenceLinked", .bool true),
      ("missingEvidenceTreatment", .str "neutral-renormalization-with-lower-coverage")]),
    ("counts", .obj [("candidates", .num p.counts.candidates),
      ("comparable", .num p.counts.comparable), ("dominated", .num p.counts.dominated),
      ("missingEvidence", .num p.counts.missingEvidence),
      ("selectedRoles", .num p.counts.selectedRoles)])]

/-- The same properties in the order of `PolicyResult.payloadFields`. -/
def readFields (p : Policy.PolicyPayload) : List (String × Json) :=
  constantFields.take 2 ++ ((computedFields p).take 2 ++ ((constantFields.drop 2).take 1 ++
    ((computedFields p).drop 2 ++ constantFields.drop 3)))

theorem readFields_perm (p : Policy.PolicyPayload) :
    (readFields p).Perm (constantFields ++ computedFields p) := by
  have hswap : ∀ a b c d e : List (String × Json),
      (a ++ (b ++ (c ++ (d ++ e)))).Perm (a ++ (c ++ e) ++ (b ++ d)) := by
    intro a b c d e
    rw [List.append_assoc, List.append_assoc, List.perm_append_left_iff]
    refine (List.perm_append_comm_assoc b c _).trans (List.Perm.append_left c ?_)
    rw [← List.append_assoc]
    exact List.perm_append_comm
  exact hswap _ _ _ _ _

theorem payload_spells {r : Policy.PolicyResult} (hstatus : (statusOf r.status).text = r.status) :
    Spells (resultOf r).payload r.toPolicyPayload.toJson := by
  have hcandidates : Spells (.arr ((r.candidates.map evaluationOf).map (·.toValue)))
      (.arr (r.candidates.map (·.toJson))) := by
    rw [List.map_map]
    exact spells_arr fun candidate _ => spells_evaluation candidate
  have hportfolio : Spells (resultOf r).portfolio.toValue
      (.obj [("bestChoice", r.bestChoice.toJson),
        ("bestSensibleSaving", r.bestSensibleSaving.toJson),
        ("worthwhileComfortUpgrade", r.worthwhileComfortUpgrade.toJson),
        ("split", r.split.toJson)]) := by
    refine spells_obj ?_ (by simp)
    simp [SpellsFields, resultOf, spells_selection]
  have hcounts : Spells (resultOf r).counts.toValue
      (.obj [("candidates", .num r.counts.candidates), ("comparable", .num r.counts.comparable),
        ("dominated", .num r.counts.dominated), ("missingEvidence", .num r.counts.missingEvidence),
        ("selectedRoles", .num r.counts.selectedRoles)]) := by
    refine spells_obj ?_ (by simp)
    simp [SpellsFields, resultOf]
  have hkeys : ((readFields r.toPolicyPayload).map Prod.fst).Nodup := by
    simp [readFields, constantFields, computedFields]
  obtain ⟨data, hdata, htext⟩ : Spells (resultOf r).payload (.obj (readFields r.toPolicyPayload)) := by
    refine spells_obj ?_ hkeys
    show SpellsFields (resultOf r).payloadFields _
    simp only [SpellsFields, PolicyResult.payloadFields, readFields, constantFields, computedFields]
    refine .cons ⟨rfl, spells_str _⟩ <| .cons ⟨rfl, spells_str _⟩ <| .cons ⟨rfl, spells_str _⟩ <|
      .cons ⟨rfl, spells_str _⟩ <| .cons ⟨rfl, spells_str _⟩ <| .cons ⟨rfl, ?_⟩ <|
      .cons ⟨rfl, spells_str _⟩ <| .cons ⟨rfl, spells_str _⟩ <|
      .cons ⟨rfl, spells_settings r.profileSettings⟩ <| .cons ⟨rfl, hcandidates⟩ <|
      .cons ⟨rfl, hportfolio⟩ <| .cons ⟨rfl, spells_data _⟩ <| .cons ⟨rfl, hcounts⟩ <|
      .cons ⟨rfl, spells_bool _⟩ <| .cons ⟨rfl, spells_bool _⟩ <| .cons ⟨rfl, spells_bool _⟩ <|
      .cons ⟨rfl, spells_bool _⟩ <| .cons ⟨rfl, spells_bool _⟩ <| .cons ⟨rfl, spells_bool _⟩ <|
      .cons ⟨rfl, spells_bool _⟩ .nil
    rw [← hstatus]
    exact spells_str _
  exact ⟨data, hdata, fun rt => (htext rt).trans (stableSerialize_perm rt (readFields_perm _) hkeys)⟩

/-! ## 3. Property names -/

/-- No property of the value is a commercial one, at any depth. -/
def Plain (value : Value) : Prop := namesField commercialFields value.keys = false

theorem namesField_append (names keys more : List String) :
    namesField names (keys ++ more) = (namesField names keys || namesField names more) :=
  List.any_append

theorem plain_obj {fields : List (String × Value)} {keys : List String}
    (hkeys : fields.map Prod.fst = keys) (hclean : namesField commercialFields keys = false)
    (hvalues : ∀ field ∈ fields, Plain field.2) : Plain (.obj fields) := by
  subst hkeys
  show namesField commercialFields (Value.keysOfFields fields) = false
  induction fields with
  | nil => rfl
  | cons field rest ih =>
    obtain ⟨key, value⟩ := field
    rw [List.map_cons, ← List.singleton_append, namesField_append, Bool.or_eq_false_iff] at hclean
    have hrest := ih (fun more hmore => hvalues more (List.mem_cons_of_mem _ hmore)) hclean.2
    have hvalue : Plain value := hvalues (key, value) List.mem_cons_self
    unfold Value.keysOfFields
    split
    next => contradiction
    next h =>
      obtain ⟨⟨rfl, -⟩, rfl⟩ := by simpa using h
      exact hrest
    next h =>
      obtain ⟨⟨rfl, rfl⟩, rfl⟩ := by simpa using h
      rw [List.cons_append, ← List.singleton_append, namesField_append, namesField_append, hclean.1,
        hrest, Bool.false_or, Bool.or_false]
      exact hvalue

theorem plain_arr {α : Type} {l : List α} {f : α → Value} (h : ∀ a, Plain (f a)) :
    Plain (.arr (l.map f)) := by
  show namesField commercialFields (Value.keysOfValues (l.map f)) = false
  induction l with
  | nil => rfl
  | cons a l ih =>
    rw [List.map_cons, Value.keysOfValues, namesField_append, ih, Bool.or_false]
    exact h a

@[simp] theorem plain_str (s : String) : Plain (.str s) := rfl

@[simp] theorem plain_bool (b : Bool) : Plain (.bool b) := rfl

@[simp] theorem plain_text? (s : Option String) : Plain (.text? s) := by cases s <;> rfl

@[simp] theorem plain_num (x : JsFloat) : Plain (.num x) := rfl

@[simp] theorem plain_num? (x : Option JsFloat) : Plain (.num? x) := by cases x <;> rfl

@[simp] theorem plain_boolOrNull (b : Option Bool) : Plain (.data (boolOrNull b)) := by
  cases b <;> rfl

@[simp] theorem plain_texts (values : List String) : Plain (.texts values) := by
  show namesField commercialFields (Json.keysOfValues (values.map .str)) = false
  induction values with
  | nil => rfl
  | cons value values ih => exact ih

/-- The property names of the records of a result. -/
def recordFields : List (List String) :=
  [experienceDimensions.map (·.text),
    ["budgetTreatment", "dimensionWeights", "choiceExperienceLossTolerance",
      "opportunityCostPointsPerBudgetRatio", "maximumBudgetOverrunRatio", "minimumQualityScore",
      "minimumExperienceScore", "savingQualityLossTolerance", "savingExperienceLossTolerance",
      "upgradeMinimumExperienceGain", "upgradeMinimumMarginalValuePer100"],
    ["dimension", "availability", "sourceScore", "configuredWeight", "normalizedAvailableWeight",
      "weightedValue", "evidenceIds", "transform"],
    ["solutionId", "solutionType", "status", "totalCost", "currency", "budgetStatus",
      "qualityScore", "minimumQualityMet", "experienceScore", "opportunityCostPoints",
      "personalUtilityScore", "evidenceCoverage", "availableDimensions", "missingDimensions",
      "contributions", "dominatedBySolutionIds", "reasonCodes"],
    ["totalCost", "experienceScore", "qualityScore", "opportunityCostPoints", "savingAmount",
      "qualityLoss", "experienceLoss", "qualityLossTolerance", "experienceLossTolerance",
      "upgradePremium", "experienceGain", "marginalValuePer100", "marginalValueThreshold"],
    ["headlineKey", "mainSacrifice", "decisiveVariable", "choiceChangingCounterfactual",
      "evidenceIds", "uncertaintyCodes"],
    ["role", "status", "solutionId", "decisionTieClassification", "equivalentSolutionIds",
      "presentationRepresentativeSolutionId", "metrics", "explanation", "reasonCodes"],
    ["bestChoice", "bestSensibleSaving", "worthwhileComfortUpgrade", "split"],
    ["candidates", "comparable", "dominated", "missingEvidence", "selectedRoles"],
    ["format", "profileSemanticsKey", "budgetSemanticsKey", "roleSeparationExplicit",
      "evidenceLinked", "missingEvidenceTreatment"]]

theorem recordFields_plain :
    ∀ keys ∈ recordFields, namesField commercialFields keys = false := by
  decide +kernel

theorem plain_record {fields : List (String × Value)} (hkeys : fields.map Prod.fst ∈ recordFields)
    (hvalues : ∀ field ∈ fields, Plain field.2) : Plain (.obj fields) :=
  plain_obj rfl (recordFields_plain _ hkeys) hvalues

theorem plain_settings (s : ProfileSettings) : Plain s.toValue := by
  have hweights : Plain (.obj (experienceDimensions.map fun d =>
      (d.text, .num (s.dimensionWeights d)))) :=
    plain_record (List.mem_cons_self) (by simp [experienceDimensions])
  refine plain_record (by simp [recordFields]) ?_
  simpa using hweights

theorem plain_contribution (c : DimensionContribution) : Plain c.toValue := by
  refine plain_record (by simp [recordFields]) ?_
  simp

theorem plain_evaluation (c : CandidateEvaluation) : Plain c.toValue := by
  have hcontributions : Plain (.arr (c.contributions.map (·.toValue))) :=
    plain_arr plain_contribution
  have hdimensions : ∀ dimensions, Plain (.data (dimensionTexts dimensions)) :=
    fun dimensions => plain_texts _
  refine plain_record (by simp [recordFields]) ?_
  simpa [hdimensions] using hcontributions

theorem plain_metrics (m : Metrics) : Plain m.toValue := by
  refine plain_record (by simp [recordFields]) ?_
  simp

theorem plain_explanation (e : Policy.Explanation) : Plain (.data e.toJson) := by
  have hfields : Plain (.obj [("headlineKey", .str e.headlineKey),
      ("mainSacrifice", .str e.mainSacrifice), ("decisiveVariable", .str e.decisiveVariable),
      ("choiceChangingCounterfactual", .str e.choiceChangingCounterfactual),
      ("evidenceIds", .texts e.evidenceIds), ("uncertaintyCodes", .texts e.uncertaintyCodes)]) := by
    refine plain_record (by simp [recordFields]) ?_
    simp
  exact hfields

theorem plain_selection (s : Selection) : Plain s.toValue := by
  refine plain_record (by simp [recordFields]) ?_
  simpa using ⟨plain_metrics s.metrics, plain_explanation s.explanation⟩

theorem plain_portfolio (p : Portfolio) : Plain p.toValue := by
  refine plain_record (by simp [recordFields]) ?_
  simp [plain_selection]

theorem plain_counts (c : Counts) : Plain c.toValue := by
  refine plain_record (by simp [recordFields]) ?_
  simp

/-- A result without unknown properties has no commercial property. -/
theorem noCommercialField {r : PolicyResult} (h : r.unknownFields = []) :
    namesField commercialFields r.keys = false := by
  have hcandidates : Plain (.arr (r.candidates.map (·.toValue))) := plain_arr plain_evaluation
  have hexplanation : Plain r.explanation.toValue := by
    have hfields : Plain (.obj [("format", .str r.explanation.format),
        ("profileSemanticsKey", .str r.explanation.profileSemanticsKey),
        ("budgetSemanticsKey", .str r.explanation.budgetSemanticsKey),
        ("roleSeparationExplicit", .bool r.explanation.roleSeparationExplicit),
        ("evidenceLinked", .bool r.explanation.evidenceLinked),
        ("missingEvidenceTreatment", .str r.explanation.missingEvidenceTreatment)]) := by
      refine plain_record (by simp [recordFields]) ?_
      simp
    exact hfields
  show Plain (.obj (("fingerprint", .str r.fingerprint) :: r.payloadFields))
  rw [PolicyResult.payloadFields, h, List.map_nil, List.append_nil]
  refine plain_obj (by simp only [List.map_cons, List.map_nil]; rfl) (by decide +kernel) ?_
  simpa [plain_settings, plain_portfolio, plain_counts] using ⟨hcandidates, hexplanation⟩

/-! ## 4. Contributions -/

theorem foldl_contributions (contributions : List Policy.DimensionContribution) (x : ℚ) :
    (contributions.map contributionOf).foldl
        (fun total c => JsFloat.add total (c.weightedValue.getD (.finite 0))) (.finite x) =
      .finite (x + (contributions.map (·.weightedValue.getD 0)).sum) := by
  induction contributions generalizing x with
  | nil => simp
  | cons c contributions ih =>
    rw [List.map_cons, List.foldl_cons, List.map_cons, List.sum_cons, ← add_assoc, ← ih,
      contributionOf]
    cases c.weightedValue <;> rfl

theorem contributionTotal_evaluationOf (c : Policy.CandidateEvaluation) :
    contributionTotal (evaluationOf c) =
      .finite (round (c.contributions.map (·.weightedValue.getD 0)).sum 6) := by
  have hfold := foldl_contributions c.contributions 0
  rw [zero_add] at hfold
  exact congrArg roundFloat hfold

open Policy in
theorem sumOver_near {f g : ExperienceDimension → ℚ} {δ : ℚ} (h : ∀ d, |f d - g d| ≤ δ) :
    |sumOver f - sumOver g| ≤ 6 * δ := by
  have hd := fun d => abs_le.mp (h d)
  simp only [sumOver, experienceDimensions, List.map_cons, List.map_nil, List.sum_cons,
    List.sum_nil]
  rw [abs_le]
  constructor <;>
    linarith [hd .quality, hd .comfort, hd .location, hd .room, hd .flexibility, hd .longStays]

open Policy in
/-- One weighted value and its part of the experience score. -/
theorem weightedValue_near (settings : Policy.ProfileSettings) (s : SolutionInput)
    (d : ExperienceDimension) :
    |(dimensionContribution settings s d).weightedValue.getD 0 -
      (match (s.dimensions d).score with
        | none => 0
        | some score => score * settings.dimensionWeights d) / availableWeight settings s| ≤
      1 / 2 / 10 ^ 6 + 1 / 2 ^ 52 := by
  have hzero : (0 : ℚ) ≤ 1 / 2 / 10 ^ 6 + 1 / 2 ^ 52 := by positivity
  simp only [dimensionContribution]
  split
  next hweight => cases (s.dimensions d).score <;> simpa [hweight] using hzero
  next hweight =>
    cases (s.dimensions d).score with
    | none => simpa using hzero
    | some score =>
      simp only [Option.getD_some]
      have hdiv : (if availableWeight settings s = 0 then 0
          else settings.dimensionWeights d / availableWeight settings s) =
          settings.dimensionWeights d / availableWeight settings s := by
        split
        next hnone => rw [hnone, div_zero]
        next => rfl
      rw [hdiv, mul_div_assoc]
      exact round_near _ 6

open Policy in
theorem experienceScore_near {settings : Policy.ProfileSettings} {s : SolutionInput} {e : ℚ}
    (h : experienceScore settings s = some e) :
    |e - round (sumOver fun d => (dimensionContribution settings s d).weightedValue.getD 0) 6| ≤
      1 / 100000 := by
  simp only [experienceScore] at h
  split at h
  · exact nomatch h
  obtain rfl := Option.some.inj h
  have hparts := sumOver_near (weightedValue_near settings s)
  have hsum : ∀ f : ExperienceDimension → ℚ, sumOver (fun d => f d / availableWeight settings s) =
      sumOver f / availableWeight settings s := fun f => by
    simp only [sumOver, experienceDimensions, List.map_cons, List.map_nil, List.sum_cons,
      List.sum_nil]
    ring
  rw [hsum] at hparts
  generalize (sumOver fun d => (dimensionContribution settings s d).weightedValue.getD 0) = total
    at hparts ⊢
  generalize sumOver _ / availableWeight settings s = score at hparts ⊢
  have hscore := abs_le.mp (round_near score 6)
  have htotal := abs_le.mp (round_near total 6)
  have hbound : 8 * (1 / 2 / 10 ^ 6 + 1 / 2 ^ 52 : ℚ) ≤ 1 / 100000 := by norm_num
  rw [abs_le] at hparts ⊢
  constructor <;> linarith

open Policy in
/-- The experience score of a candidate is the sum of its contributions, and no missing evidence
counts. -/
theorem noCandidateViolations {input : PolicyInput} {settings : Policy.ProfileSettings}
    {c : Policy.CandidateEvaluation} (h : c ∈ evaluateCandidates input settings) :
    candidateViolations (evaluationOf c) = [] := by
  obtain ⟨s, -, ids, rfl⟩ := mem_evaluateCandidates h
  have hcontributions : ∀ contribution ∈ (evaluateCandidate input settings s).contributions,
      contributionViolations s.solutionId (contributionOf contribution) = [] := by
    intro contribution hmem
    obtain ⟨d, -, rfl⟩ := List.mem_map.mp hmem
    simp only [dimensionContribution]
    split
    · rfl
    · split <;> rfl
  have htotal : contributionTotal (evaluationOf { evaluateCandidate input settings s with
      dominatedBySolutionIds := ids }) = .finite (round (sumOver fun d =>
        (dimensionContribution settings s d).weightedValue.getD 0) 6) := by
    rw [contributionTotal_evaluationOf]
    show JsFloat.finite (round (((experienceDimensions.map
      (dimensionContribution settings s)).map (·.weightedValue.getD 0)).sum) 6) = _
    rw [List.map_map]
    rfl
  have hscore : (evaluationOf { evaluateCandidate input settings s with
      dominatedBySolutionIds := ids }).experienceScore =
        (experienceScore settings s).map .finite := rfl
  rw [candidateViolations, List.append_eq_nil_iff, addIf_eq_nil, htotal, hscore]
  constructor
  · cases he : experienceScore settings s with
    | none => rfl
    | some e =>
      have hnear := experienceScore_near he
      rw [sub_eq_add_neg] at hnear
      generalize round _ 6 = total at hnear ⊢
      exact decide_eq_false (not_lt.mpr hnear)
  · refine List.flatMap_eq_nil_iff.mpr fun contribution hmem => ?_
    obtain ⟨original, horiginal, rfl⟩ := List.mem_map.mp hmem
    exact hcontributions original horiginal

/-! ## 5. Counts -/

theorem equals_natCast {m n : ℕ} (h : m = n) :
    JsFloat.equals (.finite (m : ℚ)) (.finite (n : ℚ)) = true := by
  rw [h]
  exact decide_eq_true rfl

theorem countsMatch_payload (rt : Runtime) (input : PolicyInput) (fingerprint : String) :
    countsMatch (resultOf ⟨createPayload rt input, fingerprint⟩) = true := by
  have hcandidates : (resultOf ⟨createPayload rt input, fingerprint⟩).candidates =
      (createPayload rt input).candidates.map evaluationOf := rfl
  have hroles : (createPayload rt input).counts.selectedRoles =
      [(createPayload rt input).bestChoice, (createPayload rt input).bestSensibleSaving,
        (createPayload rt input).worthwhileComfortUpgrade, (createPayload rt input).split].countP
          (·.status = .selected) := List.countP_eq_length_filter.symm
  simp only [countsMatch, Bool.and_eq_true]
  refine ⟨⟨⟨⟨equals_natCast ?_, equals_natCast ?_⟩, equals_natCast ?_⟩, equals_natCast ?_⟩,
    equals_natCast ?_⟩
  · rw [hcandidates, List.length_map]
    rfl
  · rw [hcandidates, List.countP_map, List.countP_eq_length_filter]
    rfl
  · rw [hcandidates, List.countP_map, List.countP_eq_length_filter]
    rfl
  · rw [hcandidates, List.countP_map, List.countP_eq_length_filter]
    rfl
  · exact hroles.trans (List.countP_map (p := fun s : Selection => decide (s.status = .selected))
      (f := selectionOf) (l := [_, _, _, _])).symm

end SmartStay.Safety
