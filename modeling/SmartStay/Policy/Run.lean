import SmartStay.Policy.Roles

/-!
# Runs of the role policy

1. The input and the result as records, with their fingerprints.
2. `runPersonalUtilityRolePolicy`, `verifyPersonalUtilityRolePolicyReplay`.
3. `run_spec`, `assertInput_ok`: an accepted input, and what is computed from it.
-/

namespace SmartStay.Policy

open Contract JsSort

/-! ## 1. Records -/

def SolutionInput.toJson (s : SolutionInput) : Json :=
  .obj [("solutionId", .str s.solutionId), ("solutionType", .str s.solutionType.text),
    ("totalCost", .num? s.totalCost), ("currency", .str s.currency),
    ("hardConstraintsSatisfied", boolOrNull s.hardConstraintsSatisfied),
    ("offerIntegrity", .str s.offerIntegrity.text),
    ("dimensions", .obj (experienceDimensions.map fun d => (d.text,
      .obj [("score", .num? (s.dimensions d).score),
        ("evidenceIds", .texts (s.dimensions d).evidenceIds)]))),
    ("evidenceIds", .texts s.evidenceIds)]

def PolicyInput.toJson (input : PolicyInput) : Json :=
  .obj [("caseId", .str input.caseId), ("profile", .str input.profile.text),
    ("totalBudget", .num input.totalBudget), ("currency", .str input.currency),
    ("nights", .num input.nights), ("solutions", .arr (input.solutions.map (·.toJson)))]

def dimensionWeightsJson (weights : ExperienceDimension → ℚ) : Json :=
  .obj (experienceDimensions.map fun d => (d.text, .num (weights d)))

def ProfileSettings.toJson (s : ProfileSettings) : Json :=
  .obj [("budgetTreatment", .str s.budgetTreatment.text),
    ("dimensionWeights", dimensionWeightsJson s.dimensionWeights),
    ("choiceExperienceLossTolerance", .num s.choiceExperienceLossTolerance),
    ("opportunityCostPointsPerBudgetRatio", .num s.opportunityCostPointsPerBudgetRatio),
    ("maximumBudgetOverrunRatio", .num s.maximumBudgetOverrunRatio),
    ("minimumQualityScore", .num s.minimumQualityScore),
    ("minimumExperienceScore", .num s.minimumExperienceScore),
    ("savingQualityLossTolerance", .num s.savingQualityLossTolerance),
    ("savingExperienceLossTolerance", .num s.savingExperienceLossTolerance),
    ("upgradeMinimumExperienceGain", .num s.upgradeMinimumExperienceGain),
    ("upgradeMinimumMarginalValuePer100", .num s.upgradeMinimumMarginalValuePer100)]

/-- `POLICY_CONFIGURATION_FINGERPRINT`. -/
def policyConfigurationFingerprint (rt : Runtime) : String :=
  createStableHash rt (.obj ([Profile.maximumComfort, .comfort, .balanced, .savings,
    .maximumSavings].map fun p => (p.text, (profileSettings p).toJson)))
      "stayopti-v3-personal-utility-role-policy-configuration"

def DimensionContribution.toJson (c : DimensionContribution) : Json :=
  .obj [("dimension", .str c.dimension.text), ("availability", .str c.availability.text),
    ("sourceScore", .num? c.sourceScore), ("configuredWeight", .num c.configuredWeight),
    ("normalizedAvailableWeight", .num c.normalizedAvailableWeight),
    ("weightedValue", .num? c.weightedValue), ("evidenceIds", .texts c.evidenceIds),
    ("transform", .str c.transform)]

def CandidateEvaluation.toJson (c : CandidateEvaluation) : Json :=
  .obj [("solutionId", .str c.solutionId), ("solutionType", .str c.solutionType.text),
    ("status", .str c.status.text), ("totalCost", .num? c.totalCost), ("currency", .str c.currency),
    ("budgetStatus", .str c.budgetStatus.text), ("qualityScore", .num? c.qualityScore),
    ("minimumQualityMet", boolOrNull c.minimumQualityMet),
    ("experienceScore", .num? c.experienceScore),
    ("opportunityCostPoints", .num? c.opportunityCostPoints),
    ("personalUtilityScore", .num? c.personalUtilityScore),
    ("evidenceCoverage", .num c.evidenceCoverage),
    ("availableDimensions", dimensionTexts c.availableDimensions),
    ("missingDimensions", dimensionTexts c.missingDimensions),
    ("contributions", .arr (c.contributions.map (·.toJson))),
    ("dominatedBySolutionIds", .texts c.dominatedBySolutionIds),
    ("reasonCodes", .texts c.reasonCodes)]

def Metrics.toJson (m : Metrics) : Json :=
  .obj [("totalCost", .num? m.totalCost), ("experienceScore", .num? m.experienceScore),
    ("qualityScore", .num? m.qualityScore), ("opportunityCostPoints", .num? m.opportunityCostPoints),
    ("savingAmount", .num? m.savingAmount), ("qualityLoss", .num? m.qualityLoss),
    ("experienceLoss", .num? m.experienceLoss),
    ("qualityLossTolerance", .num? m.qualityLossTolerance),
    ("experienceLossTolerance", .num? m.experienceLossTolerance),
    ("upgradePremium", .num? m.upgradePremium), ("experienceGain", .num? m.experienceGain),
    ("marginalValuePer100", .num? m.marginalValuePer100),
    ("marginalValueThreshold", .num? m.marginalValueThreshold)]

def Explanation.toJson (e : Explanation) : Json :=
  .obj [("headlineKey", .str e.headlineKey), ("mainSacrifice", .str e.mainSacrifice),
    ("decisiveVariable", .str e.decisiveVariable),
    ("choiceChangingCounterfactual", .str e.choiceChangingCounterfactual),
    ("evidenceIds", .texts e.evidenceIds), ("uncertaintyCodes", .texts e.uncertaintyCodes)]

def Selection.toJson (s : Selection) : Json :=
  .obj [("role", .str s.role.text), ("status", .str s.status.text),
    ("solutionId", .text? s.solutionId),
    ("decisionTieClassification", .str s.decisionTieClassification.text),
    ("equivalentSolutionIds", .texts s.equivalentSolutionIds),
    ("presentationRepresentativeSolutionId", .text? s.presentationRepresentativeSolutionId),
    ("metrics", s.metrics.toJson), ("explanation", s.explanation.toJson),
    ("reasonCodes", .texts s.reasonCodes)]

structure Counts where
  candidates : Nat
  comparable : Nat
  dominated : Nat
  missingEvidence : Nat
  selectedRoles : Nat

/-- `StayOptiPersonalUtilityRolePolicyResultV3` without its fingerprint and without the fields
    that are constants. -/
structure PolicyPayload where
  caseId : String
  profile : Profile
  status : String
  inputFingerprint : String
  policyConfigurationFingerprint : String
  profileSettings : ProfileSettings
  candidates : List CandidateEvaluation
  bestChoice : Selection
  bestSensibleSaving : Selection
  worthwhileComfortUpgrade : Selection
  split : Selection
  counts : Counts

structure PolicyResult extends PolicyPayload where
  fingerprint : String

/-- The constant fields. -/
def constantFields : List (String × Json) :=
  [("schemaVersion", .str "3.0.0-personal-utility-role-policy-schema.1"),
    ("policyVersion", .str "3.0.0-personal-utility-role-policy.1"),
    ("application", .str "offline-policy-candidate-only"),
    ("publicApplicationEnabled", .bool false), ("runtimeIntegrationEnabled", .bool false),
    ("v2PublicChanged", .bool false), ("splitEnabled", .bool false),
    ("legacyBudgetUtilityUsed", .bool false), ("teacherOutputsUsedAsGroundTruth", .bool false),
    ("commercialSignalsUsed", .bool false)]

def PolicyPayload.toJson (p : PolicyPayload) : Json :=
  .obj (constantFields ++
    [("caseId", .str p.caseId), ("profile", .str p.profile.text), ("status", .str p.status),
      ("inputFingerprint", .str p.inputFingerprint),
      ("policyConfigurationFingerprint", .str p.policyConfigurationFingerprint),
      ("profileSettings", p.profileSettings.toJson),
      ("candidates", .arr (p.candidates.map (·.toJson))),
      ("portfolio", .obj [("bestChoice", p.bestChoice.toJson),
        ("bestSensibleSaving", p.bestSensibleSaving.toJson),
        ("worthwhileComfortUpgrade", p.worthwhileComfortUpgrade.toJson),
        ("split", p.split.toJson)]),
      ("explanation", .obj [("format", .str "role-aware-decision-thesis-v1"),
        ("profileSemanticsKey", .str ("profile:" ++ p.profile.text)),
        ("budgetSemanticsKey", .str ("budget:" ++ p.profileSettings.budgetTreatment.text)),
        ("roleSeparationExplicit", .bool true), ("evidenceLinked", .bool true),
        ("missingEvidenceTreatment", .str "neutral-renormalization-with-lower-coverage")]),
      ("counts", .obj [("candidates", .num p.counts.candidates),
        ("comparable", .num p.counts.comparable), ("dominated", .num p.counts.dominated),
        ("missingEvidence", .num p.counts.missingEvidence),
        ("selectedRoles", .num p.counts.selectedRoles)])])

def resultFingerprint (rt : Runtime) (p : PolicyPayload) : String :=
  createStableHash rt p.toJson "stayopti-v3-personal-utility-role-policy-result"

/-! ## 2. Runs -/

/-- The candidates of a canonical input. -/
def evaluateCandidates (input : PolicyInput) (settings : ProfileSettings) :
    List CandidateEvaluation :=
  withDominance (input.solutions.map (evaluateCandidate input settings))

/-- The four selections of the portfolio. -/
structure Portfolio where
  bestChoice : Selection
  bestSensibleSaving : Selection
  worthwhileComfortUpgrade : Selection
  split : Selection

def createPortfolio (rt : Runtime) (input : PolicyInput) (settings : ProfileSettings)
    (candidates : List CandidateEvaluation)
    (choice : Option (TieResolution CandidateEvaluation)) : Portfolio :=
  let noSaving := unavailableRole .bestSensibleSaving .abstained "saving:no-best-choice"
  let noUpgrade := unavailableRole .worthwhileComfortUpgrade .abstained "upgrade:no-best-choice"
  let split := unavailableRole .split .disabled "split:disabled-until-single-stay-maturity"
  match choice with
  | none => ⟨unavailableRole .bestChoice .abstained "choice:no-comparable-option", noSaving,
      noUpgrade, split⟩
  | some resolution =>
    match resolution.selected with
    -- the candidates considered are not empty, so there is a leader
    | none => ⟨equivalentChoice input.profile resolution, noSaving, noUpgrade, split⟩
    | some choice =>
      let bestChoice := choiceRole rt resolution choice candidates input settings
      match resolution.classification with
      | .decisionallyDistinct => ⟨bestChoice, savingRole rt choice candidates input settings,
          upgradeRole rt choice candidates input settings, split⟩
      | .decisionallyEquivalent => ⟨bestChoice, noSaving, noUpgrade, split⟩

/-- What `runPersonalUtilityRolePolicyV3` computes from the canonical input. -/
def createPayload (rt : Runtime) (input : PolicyInput) : PolicyPayload :=
  let settings := cloneSettings input.profile input.nights
  let candidates := evaluateCandidates input settings
  let choice := chooseBestChoice rt candidates input.profile settings
  let portfolio := createPortfolio rt input settings candidates choice
  { caseId := input.caseId
    profile := input.profile
    status :=
      match choice with
      | none => "abstained"
      | some resolution =>
        match resolution.classification with
        | .decisionallyEquivalent => "decisionally-equivalent"
        | .decisionallyDistinct => "usable"
    inputFingerprint :=
      createStableHash rt input.toJson "stayopti-v3-personal-utility-role-policy-input"
    policyConfigurationFingerprint := policyConfigurationFingerprint rt
    profileSettings := settings
    candidates
    bestChoice := portfolio.bestChoice
    bestSensibleSaving := portfolio.bestSensibleSaving
    worthwhileComfortUpgrade := portfolio.worthwhileComfortUpgrade
    split := portfolio.split
    counts :=
      { candidates := candidates.length
        comparable := (candidates.filter (·.status = .comparable)).length
        dominated := (candidates.filter (0 < ·.dominatedBySolutionIds.length)).length
        missingEvidence := (candidates.filter (0 < ·.missingDimensions.length)).length
        selectedRoles := ([portfolio.bestChoice, portfolio.bestSensibleSaving,
          portfolio.worthwhileComfortUpgrade, portfolio.split].filter
            (·.status = .selected)).length } }

def runPersonalUtilityRolePolicy (rt : Runtime) (rawInput : PolicyInput) :
    Except String PolicyResult := do
  assertInput rawInput
  let payload := createPayload rt (canonicalInput rt rawInput)
  .ok ⟨payload, resultFingerprint rt payload⟩

/-- `verifyPersonalUtilityRolePolicyReplayV3`; the policy version is a constant. -/
def verifyPersonalUtilityRolePolicyReplay (rt : Runtime) (input : PolicyInput)
    (expected : PolicyResult) : Except String Bool := do
  let replay ← runPersonalUtilityRolePolicy rt input
  .ok (replay.inputFingerprint = expected.inputFingerprint &&
    replay.policyConfigurationFingerprint = expected.policyConfigurationFingerprint &&
    replay.fingerprint = expected.fingerprint)

/-! ## 3. Accepted inputs -/

variable {rt : Runtime} {input : PolicyInput} {s : SolutionInput}

/-- What `assertInput` checks of one solution by itself. -/
structure ValidSolution (input : PolicyInput) (s : SolutionInput) : Prop where
  id_ne : (JsText.trim s.solutionId).length ≠ 0
  currency : s.currency = input.currency
  cost : ∀ cost, s.totalCost = some cost → 0 ≤ cost
  score : ∀ d v, (s.dimensions d).score = some v → 0 ≤ v ∧ v ≤ 100

/-- What `assertInput` lets through. -/
structure Accepted (input : PolicyInput) : Prop where
  caseId_ne : (JsText.trim input.caseId).length ≠ 0
  budget_pos : 0 < input.totalBudget
  currency_ne : (JsText.trim input.currency).length ≠ 0
  nights_int : input.nights.den = 1
  nights_pos : 0 < input.nights
  two : 2 ≤ input.solutions.length
  ids_nodup : (input.solutions.map (·.solutionId)).Nodup
  valid : ∀ s ∈ input.solutions, ValidSolution input s

theorem assertSolution_ok {ids : List String} :
    assertSolution input ids s = .ok () ↔ s.solutionId ∉ ids ∧ ValidSolution input s := by
  simp only [assertSolution]
  split
  · next hbad =>
    refine ⟨nofun, fun ⟨hfresh, hvalid⟩ => ?_⟩
    obtain ⟨hid, hcurrency, hcost, -⟩ := hvalid
    simp only [Bool.or_eq_true, decide_eq_true_eq, List.contains_iff_mem, Option.any_eq_true] at hbad
    rcases hbad with ((hbad | hbad) | hbad) | ⟨v, hv, hneg⟩
    · exact absurd hbad hid
    · exact absurd hbad hfresh
    · exact absurd hcurrency hbad
    · exact absurd (hcost v hv) (not_le.mpr hneg)
  · next hgood =>
    simp only [Bool.or_eq_true, decide_eq_true_eq, List.contains_iff_mem, Option.any_eq_true,
      not_or, not_exists, not_and, not_lt, ne_eq, not_not] at hgood
    obtain ⟨⟨⟨hid, hfresh⟩, hcurrency⟩, hcost⟩ := hgood
    cases hfind : experienceDimensions.find? fun d =>
        (s.dimensions d).score.any fun v => v < 0 || 100 < v with
    | some d =>
      refine ⟨nofun, fun ⟨_, hvalid⟩ => ?_⟩
      have hbad := List.find?_some hfind
      simp only [Option.any_eq_true, Bool.or_eq_true, decide_eq_true_eq] at hbad
      obtain ⟨v, hv, hrange⟩ := hbad
      have := hvalid.score d v hv
      rcases hrange with h | h <;> linarith
    | none =>
      refine ⟨fun _ => ⟨hfresh, hid, hcurrency, hcost, fun d v hv => ?_⟩, fun _ => rfl⟩
      have hok := List.find?_eq_none.mp hfind d (mem_experienceDimensions d)
      simpa [hv] using hok

theorem assertSolutions_ok {ids : List String} {solutions : List SolutionInput} :
    assertSolutions input ids solutions = .ok () ↔
      (solutions.map (·.solutionId)).Nodup ∧ (∀ s ∈ solutions, s.solutionId ∉ ids) ∧
        ∀ s ∈ solutions, ValidSolution input s := by
  induction solutions generalizing ids with
  | nil => simp [assertSolutions]
  | cons s rest ih =>
    have hstep : assertSolutions input ids (s :: rest) = .ok () ↔
        assertSolution input ids s = .ok () ∧
          assertSolutions input (s.solutionId :: ids) rest = .ok () := by
      simp only [assertSolutions]
      cases assertSolution input ids s with
      | error => simp [bind, Except.bind]
      | ok u => simp [bind, Except.bind]
    rw [hstep, assertSolution_ok, ih]
    rw [List.map_cons, List.nodup_cons, List.forall_mem_cons, List.forall_mem_cons]
    simp only [List.mem_map, List.mem_cons, not_exists, not_and, not_or]
    constructor
    · rintro ⟨⟨hfresh, hvalid⟩, hnodup, hrest, hvalids⟩
      exact ⟨⟨fun t ht => (hrest t ht).1, hnodup⟩, ⟨hfresh, fun t ht => (hrest t ht).2⟩, hvalid,
        hvalids⟩
    · rintro ⟨⟨hne, hnodup⟩, ⟨hfresh, hrest⟩, hvalid, hvalids⟩
      exact ⟨⟨hfresh, hvalid⟩, hnodup, fun t ht => ⟨hne t ht, hrest t ht⟩, hvalids⟩

theorem assertInput_ok : assertInput input = .ok () ↔ Accepted input := by
  simp only [assertInput]
  split
  · next hbad =>
    refine ⟨nofun, fun h => ?_⟩
    simp only [Bool.or_eq_true, decide_eq_true_eq] at hbad
    rcases hbad with ((((hbad | hbad) | hbad) | hbad) | hbad) | hbad
    · exact absurd hbad h.caseId_ne
    · exact absurd h.budget_pos (not_lt.mpr hbad)
    · exact absurd hbad h.currency_ne
    · exact absurd h.nights_int hbad
    · exact absurd h.nights_pos (not_lt.mpr hbad)
    · exact absurd h.two (not_le.mpr hbad)
  · next hgood =>
    simp only [Bool.or_eq_true, decide_eq_true_eq, not_or, not_le, not_lt, ne_eq, not_not] at hgood
    obtain ⟨⟨⟨⟨⟨hcase, hbudget⟩, hcurrency⟩, hint⟩, hnights⟩, htwo⟩ := hgood
    rw [assertSolutions_ok]
    constructor
    · rintro ⟨hnodup, -, hvalid⟩
      exact ⟨hcase, hbudget, hcurrency, hint, hnights, htwo, hnodup, hvalid⟩
    · intro h
      exact ⟨h.ids_nodup, by simp, h.valid⟩

/-- The policy accepts exactly these inputs, and computes from the canonical one. -/
theorem run_spec {result : PolicyResult} : runPersonalUtilityRolePolicy rt input = .ok result ↔
    Accepted input ∧ result = ⟨createPayload rt (canonicalInput rt input),
      resultFingerprint rt (createPayload rt (canonicalInput rt input))⟩ := by
  rw [← assertInput_ok, runPersonalUtilityRolePolicy]
  cases assertInput input with
  | error => simp [bind, Except.bind]
  | ok u =>
    simp only [bind, Except.bind, Except.ok.injEq]
    exact ⟨fun h => ⟨trivial, h.symm⟩, fun h => h.2.symm⟩

theorem canonicalInput_ids (rt : Runtime) (input : PolicyInput) :
    ((canonicalInput rt input).solutions.map (·.solutionId)).Perm
      (input.solutions.map (·.solutionId)) := by
  refine ((sortBy_perm _ _).map _).trans (List.Perm.of_eq ?_)
  simp [canonicalSolution]

end SmartStay.Policy
