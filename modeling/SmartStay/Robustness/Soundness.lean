import SmartStay.Lib.Distinct
import SmartStay.Policy.TieLaws
import SmartStay.Robustness.Evaluation

/-!
# What an evaluation of robustness guarantees

1. `evaluate_ok`: what an accepted input was evaluated to.
2. `mem_cohort`, `cohort_nodup`, `cohort_eq_nil`: the cohort are usable candidates.
3. `mem_scenarioScores`, `createScenario_valid`.
4. `candidateRegret_ids`, `memberRegret_bounds`.
5. `resolution_cases`, `robustChoice_best`: the tie among the members.
6. `robustChoice_valid`, `policy_valid`, `evaluate_valid`.
7. `leader_ahead`, `evaluateDecisionRobustness_safe`.
-/

namespace SmartStay.Robustness

open Contract JsSort PersonalUtility
open Policy (TieClassification TieResolution resolveDecisionTie compareDecisionTieProjection)

/-! ## 1. Accepted inputs -/

section

variable (rt : NumericRuntime) (input : RobustnessInput) (options : ResolvedOptions)

/-- The evaluations of the candidates, sorted by id. -/
def evaluatedCandidates : List CandidateEvaluation :=
  sortBy (Contextual.byText rt.toRuntime CandidateEvaluation.hotelId)
    (input.candidates.map fun candidate => candidateEvaluation rt candidate options)

def evaluatedSources : List ScenarioScoreInput :=
  input.candidates.map fun candidate => ⟨candidate, candidateEvaluation rt candidate options⟩

def evaluatedFindings : RobustnessFindings :=
  robustnessFindings rt.toRuntime input options (evaluatedCandidates rt input options)
    (evaluatedSources rt input options)

end

variable {rt : NumericRuntime} {input : RobustnessInput} {options : ResolvedOptions}
  {evaluation : DecisionRobustness}

theorem mem_evaluatedCandidates {c : CandidateEvaluation} :
    c ∈ evaluatedCandidates rt input options ↔
      ∃ candidate ∈ input.candidates, candidateEvaluation rt candidate options = c := by
  rw [evaluatedCandidates, mem_sortBy, List.mem_map]

theorem evaluatedCandidates_ids : ((evaluatedCandidates rt input options).map
    CandidateEvaluation.hotelId).Perm (input.candidates.map CandidateInput.hotelId) := by
  have hperm := (sortBy_perm (Contextual.byText rt.toRuntime CandidateEvaluation.hotelId)
    (input.candidates.map fun candidate => candidateEvaluation rt candidate options)).map
      CandidateEvaluation.hotelId
  rwa [List.map_map] at hperm

theorem findEvaluation_iff {candidates : List CandidateEvaluation} {c : CandidateEvaluation}
    {hotelId : String} (hids : (candidates.map CandidateEvaluation.hotelId).Nodup) :
    findEvaluation candidates hotelId = some c ↔ c ∈ candidates ∧ c.hotelId = hotelId :=
  Distinct.find?_key_iff hids

/-- Every candidate finds its own evaluation. -/
theorem mapM_sourceOf (hids : (input.candidates.map CandidateInput.hotelId).Nodup) :
    input.candidates.mapM (sourceOf (evaluatedCandidates rt input options)) =
      .ok (evaluatedSources rt input options) := by
  refine Fallible.mapM_eq_ok fun candidate hcandidate => ?_
  have hfind : findEvaluation (evaluatedCandidates rt input options) candidate.hotelId =
      some (candidateEvaluation rt candidate options) :=
    (findEvaluation_iff (evaluatedCandidates_ids.nodup_iff.mpr hids)).mpr
      ⟨mem_evaluatedCandidates.mpr ⟨candidate, hcandidate, rfl⟩, rfl⟩
  rw [sourceOf, hfind]

/-- An accepted input has options, ids of its own and valid candidates, and its evaluation is the
    findings with their fingerprint. -/
theorem evaluate_ok (h : evaluateDecisionRobustness rt input = .ok evaluation) :
    ∃ options, resolveOptions input.options = .ok options ∧
      (input.candidates.map CandidateInput.hotelId).Nodup ∧
      (∀ candidate ∈ input.candidates, candidateInvalid rt.toRuntime candidate = false) ∧
      evaluation.toRobustnessFindings = evaluatedFindings rt input options ∧
      evaluation.fingerprint =
        createFingerprint rt.toRuntime evaluation.toRobustnessFindings := by
  unfold evaluateDecisionRobustness at h
  obtain ⟨options, hoptions, h⟩ := Fallible.bind_ok.mp h
  obtain ⟨hids, h⟩ := Fallible.errorIf_ok.mp h
  rw [not_not] at hids
  obtain ⟨-, h⟩ := Fallible.errorIf_ok.mp h
  obtain ⟨evaluated, hevaluated, h⟩ := Fallible.bind_ok.mp h
  obtain ⟨sources, hsources, h⟩ := Fallible.bind_ok.mp h
  have hvalid : ∀ candidate ∈ input.candidates, candidateInvalid rt.toRuntime candidate = false ∧
      createCandidateEvaluation rt candidate options =
        .ok (candidateEvaluation rt candidate options) := by
    intro candidate hcandidate
    obtain ⟨c, hc⟩ := (Fallible.mapM_ok_iff.mp hevaluated).1 candidate hcandidate
    obtain ⟨hvalid, heq⟩ := Fallible.errorIf_ok.mp hc
    exact ⟨Bool.eq_false_iff.mpr hvalid, hc.trans heq.symm⟩
  have hcandidates : evaluated =
      input.candidates.map fun candidate => candidateEvaluation rt candidate options := by
    rw [Fallible.mapM_eq_ok fun candidate hcandidate => (hvalid candidate hcandidate).2]
      at hevaluated
    exact (Except.ok.inj hevaluated).symm
  subst hcandidates
  have hlist : sources = evaluatedSources rt input options :=
    (Except.ok.inj ((mapM_sourceOf hids).symm.trans hsources)).symm
  subst hlist
  cases h
  exact ⟨options, hoptions, hids, fun candidate hcandidate => (hvalid candidate hcandidate).1,
    rfl, rfl⟩

/-- An input that passes every check is evaluated. -/
theorem evaluate_of_valid (hoptions : resolveOptions input.options = .ok options)
    (hids : (input.candidates.map CandidateInput.hotelId).Nodup)
    (hcovered : sortedTexts (input.candidates.map CandidateInput.hotelId) =
      sortedTexts input.decisionGeometry.candidateHotelIds)
    (hvalid : ∀ candidate ∈ input.candidates, candidateInvalid rt.toRuntime candidate = false) :
    ∃ evaluation, evaluateDecisionRobustness rt input = .ok evaluation ∧
      evaluation.toRobustnessFindings = evaluatedFindings rt input options := by
  refine ⟨⟨evaluatedFindings rt input options,
    createFingerprint rt.toRuntime (evaluatedFindings rt input options)⟩, ?_, rfl⟩
  have hcreate : ∀ candidate ∈ input.candidates, createCandidateEvaluation rt candidate options =
      .ok (candidateEvaluation rt candidate options) := by
    intro candidate hcandidate
    rw [createCandidateEvaluation, hvalid candidate hcandidate]
    rfl
  unfold evaluateDecisionRobustness
  refine Fallible.bind_ok.mpr ⟨options, hoptions, ?_⟩
  rw [if_neg (not_not.mpr hids), if_neg (not_not.mpr hcovered)]
  refine Fallible.bind_ok.mpr ⟨_, Fallible.mapM_eq_ok hcreate, ?_⟩
  exact Fallible.bind_ok.mpr ⟨_, mapM_sourceOf hids, rfl⟩

/-! ## 2. The cohort -/

variable {runtime : Runtime} {candidates : List CandidateEvaluation}
  {requestedAnchorHotelId : Option String}

/-- The members are usable candidates. -/
theorem cohort_sublist : ∃ members : List CandidateEvaluation,
    members.Sublist (usableCandidates candidates) ∧
      (createComparisonCohort runtime candidates requestedAnchorHotelId).hotelIds =
        sortedTexts (members.map CandidateEvaluation.hotelId) := by
  unfold createComparisonCohort
  dsimp only
  split
  · split
    · exact ⟨[], List.nil_sublist _, rfl⟩
    · exact ⟨_, List.Sublist.refl _, rfl⟩
  · exact ⟨_, List.filter_sublist, rfl⟩

theorem mem_cohort {hotelId : String} (h : hotelId ∈
    (createComparisonCohort runtime candidates requestedAnchorHotelId).hotelIds) :
    ∃ c ∈ candidates, c.hotelId = hotelId ∧ c.status = .usable := by
  obtain ⟨members, hsub, heq⟩ := @cohort_sublist runtime candidates requestedAnchorHotelId
  rw [heq, (sortedTexts_perm _).mem_iff] at h
  obtain ⟨c, hc, rfl⟩ := List.mem_map.mp h
  obtain ⟨hmem, hstatus⟩ := List.mem_filter.mp (hsub.subset hc)
  exact ⟨c, hmem, rfl, of_decide_eq_true hstatus⟩

theorem cohort_nodup (hids : (candidates.map CandidateEvaluation.hotelId).Nodup) :
    (createComparisonCohort runtime candidates requestedAnchorHotelId).hotelIds.Nodup := by
  obtain ⟨members, hsub, heq⟩ := @cohort_sublist runtime candidates requestedAnchorHotelId
  rw [heq, (sortedTexts_perm _).nodup_iff]
  exact ((hsub.trans List.filter_sublist).map CandidateEvaluation.hotelId).nodup hids

instance : Std.TransCmp fun first second : CandidateEvaluation =>
    compare (second.riskAdjustedUtility.getD 0) (first.riskAdjustedUtility.getD 0) :=
  transCmp_flip (compareOn fun c : CandidateEvaluation => c.riskAdjustedUtility.getD 0)

theorem anchorResolution_leaders {usable : List CandidateEvaluation} {c : CandidateEvaluation}
    (h : c ∈ (anchorResolution runtime usable).leaders) : c ∈ usable :=
  (Policy.mem_leaders.mp h).1

theorem cohortAnchor_mem {usable : List CandidateEvaluation} {anchor : CandidateEvaluation}
    (h : cohortAnchor runtime usable requestedAnchorHotelId = some anchor) : anchor ∈ usable := by
  unfold cohortAnchor at h
  rcases Option.or_eq_some_iff.mp h with h | ⟨-, h⟩
  · rcases Option.or_eq_some_iff.mp h with h | ⟨-, h⟩
    · exact List.mem_of_find?_eq_some h
    · exact anchorResolution_leaders (Policy.representative_spec.1 anchor h)
  · split at h
    · exact anchorResolution_leaders (List.mem_of_mem_head? h)
    · cases h

/-- The cohort is empty only when no candidate is usable: an anchor is its own peer, and without
    one the tied candidates are all members. -/
theorem cohort_eq_nil :
    (createComparisonCohort runtime candidates requestedAnchorHotelId).hotelIds = [] ↔
      usableCandidates candidates = [] := by
  have hsorted : ∀ values : List String, sortedTexts values = [] ↔ values = [] := fun values =>
    ⟨fun h => (h ▸ sortedTexts_perm values).symm.eq_nil, fun h => by rw [h]; rfl⟩
  unfold createComparisonCohort
  dsimp only
  split
  · split
    · next hleaders =>
      refine ⟨fun _ => ?_, fun _ => rfl⟩
      by_contra hne
      exact Policy.leaders_ne_nil hne (List.length_eq_zero_iff.mp hleaders)
    · rw [hsorted, List.map_eq_nil_iff]
  · next anchor hanchor =>
    have hmem : anchor ∈ (usableCandidates candidates).filter (isPeer anchor) :=
      List.mem_filter.mpr ⟨cohortAnchor_mem hanchor, by simp [isPeer]⟩
    rw [hsorted, List.map_eq_nil_iff]
    constructor
    · intro hnil
      rw [hnil] at hmem
      cases hmem
    · intro hnil
      rw [hnil]
      rfl

/-! ## 3. Scenarios -/

variable {sources : List ScenarioScoreInput} {cohortHotelIds : List String}
  {scenarioId : ScenarioId} {score best : CandidateScore}

theorem memberScore_eq {hotelId : String} :
    memberScore runtime sources scenarioId hotelId = some score ↔ score.hotelId = hotelId ∧
      ∃ source, findSource sources hotelId = some source ∧
        scenarioUtility runtime source scenarioId = some score.riskAdjustedUtility := by
  unfold memberScore
  constructor
  · intro h
    obtain ⟨source, hsource, h⟩ := Option.bind_eq_some_iff.mp h
    obtain ⟨utility, hutility, h⟩ := Option.bind_eq_some_iff.mp h
    cases h
    exact ⟨rfl, source, hsource, hutility⟩
  · rintro ⟨rfl, source, hsource, hutility⟩
    exact Option.bind_eq_some_iff.mpr ⟨source, hsource,
      Option.bind_eq_some_iff.mpr ⟨_, hutility, rfl⟩⟩

theorem mem_scenarioScores :
    score ∈ scenarioScores runtime sources cohortHotelIds scenarioId ↔
      score.hotelId ∈ cohortHotelIds ∧
        memberScore runtime sources scenarioId score.hotelId = some score := by
  rw [scenarioScores, mem_sortBy, List.mem_filterMap]
  constructor
  · rintro ⟨hotelId, hmem, hscore⟩
    obtain rfl := (memberScore_eq.mp hscore).1
    exact ⟨hmem, hscore⟩
  · rintro ⟨hmem, hscore⟩
    exact ⟨_, hmem, hscore⟩

instance : Std.TransCmp fun first second : CandidateScore =>
    compare second.riskAdjustedUtility first.riskAdjustedUtility :=
  transCmp_flip (compareOn CandidateScore.riskAdjustedUtility)

/-- The first score of a scenario is the largest. -/
theorem scenarioScores_best
    (hbest : (scenarioScores runtime sources cohortHotelIds scenarioId).head? = some best)
    (hscore : score ∈ scenarioScores runtime sources cohortHotelIds scenarioId) :
    score.riskAdjustedUtility ≤ best.riskAdjustedUtility := by
  have hle := head_sortBy_le hbest (mem_sortBy.mp hscore)
  simpa [compare_gt_iff_gt] using hle

theorem scenarioUtility_within {source : ScenarioScoreInput} {utility : ℚ}
    (h : scenarioUtility runtime source scenarioId = some utility) :
    0 ≤ utility ∧ utility ≤ 100 := by
  unfold scenarioUtility at h
  split at h
  · cases h
  · obtain ⟨raw, -, rfl⟩ := Option.map_eq_some_iff.mp h
    exact clamped_within _

theorem createScenario_scores : (createScenario runtime sources cohortHotelIds options
      scenarioId).candidateScores = scenarioScores runtime sources cohortHotelIds scenarioId := by
  unfold createScenario
  cases scenarioScores runtime sources cohortHotelIds scenarioId <;> rfl

/-- A winner has a score that is as good as the best but for the tolerance. -/
theorem mem_winners {hotelId : String} : hotelId ∈ (createScenario runtime sources cohortHotelIds
      options scenarioId).winnerHotelIds ↔
    ∃ best, (scenarioScores runtime sources cohortHotelIds scenarioId).head? = some best ∧
      ∃ score ∈ scenarioScores runtime sources cohortHotelIds scenarioId,
        score.hotelId = hotelId ∧
          best.riskAdjustedUtility - score.riskAdjustedUtility ≤ options.scenarioTieTolerance := by
  unfold createScenario
  cases scenarioScores runtime sources cohortHotelIds scenarioId with
  | nil => simp
  | cons best rest =>
    simp only [(sortedTexts_perm _).mem_iff, List.mem_map, List.mem_filter, decide_eq_true_eq,
      List.head?_cons]
    constructor
    · rintro ⟨score, ⟨hmem, htied⟩, hid⟩
      exact ⟨best, rfl, score, hmem, hid, htied⟩
    · rintro ⟨_, ⟨⟩, score, hmem, hid, htied⟩
      exact ⟨score, ⟨hmem, htied⟩, hid⟩

theorem createScenario_valid {ids : List String} (hids : ∀ hotelId ∈ cohortHotelIds,
    hotelId ∈ ids) : scenarioIsValid ids (createScenario runtime sources cohortHotelIds options
      scenarioId) = true := by
  unfold scenarioIsValid
  rw [Bool.and_eq_true, List.all_eq_true, List.all_eq_true, createScenario_scores]
  constructor
  · intro score hscore
    obtain ⟨hmem, hmember⟩ := mem_scenarioScores.mp hscore
    obtain ⟨-, source, -, hutility⟩ := memberScore_eq.mp hmember
    obtain ⟨hlow, hhigh⟩ := scenarioUtility_within hutility
    simp [hids _ hmem, hlow, hhigh]
  · intro hotelId hwinner
    obtain ⟨best, -, score, hscore, hid, -⟩ := mem_winners.mp hwinner
    exact List.any_eq_true.mpr ⟨score, hscore, decide_eq_true hid⟩

/-! ## 4. Regret -/

variable {hotelId : String}

theorem scenarioRegret_nonneg {scenario : RobustnessScenario} {regret : ℚ}
    (hscenario : scenario ∈ createScenarios runtime sources cohortHotelIds options)
    (h : scenarioRegret hotelId scenario = some regret) : 0 ≤ regret := by
  obtain ⟨scenarioId, -, rfl⟩ := List.mem_map.mp hscenario
  obtain ⟨score, hscore, h⟩ := Option.bind_eq_some_iff.mp h
  obtain ⟨best, hbest, h⟩ := Option.bind_eq_some_iff.mp h
  cases h
  rw [createScenario_scores] at hscore hbest
  exact round_nonneg
    (sub_nonneg.mpr (scenarioScores_best hbest (List.mem_of_find?_eq_some hscore))) 6

theorem expectedRegret_nonneg :
    0 ≤ expectedRegret (createScenarios runtime sources cohortHotelIds options) hotelId := by
  unfold expectedRegret
  split
  · exact le_rfl
  · refine round_nonneg (div_nonneg (List.sum_nonneg fun regret hregret => ?_) (by positivity)) 6
    obtain ⟨scenario, hscenario, h⟩ := List.mem_filterMap.mp hregret
    exact scenarioRegret_nonneg (List.mem_of_mem_filter hscenario) h

theorem winRate_within (scenarios : List RobustnessScenario) (hotelId : String) :
    0 ≤ winRate scenarios hotelId ∧ winRate scenarios hotelId ≤ 1 := by
  unfold winRate
  split
  · exact ⟨le_rfl, zero_le_one⟩
  · have hle : (wins scenarios hotelId : ℚ) ≤ (evaluatedScenarios scenarios).length := by
      exact_mod_cast List.length_filter_le _ _
    exact round_within (n := 1000000) (by norm_num) (by norm_num)
      ⟨by positivity, div_le_one_of_le₀ hle (by positivity)⟩

theorem strengthOf_within (hstrength : ∀ c ∈ candidates, 0 ≤ c.evidenceStrength ∧
    c.evidenceStrength ≤ 1) :
    0 ≤ strengthOf candidates hotelId ∧ strengthOf candidates hotelId ≤ 1 := by
  unfold strengthOf
  cases hfind : findEvaluation candidates hotelId with
  | none => exact ⟨le_rfl, zero_le_one⟩
  | some c => exact hstrength c (List.mem_of_find?_eq_some hfind)

/-- The shares of a robust-choice score add up to a hundred at most. -/
theorem robustChoiceScore_within {scenarios : List RobustnessScenario}
    (hstrength : ∀ c ∈ candidates, 0 ≤ c.evidenceStrength ∧ c.evidenceStrength ≤ 1) :
    0 ≤ robustChoiceScore scenarios candidates hotelId ∧
      robustChoiceScore scenarios candidates hotelId ≤ 100 := by
  have hwin := winRate_within scenarios hotelId
  have hclamp : 0 ≤ JsNumber.clamp (expectedRegret scenarios hotelId / 10) 0 1 ∧
      JsNumber.clamp (expectedRegret scenarios hotelId / 10) 0 1 ≤ 1 :=
    JsNumber.clamp_mem zero_le_one
  have hevidence := @strengthOf_within candidates hotelId hstrength
  exact round_within (n := 1000000) (by norm_num) (by norm_num)
    ⟨by linarith [hwin.1, hclamp.2, hevidence.1], by linarith [hwin.2, hclamp.1, hevidence.2]⟩

theorem mem_candidateRegret {scenarios : List RobustnessScenario} {regret : CandidateRegret} :
    regret ∈ createCandidateRegret cohortHotelIds scenarios candidates ↔
      ∃ hotelId ∈ cohortHotelIds, memberRegret scenarios candidates hotelId = regret := by
  rw [createCandidateRegret, mem_sortBy, List.mem_map]

/-- Each member of the cohort has one entry. -/
theorem candidateRegret_ids {scenarios : List RobustnessScenario} :
    ((createCandidateRegret cohortHotelIds scenarios candidates).map
      CandidateRegret.hotelId).Perm cohortHotelIds := by
  refine ((sortBy_perm compareRegret _).map CandidateRegret.hotelId).trans ?_
  rw [List.map_map]
  exact (List.map_id' cohortHotelIds).symm ▸ List.Perm.refl _

theorem candidateRegret_length {scenarios : List RobustnessScenario} :
    (createCandidateRegret cohortHotelIds scenarios candidates).length = cohortHotelIds.length := by
  have hlength := (@candidateRegret_ids candidates cohortHotelIds scenarios).length_eq
  rwa [List.length_map] at hlength

/-! ## 5. Ties -/

instance : Std.TransCmp compareRegret := by
  have hscore : Std.TransCmp fun first second : CandidateRegret =>
      compare second.robustChoiceScore first.robustChoiceScore :=
    transCmp_flip (compareOn CandidateRegret.robustChoiceScore)
  have hregret : Std.TransCmp fun first second : CandidateRegret =>
      compare first.expectedRegret second.expectedRegret :=
    inferInstanceAs (Std.TransCmp (compareOn CandidateRegret.expectedRegret))
  exact inferInstanceAs (Std.TransCmp (compareLex _ _))

/-- A resolution of candidates is a leader without a tie, or a tie of several leaders. -/
theorem resolution_cases {α : Type} {cmp : α → α → Ordering} [Std.TransCmp cmp]
    {project : α → Json} {l : List α} (hne : l ≠ []) :
    ((resolveDecisionTie runtime l cmp project).classification = .decisionallyDistinct ∧
      ∃ a, (resolveDecisionTie runtime l cmp project).leaders = [a] ∧
        (resolveDecisionTie runtime l cmp project).presentationRepresentative = some a) ∨
    ((resolveDecisionTie runtime l cmp project).classification = .decisionallyEquivalent ∧
      2 ≤ (resolveDecisionTie runtime l cmp project).leaders.length) := by
  have hleaders : (resolveDecisionTie runtime l cmp project).leaders ≠ [] :=
    Policy.leaders_ne_nil hne
  have hlength := @Policy.classification_iff α runtime cmp project l _
  cases hclass : (resolveDecisionTie runtime l cmp project).classification with
  | decisionallyDistinct =>
    have hrepresentative := Policy.representative_spec.2 hclass
    have hone := hlength.mp hclass
    cases hlist : (resolveDecisionTie runtime l cmp project).leaders with
    | nil => exact absurd hlist hleaders
    | cons a rest =>
      rw [hlist, List.length_cons] at hone
      obtain rfl : rest = [] := List.length_eq_zero_iff.mp (by omega)
      rw [hlist] at hrepresentative
      exact .inl ⟨rfl, a, rfl, hrepresentative⟩
  | decisionallyEquivalent =>
    rw [hclass] at hlength
    exact .inr ⟨rfl, by_contra fun hshort => nomatch hlength.mpr (by omega)⟩

theorem robustChoice_cases {candidateRegret : List CandidateRegret} (hne : candidateRegret ≠ []) :
    ∃ choice ∈ candidateRegret, robustChoice runtime candidateRegret = some choice ∧
      (((robustChoiceResolution runtime candidateRegret).classification = .decisionallyDistinct ∧
        (robustChoiceResolution runtime candidateRegret).leaders = [choice]) ∨
      ((robustChoiceResolution runtime candidateRegret).classification = .decisionallyEquivalent ∧
        2 ≤ (robustChoiceResolution runtime candidateRegret).leaders.length)) := by
  have hmem : ∀ choice ∈ (robustChoiceResolution runtime candidateRegret).leaders,
      choice ∈ candidateRegret := fun choice hchoice => (Policy.mem_leaders.mp hchoice).1
  have hcases : ((robustChoiceResolution runtime candidateRegret).classification =
        .decisionallyDistinct ∧
      ∃ choice, (robustChoiceResolution runtime candidateRegret).leaders = [choice] ∧
        (robustChoiceResolution runtime candidateRegret).presentationRepresentative =
          some choice) ∨
      ((robustChoiceResolution runtime candidateRegret).classification =
        .decisionallyEquivalent ∧
      2 ≤ (robustChoiceResolution runtime candidateRegret).leaders.length) := resolution_cases hne
  rcases hcases with ⟨hclass, choice, hleaders, hrepresentative⟩ | ⟨hclass, hlength⟩
  · refine ⟨choice, hmem choice ?_, ?_, .inl ⟨hclass, hleaders⟩⟩
    · exact hleaders ▸ List.mem_singleton_self choice
    · rw [robustChoice, hrepresentative]
      rfl
  · cases hrepresentative :
        (robustChoiceResolution runtime candidateRegret).presentationRepresentative with
    | some choice =>
      refine ⟨choice, hmem choice (Policy.representative_spec.1 choice hrepresentative), ?_,
        .inr ⟨hclass, hlength⟩⟩
      rw [robustChoice, hrepresentative]
      rfl
    | none =>
      cases hleaders : (robustChoiceResolution runtime candidateRegret).leaders with
      | nil =>
        rw [hleaders] at hlength
        exact absurd hlength (by decide)
      | cons choice rest =>
        refine ⟨choice, hmem choice (hleaders ▸ List.mem_cons_self), ?_, .inr ⟨hclass, ?_⟩⟩
        · rw [robustChoice, hrepresentative, hleaders]
          rfl
        · exact hleaders ▸ hlength

/-! ## 6. Findings -/

section

variable {cohort : ComparisonCohort} {scenarios : List RobustnessScenario}
  {candidateRegret : List CandidateRegret}

/-- The findings of a cohort that is not empty: the best member, and whether it is alone. -/
theorem cohortFindings_cases (hne : candidateRegret ≠ []) : ∃ choice ∈ candidateRegret,
    robustChoice runtime candidateRegret = some choice ∧
    ((effectiveTie runtime candidateRegret candidates).classification = .decisionallyDistinct ∧
        (robustChoiceResolution runtime candidateRegret).leaders = [choice] ∨
      (effectiveTie runtime candidateRegret candidates).classification = .decisionallyEquivalent ∧
        2 ≤ (robustChoiceResolution runtime candidateRegret).leaders.length) := by
  have hpos : 0 < candidateRegret.length := List.length_pos_iff.mpr hne
  have htie : (effectiveTie runtime candidateRegret candidates).classification =
      (robustChoiceResolution runtime candidateRegret).classification := by
    rw [effectiveTie, if_pos hpos]
  rw [htie]
  exact robustChoice_cases hne

theorem cohortFindings_code (h : (cohortFindings runtime input options candidates cohort scenarios
      candidateRegret).recommendationPolicy = .recommend) :
    (cohortFindings runtime input options candidates cohort scenarios
      candidateRegret).abstentionCode = none := by
  by_contra hne
  have habstain : (cohortFindings runtime input options candidates cohort scenarios
      candidateRegret).recommendationPolicy = .abstain := if_neg hne
  rw [habstain] at h
  cases h

/-- A recommendation is made of the only best member. -/
theorem cohortFindings_recommend (h : (cohortFindings runtime input options candidates cohort
      scenarios candidateRegret).recommendationPolicy = .recommend) :
    ∃ choice ∈ candidateRegret, ∃ c, findEvaluation candidates choice.hotelId = some c ∧
      robustChoice runtime candidateRegret = some choice ∧
      (robustChoiceResolution runtime candidateRegret).leaders = [choice] ∧
      (effectiveTie runtime candidateRegret candidates).classification =
        .decisionallyDistinct ∧
      options.minimumEvidenceStrength ≤ c.evidenceStrength := by
  have hcode := cohortFindings_code h
  dsimp only [cohortFindings] at hcode
  split at hcode
  · cases hcode
  · next hnotTied =>
    unfold resolveAbstention at hcode
    split at hcode
    · next choice c hchoice hevaluation =>
      have hne : candidateRegret ≠ [] := by
        rintro rfl
        cases hchoice
      obtain ⟨choice', hmem, hchoice', hcases⟩ :=
        @cohortFindings_cases runtime candidates candidateRegret hne
      obtain rfl : choice' = choice := Option.some.inj (hchoice'.symm.trans hchoice)
      rw [hchoice, Option.bind_some] at hevaluation
      rcases hcases with ⟨hclass, hleaders⟩ | ⟨hclass, -⟩
      · refine ⟨choice', hmem, c, hevaluation, hchoice, hleaders, hclass, ?_⟩
        split at hcode
        · cases hcode
        · next hstrength => exact not_lt.mp hstrength
      · exact absurd ⟨List.length_pos_iff.mpr hne, hclass⟩ hnotTied
    · cases hcode

end

theorem isWithinHundred_of {value : Option ℚ} (h : ∀ x, value = some x → 0 ≤ x ∧ x ≤ 100) :
    isWithinHundred value = true := by
  cases value with
  | none => rfl
  | some x => simpa [isWithinHundred] using h x rfl

theorem candidateEvaluation_valid {candidate : CandidateInput}
    (hoptions : 0 ≤ options.riskPenaltyMaximum ∧ 0 ≤ options.uncertaintyWidthMaximum)
    (hvalid : candidateInvalid rt.toRuntime candidate = false) :
    candidateIsValid (candidateEvaluation rt candidate options) = true := by
  have hblank : 0 < (JsText.trim candidate.hotelId).length := by
    simp only [candidateInvalid, Bool.or_eq_false_iff, decide_eq_false_iff_not] at hvalid
    exact Nat.pos_of_ne_zero hvalid.1.1.1.1
  have hadjusted : isWithinHundred (riskAdjustedUtility rt candidate options) = true :=
    isWithinHundred_of fun x hx => riskAdjustedUtility_within hx
  have hdownside : isWithinHundred ((riskAdjustedUtility rt candidate options).map fun utility =>
      round (JsNumber.clamp (utility - uncertaintyWidth rt candidate options) 0 100) 6) = true :=
    isWithinHundred_of fun x hx => by
      obtain ⟨utility, -, rfl⟩ := Option.map_eq_some_iff.mp hx
      exact clamped_within _
  simp only [candidateIsValid, candidateEvaluation, hblank, hadjusted, hdownside,
    choiceRiskScore_within, evidenceStrength_within, riskPenalty_nonneg hoptions.1,
    uncertaintyWidth_nonneg hoptions.2, decide_true, Bool.and_true]

theorem relaxation_valid {abstentionCode : Option AbstentionCode} {currentBestUtility : Option ℚ}
    {relaxations : List RelaxationCandidate} : relaxationIsValid (evaluateConstraintRelaxation
      runtime abstentionCode currentBestUtility relaxations options) = true := by
  unfold evaluateConstraintRelaxation
  split
  · rfl
  · dsimp only
    split <;> rfl

/-- Leaders with ids of their own are listed once each. -/
theorem length_uniqueSorted {values : List String} (h : values.Nodup) :
    (uniqueSorted values).length = values.length := by
  rw [uniqueSorted, List.length_insertionSort, List.dedup_eq_self.mpr h]

/-- The ids of tied leaders: candidates, each once, and several of them where there is a tie. -/
structure TieIds (ids : List String) (tie : EffectiveTie) : Prop where
  mem : ∀ hotelId ∈ tie.hotelIds, hotelId ∈ ids
  nodup : tie.hotelIds.Nodup
  several : tie.classification = .decisionallyEquivalent → 2 ≤ tie.hotelIds.length
  representative : ∀ hotelId, tie.representativeHotelId = some hotelId → hotelId ∈ ids

theorem tieIds_of_resolution {α : Type} {cmp : α → α → Ordering} [Std.TransCmp cmp]
    {project : α → Json} {l : List α} {key : α → String} {ids : List String}
    (hnodup : (l.map key).Nodup) (hids : ∀ a ∈ l, key a ∈ ids) :
    TieIds ids ⟨(resolveDecisionTie runtime l cmp project).classification,
      (resolveDecisionTie runtime l cmp project).leaders.map key,
      (resolveDecisionTie runtime l cmp project).presentationRepresentative.map key⟩ where
  mem hotelId h := by
    obtain ⟨a, ha, rfl⟩ := List.mem_map.mp h
    exact hids a (Policy.mem_leaders.mp ha).1
  nodup := by
    rw [(Policy.leaders_perm.map key).nodup_iff]
    exact (List.filter_sublist.map key).nodup hnodup
  several h := by
    have hlength := @Policy.classification_iff α runtime cmp project l _
    rw [show (resolveDecisionTie runtime l cmp project).classification = _ from h] at hlength
    rw [List.length_map]
    exact by_contra fun hshort => nomatch hlength.mpr (by omega)
  representative hotelId h := by
    obtain ⟨a, ha, rfl⟩ := Option.map_eq_some_iff.mp h
    exact hids a (Policy.mem_leaders.mp (Policy.representative_spec.1 a ha)).1

instance {rt : Runtime} : Std.TransCmp fun first second : CandidateEvaluation =>
    compareDecisionTieProjection rt (evaluationProjection first) (evaluationProjection second) :=
  transCmp_comap (compareDecisionTieProjection rt) evaluationProjection

section

variable {cohort : ComparisonCohort} {scenarios : List RobustnessScenario}
  {candidateRegret : List CandidateRegret}

theorem effectiveTie_ids (hids : (candidates.map CandidateEvaluation.hotelId).Nodup)
    (hregretIds : (candidateRegret.map CandidateRegret.hotelId).Nodup)
    (hmem : ∀ regret ∈ candidateRegret,
      regret.hotelId ∈ candidates.map CandidateEvaluation.hotelId) :
    TieIds (candidates.map CandidateEvaluation.hotelId)
      (effectiveTie runtime candidateRegret candidates) := by
  unfold effectiveTie
  split
  · exact tieIds_of_resolution hregretIds hmem
  · exact tieIds_of_resolution hids fun c hc => List.mem_map_of_mem hc

/-- What the members of a cohort have to do with the candidates. -/
structure CohortRegret (candidates : List CandidateEvaluation)
    (candidateRegret : List CandidateRegret) : Prop where
  nil_iff : candidateRegret = [] ↔ usableCandidates candidates = []
  nodup : (candidateRegret.map CandidateRegret.hotelId).Nodup
  mem : ∀ regret ∈ candidateRegret, regret.hotelId ∈ candidates.map CandidateEvaluation.hotelId
  score : ∀ regret ∈ candidateRegret,
    0 ≤ regret.robustChoiceScore ∧ regret.robustChoiceScore ≤ 100
  regret : ∀ regret ∈ candidateRegret, 0 ≤ regret.expectedRegret

/-- The ids that are shown of a tie pass the checks on them. -/
theorem TieIds.checked {ids : List String} {tie : EffectiveTie} (h : TieIds ids tie) :
    ((uniqueSorted tie.hotelIds).all fun hotelId => ids.contains hotelId) = true ∧
      (tie.representativeHotelId.all fun hotelId => ids.contains hotelId) = true ∧
      (tie.classification = .decisionallyEquivalent →
        2 ≤ (uniqueSorted tie.hotelIds).length) := by
  refine ⟨?_, ?_, fun hclass => ?_⟩
  · rw [List.all_eq_true]
    exact fun hotelId hmem => List.contains_iff_mem.mpr (h.mem hotelId (mem_uniqueSorted.mp hmem))
  · cases hrepresentative : tie.representativeHotelId with
    | none => rfl
    | some hotelId => exact List.contains_iff_mem.mpr (h.representative hotelId hrepresentative)
  · rw [length_uniqueSorted h.nodup]
    exact h.several hclass

/-- Whatever the tie is resolved over, the choice that is shown is consistent. -/
theorem robustChoice_valid {fingerprint : String}
    (hids : (candidates.map CandidateEvaluation.hotelId).Nodup)
    (hregret : CohortRegret candidates candidateRegret) :
    robustChoiceIsValid ⟨cohortFindings runtime input options candidates cohort scenarios
      candidateRegret, fingerprint⟩ = true := by
  have htie := @effectiveTie_ids runtime candidates candidateRegret hids hregret.nodup hregret.mem
  obtain ⟨hall, hrepresentative, hseveral⟩ := htie.checked
  have hclass : (effectiveTie runtime candidateRegret candidates).classification =
      .decisionallyDistinct ∨ (effectiveTie runtime candidateRegret candidates).classification =
        .decisionallyEquivalent := by
    cases (effectiveTie runtime candidateRegret candidates).classification <;> simp
  unfold robustChoiceIsValid candidateIds
  dsimp only [cohortFindings]
  by_cases hnil : candidateRegret = []
  · -- without members the tie is one of candidates that are not usable
    have husable : (usableCandidates candidates).length = 0 := by rw [hregret.nil_iff.mp hnil]; rfl
    have hchoice : robustChoice runtime candidateRegret = none := by rw [hnil]; rfl
    rcases hclass with hclass | hclass
    · simp [hclass, hchoice]
    · have hlength := hseveral hclass
      simpa [hclass, hchoice, husable, hlength] using And.intro hall hrepresentative
  · have husable : usableCandidates candidates ≠ [] := fun hempty =>
      hnil (hregret.nil_iff.mpr hempty)
    obtain ⟨choice, hmem, hchoice, -⟩ := @robustChoice_cases runtime candidateRegret hnil
    rcases hclass with hclass | hclass
    · have hcontains := List.contains_iff_mem.mpr (hregret.mem choice hmem)
      obtain ⟨hlow, hhigh⟩ := hregret.score choice hmem
      simpa [hclass, hchoice, hlow, hhigh, hregret.regret choice hmem] using hcontains
    · have hlength := hseveral hclass
      have hstatus : (if (usableCandidates candidates).length = candidates.length then
          RobustnessStatus.usable else .partly) ≠ .unavailable := by
        split <;> simp
      simpa [hclass, hchoice, husable, hstatus, hlength] using And.intro hall hrepresentative

theorem cohortFindings_preferred : (cohortFindings runtime input options candidates cohort scenarios
      candidateRegret).policyPreferredHotelId =
    if (effectiveTie runtime candidateRegret candidates).classification =
        .decisionallyEquivalent then none
    else if (cohortFindings runtime input options candidates cohort scenarios
        candidateRegret).recommendationPolicy = .recommend then
      (robustChoice runtime candidateRegret).map CandidateRegret.hotelId
    else none := rfl

theorem policy_valid {fingerprint : String} : policyIsValid ⟨cohortFindings runtime input options
    candidates cohort scenarios candidateRegret, fingerprint⟩ = true := by
  unfold policyIsValid
  split
  · next hrecommend =>
    obtain ⟨choice, -, c, -, hchoice, -, hclass, -⟩ := cohortFindings_recommend hrecommend
    have hcode : (cohortFindings runtime input options candidates cohort scenarios
        candidateRegret).abstentionCode = none := cohortFindings_code hrecommend
    have hpreferred : (cohortFindings runtime input options candidates cohort scenarios
        candidateRegret).policyPreferredHotelId = some choice.hotelId := by
      rw [cohortFindings_preferred, hclass, if_pos hrecommend, hchoice]
      rfl
    have hshown : (cohortFindings runtime input options candidates cohort scenarios
        candidateRegret).robustChoiceHotelId = some choice.hotelId := by
      dsimp only [cohortFindings]
      rw [hclass, hchoice]
      rfl
    simp [hcode, hpreferred, hshown]
  · next habstain =>
    have hcode : (cohortFindings runtime input options candidates cohort scenarios
        candidateRegret).abstentionCode ≠ none := fun hnone => habstain (if_pos hnone)
    have hpreferred : (cohortFindings runtime input options candidates cohort scenarios
        candidateRegret).policyPreferredHotelId = none := by
      rw [cohortFindings_preferred, if_neg habstain]
      split <;> rfl
    simp [hpreferred, Option.isSome_iff_ne_none.mpr hcode]

end

/-- The regret of the members of an evaluated cohort. -/
theorem evaluated_cohortRegret (hids : (input.candidates.map CandidateInput.hotelId).Nodup) :
    CohortRegret (evaluatedCandidates rt input options)
      (evaluatedFindings rt input options).candidateRegret where
  nil_iff := by
    rw [← @cohort_eq_nil rt.toRuntime _ input.anchorHotelId, ← List.length_eq_zero_iff,
      ← List.length_eq_zero_iff]
    exact iff_of_eq (congrArg (· = 0) candidateRegret_length)
  nodup := candidateRegret_ids.nodup_iff.mpr
    (cohort_nodup (evaluatedCandidates_ids.nodup_iff.mpr hids))
  mem regret hregret := by
    have hmember := candidateRegret_ids.mem_iff.mp (List.mem_map_of_mem hregret)
    obtain ⟨c, hc, hid, -⟩ := mem_cohort hmember
    exact hid ▸ List.mem_map_of_mem hc
  score regret hregret := by
    obtain ⟨hotelId, -, rfl⟩ := mem_candidateRegret.mp hregret
    refine robustChoiceScore_within fun c hc => ?_
    obtain ⟨candidate, -, rfl⟩ := mem_evaluatedCandidates.mp hc
    exact evidenceStrength_within
  regret regret hregret := by
    obtain ⟨hotelId, -, rfl⟩ := mem_candidateRegret.mp hregret
    exact expectedRegret_nonneg

/-- Every evaluation passes the validation. -/
theorem evaluate_valid (h : evaluateDecisionRobustness rt input = .ok evaluation) :
    validateDecisionRobustness rt.toRuntime evaluation = true := by
  obtain ⟨options, hoptions, hids, hvalid, hfindings, hfingerprint⟩ := evaluate_ok h
  obtain ⟨hpenalty, hwidth, -⟩ := resolveOptions_ok hoptions
  have hcandidateIds := (@evaluatedCandidates_ids rt input options).nodup_iff.mpr hids
  obtain ⟨findings, fingerprint⟩ := evaluation
  dsimp only at hfindings hfingerprint
  subst hfindings
  have hcohort : ∀ hotelId ∈ (evaluatedFindings rt input options).comparisonCohortHotelIds,
      hotelId ∈ (evaluatedCandidates rt input options).map CandidateEvaluation.hotelId := by
    intro hotelId hmem
    obtain ⟨c, hc, rfl, -⟩ := mem_cohort hmem
    exact List.mem_map_of_mem hc
  have hcandidates : (evaluatedCandidates rt input options).all candidateIsValid = true := by
    rw [List.all_eq_true]
    intro c hc
    obtain ⟨candidate, hcandidate, rfl⟩ := mem_evaluatedCandidates.mp hc
    exact candidateEvaluation_valid ⟨hpenalty, hwidth⟩ (hvalid candidate hcandidate)
  have hscenarios : (evaluatedFindings rt input options).scenarios.all (scenarioIsValid
      ((evaluatedCandidates rt input options).map CandidateEvaluation.hotelId)) = true := by
    rw [List.all_eq_true]
    intro scenario hscenario
    obtain ⟨scenarioId, -, rfl⟩ := List.mem_map.mp hscenario
    exact createScenario_valid hcohort
  have hchoice : robustChoiceIsValid ⟨evaluatedFindings rt input options, fingerprint⟩ = true :=
    robustChoice_valid hcandidateIds (evaluated_cohortRegret hids)
  have hpolicy : policyIsValid ⟨evaluatedFindings rt input options, fingerprint⟩ = true :=
    policy_valid
  have hrelaxation : relaxationIsValid
      (evaluatedFindings rt input options).constraintRelaxation = true := relaxation_valid
  have hcontains : ((evaluatedFindings rt input options).comparisonCohortHotelIds.all fun hotelId =>
      ((evaluatedCandidates rt input options).map CandidateEvaluation.hotelId).contains hotelId) =
        true := by
    rw [List.all_eq_true]
    exact fun hotelId hmem => List.contains_iff_mem.mpr (hcohort hotelId hmem)
  unfold validateDecisionRobustness
  simp only [Bool.and_eq_true, decide_eq_true_eq]
  exact ⟨⟨⟨⟨⟨⟨⟨⟨⟨rfl, rfl⟩, hcandidateIds⟩, hcontains⟩, hcandidates⟩, hscenarios⟩, hchoice⟩,
    hpolicy⟩, hrelaxation⟩, hfingerprint⟩

/-! ## 7. Recommendations -/

theorem compareRegret_ne_gt {first second : CandidateRegret} :
    compareRegret first second ≠ .gt ↔
      second.robustChoiceScore ≤ first.robustChoiceScore ∧
        (second.robustChoiceScore = first.robustChoiceScore →
          first.expectedRegret ≤ second.expectedRegret) := by
  rw [compareRegret, compareLex_ne_gt]
  simp [compare_gt_iff_gt]

/-- The only leader is strictly ahead of every other member. -/
theorem leader_ahead {candidateRegret : List CandidateRegret} {choice other : CandidateRegret}
    (hleaders : (robustChoiceResolution runtime candidateRegret).leaders = [choice])
    (hother : other ∈ candidateRegret) (hne : other ≠ choice) :
    other.robustChoiceScore < choice.robustChoiceScore ∨
      other.robustChoiceScore = choice.robustChoiceScore ∧
        choice.expectedRegret < other.expectedRegret := by
  have hchoice : choice ∈ (robustChoiceResolution runtime candidateRegret).leaders :=
    hleaders ▸ List.mem_singleton_self choice
  have hleast := (Policy.mem_leaders.mp hchoice).2
  have hnotLeader : other ∉ (robustChoiceResolution runtime candidateRegret).leaders := by
    rw [hleaders, List.mem_singleton]
    exact hne
  obtain ⟨hscore, hregret⟩ := compareRegret_ne_gt.mp (hleast other hother)
  rcases lt_or_eq_of_le hscore with hlt | heq
  · exact .inl hlt
  · refine .inr ⟨heq, lt_of_le_of_ne (hregret heq) fun htied => hnotLeader ?_⟩
    -- a member that is tied with the leader would be a leader
    refine Policy.mem_leaders.mpr ⟨hother, fun b hb => ?_⟩
    have hb := hleast b hb
    rw [compareRegret_ne_gt] at hb ⊢
    rwa [heq, ← htied]

/-- The candidate is preferred with reason: it is the robust choice without a tie, a usable member
    of the cohort with enough evidence, and strictly ahead of every other member. -/
structure SafeRecommendation (rt : NumericRuntime) (options : ResolvedOptions)
    (evaluation : DecisionRobustness) (candidate : CandidateInput) (choice : CandidateRegret) :
    Prop where
  preferred : evaluation.policyPreferredHotelId = some candidate.hotelId
  robust : evaluation.robustChoiceHotelId = some candidate.hotelId
  untied : evaluation.decisionTieClassification = .decisionallyDistinct
  inCohort : candidate.hotelId ∈ evaluation.comparisonCohortHotelIds
  eligible : candidate.eligible = true
  usable : candidateStatus candidate = .usable
  snapshot : ∃ snapshot, candidate.offerSnapshot = some snapshot ∧
    snapshot.bookability.status ≠ .soldOut ∧ snapshot.cost.integrityStatus ≠ .incomplete ∧
    snapshot.cost.integrityStatus ≠ .conflicting
  strength : options.minimumEvidenceStrength ≤ evidenceStrength rt candidate
  members : (evaluation.candidateRegret.map CandidateRegret.hotelId).Perm
    evaluation.comparisonCohortHotelIds
  entry : choice ∈ evaluation.candidateRegret ∧ choice.hotelId = candidate.hotelId
  largest : ∀ other ∈ evaluation.candidateRegret,
    other.robustChoiceScore ≤ choice.robustChoiceScore
  ahead : ∀ other ∈ evaluation.candidateRegret, other ≠ choice →
    other.robustChoiceScore < choice.robustChoiceScore ∨
      other.robustChoiceScore = choice.robustChoiceScore ∧
        choice.expectedRegret < other.expectedRegret

theorem snapshotUsable_spec {snapshot : Option Integrity.StayOfferIntegritySnapshot}
    (h : snapshotUsable snapshot = true) : ∃ found, snapshot = some found ∧
      found.bookability.status ≠ .soldOut ∧ found.cost.integrityStatus ≠ .incomplete ∧
      found.cost.integrityStatus ≠ .conflicting := by
  obtain ⟨found, hfound, hchecks⟩ := (Option.any_eq_true _ _).mp h
  simp only [Bool.and_eq_true, decide_eq_true_eq] at hchecks
  exact ⟨found, hfound, hchecks.2, hchecks.1.1, hchecks.1.2⟩

theorem recommend_safe (hids : (input.candidates.map CandidateInput.hotelId).Nodup)
    (hfindings : evaluation.toRobustnessFindings = evaluatedFindings rt input options)
    (hrecommend : evaluation.recommendationPolicy = .recommend) :
    ∃ candidate ∈ input.candidates, ∃ choice,
      SafeRecommendation rt options evaluation candidate choice := by
  obtain ⟨findings, fingerprint⟩ := evaluation
  dsimp only at hfindings hrecommend
  subst hfindings
  obtain ⟨choice, hchoice, c, hfind, hrobust, hleaders, hclass, hstrength⟩ :=
    cohortFindings_recommend hrecommend
  obtain ⟨hc, hid⟩ := (findEvaluation_iff (evaluatedCandidates_ids.nodup_iff.mpr hids)).mp hfind
  obtain ⟨candidate, hcandidate, rfl⟩ := mem_evaluatedCandidates.mp hc
  have hmembers := @candidateRegret_ids (evaluatedCandidates rt input options)
    (evaluatedFindings rt input options).comparisonCohortHotelIds
    (evaluatedFindings rt input options).scenarios
  have hcohort : candidate.hotelId ∈
      (evaluatedFindings rt input options).comparisonCohortHotelIds :=
    hmembers.mem_iff.mp (List.mem_map.mpr ⟨choice, hchoice, hid.symm⟩)
  have hstatus : candidateStatus candidate = .usable := by
    obtain ⟨c', hc', hid', hstatus⟩ := mem_cohort hcohort
    have heq : c' = candidateEvaluation rt candidate options :=
      List.inj_on_of_nodup_map (evaluatedCandidates_ids.nodup_iff.mpr hids) hc' hc hid'
    rwa [heq] at hstatus
  obtain ⟨heligible, -, -, hsnapshot⟩ := candidateStatus_usable.mp hstatus
  have hshown : (evaluatedFindings rt input options).robustChoiceHotelId =
      some candidate.hotelId := by
    show (if _ then none else _) = _
    rw [hclass, hrobust]
    exact congrArg some hid.symm
  refine ⟨candidate, hcandidate, choice, ?_, hshown, hclass, hcohort, heligible, hstatus,
    snapshotUsable_spec hsnapshot, hstrength, hmembers, ⟨hchoice, hid.symm⟩, ?_, ?_⟩
  · show (cohortFindings _ _ _ _ _ _ _).policyPreferredHotelId = _
    rw [cohortFindings_preferred, hclass, if_neg (by decide), hrobust]
    exact (if_pos hrecommend).trans (congrArg some hid.symm)
  · intro other hother
    by_cases heq : other = choice
    · rw [heq]
    · rcases leader_ahead hleaders hother heq with hlt | ⟨hscore, -⟩
      · exact hlt.le
      · exact hscore.le
  · exact fun other hother hne => leader_ahead hleaders hother hne

/-- Every evaluation of robustness is valid, and recommends only with reason. -/
theorem evaluateDecisionRobustness_safe (rt : NumericRuntime) (input : RobustnessInput)
    (evaluation : DecisionRobustness) (h : evaluateDecisionRobustness rt input = .ok evaluation) :
    assertDecisionRobustness rt.toRuntime evaluation = .ok evaluation ∧
    (evaluation.recommendationPolicy = .recommend → ∃ options,
      resolveOptions input.options = .ok options ∧ ∃ candidate ∈ input.candidates, ∃ choice,
        SafeRecommendation rt options evaluation candidate choice) := by
  refine ⟨if_pos (evaluate_valid h), fun hrecommend => ?_⟩
  obtain ⟨options, hoptions, hids, -, hfindings, -⟩ := evaluate_ok h
  exact ⟨options, hoptions, recommend_safe hids hfindings hrecommend⟩

/-- A runtime whose exponential function is right at zero and at -2.2, and whose square root is
    right at zero and one. -/
def numericRuntime : NumericRuntime where
  toRuntime := plainRuntime
  sqrt x := x
  exp x := if x = 0 then 1 else 11080315836233387 / 10 ^ 17

/-- A stay that is known to be good, but for its quality. -/
def knownStay (hotelId : String) (context : UtilityContext) (quality : ℚ) : UtilityInput where
  hotelId := hotelId
  preference := ⟨none, none, .balanced, "neutral", []⟩
  context := context
  dimensions dimension :=
    ⟨some (if dimension = .benefit .quality then quality else 100), some 1, []⟩

/-- What `evaluatePersonalUtility` returns for a stay with an id. -/
def evaluatedUtility (rt : NumericRuntime) (input : UtilityInput) : PersonalUtilityEvaluation :=
  { utilityFindings rt input with
    fingerprint := PersonalUtility.createFingerprint rt.toRuntime (utilityFindings rt input) }

/-- An offer that can be booked, of a cost that is known. -/
def bookableSnapshot (hotelId : String) : Integrity.StayOfferIntegritySnapshot where
  hotelId := hotelId
  offerId := "offer-1"
  scope := ⟨some "2026-09-01", some "2026-09-03", some 2, some 2, some 0, some 1, .exact⟩
  room := ⟨some "Double", .known⟩
  mealPlan := ⟨none, .unknown⟩
  cancellation := ⟨"refundable", none, none, none, .known⟩
  payment := ⟨"pay-later", .known⟩
  cost :=
    { priceScope := "reported-stay-total"
      total := ⟨some 300, some "EUR", .known, []⟩
      taxes := ⟨some true, 0, 0, 0, some "EUR", .known, []⟩
      fees := ⟨none, none, .notApplicable, []⟩
      sourceCompleteness := .reportedComplete
      integrityStatus := .complete }
  bookability := ⟨.bookable, some true, none, "fresh", false, []⟩
  temporalPriceEvidence := ⟨.notProvided, some 2, 0, [], none, []⟩
  evidenceIds := []
  snapshotId := "snapshot-1"
  canonicalOfferKey := "offer-key-1"

def knownContext (totalCost totalBudget : Option ℚ) : UtilityContext :=
  ⟨totalBudget, totalCost, some 2, some 2, some 0, some 1, none, none, .leisure⟩

def bookableCandidate (hotelId : String) (context : UtilityContext) (quality : ℚ) :
    CandidateInput where
  hotelId := hotelId
  solutionId := none
  eligible := true
  utility := evaluatedUtility numericRuntime (knownStay hotelId context quality)
  geometry := ⟨hotelId, []⟩
  offerSnapshot := some (bookableSnapshot hotelId)
  sourceRiskScore := none
  sourceRiskLevel := none

def oneStay : RobustnessInput where
  candidates := [bookableCandidate "h1" (knownContext (some 300) none) 100]
  decisionGeometry := ⟨["h1"], "geometry-1"⟩

/-- The numbers of a utility are those of an evaluation. -/
def numbersValid (utility : PersonalUtilityEvaluation) : Bool :=
  0 < (JsText.trim utility.hotelId).length &&
    |(Geometry.utilityDimensions.map utility.weights).sum - 1| ≤ 1 / 1000000 &&
    utility.utilityScore.all (fun score => 0 ≤ score && score ≤ 100) &&
    0 ≤ utility.scoreConfidence && utility.scoreConfidence ≤ 1 &&
    0 ≤ utility.evidenceCoverage && utility.evidenceCoverage ≤ 1

/-- A fingerprint need not be computed to know that it is right. -/
theorem fingerprinted_valid {findings : UtilityFindings}
    (h : numbersValid ⟨findings, PersonalUtility.createFingerprint rt.toRuntime findings⟩ = true) :
    validatePersonalUtilityEvaluation rt.toRuntime
      ⟨findings, PersonalUtility.createFingerprint rt.toRuntime findings⟩ = true := by
  unfold validatePersonalUtilityEvaluation
  rw [decide_eq_true rfl]
  simpa [numbersValid] using h

theorem evaluatedUtility_valid {input : UtilityInput}
    (h : numbersValid (evaluatedUtility rt input) = true) :
    validatePersonalUtilityEvaluation rt.toRuntime (evaluatedUtility rt input) = true :=
  fingerprinted_valid h

/-- A bookable candidate with a utility of its own that is valid is accepted. -/
theorem withUtility_valid {hotelId : String} {context : UtilityContext} {quality : ℚ}
    {geometry : GeometryCandidate} {utility : PersonalUtilityEvaluation} (hblank : hotelId ≠ "")
    (htrimmed : JsText.trim hotelId = hotelId) (hgeometry : geometry.hotelId = hotelId)
    (hown : utility.hotelId = hotelId)
    (hutility : validatePersonalUtilityEvaluation numericRuntime.toRuntime utility = true) :
    candidateInvalid numericRuntime.toRuntime
      { bookableCandidate hotelId context quality with
        utility := utility, geometry := geometry } = false := by
  have hsnapshot : ((bookableCandidate hotelId context quality).offerSnapshot.any fun snapshot =>
      decide (snapshot.hotelId ≠ hotelId)) = false := by
    simp [bookableCandidate, bookableSnapshot]
  have hname : (bookableCandidate hotelId context quality).hotelId = hotelId := rfl
  rw [candidateInvalid, hutility, hgeometry, hown, hname, hsnapshot, htrimmed]
  simp [hblank]

theorem bookableCandidate_valid {hotelId : String} {context : UtilityContext} {quality : ℚ}
    (hblank : hotelId ≠ "") (htrimmed : JsText.trim hotelId = hotelId)
    (hnumbers : numbersValid (evaluatedUtility numericRuntime
      (knownStay hotelId context quality)) = true) :
    candidateInvalid numericRuntime.toRuntime (bookableCandidate hotelId context quality) =
      false :=
  @withUtility_valid hotelId context quality (bookableCandidate hotelId context quality).geometry
    (bookableCandidate hotelId context quality).utility hblank htrimmed rfl htrimmed
    (evaluatedUtility_valid hnumbers)

/-- The only stay is recommended, with reason. -/
theorem oneStay_recommended : ∃ evaluation,
    evaluateDecisionRobustness numericRuntime oneStay = .ok evaluation ∧
      evaluation.recommendationPolicy = .recommend ∧
      ∃ options candidate choice, SafeRecommendation numericRuntime options evaluation candidate
        choice := by
  have hoptions : resolveOptions oneStay.options = .ok (withDefaults {}) := by
    norm_num [resolveOptions, oneStay, withDefaults, positiveOptions]
  have hcomputed : numbersValid (evaluatedUtility numericRuntime
      (knownStay "h1" (knownContext (some 300) none) 100)) = true ∧
      (evaluatedFindings numericRuntime oneStay (withDefaults {})).recommendationPolicy =
        .recommend := by decide +kernel
  obtain ⟨hnumbers, hrecommend⟩ := hcomputed
  obtain ⟨evaluation, hok, hfindings⟩ := evaluate_of_valid hoptions (by decide) rfl
    (List.forall_mem_singleton.mpr (bookableCandidate_valid (by decide) (by decide) hnumbers))
  rw [← hfindings] at hrecommend
  obtain ⟨options, -, candidate, -, choice, hsafe⟩ :=
    (evaluateDecisionRobustness_safe numericRuntime oneStay evaluation hok).2 hrecommend
  exact ⟨evaluation, hok, hrecommend, options, candidate, choice, hsafe⟩

end SmartStay.Robustness
