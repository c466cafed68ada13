import SmartStay.Geometry.Validation
import SmartStay.Promotion.Dashboard

/-!
# Records with hashed ids

The validators that want unique ids accept genuine records exactly when no two different
records got the same hash.

1. `validateComparableDecision_ok`: accepted decisions.
2. `Clean`: no record of an observation has a forbidden field.
3. `comparison_valid`, `error_valid`: new observations are valid.
4. `Made`: the observations of the runners.
5. `exists_made`: observations for any opaque tokens.
6. `hashed_ids_accepted`.
-/

namespace SmartStay.Promotion

open Contract

variable {rt : Runtime} {d d' : ComparableDecision} {expected : ServingEngine}

/-! ## 1. Decisions -/

/-- A recommendation, and only that, selects a solution for a role. -/
def SelectsRightly (d : ComparableDecision) : Prop :=
  if d.status = .recommended then
    d.selectedSolutionToken.any (isToken [':', '_', '-'] 7 127) = true ∧ d.role.isSome = true
  else d.selectedSolutionToken.isSome = false ∧ d.role.isSome = false

/-- What `validateComparableDecision` lets through. -/
structure Accepted (expected : ServingEngine) (d : ComparableDecision) : Prop where
  engine : d.engine = expected
  engineVersion : isToken ['.', '+', '-'] 2 63 d.engineVersion = true
  policyVersion : isToken ['.', '+', '-'] 2 63 d.policyVersion = true
  fingerprint : isStableHash d.decisionFingerprint = true
  reasonCodes : d.reasonCodes.all (isToken [':', '.', '_', '-'] 1 127) = true
  selected : SelectsRightly d

theorem normalizeReasonCodes_ok {values values' : List String} :
    normalizeReasonCodes values = .ok values' ↔
      values.all (isToken [':', '.', '_', '-'] 1 127) = true ∧ values' = uniqueSorted values := by
  unfold normalizeReasonCodes
  split
  · next h => simp [h, eq_comm]
  · next h => simp [h]

theorem requireOpaqueToken_ok {value : Option String} {label : String} {u : Unit} :
    requireOpaqueToken value label = .ok u ↔ value.any (isToken [':', '_', '-'] 7 127) = true := by
  unfold requireOpaqueToken
  split
  · next h => simp [h]
  · next h => simp [h]

theorem requireVersionToken_ok {value label : String} {u : Unit} :
    requireVersionToken value label = .ok u ↔ isToken ['.', '+', '-'] 2 63 value = true := by
  unfold requireVersionToken
  split
  · next h => simp [h]
  · next h => simp [h]

theorem validateSelection_ok {u : Unit} : validateSelection d = .ok u ↔ SelectsRightly d := by
  unfold validateSelection SelectsRightly
  split
  · simp only [Fallible.bind_ok, requireOpaqueToken_ok, Fallible.throwIf_ok, exists_const]
    cases d.role <;> simp [pure, Except.pure]
  · rw [Fallible.throwIf_ok]
    cases d.role <;> simp [pure, Except.pure]

theorem validateComparableDecision_ok {u : Unit} :
    validateComparableDecision d expected = .ok u ↔ Accepted expected d := by
  unfold validateComparableDecision
  simp only [Fallible.bind_ok, Fallible.throwIf_bind_ok, requireVersionToken_ok,
    normalizeReasonCodes_ok, validateSelection_ok]
  constructor
  · rintro ⟨hengine, -, hversion, -, hpolicy, hfingerprint, -, ⟨hreasons, -⟩, hselected⟩
    exact ⟨not_not.mp hengine, hversion, hpolicy, by simpa using hfingerprint, hreasons, hselected⟩
  · rintro ⟨hengine, hversion, hpolicy, hfingerprint, hreasons, hselected⟩
    exact ⟨not_not.mpr hengine, (), hversion, (), hpolicy, by simpa using hfingerprint, _,
      ⟨hreasons, rfl⟩, hselected⟩

theorem normalizeComparableDecision_eq (h : Accepted expected d) :
    normalizeComparableDecision d expected =
      .ok { d with reasonCodes := uniqueSorted d.reasonCodes } :=
  Fallible.bind_ok.mpr ⟨(), validateComparableDecision_ok.mpr h,
    Fallible.bind_ok.mpr ⟨_, normalizeReasonCodes_ok.mpr ⟨h.reasonCodes, rfl⟩, rfl⟩⟩

/-- A normalized decision is accepted again. -/
theorem normalizeComparableDecision_ok (h : normalizeComparableDecision d expected = .ok d') :
    Accepted expected d' := by
  simp only [normalizeComparableDecision, Fallible.bind_ok, normalizeReasonCodes_ok,
    validateComparableDecision_ok] at h
  obtain ⟨-, haccepted, -, ⟨hreasons, rfl⟩, h⟩ := h
  cases h
  refine { haccepted with reasonCodes := List.all_eq_true.mpr fun code hcode => ?_ }
  exact List.all_eq_true.mp hreasons code (mem_uniqueSorted.mp hcode)

theorem createDecisionDiff_ok {v2 v3 : ComparableDecision} (h2 : Accepted .v2 v2)
    (h3 : Accepted .v3 v3) : ∃ diff, createDecisionDiff v2 v3 = .ok diff := by
  have hdiff : createReasonDiff v2.reasonCodes v3.reasonCodes = .ok _ :=
    Fallible.bind_ok.mpr ⟨_, normalizeReasonCodes_ok.mpr ⟨h2.reasonCodes, rfl⟩,
      Fallible.bind_ok.mpr ⟨_, normalizeReasonCodes_ok.mpr ⟨h3.reasonCodes, rfl⟩, rfl⟩⟩
  exact ⟨_, Fallible.bind_ok.mpr ⟨_, hdiff, rfl⟩⟩

/-! ## 2. Forbidden fields -/

/-- No path of the value is forbidden. -/
def Clean (value : Json) : Prop := ∀ path, findForbiddenFieldPaths value path = []

theorem clean_str (text : String) : Clean (.str text) := fun _ => rfl

theorem clean_bool (b : Bool) : Clean (.bool b) := fun _ => rfl

theorem clean_text? (text : Option String) : Clean (.text? text) := by
  cases text <;> exact fun _ => rfl

theorem clean_texts (values : List String) : Clean (.texts values) := by
  have hitems : ∀ path index, forbiddenInValues (values.map .str) path index = [] := by
    induction values with
    | nil => exact fun _ _ => rfl
    | cons value rest ih =>
      intro path index
      rw [List.map_cons, forbiddenInValues, ih]
      rfl
  exact fun path => hitems path 0

/-- A key that no forbidden name matches. -/
def isAllowed (key : String) : Bool := !forbiddenFields.contains (JsText.toLowerCase key)

theorem clean_obj (keys : List String) {fields : List (String × Json)}
    (hkeys : keys.all isAllowed = true) (hfields : fields.map Prod.fst = keys)
    (hchildren : ∀ f ∈ fields, Clean f.2) : Clean (.obj fields) := by
  have hnone : ∀ path, forbiddenInFields fields path = [] := by
    induction fields generalizing keys with
    | nil => exact fun _ => rfl
    | cons f rest ih =>
      intro path
      subst hfields
      obtain ⟨hf, hrest⟩ := List.forall_mem_cons.mp hchildren
      rw [List.map_cons, List.all_cons, Bool.and_eq_true] at hkeys
      have hkey : forbiddenFields.contains (JsText.toLowerCase f.1) = false := by
        simpa [isAllowed] using hkeys.1
      rw [forbiddenInFields, hf, ih _ hkeys.2 rfl hrest, hkey]
      rfl
  exact hnone

/-- The keys of observations and of what they are made from. -/
def observationKeys : List String :=
  ["profile", "destination", "leadTime", "duration", "coverage", "engine", "engineVersion",
    "policyVersion", "decisionFingerprint", "status", "selectedSolutionToken", "role",
    "reasonCodes", "priceIntegrity", "publicRateConsistency", "commercialFirewall",
    "privacyFirewall", "deterministicReplay", "hardConstraints", "recommendationSafety", "common",
    "addedInV3", "missingFromV3", "kind", "statusAgreement", "selectionAgreement",
    "roleAgreement", "exactReasonAgreement", "reasonDiff", "schemaVersion", "internalOnly",
    "promotionVersion", "recordType", "comparisonId", "application", "publicServingEngine",
    "v3Authoritative", "segment", "v2", "v3", "safety", "diff", "criticalRegressions", "audit",
    "fingerprint", "errorCode", "comparisonToken"]

theorem observationKeys_allowed : ∀ key ∈ observationKeys, isAllowed key = true := by
  decide +kernel

theorem clean_record {fields : List (String × Json)}
    (hkeys : ∀ key ∈ fields.map Prod.fst, key ∈ observationKeys)
    (hchildren : ∀ f ∈ fields, Clean f.2) : Clean (.obj fields) :=
  clean_obj _ (List.all_eq_true.mpr fun key hkey => observationKeys_allowed key (hkeys key hkey)) rfl
    hchildren

theorem clean_segment (s : EvaluationSegment) : Clean s.toJson := by
  refine clean_record (by simp [observationKeys]) ?_
  simp [clean_str]

theorem clean_decision (d : ComparableDecision) : Clean d.toJson := by
  refine clean_record (by simp [observationKeys]) ?_
  simp [clean_str, clean_text?, clean_texts]

theorem clean_safety (s : SafetySignals) : Clean s.toJson := by
  refine clean_record (by simp [observationKeys]) ?_
  simp [clean_str]

theorem clean_diff (d : DecisionDiff) : Clean d.toJson := by
  have hreasons : Clean (.obj [("common", .texts d.reasonDiff.common),
      ("addedInV3", .texts d.reasonDiff.addedInV3),
      ("missingFromV3", .texts d.reasonDiff.missingFromV3)]) := by
    refine clean_record (by simp [observationKeys]) ?_
    simp [clean_texts]
  refine clean_record (by simp [observationKeys]) ?_
  simp [clean_str, clean_bool, hreasons]

theorem clean_audit (a : AuditIdentity) : Clean a.toJson := by
  refine clean_record (by simp [observationKeys]) ?_
  simp [clean_str, clean_bool]

/-- Observations have no fields that the firewall forbids. -/
theorem clean_observation (o : ShadowObservation) : Clean o.toJson := by
  cases o with
  | comparison record =>
    refine clean_record
      (by simp [observationKeys, ComparisonCore.fields, ObservationHeader.fields]) ?_
    simp [ComparisonCore.fields, ObservationHeader.fields, clean_str, clean_bool, clean_segment,
      clean_decision, clean_safety, clean_diff, clean_texts, clean_audit]
  | error record =>
    refine clean_record (by simp [observationKeys, ErrorCore.fields, ObservationHeader.fields]) ?_
    simp [ErrorCore.fields, ObservationHeader.fields, clean_str, clean_bool, clean_segment,
      clean_audit]

/-! ## 3. New observations -/

/-- An observation is valid when its kind of record has no issues and its shape is right. -/
theorem valid_of_noIssues {o : ShadowObservation} (hshape : validShape o = true)
    (hissues : recordIssues rt o = .ok []) : (validateShadowObservation rt o).valid = true := by
  unfold validateShadowObservation
  rw [hshape, hissues, clean_observation]
  rfl

theorem validShape_of_created {o : ShadowObservation} {id : String} {segment : EvaluationSegment}
    (hheader : o.header = createHeader id segment) (haudit : o.audit = createAuditIdentity)
    (hid : isStableHash id = true) : validShape o = true := by
  unfold validShape ShadowObservation.comparisonId
  rw [hheader, haudit]
  simp [createHeader, isAuditIdentityValid, createAuditIdentity, hid]

theorem comparison_valid {input : ComparisonInput} {c : ShadowComparison}
    (h : createShadowComparison rt input = .ok c) :
    (validateShadowObservation rt (.comparison c)).valid = true ∧
      c.comparisonId = comparisonId rt input.comparisonToken c.v2.decisionFingerprint
        c.v3.decisionFingerprint := by
  simp only [createShadowComparison, Fallible.throwIf_bind_ok, Fallible.bind_ok] at h
  obtain ⟨-, -, -, v2, hv2, v3, hv3, diff, hdiff, h⟩ := h
  cases h
  refine ⟨valid_of_noIssues (validShape_of_created rfl rfl (isStableHash_createStableHash ..)) ?_,
    rfl⟩
  have haccepted2 : validateComparableDecision v2 .v2 = .ok () :=
    validateComparableDecision_ok.mpr (normalizeComparableDecision_ok hv2)
  have haccepted3 : validateComparableDecision v3 .v3 = .ok () :=
    validateComparableDecision_ok.mpr (normalizeComparableDecision_ok hv3)
  simp only [recordIssues, haccepted2, haccepted3, hdiff, bind, Except.bind]
  simp [pure, Except.pure]

/-- Accepted decisions and an opaque token make a comparison. -/
theorem createShadowComparison_ok (rt : Runtime) {i : ComparisonInput}
    (htoken : isToken [':', '_', '-'] 7 127 i.comparisonToken = true) (h2 : Accepted .v2 i.v2)
    (h3 : Accepted .v3 i.v3) : ∃ c, createShadowComparison rt i = .ok c ∧
      c.comparisonId = comparisonId rt i.comparisonToken i.v2.decisionFingerprint
        i.v3.decisionFingerprint := by
  have hclean : Clean i.toJson := by
    refine clean_record (by simp [observationKeys]) ?_
    simp [clean_str, clean_segment, clean_decision, clean_safety]
  have hnormalized2 := normalizeComparableDecision_eq h2
  have hnormalized3 := normalizeComparableDecision_eq h3
  obtain ⟨diff, hdiff⟩ := createDecisionDiff_ok (normalizeComparableDecision_ok hnormalized2)
    (normalizeComparableDecision_ok hnormalized3)
  have hforbidden : ¬ 0 < (findForbiddenFieldPaths i.toJson "root").length := by
    rw [hclean]
    exact Nat.lt_irrefl 0
  have hrest : createShadowComparison rt i = .ok _ :=
    Fallible.throwIf_bind_ok.mpr ⟨hforbidden, Fallible.bind_ok.mpr
      ⟨(), requireOpaqueToken_ok.mpr htoken, Fallible.bind_ok.mpr
        ⟨_, hnormalized2, Fallible.bind_ok.mpr
          ⟨_, hnormalized3, Fallible.bind_ok.mpr ⟨diff, hdiff, rfl⟩⟩⟩⟩⟩
  exact ⟨_, hrest, rfl⟩

theorem error_valid {comparisonToken v2DecisionFingerprint : String} {segment : EvaluationSegment}
    {e : ShadowError}
    (h : createShadowError rt comparisonToken segment v2DecisionFingerprint = .ok e) :
    (validateShadowObservation rt (.error e)).valid = true ∧
      e.comparisonId = errorId rt comparisonToken v2DecisionFingerprint := by
  simp only [createShadowError, Fallible.throwIf_bind_ok, Fallible.bind_ok] at h
  obtain ⟨-, -, -, h⟩ := h
  cases h
  refine ⟨valid_of_noIssues (validShape_of_created rfl rfl (isStableHash_createStableHash ..)) ?_,
    rfl⟩
  simp [recordIssues, pure, Except.pure]

/-! ## 4. Made observations -/

/-- The observations that `createShadowComparison` and the runners make for a token. -/
inductive Made (rt : Runtime) : String → ShadowObservation → Prop
  | comparison {input : ComparisonInput} {c : ShadowComparison} :
      createShadowComparison rt input = .ok c → Made rt input.comparisonToken (.comparison c)
  | run {PublicResult : Type} {input : ShadowRunInput PublicResult} {r : ShadowRun PublicResult}
      {o : ShadowObservation} : runV3ShadowWithDerivedSafetySafely rt input = .ok r →
      r.shadowObservation = some o → Made rt input.comparisonToken o
  | safeRun {PublicResult : Type} {mode : ShadowMode} {comparisonToken : String}
      {segment : EvaluationSegment} {publicV2Result : PublicResult} {v2Decision : ComparableDecision}
      {safety : SafetySignals} {runV3 : Except String ComparableDecision}
      {r : ShadowRun PublicResult} {o : ShadowObservation} :
      runV3ShadowSafely rt mode comparisonToken segment publicV2Result v2Decision safety runV3 =
        .ok r → r.shadowObservation = some o → Made rt comparisonToken o

/-- A run observes a comparison or an error. -/
theorem run_observation {PublicResult : Type} {input : ShadowRunInput PublicResult}
    {r : ShadowRun PublicResult} {o : ShadowObservation}
    (h : runV3ShadowWithDerivedSafetySafely rt input = .ok r) (ho : r.shadowObservation = some o) :
    (∃ c v2 v3 safety, o = .comparison c ∧ createShadowComparison rt
      ⟨input.comparisonToken, input.segment, v2, v3, safety⟩ = .ok c) ∨
    ∃ e fingerprint, o = .error e ∧
      createShadowError rt input.comparisonToken input.segment fingerprint = .ok e := by
  simp only [runV3ShadowWithDerivedSafetySafely, Fallible.bind_ok] at h
  obtain ⟨v2, -, -, -, h⟩ := h
  split at h
  · cases h
    cases ho
  · obtain ⟨observation, hobserve, h⟩ := Fallible.bind_ok.mp h
    cases h
    cases ho
    simp only [observeV3] at hobserve
    split at hobserve
    · next c hc =>
      obtain ⟨evaluation, -, hc⟩ := Fallible.bind_ok.mp hc
      cases hobserve
      exact .inl ⟨c, v2, evaluation.1, evaluation.2, rfl, hc⟩
    · obtain ⟨e, he, hobserve⟩ := Fallible.bind_ok.mp hobserve
      cases hobserve
      exact .inr ⟨e, v2.decisionFingerprint, rfl, he⟩

/-- A made observation is valid and its id is the hash of a payload with its token. -/
theorem made_valid {token : String} {o : ShadowObservation} (h : Made rt token o) :
    (validateShadowObservation rt o).valid = true ∧
      ((∃ c, o = .comparison c ∧ o.comparisonId = comparisonId rt token
          c.v2.decisionFingerprint c.v3.decisionFingerprint) ∨
        ∃ e fingerprint, o = .error e ∧ o.comparisonId = errorId rt token fingerprint) := by
  have hrun : ∀ {PublicResult : Type} {input : ShadowRunInput PublicResult}
      {r : ShadowRun PublicResult}, runV3ShadowWithDerivedSafetySafely rt input = .ok r →
      r.shadowObservation = some o → (validateShadowObservation rt o).valid = true ∧
      ((∃ c, o = .comparison c ∧ o.comparisonId = comparisonId rt input.comparisonToken
          c.v2.decisionFingerprint c.v3.decisionFingerprint) ∨
        ∃ e fingerprint, o = .error e ∧
          o.comparisonId = errorId rt input.comparisonToken fingerprint) := by
    intro PublicResult input r hr ho
    rcases run_observation hr ho with ⟨c, v2, v3, safety, rfl, hc⟩ | ⟨e, fingerprint, rfl, he⟩
    · exact ⟨(comparison_valid hc).1, .inl ⟨c, rfl, (comparison_valid hc).2⟩⟩
    · exact ⟨(error_valid he).1, .inr ⟨e, fingerprint, rfl, (error_valid he).2⟩⟩
  cases h with
  | comparison hc => exact ⟨(comparison_valid hc).1, .inl ⟨_, rfl, (comparison_valid hc).2⟩⟩
  | run hr ho => exact hrun hr ho
  | safeRun hr ho =>
    have hspec := hrun hr ho
    exact hspec

/-- A dashboard of made observations: their ids must not collide. -/
theorem dashboard_iff {made : List (String × ShadowObservation)}
    (hmade : ∀ m ∈ made, Made rt m.1 m.2) (htokens : (made.map Prod.fst).Nodup) :
    (∃ dashboard, createShadowRegressionDashboard rt (made.map Prod.snd) = .ok dashboard) ↔
      Distinct.NamesKeys (fun m => m.2.comparisonId) Prod.fst made := by
  have hvalid : ∀ o ∈ made.map Prod.snd, (validateShadowObservation rt o).valid = true := by
    intro o ho
    obtain ⟨m, hm, rfl⟩ := List.mem_map.mp ho
    exact (made_valid (hmade m hm)).1
  rw [createShadowRegressionDashboard_ok, and_iff_right hvalid, List.map_map]
  exact Distinct.nodup_iff_of_keys (fun m => m.2.comparisonId) htokens

/-! ## 5. Observations for any tokens -/

/-- A decision that abstains for no reason. -/
def quietDecision (engine : ServingEngine) : ComparableDecision where
  engine := engine
  engineVersion := "3.0.0"
  policyVersion := "3.0.0"
  decisionFingerprint := "fnv1a32-00000000"
  status := .abstained
  selectedSolutionToken := none
  role := none
  reasonCodes := []

/-- Both engines abstain. -/
def quietInput (comparisonToken : String) : ComparisonInput where
  comparisonToken := comparisonToken
  segment := ⟨.balanced, .urban, .short, .shortStay, .high⟩
  v2 := quietDecision .v2
  v3 := quietDecision .v3
  safety := ⟨.pass, .verified, .pass, .pass, .pass, .pass, .pass⟩

theorem quietDecision_accepted (engine : ServingEngine) :
    Accepted engine (quietDecision engine) where
  engine := rfl
  engineVersion := show isToken _ 2 63 "3.0.0" = true by decide
  policyVersion := show isToken _ 2 63 "3.0.0" = true by decide
  fingerprint := show isStableHash "fnv1a32-00000000" = true by decide
  reasonCodes := rfl
  selected := ⟨rfl, rfl⟩

/-- Observations made of one quiet decision and these tokens. -/
theorem exists_made (rt : Runtime) (tokens : List String)
    (htokens : ∀ token ∈ tokens, isToken [':', '_', '-'] 7 127 token = true) :
    ∃ made : List (String × ShadowObservation), (∀ m ∈ made, Made rt m.1 m.2) ∧
      made.map Prod.fst = tokens ∧ ∀ m ∈ made, m.2.comparisonId =
        comparisonId rt m.1 "fnv1a32-00000000" "fnv1a32-00000000" := by
  induction tokens with
  | nil => exact ⟨[], by simp⟩
  | cons token rest ih =>
    obtain ⟨htoken, hrest⟩ := List.forall_mem_cons.mp htokens
    obtain ⟨made, hmade, hfst, hids⟩ := ih hrest
    obtain ⟨c, hc, hid⟩ := createShadowComparison_ok rt (i := quietInput token)
      htoken (quietDecision_accepted .v2) (quietDecision_accepted .v3)
    refine ⟨(token, .comparison c) :: made, List.forall_mem_cons.mpr ⟨.comparison hc, hmade⟩, ?_,
      List.forall_mem_cons.mpr ⟨hid, hids⟩⟩
    rw [List.map_cons, hfst]

/-- Two tokens with one stable hash. -/
theorem comparisonId_collision :
    comparisonId plainRuntime "case-10012789" "fnv1a32-00000000" "fnv1a32-00000000" =
      comparisonId plainRuntime "case-10249192" "fnv1a32-00000000" "fnv1a32-00000000" := by
  decide +kernel

/-! ## 6. Accepted records -/

/-- Validators of hashed ids accept genuine records unless two hashes collide: comparisons,
    segments and thresholds about different hotels, observations with different tokens. -/
theorem hashed_ids_accepted (rt : Runtime) :
    (∀ candidates options g, Geometry.evaluateDecisionGeometry rt candidates options = .ok g →
      (Geometry.assertDecisionGeometry rt g = .ok g ↔ g.CollisionFree)) ∧
    ∀ made : List (String × ShadowObservation), (∀ m ∈ made, Made rt m.1 m.2) →
      (made.map Prod.fst).Nodup →
      ((∃ dashboard, createShadowRegressionDashboard rt (made.map Prod.snd) = .ok dashboard) ↔
        Distinct.NamesKeys (fun m => m.2.comparisonId) Prod.fst made) :=
  ⟨fun _ _ _ h => Geometry.assertDecisionGeometry_iff h, fun _ => dashboard_iff⟩

/-- The circle of five hotels has an accepted geometry, and two observations whose hashes
    differ make a dashboard. -/
theorem hashed_ids_accepted_circle :
    (∃ g, Geometry.evaluateDecisionGeometry plainRuntime Geometry.circle {} = .ok g ∧
      Geometry.assertDecisionGeometry plainRuntime g = .ok g) ∧
    ∃ made : List (String × ShadowObservation),
      made.map Prod.fst = ["case-10012789", "case-10012790"] ∧
        ∃ dashboard, createShadowRegressionDashboard plainRuntime (made.map Prod.snd) =
          .ok dashboard := by
  constructor
  · have hrun := Geometry.evaluate_eq Geometry.resolveOptions_default Geometry.normalize_circle
      Geometry.sort_circle (Geometry.hotelIds_circle ▸ by decide)
    have hempty : ∀ core, core = Geometry.createGeometry plainRuntime Geometry.defaultOptions
        Geometry.normalizedCircle → core.pairwiseFinalistComparisons.length = 0 ∧
          core.marginalValueSegments.length = 0 ∧ core.tradeOffThresholds.length = 0 := by
      rintro core rfl
      decide +kernel
    obtain ⟨hcomparisons, hsegments, hthresholds⟩ := hempty _ rfl
    refine ⟨_, hrun, ((hashed_ids_accepted plainRuntime).1 _ _ _ hrun).mpr ⟨?_, ?_, ?_⟩⟩
    · exact Distinct.namesKeys_of_length_zero hcomparisons
    · exact Distinct.namesKeys_of_length_zero hsegments
    · exact Distinct.namesKeys_of_length_zero hthresholds
  · obtain ⟨made, hmade, htokens, hids⟩ := exists_made plainRuntime
      ["case-10012789", "case-10012790"] (by decide)
    have hnodup : (made.map Prod.fst).Nodup := htokens ▸ by decide
    have hdiffer : comparisonId plainRuntime "case-10012789" "fnv1a32-00000000" "fnv1a32-00000000" ≠
        comparisonId plainRuntime "case-10012790" "fnv1a32-00000000" "fnv1a32-00000000" := by
      decide +kernel
    refine ⟨made, htokens,
      ((hashed_ids_accepted plainRuntime).2 made hmade hnodup).mpr fun m hm n hn hid => ?_⟩
    have hmToken : m.1 ∈ made.map Prod.fst := List.mem_map_of_mem hm
    have hnToken : n.1 ∈ made.map Prod.fst := List.mem_map_of_mem hn
    dsimp only at hid
    rw [hids m hm, hids n hn] at hid
    simp only [htokens, List.mem_cons, List.not_mem_nil, or_false] at hmToken hnToken
    rcases hmToken with hmToken | hmToken <;> rcases hnToken with hnToken | hnToken <;>
      rw [hmToken, hnToken] at hid ⊢
    · exact absurd hid hdiffer
    · exact absurd hid.symm hdiffer

/-- A geometry and a list of observations with distinct tokens that are not accepted. -/
theorem hashed_ids_collide :
    (¬ ∀ candidates options g,
      Geometry.evaluateDecisionGeometry plainRuntime candidates options = .ok g →
        Geometry.assertDecisionGeometry plainRuntime g = .ok g) ∧
    ¬ ∀ made : List (String × ShadowObservation), (∀ m ∈ made, Made plainRuntime m.1 m.2) →
      (made.map Prod.fst).Nodup →
        ∃ dashboard, createShadowRegressionDashboard plainRuntime (made.map Prod.snd) =
          .ok dashboard := by
  refine ⟨fun hall => ?_, fun hall => ?_⟩
  · obtain ⟨g, hrun, hrejected⟩ := Geometry.geometry_collision
    exact hrejected (hall _ _ g hrun)
  · obtain ⟨made, hmade, htokens, hids⟩ := exists_made plainRuntime
      ["case-10012789", "case-10249192"] (by decide)
    have hnodup : (made.map Prod.fst).Nodup := htokens ▸ by decide
    have hfree := (dashboard_iff hmade hnodup).mp (hall made hmade hnodup)
    obtain ⟨first, hfirst, hfirstToken⟩ := List.mem_map.mp
      (show "case-10012789" ∈ made.map Prod.fst from htokens ▸ by decide)
    obtain ⟨second, hsecond, hsecondToken⟩ := List.mem_map.mp
      (show "case-10249192" ∈ made.map Prod.fst from htokens ▸ by decide)
    have hid : first.2.comparisonId = second.2.comparisonId := by
      rw [hids first hfirst, hids second hsecond, hfirstToken, hsecondToken]
      exact comparisonId_collision
    have htoken := hfree first hfirst second hsecond hid
    rw [hfirstToken, hsecondToken] at htoken
    exact absurd htoken (by decide)

end SmartStay.Promotion
