import SmartStay.Promotion.HashedIds

/-!
# The independent shadow

`engine-v3/orchestrator/independentDecisionEngineV3.ts`: a search that V2 has answered is
answered by V3 as well, in the shadow of the public answer.

1. `createHotelSelectionToken`, `createV2ComparableDecision`.
2. `readEvaluation`: what the shadow takes from any value of the V3 computation.
3. `runIndependentDecisionShadow`.
4. `v2_accepted`: the decision of V2 passes the checks before the protected part.
5. `run_shadow`: from there on nothing fails.
6. `shadow_never_harms`.
-/

namespace SmartStay.Orchestrator

open Contract Promotion

/-! ## 1. The decision of V2 -/

/-- `SMARTSTAY_ENGINE_V2_VERSION`. -/
def engineVersionV2 : String := "2.0.0"

/-- `SMARTSTAY_ENGINE_V2_PIPELINE_VERSION`. -/
def pipelineVersionV2 : String := "2.0.0-pipeline.10"

/-- `SmartStayEngineV2SearchResult`. The versions are literal types and `validateHotels` of the
    V2 pipeline rejects blank ids. -/
structure V2SearchResult (Evaluation Rest : Type) where
  engineVersion : String
  pipelineVersion : String
  evaluations : List Evaluation
  bestChoiceHotelId : Option String
  rest : Rest
  versions : engineVersion = engineVersionV2 ∧ pipelineVersion = pipelineVersionV2
  named : ∀ id ∈ bestChoiceHotelId, JsText.trim id ≠ ""

variable {Evaluation Rest : Type}

def createHotelSelectionToken (rt : Runtime) (hotelId : String) : Except String String :=
  if JsText.trim hotelId = "" ∨ 512 < (JsText.utf16 hotelId).length then
    .error "Independent V3 selection requires a bounded hotel ID."
  else .ok (createStableHash rt (.obj [("hotelId", .str hotelId)])
    "stayopti-v3-hotel-selection-token")

/-- The projection of a decision that its fingerprint covers. -/
def projection (decision : ComparableDecision) : Json :=
  .obj [("engine", .str decision.engine.text), ("engineVersion", .str decision.engineVersion),
    ("policyVersion", .str decision.policyVersion), ("status", .str decision.status.text),
    ("selectedSolutionToken", .text? decision.selectedSolutionToken),
    ("role", .text? (decision.role.map (·.text))), ("reasonCodes", .texts decision.reasonCodes)]

/-- The fingerprint that `input` has is not read. -/
def createComparableDecision (rt : Runtime) (input : ComparableDecision) (namespaceName : String)
    (sourceFingerprint : Option String) : ComparableDecision :=
  { input with
    decisionFingerprint := createStableHash rt
      (.obj [("projection", projection input), ("sourceFingerprint", .text? sourceFingerprint)])
      namespaceName }

def v2Status (result : V2SearchResult Evaluation Rest) : DecisionStatus :=
  if result.bestChoiceHotelId.isSome then .recommended
  else if 0 < result.evaluations.length then .abstained
  else .noFeasibleSolution

def v2ReasonCodes : DecisionStatus → List String
  | .recommended => ["v2:best-choice", "v2:recommended"]
  | .abstained => ["v2:abstained"]
  | .noFeasibleSolution => ["v2:no-feasible-solution"]

/-- What `createV2ComparableDecisionV3` fingerprints. -/
def v2Projection (result : V2SearchResult Evaluation Rest) (selectedSolutionToken : Option String) :
    ComparableDecision where
  engine := .v2
  engineVersion := result.engineVersion
  policyVersion := result.pipelineVersion
  decisionFingerprint := ""
  status := v2Status result
  selectedSolutionToken := selectedSolutionToken
  role := result.bestChoiceHotelId.map fun _ => .bestChoice
  reasonCodes := v2ReasonCodes (v2Status result)

def createV2ComparableDecision (rt : Runtime) (result : V2SearchResult Evaluation Rest) :
    Except String ComparableDecision := do
  let selectedSolutionToken ← match result.bestChoiceHotelId with
    | none => pure none
    | some hotelId => some <$> createHotelSelectionToken rt hotelId
  return createComparableDecision rt (v2Projection result selectedSolutionToken)
    "stayopti-v3-v2-comparable-decision" none

/-! ## 2. What V3 returns -/

/-- `Object.keys(value)` with the values; a text or an array has its indices as keys, which no
    record here allows. -/
def fieldsOf : Json → Except String (List (String × Json))
  | .null => .error "Cannot convert undefined or null to object"
  | .obj fields => .ok fields
  | .str text => .ok (text.toList.zipIdx.map fun c => (toString c.2, .str (toString c.1)))
  | .arr values => .ok (values.zipIdx.map fun v => (toString v.2, v.1))
  | .bool _ | .num _ => .ok []

/-- `value[key]` of a record; a key that is missing reads as `undefined`. -/
def field (fields : List (String × Json)) (key : String) : Option Json := fields.lookup key

def requireExactKeys (value : Json) (allowedKeys : List String) (label : String) :
    Except String (List (String × Json)) := do
  let fields ← fieldsOf value
  let unexpected := (fields.map Prod.fst).filter fun key => !allowedKeys.contains key
  if 0 < unexpected.length then
    throw (label ++ " contains unexpected fields: " ++
      ", ".intercalate (unexpected.insertionSort JsText.Le) ++ ".")
  return fields

/-- The member of a closed list of values that a field spells. -/
def closed {Value : Type} (values : List Value) (text : Value → String) (message : String) :
    Option Json → Except String Value
  | some (.str s) => match values.find? (text · = s) with
    | some value => .ok value
    | none => .error message
  | _ => .error message

/-- A text, where a pattern is tested on it. -/
def textField (message : String) : Option Json → Except String String
  | some (.str s) => .ok s
  | _ => .error message

/-- `null`, or what is read of any other value. -/
def nullable {Value : Type} (read : Option Json → Except String Value) :
    Option Json → Except String (Option Value)
  | some .null => .ok none
  | value => (read value).map some

def reasonCodesField : Option Json → Except String (List String)
  | some (.arr values) => values.mapM fun value =>
      textField "Shadow reason codes must be bounded machine-readable values." (some value)
  | _ => .error "Shadow reason codes must be bounded machine-readable values."

/-- The checks of `validateComparableDecision` that every typed decision passes. -/
def readDecision (value : Json) : Except String ComparableDecision := do
  let fields ← requireExactKeys value ["engine", "engineVersion", "policyVersion",
    "decisionFingerprint", "status", "selectedSolutionToken", "role", "reasonCodes"]
    "V3 shadow decision"
  let engine ← closed [.v2, .v3] ServingEngine.text "Expected a V3 shadow decision."
    (field fields "engine")
  let engineVersion ← textField "engineVersion must be a bounded version token."
    (field fields "engineVersion")
  let policyVersion ← textField "policyVersion must be a bounded version token."
    (field fields "policyVersion")
  let decisionFingerprint ← textField "Shadow decisions require a stable decision fingerprint."
    (field fields "decisionFingerprint")
  let status ← closed [.recommended, .abstained, .noFeasibleSolution] DecisionStatus.text
    "Shadow decision status is invalid." (field fields "status")
  let reasonCodes ← reasonCodesField (field fields "reasonCodes")
  let selectedSolutionToken ← nullable
    (textField "selectedSolutionToken must be an opaque token.") (field fields "selectedSolutionToken")
  let role ← nullable (closed [.bestChoice, .bestSensibleSaving, .worthwhileComfortUpgrade,
    .splitSaver] DecisionRole.text "Recommended shadow decisions require a valid role.")
    (field fields "role")
  return ⟨engine, engineVersion, policyVersion, decisionFingerprint, status,
    selectedSolutionToken, role, reasonCodes⟩

/-- `validateSafetySignals`. -/
def readSafety (value : Json) : Except String SafetySignals := do
  let fields ← requireExactKeys value ["priceIntegrity", "publicRateConsistency",
    "commercialFirewall", "privacyFirewall", "deterministicReplay", "hardConstraints",
    "recommendationSafety"] "Shadow safety signals"
  let unknownValue := "Shadow safety signals contain an unknown closed value."
  let passFail (key : String) := closed [.pass, .fail] PassFail.text unknownValue (field fields key)
  let priceIntegrity ← closed [.pass, .fail, .unknown] PriceIntegrity.text unknownValue
    (field fields "priceIntegrity")
  let publicRateConsistency ← closed [.verified, .notApplicable, .failed, .unverified]
    PublicRateConsistency.text unknownValue (field fields "publicRateConsistency")
  let commercialFirewall ← passFail "commercialFirewall"
  let privacyFirewall ← passFail "privacyFirewall"
  let deterministicReplay ← passFail "deterministicReplay"
  let hardConstraints ← passFail "hardConstraints"
  let recommendationSafety ← passFail "recommendationSafety"
  return ⟨priceIntegrity, publicRateConsistency, commercialFirewall, privacyFirewall,
    deterministicReplay, hardConstraints, recommendationSafety⟩

/-- `evaluation.decision` and `evaluation.safety` of whatever the V3 computation returned. -/
def readEvaluation (evaluation : Json) : Except String (ComparableDecision × SafetySignals) := do
  let fields ← fieldsOf evaluation
  let missing := "Cannot convert undefined or null to object"
  let decision ← (field fields "decision").elim (.error missing) readDecision
  let safety ← (field fields "safety").elim (.error missing) readSafety
  return (decision, safety)

/-! ## 3. The run -/

/-- The input of `runV3ShadowWithDerivedSafetySafelyV3`. -/
def shadowInput (mode : Option ShadowMode) (comparisonToken : String) (segment : EvaluationSegment)
    (publicV2Result : V2SearchResult Evaluation Rest) (v2Decision : ComparableDecision)
    (runV3 : Except String Json) : ShadowRunInput (V2SearchResult Evaluation Rest) where
  mode := mode.getD .off
  comparisonToken := comparisonToken
  segment := segment
  publicV2Result := publicV2Result
  v2Decision := v2Decision
  runV3 := runV3.bind readEvaluation

/-- `runIndependentDecisionShadowV3`. `runV3` is what its V3 computation does: it returns some
    value or throws. The checks of that value stand in the protected part of
    `runV3ShadowWithDerivedSafetySafelyV3`, as `runV3` does. -/
def runIndependentDecisionShadow (rt : Runtime) (mode : Option ShadowMode)
    (comparisonToken : String) (segment : EvaluationSegment)
    (publicV2Result : V2SearchResult Evaluation Rest) (runV3 : Except String Json) :
    Except String (ShadowRun (V2SearchResult Evaluation Rest)) := do
  let v2Decision ← createV2ComparableDecision rt publicV2Result
  runV3ShadowWithDerivedSafetySafely rt
    (shadowInput mode comparisonToken segment publicV2Result v2Decision runV3)

/-! ## 4. Before the protected part -/

variable {rt : Runtime} {result : V2SearchResult Evaluation Rest}

/-- V2 chose no hotel, or one with an id of at most 512 code units. -/
def SelectsBounded (result : V2SearchResult Evaluation Rest) : Prop :=
  ∀ id ∈ result.bestChoiceHotelId, (JsText.utf16 id).length ≤ 512

theorem createHotelSelectionToken_ok {hotelId token : String} :
    createHotelSelectionToken rt hotelId = .ok token ↔
      JsText.trim hotelId ≠ "" ∧ (JsText.utf16 hotelId).length ≤ 512 ∧
        token = createStableHash rt (.obj [("hotelId", .str hotelId)])
          "stayopti-v3-hotel-selection-token" := by
  unfold createHotelSelectionToken
  rw [Fallible.errorIf_ok, not_or, Except.ok.injEq, Nat.not_lt, and_assoc, eq_comm (a := token)]

/-- Stable hashes are opaque tokens. -/
theorem isToken_of_isStableHash {text : String} (h : isStableHash text = true) :
    isToken [':', '_', '-'] 7 127 text = true := by
  simp only [isStableHash, Bool.and_eq_true, decide_eq_true_eq, List.all_eq_true] at h
  obtain ⟨⟨hstart, hlength⟩, hall⟩ := h
  have htext : text.toList = 'f' :: ("nv1a32-".toList ++ text.toList.drop 8) := by
    rw [← List.cons_append]
    exact (List.take_append_drop 8 _).symm.trans (congrArg (· ++ _) hstart)
  generalize text.toList.drop 8 = digits at htext hlength hall
  have hdigits : digits.all (fun c => c.isAlphanum || [':', '_', '-'].contains c) = true := by
    rw [List.all_eq_true]
    intro c hc
    rw [JsText.isLowerHex_alphanum (hall c hc), Bool.true_or]
  have hprefix : "nv1a32-".toList.all (fun c => c.isAlphanum || [':', '_', '-'].contains c) = true := by
    decide
  have hsize : ("nv1a32-".toList ++ digits).length = 15 := by
    rw [List.length_append, hlength]
    rfl
  unfold isToken
  rw [htext]
  dsimp only
  rw [List.all_append, hprefix, hdigits, hsize]
  rfl

/-- The selection token fails, or the decision is made. -/
theorem createV2ComparableDecision_cases (rt : Runtime) (result : V2SearchResult Evaluation Rest) :
    (result.bestChoiceHotelId = none ∧ createV2ComparableDecision rt result =
      .ok (createComparableDecision rt (v2Projection result none)
        "stayopti-v3-v2-comparable-decision" none)) ∨
    ∃ hotelId, result.bestChoiceHotelId = some hotelId ∧
      ((∃ token, createHotelSelectionToken rt hotelId = .ok token ∧
        createV2ComparableDecision rt result =
          .ok (createComparableDecision rt (v2Projection result (some token))
            "stayopti-v3-v2-comparable-decision" none)) ∨
      ∃ message, createHotelSelectionToken rt hotelId = .error message ∧
        createV2ComparableDecision rt result = .error message) := by
  unfold createV2ComparableDecision
  cases hid : result.bestChoiceHotelId with
  | none => exact .inl ⟨rfl, rfl⟩
  | some hotelId =>
    refine .inr ⟨hotelId, rfl, ?_⟩
    dsimp only
    cases htoken : createHotelSelectionToken rt hotelId with
    | ok token => exact .inl ⟨token, rfl, rfl⟩
    | error message => exact .inr ⟨message, rfl, rfl⟩

theorem v2_created : (∃ v2, createV2ComparableDecision rt result = .ok v2) ↔
    SelectsBounded result := by
  rcases createV2ComparableDecision_cases rt result with
    ⟨hid, hcreate⟩ | ⟨hotelId, hid, ⟨token, htoken, hcreate⟩ | ⟨message, hfailed, hcreate⟩⟩
  · exact ⟨fun _ id hmem => absurd (hid ▸ hmem) nofun, fun _ => ⟨_, hcreate⟩⟩
  · refine ⟨fun _ id hmem => ?_, fun _ => ⟨_, hcreate⟩⟩
    obtain rfl : hotelId = id := by simpa [hid] using hmem
    exact (createHotelSelectionToken_ok.mp htoken).2.1
  · constructor
    · rintro ⟨v2, hv2⟩
      rw [hcreate] at hv2
      cases hv2
    · intro hbounded
      have htoken : createHotelSelectionToken rt hotelId = .ok _ :=
        createHotelSelectionToken_ok.mpr ⟨result.named hotelId hid, hbounded hotelId hid, rfl⟩
      rw [hfailed] at htoken
      cases htoken

theorem v2_accepted {v2 : ComparableDecision} (h : createV2ComparableDecision rt result = .ok v2) :
    Accepted .v2 v2 := by
  have hmade : ∀ token, SelectsRightly (v2Projection result token) →
      Accepted .v2 (createComparableDecision rt (v2Projection result token)
        "stayopti-v3-v2-comparable-decision" none) := by
    intro token hselected
    refine ⟨rfl, ?_, ?_, isStableHash_createStableHash _ _ _, ?_, hselected⟩
    · change isToken _ 2 63 result.engineVersion = true
      rw [result.versions.1]
      decide
    · change isToken _ 2 63 result.pipelineVersion = true
      rw [result.versions.2]
      decide
    · change (v2ReasonCodes (v2Status result)).all _ = true
      cases v2Status result <;> decide
  rcases createV2ComparableDecision_cases rt result with
    ⟨hid, hcreate⟩ | ⟨hotelId, hid, ⟨token, htoken, hcreate⟩ | ⟨message, -, hcreate⟩⟩
  · rw [hcreate] at h
    cases h
    refine hmade none ?_
    have hstatus : v2Status result ≠ .recommended := by
      unfold v2Status
      rw [hid, if_neg (by simp)]
      split <;> simp
    simp [SelectsRightly, v2Projection, hstatus, hid]
  · rw [hcreate] at h
    cases h
    refine hmade (some token) ?_
    have hstatus : v2Status result = .recommended := by
      rw [v2Status, hid]
      rfl
    obtain ⟨-, -, rfl⟩ := createHotelSelectionToken_ok.mp htoken
    simp [SelectsRightly, v2Projection, hstatus, hid, isToken_of_isStableHash,
      isStableHash_createStableHash]
  · rw [hcreate] at h
    cases h

/-! ## 5. The protected part -/

/-- Every outcome of the V3 computation is observed. -/
theorem observeV3_ok {PublicResult : Type} {input : ShadowRunInput PublicResult}
    {v2 : ComparableDecision} (haccepted : Accepted .v2 v2)
    (htoken : isToken [':', '_', '-'] 7 127 input.comparisonToken = true) :
    ∃ o, observeV3 rt input v2 = .ok o := by
  have herror : ∃ e, createShadowError rt input.comparisonToken input.segment
      v2.decisionFingerprint = .ok e :=
    ⟨_, Fallible.bind_ok.mpr ⟨(), requireOpaqueToken_ok.mpr htoken,
      Fallible.throwIf_bind_ok.mpr ⟨by simp [haccepted.fingerprint], rfl⟩⟩⟩
  obtain ⟨e, he⟩ := herror
  unfold observeV3
  dsimp only
  split
  · exact ⟨_, rfl⟩
  · exact ⟨.error e, Fallible.bind_ok.mpr ⟨e, he, rfl⟩⟩

/-- In mode `off` the outcome is not used; in shadow mode it is observed. -/
theorem run_shadow {PublicResult : Type} {input : ShadowRunInput PublicResult}
    (haccepted : Accepted .v2 input.v2Decision)
    (htoken : isToken [':', '_', '-'] 7 127 input.comparisonToken = true) :
    (input.mode = .off ∧ runV3ShadowWithDerivedSafetySafely rt input =
      .ok ⟨input.publicV2Result, "v2", false, none⟩) ∨
    (input.mode = .shadow ∧ ∃ o, runV3ShadowWithDerivedSafetySafely rt input =
      .ok ⟨input.publicV2Result, "v2", true, some o⟩) := by
  have hv2 := normalizeComparableDecision_eq haccepted
  cases hmode : input.mode with
  | off =>
    refine .inl ⟨rfl, Fallible.bind_ok.mpr ⟨_, hv2, Fallible.bind_ok.mpr
      ⟨(), requireOpaqueToken_ok.mpr htoken, ?_⟩⟩⟩
    rw [if_pos hmode]
    rfl
  | shadow =>
    obtain ⟨o, ho⟩ := observeV3_ok (normalizeComparableDecision_ok hv2) htoken
    refine .inr ⟨rfl, o, Fallible.bind_ok.mpr ⟨_, hv2, Fallible.bind_ok.mpr
      ⟨(), requireOpaqueToken_ok.mpr htoken, ?_⟩⟩⟩
    rw [if_neg (by rw [hmode]; exact nofun)]
    exact Fallible.bind_ok.mpr ⟨o, ho, rfl⟩

/-! ## 6. The public path -/

/-- The run returns the public result unchanged, without V3 in mode `off` and with a valid
    observation, if it makes one. -/
def Harmless (rt : Runtime) (mode : Option ShadowMode) (comparisonToken : String)
    (segment : EvaluationSegment) (result : V2SearchResult Evaluation Rest)
    (runV3 : Except String Json) : Prop :=
  ∃ run, runIndependentDecisionShadow rt mode comparisonToken segment result runV3 = .ok run ∧
    run.publicResult = result ∧ run.publicServingEngine = "v2" ∧
    (mode.getD .off = .off → run.v3Executed = false ∧ ∀ runV3',
      runIndependentDecisionShadow rt mode comparisonToken segment result runV3' = .ok run) ∧
    ∀ o, run.shadowObservation = some o → (validateShadowObservation rt o).valid = true

theorem harmless_of_accepted {v2 : ComparableDecision} {mode : Option ShadowMode}
    {comparisonToken : String} {segment : EvaluationSegment} {runV3 : Except String Json}
    (hv2 : createV2ComparableDecision rt result = .ok v2)
    (htoken : isToken [':', '_', '-'] 7 127 comparisonToken = true) :
    Harmless rt mode comparisonToken segment result runV3 := by
  have hrun : ∀ runV3', runIndependentDecisionShadow rt mode comparisonToken segment result runV3' =
      runV3ShadowWithDerivedSafetySafely rt
        (shadowInput mode comparisonToken segment result v2 runV3') := by
    intro runV3'
    unfold runIndependentDecisionShadow
    rw [hv2]
    rfl
  have haccepted := v2_accepted hv2
  cases hmode : mode.getD .off with
  | off =>
    have hoff : ∀ runV3', runIndependentDecisionShadow rt mode comparisonToken segment result
        runV3' = .ok ⟨result, "v2", false, none⟩ := by
      intro runV3'
      rw [hrun]
      rcases @run_shadow rt _ (shadowInput mode comparisonToken segment result v2 runV3')
        haccepted htoken with ⟨-, hok⟩ | ⟨hshadow, -⟩
      · exact hok
      · cases hmode.symm.trans hshadow
    refine ⟨⟨result, "v2", false, none⟩, hoff runV3, rfl, rfl, ?_, ?_⟩
    · exact fun _ => ⟨rfl, hoff⟩
    · intro o ho
      cases ho
  | shadow =>
    rcases @run_shadow rt _ (shadowInput mode comparisonToken segment result v2 runV3)
      haccepted htoken with ⟨hoff, -⟩ | ⟨-, o, hok⟩
    · cases hmode.symm.trans hoff
    · refine ⟨⟨result, "v2", true, some o⟩, (hrun runV3).trans hok, rfl, rfl, ?_, ?_⟩
      · intro hoff
        cases hmode.symm.trans hoff
      · intro o' ho'
        exact (made_valid (.run hok ho')).1

theorem shadow_never_harms (rt : Runtime) (result : V2SearchResult Evaluation Rest)
    (mode : Option ShadowMode) (comparisonToken : String) (segment : EvaluationSegment)
    (runV3 : Except String Json)
    (htoken : isToken [':', '_', '-'] 7 127 comparisonToken = true) :
    Harmless rt mode comparisonToken segment result runV3 ↔ SelectsBounded result := by
  rw [← v2_created]
  constructor
  · rintro ⟨run, hrun, -⟩
    obtain ⟨v2, hv2, -⟩ := Fallible.bind_ok.mp hrun
    exact ⟨v2, hv2⟩
  · rintro ⟨v2, hv2⟩
    exact harmless_of_accepted hv2 htoken

/-- A search that chose a hotel with a name of seven letters. -/
def chosenHotel : V2SearchResult Unit Unit where
  engineVersion := engineVersionV2
  pipelineVersion := pipelineVersionV2
  evaluations := [()]
  bestChoiceHotelId := some "hotel-1"
  rest := ()
  versions := ⟨rfl, rfl⟩
  named := by decide

theorem shadow_never_harms_chosen :
    Harmless plainRuntime (some .shadow) "case-10012789"
      ⟨.balanced, .urban, .short, .shortStay, .high⟩ chosenHotel (.error "timeout") := by
  refine (shadow_never_harms plainRuntime chosenHotel (some .shadow) "case-10012789" _
    (.error "timeout") (by decide)).mpr fun id hid => ?_
  cases hid
  decide +kernel

/-- A name of `n` letters. -/
def nameOf (n : Nat) : String := String.ofList (List.replicate n 'a')

theorem nameOf_length (n : Nat) : (JsText.utf16 (nameOf n)).length = n := by
  have hunit : JsText.codeUnits 'a'.toNat = [97] := rfl
  rw [nameOf, JsText.utf16, String.toList_ofList, List.flatMap_replicate, hunit]
  simp

theorem trim_nameOf {n : Nat} (h : 0 < n) : JsText.trim (nameOf n) ≠ "" := by
  have hspace : ∀ c ∈ (nameOf n).toList, JsText.isSpace c = false := by
    intro c hc
    rw [nameOf, String.toList_ofList] at hc
    rw [List.eq_of_mem_replicate hc]
    rfl
  rw [JsText.trim_of_no_space hspace]
  intro hempty
  have hlength := nameOf_length n
  rw [hempty] at hlength
  exact h.ne hlength

/-- The same search with a name of `n` letters. -/
def namedHotel (n : Nat) (h : 0 < n) : V2SearchResult Unit Unit :=
  { chosenHotel with
    bestChoiceHotelId := some (nameOf n)
    named := by
      intro id hid
      rw [← Option.some.inj hid]
      exact trim_nameOf h }

/-- A search that chose a hotel with a name of 513 letters throws, also in mode `off`. -/
theorem long_name_throws : ¬ ∀ (result : V2SearchResult Unit Unit) mode comparisonToken segment
    runV3, isToken [':', '_', '-'] 7 127 comparisonToken = true →
      Harmless plainRuntime mode comparisonToken segment result runV3 := by
  intro hall
  obtain ⟨run, hrun, -⟩ := hall (namedHotel 513 (by decide)) none "case-10012789"
    ⟨.balanced, .urban, .short, .shortStay, .high⟩ (.error "timeout") (by decide)
  obtain ⟨v2, hv2, -⟩ := Fallible.bind_ok.mp hrun
  have hbounded := v2_created.mp ⟨v2, hv2⟩ (nameOf 513) rfl
  rw [nameOf_length] at hbounded
  exact absurd hbounded (by decide)

end SmartStay.Orchestrator
