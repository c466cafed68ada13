import SmartStay.Contract.StableHash

/-!
# Shadow observations

`engine-v3/promotion/shadowCanaryPromotionV3.ts`: what is recorded when the new engine runs
beside the public one. The closed values of the records are types here, so the checks for
unknown values and unexpected keys have nothing to reject.

1. Segments, decisions, safety signals.
2. The checks of tokens, versions and decisions.
3. `createDecisionDiff`, `createCriticalRegressions`.
4. `createShadowComparison`, `createShadowError`.
5. `validateShadowObservation`.
6. The runners.
-/

namespace SmartStay.Promotion

open Contract

/-! ## 1. Records -/

/-- `StayOptiEvaluationProfileV3`. -/
inductive Profile
  | maximumComfort | comfort | balanced | savings | maximumSavings
deriving DecidableEq, Repr

def Profile.text : Profile → String
  | .maximumComfort => "maximum-comfort"
  | .comfort => "comfort"
  | .balanced => "balanced"
  | .savings => "savings"
  | .maximumSavings => "maximum-savings"

/-- `StayOptiEvaluationDestinationV3`. -/
inductive Destination
  | urban | resort | rural | airport | mixed
deriving DecidableEq, Repr

def Destination.text : Destination → String
  | .urban => "urban"
  | .resort => "resort"
  | .rural => "rural"
  | .airport => "airport"
  | .mixed => "mixed"

/-- `StayOptiEvaluationLeadTimeV3`. -/
inductive LeadTime
  | sameWeek | short | medium | long | veryLong
deriving DecidableEq, Repr

def LeadTime.text : LeadTime → String
  | .sameWeek => "same-week"
  | .short => "short"
  | .medium => "medium"
  | .long => "long"
  | .veryLong => "very-long"

/-- `StayOptiEvaluationDurationV3`. -/
inductive Duration
  | oneNight | shortStay | mediumStay | longStay | extendedStay
deriving DecidableEq, Repr

def Duration.text : Duration → String
  | .oneNight => "one-night"
  | .shortStay => "short-stay"
  | .mediumStay => "medium-stay"
  | .longStay => "long-stay"
  | .extendedStay => "extended-stay"

/-- `StayOptiEvaluationCoverageV3`. -/
inductive Coverage
  | high | medium | low | unknown
deriving DecidableEq, Repr

def Coverage.text : Coverage → String
  | .high => "high"
  | .medium => "medium"
  | .low => "low"
  | .unknown => "unknown"

/-- `StayOptiEvaluationSegmentV3`. -/
structure EvaluationSegment where
  profile : Profile
  destination : Destination
  leadTime : LeadTime
  duration : Duration
  coverage : Coverage

def EvaluationSegment.toJson (s : EvaluationSegment) : Json :=
  .obj [("profile", .str s.profile.text), ("destination", .str s.destination.text),
    ("leadTime", .str s.leadTime.text), ("duration", .str s.duration.text),
    ("coverage", .str s.coverage.text)]

/-- `StayOptiServingEngineV3`. -/
inductive ServingEngine
  | v2 | v3
deriving DecidableEq, Repr

def ServingEngine.text : ServingEngine → String
  | .v2 => "v2"
  | .v3 => "v3"

/-- `StayOptiComparableDecisionStatusV3`. -/
inductive DecisionStatus
  | recommended | abstained | noFeasibleSolution
deriving DecidableEq, Repr

def DecisionStatus.text : DecisionStatus → String
  | .recommended => "recommended"
  | .abstained => "abstained"
  | .noFeasibleSolution => "no-feasible-solution"

/-- `StayOptiComparableDecisionRoleV3`. -/
inductive DecisionRole
  | bestChoice | bestSensibleSaving | worthwhileComfortUpgrade | splitSaver
deriving DecidableEq, Repr

def DecisionRole.text : DecisionRole → String
  | .bestChoice => "best-choice"
  | .bestSensibleSaving => "best-sensible-saving"
  | .worthwhileComfortUpgrade => "worthwhile-comfort-upgrade"
  | .splitSaver => "split-saver"

/-- `StayOptiComparableDecisionV3`. -/
structure ComparableDecision where
  engine : ServingEngine
  engineVersion : String
  policyVersion : String
  decisionFingerprint : String
  status : DecisionStatus
  selectedSolutionToken : Option String
  role : Option DecisionRole
  reasonCodes : List String

def ComparableDecision.toJson (d : ComparableDecision) : Json :=
  .obj [("engine", .str d.engine.text), ("engineVersion", .str d.engineVersion),
    ("policyVersion", .str d.policyVersion), ("decisionFingerprint", .str d.decisionFingerprint),
    ("status", .str d.status.text), ("selectedSolutionToken", .text? d.selectedSolutionToken),
    ("role", .text? (d.role.map (·.text))), ("reasonCodes", .texts d.reasonCodes)]

inductive PassFail
  | pass | fail
deriving DecidableEq, Repr

def PassFail.text : PassFail → String
  | .pass => "pass"
  | .fail => "fail"

inductive PriceIntegrity
  | pass | fail | unknown
deriving DecidableEq, Repr

def PriceIntegrity.text : PriceIntegrity → String
  | .pass => "pass"
  | .fail => "fail"
  | .unknown => "unknown"

inductive PublicRateConsistency
  | verified | notApplicable | failed | unverified
deriving DecidableEq, Repr

def PublicRateConsistency.text : PublicRateConsistency → String
  | .verified => "verified"
  | .notApplicable => "not-applicable"
  | .failed => "failed"
  | .unverified => "unverified"

/-- `StayOptiShadowSafetySignalsV3`. -/
structure SafetySignals where
  priceIntegrity : PriceIntegrity
  publicRateConsistency : PublicRateConsistency
  commercialFirewall : PassFail
  privacyFirewall : PassFail
  deterministicReplay : PassFail
  hardConstraints : PassFail
  recommendationSafety : PassFail

def SafetySignals.toJson (s : SafetySignals) : Json :=
  .obj [("priceIntegrity", .str s.priceIntegrity.text),
    ("publicRateConsistency", .str s.publicRateConsistency.text),
    ("commercialFirewall", .str s.commercialFirewall.text),
    ("privacyFirewall", .str s.privacyFirewall.text),
    ("deterministicReplay", .str s.deterministicReplay.text),
    ("hardConstraints", .str s.hardConstraints.text),
    ("recommendationSafety", .str s.recommendationSafety.text)]

/-! ## 2. Checks -/

/-- A letter or digit and then `minimum` to `maximum` letters, digits or extra characters. -/
def isToken (extra : List Char) (minimum maximum : Nat) (text : String) : Bool :=
  match text.toList with
  | [] => false
  | first :: rest => first.isAlphanum && rest.all (fun c => c.isAlphanum || extra.contains c) &&
      minimum ≤ rest.length && rest.length ≤ maximum

def requireOpaqueToken (value : Option String) (label : String) : Except String Unit :=
  if value.any (isToken [':', '_', '-'] 7 127) then .ok ()
  else .error (label ++ " must be an opaque token.")

def requireVersionToken (value label : String) : Except String Unit :=
  if isToken ['.', '+', '-'] 2 63 value then .ok ()
  else .error (label ++ " must be a bounded version token.")

def normalizeReasonCodes (values : List String) : Except String (List String) :=
  if values.all (isToken [':', '.', '_', '-'] 1 127) then .ok (uniqueSorted values)
  else .error "Shadow reason codes must be bounded machine-readable values."

/-- The names that `forbidden` matches, in lower case. -/
def forbiddenFields : List String :=
  ["email", "phone", "fullname", "firstname", "lastname", "bookingid", "bookingref",
    "bookingreference", "providerid", "providername", "providercode", "commission", "affiliate",
    "revenue", "margin", "price", "amount"]

mutual

def findForbiddenFieldPaths : Json → String → List String
  | .arr values, currentPath => forbiddenInValues values currentPath 0
  | .obj fields, currentPath => forbiddenInFields fields currentPath
  | _, _ => []

/-- The paths below the items of an array from an index on. -/
def forbiddenInValues : List Json → String → Nat → List String
  | [], _, _ => []
  | item :: rest, currentPath, index =>
    findForbiddenFieldPaths item (currentPath ++ "." ++ toString index) ++
      forbiddenInValues rest currentPath (index + 1)

/-- The paths of the fields of a record. -/
def forbiddenInFields : List (String × Json) → String → List String
  | [], _ => []
  | (key, child) :: rest, currentPath =>
    (if forbiddenFields.contains (JsText.toLowerCase key) then [currentPath ++ "." ++ key]
      else []) ++
    findForbiddenFieldPaths child (currentPath ++ "." ++ key) ++ forbiddenInFields rest currentPath

end

/-- `expectedEngine.toUpperCase()`. -/
def ServingEngine.upper : ServingEngine → String
  | .v2 => "V2"
  | .v3 => "V3"

/-- The end of `validateComparableDecision`: a recommendation, and only that, selects. -/
def validateSelection (decision : ComparableDecision) : Except String Unit := do
  if decision.status = .recommended then
    requireOpaqueToken decision.selectedSolutionToken "selectedSolutionToken"
    if decision.role.isNone then
      throw "Recommended shadow decisions require a valid role."
  else if decision.selectedSolutionToken.isSome || decision.role.isSome then
    throw "Non-recommendation shadow decisions cannot select a solution or role."

def validateComparableDecision (decision : ComparableDecision) (expectedEngine : ServingEngine) :
    Except String Unit := do
  if decision.engine ≠ expectedEngine then
    throw ("Expected a " ++ expectedEngine.upper ++ " shadow decision.")
  requireVersionToken decision.engineVersion "engineVersion"
  requireVersionToken decision.policyVersion "policyVersion"
  if !isStableHash decision.decisionFingerprint then
    throw "Shadow decisions require a stable decision fingerprint."
  let _ ← normalizeReasonCodes decision.reasonCodes
  validateSelection decision

def normalizeComparableDecision (decision : ComparableDecision) (expectedEngine : ServingEngine) :
    Except String ComparableDecision := do
  validateComparableDecision decision expectedEngine
  let reasonCodes ← normalizeReasonCodes decision.reasonCodes
  return { decision with reasonCodes }

/-! ## 3. Differences and regressions -/

/-- `StayOptiCriticalRegressionCodeV3`. -/
inductive CriticalRegression
  | commercialInfluence | hardConstraintViolation | nonDeterministicDecision | piiInTrace
  | priceIntegrity | privacyViolation | publicRateIntegrity | unsafeRecommendation
deriving DecidableEq, Repr

def CriticalRegression.text : CriticalRegression → String
  | .commercialInfluence => "commercial-influence"
  | .hardConstraintViolation => "hard-constraint-violation"
  | .nonDeterministicDecision => "non-deterministic-decision"
  | .piiInTrace => "pii-in-trace"
  | .priceIntegrity => "price-integrity"
  | .privacyViolation => "privacy-violation"
  | .publicRateIntegrity => "public-rate-integrity"
  | .unsafeRecommendation => "unsafe-recommendation"

/-- `CRITICAL_REGRESSION_ORDER`. -/
def criticalRegressionOrder : List CriticalRegression :=
  [.commercialInfluence, .hardConstraintViolation, .nonDeterministicDecision, .piiInTrace,
    .priceIntegrity, .privacyViolation, .publicRateIntegrity, .unsafeRecommendation]

def createCriticalRegressions (signals : SafetySignals) : List CriticalRegression :=
  let codes :=
    (if signals.commercialFirewall ≠ .pass then [CriticalRegression.commercialInfluence] else []) ++
    (if signals.hardConstraints ≠ .pass then [CriticalRegression.hardConstraintViolation] else []) ++
    (if signals.deterministicReplay ≠ .pass then [CriticalRegression.nonDeterministicDecision] else []) ++
    (if signals.priceIntegrity ≠ .pass then [CriticalRegression.priceIntegrity] else []) ++
    (if signals.privacyFirewall ≠ .pass then [CriticalRegression.privacyViolation] else []) ++
    (if signals.publicRateConsistency ∉
        [PublicRateConsistency.verified, PublicRateConsistency.notApplicable] then
      [CriticalRegression.publicRateIntegrity] else []) ++
    (if signals.recommendationSafety ≠ .pass then [CriticalRegression.unsafeRecommendation] else [])
  criticalRegressionOrder.filter fun code => code ∈ codes

/-- `StayOptiShadowReasonDiffV3`. -/
structure ReasonDiff where
  common : List String
  addedInV3 : List String
  missingFromV3 : List String
deriving DecidableEq

def createReasonDiff (v2Reasons v3Reasons : List String) : Except String ReasonDiff := do
  let v2 ← normalizeReasonCodes v2Reasons
  let v3 ← normalizeReasonCodes v3Reasons
  return ⟨v2.filter v3.contains, v3.filter (!v2.contains ·), v2.filter (!v3.contains ·)⟩

/-- `StayOptiShadowDiffKindV3`. -/
inductive DiffKind
  | none | reasonsOnly | role | selection | status | abstention
deriving DecidableEq, Repr

def DiffKind.text : DiffKind → String
  | .none => "none"
  | .reasonsOnly => "reasons-only"
  | .role => "role"
  | .selection => "selection"
  | .status => "status"
  | .abstention => "abstention"

/-- `StayOptiShadowDecisionDiffV3`. -/
structure DecisionDiff where
  kind : DiffKind
  statusAgreement : Bool
  selectionAgreement : Bool
  roleAgreement : Bool
  exactReasonAgreement : Bool
  reasonDiff : ReasonDiff
deriving DecidableEq

def DecisionDiff.toJson (d : DecisionDiff) : Json :=
  .obj [("kind", .str d.kind.text), ("statusAgreement", .bool d.statusAgreement),
    ("selectionAgreement", .bool d.selectionAgreement), ("roleAgreement", .bool d.roleAgreement),
    ("exactReasonAgreement", .bool d.exactReasonAgreement),
    ("reasonDiff", .obj [("common", .texts d.reasonDiff.common),
      ("addedInV3", .texts d.reasonDiff.addedInV3),
      ("missingFromV3", .texts d.reasonDiff.missingFromV3)])]

def createDecisionDiff (v2 v3 : ComparableDecision) : Except String DecisionDiff := do
  let reasonDiff ← createReasonDiff v2.reasonCodes v3.reasonCodes
  let statusAgreement : Bool := v2.status = v3.status
  let selectionAgreement : Bool := v2.selectedSolutionToken = v3.selectedSolutionToken
  let roleAgreement : Bool := v2.role = v3.role
  let exactReasonAgreement : Bool :=
    reasonDiff.addedInV3.length = 0 && reasonDiff.missingFromV3.length = 0
  let kind : DiffKind :=
    if !statusAgreement && (v2.status = .abstained || v3.status = .abstained) then .abstention
    else if !statusAgreement then .status
    else if !selectionAgreement then .selection
    else if !roleAgreement then .role
    else if !exactReasonAgreement then .reasonsOnly
    else .none
  return ⟨kind, statusAgreement, selectionAgreement, roleAgreement, exactReasonAgreement,
    reasonDiff⟩

/-! ## 4. Observations -/

def engineVersionV3 : String := "3.0.0-alpha.13"
def policyVersionV3 : String := "3.0.0-policy.13"
def shadowPromotionVersionV3 : String := "3.0.0-shadow-promotion.1"
def shadowRecordSchemaVersionV3 : String := "3.0.0-shadow-record.1"
def promotionAuditSchemaVersionV3 : String := "3.0.0-promotion-audit.1"

/-- `StayOptiPromotionAuditIdentityV3`. -/
structure AuditIdentity where
  schemaVersion : String
  internalOnly : Bool
  engineVersion : String
  policyVersion : String
  promotionVersion : String

def AuditIdentity.toJson (a : AuditIdentity) : Json :=
  .obj [("schemaVersion", .str a.schemaVersion), ("internalOnly", .bool a.internalOnly),
    ("engineVersion", .str a.engineVersion), ("policyVersion", .str a.policyVersion),
    ("promotionVersion", .str a.promotionVersion)]

def createAuditIdentity : AuditIdentity where
  schemaVersion := promotionAuditSchemaVersionV3
  internalOnly := true
  engineVersion := engineVersionV3
  policyVersion := policyVersionV3
  promotionVersion := shadowPromotionVersionV3

def isAuditIdentityValid (a : AuditIdentity) : Bool :=
  a.schemaVersion = promotionAuditSchemaVersionV3 && a.internalOnly &&
    a.engineVersion = engineVersionV3 && a.policyVersion = policyVersionV3 &&
    a.promotionVersion = shadowPromotionVersionV3

/-- The fields that comparisons and errors share. -/
structure ObservationHeader where
  schemaVersion : String
  comparisonId : String
  application : String
  publicServingEngine : String
  v3Authoritative : Bool
  segment : EvaluationSegment

def ObservationHeader.fields (h : ObservationHeader) : List (String × Json) :=
  [("schemaVersion", .str h.schemaVersion), ("comparisonId", .str h.comparisonId),
    ("application", .str h.application), ("publicServingEngine", .str h.publicServingEngine),
    ("v3Authoritative", .bool h.v3Authoritative), ("segment", h.segment.toJson)]

/-- The header of a new observation. -/
def createHeader (comparisonId : String) (segment : EvaluationSegment) : ObservationHeader where
  schemaVersion := shadowRecordSchemaVersionV3
  comparisonId := comparisonId
  application := "internal-shadow-only"
  publicServingEngine := "v2"
  v3Authoritative := false
  segment := segment

/-- `StayOptiShadowComparisonV3` without its fingerprint. -/
structure ComparisonCore extends ObservationHeader where
  v2 : ComparableDecision
  v3 : ComparableDecision
  safety : SafetySignals
  diff : DecisionDiff
  criticalRegressions : List CriticalRegression
  audit : AuditIdentity

def ComparisonCore.fields (c : ComparisonCore) : List (String × Json) :=
  ("recordType", .str "shadow-comparison") :: c.toObservationHeader.fields ++
    [("v2", c.v2.toJson), ("v3", c.v3.toJson), ("safety", c.safety.toJson),
      ("diff", c.diff.toJson), ("criticalRegressions", .texts (c.criticalRegressions.map (·.text))),
      ("audit", c.audit.toJson)]

structure ShadowComparison extends ComparisonCore where
  fingerprint : String

/-- `StayOptiShadowErrorV3` without its fingerprint. -/
structure ErrorCore extends ObservationHeader where
  errorCode : String
  audit : AuditIdentity

def ErrorCore.fields (e : ErrorCore) : List (String × Json) :=
  ("recordType", .str "shadow-error") :: e.toObservationHeader.fields ++
    [("errorCode", .str e.errorCode), ("audit", e.audit.toJson)]

structure ShadowError extends ErrorCore where
  fingerprint : String

/-- `StayOptiShadowObservationV3`; the constructor is the `recordType`. -/
inductive ShadowObservation
  | comparison (record : ShadowComparison)
  | error (record : ShadowError)

namespace ShadowObservation

def header : ShadowObservation → ObservationHeader
  | .comparison record => record.toObservationHeader
  | .error record => record.toObservationHeader

def audit : ShadowObservation → AuditIdentity
  | .comparison record => record.audit
  | .error record => record.audit

def fingerprint : ShadowObservation → String
  | .comparison record => record.fingerprint
  | .error record => record.fingerprint

def comparisonId (o : ShadowObservation) : String := o.header.comparisonId

def toJson : ShadowObservation → Json
  | .comparison record => .obj (record.fields ++ [("fingerprint", .str record.fingerprint)])
  | .error record => .obj (record.fields ++ [("fingerprint", .str record.fingerprint)])

end ShadowObservation

/-- The input of `createShadowComparisonV3`. -/
structure ComparisonInput where
  comparisonToken : String
  segment : EvaluationSegment
  v2 : ComparableDecision
  v3 : ComparableDecision
  safety : SafetySignals

def ComparisonInput.toJson (i : ComparisonInput) : Json :=
  .obj [("comparisonToken", .str i.comparisonToken), ("segment", i.segment.toJson),
    ("v2", i.v2.toJson), ("v3", i.v3.toJson), ("safety", i.safety.toJson)]

def comparisonId (rt : Runtime) (comparisonToken v2Fingerprint v3Fingerprint : String) : String :=
  createStableHash rt (.obj [("comparisonToken", .str comparisonToken),
    ("v2DecisionFingerprint", .str v2Fingerprint), ("v3DecisionFingerprint", .str v3Fingerprint)])
    "stayopti-v3-shadow-comparison-id"

def createComparisonFingerprint (rt : Runtime) (record : ComparisonCore) : String :=
  createStableHash rt (.obj record.fields) "stayopti-v3-shadow-comparison"

def createShadowComparison (rt : Runtime) (input : ComparisonInput) :
    Except String ShadowComparison := do
  if 0 < (findForbiddenFieldPaths input.toJson "root").length then
    throw "Shadow comparison contains PII, booking, provider or commercial fields."
  requireOpaqueToken (some input.comparisonToken) "comparisonToken"
  let v2 ← normalizeComparableDecision input.v2 .v2
  let v3 ← normalizeComparableDecision input.v3 .v3
  let diff ← createDecisionDiff v2 v3
  let core : ComparisonCore :=
    { createHeader (comparisonId rt input.comparisonToken v2.decisionFingerprint
        v3.decisionFingerprint) input.segment with
      v2
      v3
      safety := input.safety
      diff
      criticalRegressions := createCriticalRegressions input.safety
      audit := createAuditIdentity }
  return { core with fingerprint := createComparisonFingerprint rt core }

def errorId (rt : Runtime) (comparisonToken v2DecisionFingerprint : String) : String :=
  createStableHash rt (.obj [("comparisonToken", .str comparisonToken),
    ("v2DecisionFingerprint", .str v2DecisionFingerprint)]) "stayopti-v3-shadow-error-id"

def createShadowErrorFingerprint (rt : Runtime) (record : ErrorCore) : String :=
  createStableHash rt (.obj record.fields) "stayopti-v3-shadow-error"

def createShadowError (rt : Runtime) (comparisonToken : String) (segment : EvaluationSegment)
    (v2DecisionFingerprint : String) : Except String ShadowError := do
  requireOpaqueToken (some comparisonToken) "comparisonToken"
  if !isStableHash v2DecisionFingerprint then
    throw "Shadow error records require the V2 decision fingerprint."
  let core : ErrorCore :=
    { createHeader (errorId rt comparisonToken v2DecisionFingerprint) segment with
      errorCode := "v3-shadow-execution-failed"
      audit := createAuditIdentity }
  return { core with fingerprint := createShadowErrorFingerprint rt core }

/-! ## 5. Validation -/

/-- The issues that `validateShadowObservationV3` pushes for the kind of record, unless one of
    its steps throws. -/
def recordIssues (rt : Runtime) : ShadowObservation → Except String (List String)
  | .comparison record => do
    validateComparableDecision record.v2 .v2
    validateComparableDecision record.v3 .v3
    let diff ← createDecisionDiff record.v2 record.v3
    return (if record.diff ≠ diff then ["derived-diff-mismatch"] else []) ++
      (if record.criticalRegressions ≠ createCriticalRegressions record.safety then
        ["critical-regression-mismatch"] else []) ++
      (if record.fingerprint ≠ createComparisonFingerprint rt record.toComparisonCore then
        ["fingerprint-mismatch"] else [])
  | .error record =>
    return (if record.errorCode ≠ "v3-shadow-execution-failed" then ["invalid-shape"] else []) ++
      (if record.fingerprint ≠ createShadowErrorFingerprint rt record.toErrorCore then
        ["fingerprint-mismatch"] else [])

/-- The check of the fields that all observations have. -/
def validShape (observation : ShadowObservation) : Bool :=
  observation.header.schemaVersion = shadowRecordSchemaVersionV3 &&
    observation.header.application = "internal-shadow-only" &&
    observation.header.publicServingEngine = "v2" && !observation.header.v3Authoritative &&
    isAuditIdentityValid observation.audit && isStableHash observation.comparisonId

/-- `StayOptiShadowValidationV3`. -/
structure ShadowValidation where
  valid : Bool
  issues : List String

def validateShadowObservation (rt : Runtime) (observation : ShadowObservation) : ShadowValidation :=
  let issues := (if validShape observation then [] else ["invalid-shape"]) ++
    match recordIssues rt observation with
    | .ok issues => issues ++
        if 0 < (findForbiddenFieldPaths observation.toJson "root").length then ["invalid-shape"]
        else []
    | .error _ => ["invalid-shape"]
  ⟨issues.length = 0, uniqueSorted issues⟩

/-! ## 6. The runners -/

inductive ShadowMode
  | off | shadow
deriving DecidableEq, Repr

/-- The input of `runV3ShadowWithDerivedSafetySafelyV3`; a `runV3` that throws is an error. -/
structure ShadowRunInput (PublicResult : Type) where
  mode : ShadowMode
  comparisonToken : String
  segment : EvaluationSegment
  publicV2Result : PublicResult
  v2Decision : ComparableDecision
  runV3 : Except String (ComparableDecision × SafetySignals)

structure ShadowRun (PublicResult : Type) where
  publicResult : PublicResult
  publicServingEngine : String
  v3Executed : Bool
  shadowObservation : Option ShadowObservation

variable {PublicResult : Type}

/-- The observation of a run in shadow mode. -/
def observeV3 (rt : Runtime) (input : ShadowRunInput PublicResult) (v2 : ComparableDecision) :
    Except String ShadowObservation :=
  let comparison := do
    let evaluation ← input.runV3
    createShadowComparison rt ⟨input.comparisonToken, input.segment, v2, evaluation.1, evaluation.2⟩
  match comparison with
  | .ok record => .ok (.comparison record)
  | .error _ => do
    let record ← createShadowError rt input.comparisonToken input.segment v2.decisionFingerprint
    return .error record

def runV3ShadowWithDerivedSafetySafely (rt : Runtime) (input : ShadowRunInput PublicResult) :
    Except String (ShadowRun PublicResult) := do
  let v2 ← normalizeComparableDecision input.v2Decision .v2
  requireOpaqueToken (some input.comparisonToken) "comparisonToken"
  if input.mode = .off then return ⟨input.publicV2Result, "v2", false, none⟩
  let observation ← observeV3 rt input v2
  return ⟨input.publicV2Result, "v2", true, some observation⟩

/-- `runV3ShadowSafelyV3`: the safety signals are given and `runV3` returns a decision. -/
def runV3ShadowSafely (rt : Runtime) (mode : ShadowMode) (comparisonToken : String)
    (segment : EvaluationSegment) (publicV2Result : PublicResult) (v2Decision : ComparableDecision)
    (safety : SafetySignals) (runV3 : Except String ComparableDecision) :
    Except String (ShadowRun PublicResult) :=
  runV3ShadowWithDerivedSafetySafely rt
    { mode, comparisonToken, segment, publicV2Result, v2Decision
      runV3 := runV3.map fun decision => (decision, safety) }

end SmartStay.Promotion
