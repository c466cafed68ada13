import SmartStay.Policy.DecisionTie

/-!
# Search-wide scale coverage

`engine-v3/scale/searchWideScaleCoverageV3.ts`: which candidates are evaluated in full, given
bounds of their scores, and an audit of what the pruning would lose. Numbers are rationals.

1. Candidates, options, policy.
2. `resolveScope`, `createSearchWideContext`, `createWorkBudget`.
3. `resolveSafeCutoff`, `evaluateCandidate`.
4. `createEquivalenceAudit`.
5. The evaluation as a record, `evaluateSearchWideScaleCoverage`.
-/

namespace SmartStay.Scale

open Contract (Runtime Json createStableHash stableSerialize uniqueSorted)
open JsSort Policy

/-! ## 1. Input -/

/-- `StayOptiSourceSetCompletenessV3`. -/
inductive SourceSetCompleteness
  | complete | partialSet | unknown
deriving DecidableEq, Repr

def SourceSetCompleteness.text : SourceSetCompleteness → String
  | .complete => "complete"
  | .partialSet => "partial"
  | .unknown => "unknown"

/-- `StayOptiScaleCandidateInputV3`; `none` is `null`. -/
structure CandidateInput where
  hotelId : String
  eligible : Bool
  coarseScoreLowerBound : Option ℚ
  coarseScoreUpperBound : Option ℚ
  fullDecisionScore : Option ℚ
  evidenceCoverage : ℚ
  protectedByPolicy : Bool
deriving DecidableEq

/-- A number option: absent, or a value that is `none` when it is no finite number. -/
abbrev NumberOption := Option (Option ℚ)

/-- `StayOptiSearchWideScaleOptionsV3`. -/
structure ScaleOptions where
  fineEvaluationTarget : NumberOption := none
  outputCandidateLimit : NumberOption := none
  equivalenceTolerance : NumberOption := none
  strongAlternativeTolerance : NumberOption := none
  maximumCandidateCount : NumberOption := none
  maximumFineEvaluationCount : NumberOption := none
  maximumEstimatedWorkingBytes : NumberOption := none
  maximumCoarseOperationCount : NumberOption := none

/-- `EvaluateStayOptiSearchWideScaleInputV3`. -/
structure ScaleInput where
  candidates : List CandidateInput
  sourceSetCompleteness : SourceSetCompleteness := .unknown
  sourceReportedHotelCount : Option ℚ := none
  options : ScaleOptions := {}

/-- `StayOptiSearchWideScalePolicyV3`. -/
structure ScalePolicy where
  fineEvaluationTarget : ℕ+
  outputCandidateLimit : ℕ+
  equivalenceTolerance : ℚ
  strongAlternativeTolerance : ℚ
  maximumCandidateCount : ℕ+
  maximumFineEvaluationCount : ℕ+
  maximumEstimatedWorkingBytes : ℕ+
  maximumCoarseOperationCount : ℕ+

/-- `SCORE_EPSILON`. -/
def scoreEpsilon : ℚ := 1 / 1000000

/-- `round(value)`, to six digits. -/
def round (value : ℚ) : ℚ := JsNumber.round (value * 1000000) / 1000000

def isInRange (value minimum maximum : ℚ) : Bool := minimum ≤ value && value ≤ maximum

def requirePositiveInteger (value : Option ℚ) (label : String) : Except String ℕ+ :=
  match value with
  | none => .error (label ++ " must be a positive integer.")
  | some value =>
    if h : value.den = 1 ∧ 0 < value.num.toNat then .ok ⟨value.num.toNat, h.2⟩
    else .error (label ++ " must be a positive integer.")

def requireNonNegativeNumber (value : Option ℚ) (label : String) : Except String ℚ :=
  match value with
  | none => .error (label ++ " must be a finite non-negative number.")
  | some value =>
    if value < 0 then .error (label ++ " must be a finite non-negative number.") else .ok value

/-- The defaults are those of `DEFAULT_OPTIONS`. -/
def resolveOptions (options : ScaleOptions) : Except String ScalePolicy := do
  let fineEvaluationTarget ← requirePositiveInteger
    (options.fineEvaluationTarget.getD (some 128)) "fineEvaluationTarget"
  let outputCandidateLimit ← requirePositiveInteger
    (options.outputCandidateLimit.getD (some 4)) "outputCandidateLimit"
  let maximumCandidateCount ← requirePositiveInteger
    (options.maximumCandidateCount.getD (some 50000)) "maximumCandidateCount"
  let maximumFineEvaluationCount ← requirePositiveInteger
    (options.maximumFineEvaluationCount.getD (some 1024)) "maximumFineEvaluationCount"
  let maximumEstimatedWorkingBytes ← requirePositiveInteger
    (options.maximumEstimatedWorkingBytes.getD (some (64 * 1024 * 1024)))
    "maximumEstimatedWorkingBytes"
  let maximumCoarseOperationCount ← requirePositiveInteger
    (options.maximumCoarseOperationCount.getD (some 2000000)) "maximumCoarseOperationCount"
  let equivalenceTolerance ← requireNonNegativeNumber
    (options.equivalenceTolerance.getD (some (1 / 2))) "equivalenceTolerance"
  let strongAlternativeTolerance ← requireNonNegativeNumber
    (options.strongAlternativeTolerance.getD (some 2)) "strongAlternativeTolerance"
  if 100 < equivalenceTolerance || 100 < strongAlternativeTolerance then
    throw "Scale tolerances cannot exceed the 0-100 decision scale."
  return { fineEvaluationTarget
           outputCandidateLimit
           equivalenceTolerance
           strongAlternativeTolerance
           maximumCandidateCount
           maximumFineEvaluationCount
           maximumEstimatedWorkingBytes
           maximumCoarseOperationCount }

def validateCandidateInput (candidate : CandidateInput) : Except String Unit := do
  if (JsText.trim candidate.hotelId).length = 0 || !isInRange candidate.evidenceCoverage 0 1 ||
      candidate.fullDecisionScore.any (!isInRange · 0 100) then
    throw ("Invalid V3-08 scale candidate " ++
      (if candidate.hotelId = "" then "<missing>" else candidate.hotelId) ++ ".")
  let bothBoundsMissing :=
    candidate.coarseScoreLowerBound.isNone && candidate.coarseScoreUpperBound.isNone
  let bothBoundsPresent := candidate.coarseScoreLowerBound.any (isInRange · 0 100) &&
    candidate.coarseScoreUpperBound.any (isInRange · 0 100)
  if !bothBoundsMissing && !bothBoundsPresent then
    throw ("V3-08 coarse score bounds must both be known or both be missing for " ++
      candidate.hotelId ++ ".")
  match candidate.coarseScoreLowerBound, candidate.coarseScoreUpperBound with
  | some lower, some upper =>
    if upper < lower then
      throw ("V3-08 coarse score bounds are inverted for " ++ candidate.hotelId ++ ".")
  | _, _ => return

/-! ## 2. Scope, context, work -/

/-- `StayOptiScaleScopeClaimV3`. -/
inductive ScopeClaim
  | completeSourceResultSet | partialSourceResultSet | currentAnalyzedSet
deriving DecidableEq, Repr

def ScopeClaim.text : ScopeClaim → String
  | .completeSourceResultSet => "complete-source-result-set"
  | .partialSourceResultSet => "partial-source-result-set"
  | .currentAnalyzedSet => "current-analyzed-set"

/-- `StayOptiSearchWideScopeV3`, less its constant fields. -/
structure SearchWideScope where
  sourceSetCompleteness : SourceSetCompleteness
  sourceReportedHotelCount : Option ℚ
  analyzedHotelCount : Nat
  coverageRatioOfReportedSet : Option ℚ
  claimScope : ScopeClaim
  reasonCodes : List String

def resolveScope (candidateCount : Nat) (sourceSetCompleteness : SourceSetCompleteness)
    (sourceReportedHotelCount : Option ℚ) : Except String SearchWideScope := do
  if sourceSetCompleteness = .unknown && sourceReportedHotelCount.isSome then
    throw "An unknown source set cannot claim a reported total hotel count."
  if sourceSetCompleteness ≠ .unknown &&
      !sourceReportedHotelCount.any (fun count => count.den = 1 && 0 ≤ count) then
    throw "Complete or partial source sets require a non-negative reported hotel count."
  if sourceSetCompleteness = .complete && sourceReportedHotelCount ≠ some (candidateCount : ℚ) then
    throw "A complete source set must contain exactly its reported hotel count."
  if sourceSetCompleteness = .partialSet &&
      !sourceReportedHotelCount.any (fun count => (candidateCount : ℚ) < count) then
    throw "A partial source set must report more hotels than were analyzed."
  return {
    sourceSetCompleteness
    sourceReportedHotelCount
    analyzedHotelCount := candidateCount
    coverageRatioOfReportedSet := sourceReportedHotelCount.bind fun count =>
      if count = 0 then (if candidateCount = 0 then some 1 else none)
      else some (round (candidateCount / count))
    claimScope := match sourceSetCompleteness with
      | .complete => .completeSourceResultSet
      | .partialSet => .partialSourceResultSet
      | .unknown => .currentAnalyzedSet
    reasonCodes := uniqueSorted ["scale:coverage-computed", "scale:analyzed-set-only",
      "scale:public-market-claim-blocked", "scale:source-set-" ++ sourceSetCompleteness.text] }

/-- `StayOptiRelativeScarcityV3`. -/
inductive RelativeScarcity
  | scarceCurrentSet | limitedCurrentSet | ampleCurrentSet | unknown
deriving DecidableEq, Repr

def RelativeScarcity.text : RelativeScarcity → String
  | .scarceCurrentSet => "scarce-current-set"
  | .limitedCurrentSet => "limited-current-set"
  | .ampleCurrentSet => "ample-current-set"
  | .unknown => "unknown"

/-- `StayOptiSearchWideContextV3`, less its constant fields. -/
structure SearchWideContext where
  analyzedHotelCount : Nat
  eligibleHotelCount : Nat
  fullScoreHotelCount : Nat
  highEvidenceHotelCount : Nat
  eligibleRatio : Option ℚ
  relativeScarcity : RelativeScarcity
  reasonCodes : List String

def createSearchWideContext (candidates : List CandidateInput) : SearchWideContext :=
  let analyzedHotelCount := candidates.length
  let eligibleHotelCount := (candidates.filter (·.eligible)).length
  let eligibleRatio : Option ℚ := if analyzedHotelCount = 0 then none
    else some (round ((eligibleHotelCount : ℚ) / analyzedHotelCount))
  { analyzedHotelCount
    eligibleHotelCount
    fullScoreHotelCount :=
      (candidates.filter fun c => c.eligible && c.fullDecisionScore.isSome).length
    highEvidenceHotelCount :=
      (candidates.filter fun c => c.eligible && decide (75 / 100 ≤ c.evidenceCoverage)).length
    eligibleRatio
    relativeScarcity := match eligibleRatio with
      | none => .unknown
      | some ratio =>
        if eligibleHotelCount ≤ 2 || ratio < 5 / 100 then .scarceCurrentSet
        else if eligibleHotelCount ≤ 8 || ratio < 2 / 10 then .limitedCurrentSet
        else .ampleCurrentSet
    reasonCodes := uniqueSorted
      ["scale:search-wide-context", "scale:scarcity-current-set-only"] }

/-- `StayOptiScaleWorkBudgetV3`. -/
structure WorkBudget where
  coarseOperationCount : ℤ
  fineEvaluationCount : Nat
  estimatedWorkingBytes : Nat
  candidateCountWithinBudget : Bool
  coarseOperationsWithinBudget : Bool
  fineEvaluationsWithinBudget : Bool
  estimatedMemoryWithinBudget : Bool
  withinBudget : Bool
  reasonCodes : List String

/-- `log2` is `Math.log2`. -/
def createWorkBudget (log2 : ℚ → ℚ) (candidateCount retainedCount : Nat) (policy : ScalePolicy) :
    WorkBudget :=
  let coarseOperationCount := ⌈(candidateCount : ℚ) * (7 + log2 (max 2 candidateCount))⌉
  let estimatedWorkingBytes :=
    candidateCount * 320 + retainedCount * 192 + policy.fineEvaluationTarget * 64
  let candidateCountWithinBudget : Bool := candidateCount ≤ policy.maximumCandidateCount
  let coarseOperationsWithinBudget : Bool :=
    coarseOperationCount ≤ ((policy.maximumCoarseOperationCount : Nat) : ℤ)
  let fineEvaluationsWithinBudget : Bool := retainedCount ≤ policy.maximumFineEvaluationCount
  let estimatedMemoryWithinBudget : Bool :=
    estimatedWorkingBytes ≤ policy.maximumEstimatedWorkingBytes
  let withinBudget := candidateCountWithinBudget && coarseOperationsWithinBudget &&
    fineEvaluationsWithinBudget && estimatedMemoryWithinBudget
  { coarseOperationCount
    fineEvaluationCount := retainedCount
    estimatedWorkingBytes
    candidateCountWithinBudget
    coarseOperationsWithinBudget
    fineEvaluationsWithinBudget
    estimatedMemoryWithinBudget
    withinBudget
    reasonCodes := uniqueSorted ["scale:dynamic-computation-bounded",
      if withinBudget then "scale:work-budget-pass" else "scale:work-budget-blocked"] }

/-! ## 3. Pruning -/

/-- `knownLowerBounds`, the highest first. -/
def knownLowerBounds (candidates : List CandidateInput) : List ℚ :=
  ((candidates.filter (·.eligible)).filterMap (·.coarseScoreLowerBound)).insertionSort
    fun first second => second ≤ first

def resolveSafeCutoff (candidates : List CandidateInput) (policy : ScalePolicy) : Option ℚ :=
  let knownLowerBounds := knownLowerBounds candidates
  let targetIndex := min (policy.fineEvaluationTarget : Nat) knownLowerBounds.length - 1
  match knownLowerBounds[targetIndex]?, knownLowerBounds.head? with
  | some target, some highest =>
    let finalistCutoff := target - policy.equivalenceTolerance
    let strongAlternativeCutoff :=
      highest - policy.strongAlternativeTolerance - policy.equivalenceTolerance
    some (round (max 0 (min finalistCutoff strongAlternativeCutoff)))
  -- no bound is known
  | _, _ => none

/-- `StayOptiScaleCandidateDispositionV3`. -/
inductive Disposition
  | retainedProtected | retainedSafeBound | retainedMissingBound | prunedIneligible | prunedSafeBound
deriving DecidableEq, Repr

def Disposition.text : Disposition → String
  | .retainedProtected => "retained-protected"
  | .retainedSafeBound => "retained-safe-bound"
  | .retainedMissingBound => "retained-missing-bound"
  | .prunedIneligible => "pruned-ineligible"
  | .prunedSafeBound => "pruned-safe-bound"

/-- `disposition.startsWith("retained-")`. -/
def Disposition.retained : Disposition → Bool
  | .retainedProtected | .retainedSafeBound | .retainedMissingBound => true
  | .prunedIneligible | .prunedSafeBound => false

def Disposition.reasonCode : Disposition → String
  | .retainedProtected => "scale:policy-candidate-protected"
  | .retainedMissingBound => "scale:missing-bound-protected"
  | .retainedSafeBound => "scale:safe-bound-retained"
  | .prunedIneligible => "scale:ineligible-pruned"
  | .prunedSafeBound => "scale:safe-bound-pruned"

/-- `StayOptiScaleCandidateEvaluationV3`. -/
structure CandidateEvaluation extends CandidateInput where
  retainedForFineEvaluation : Bool
  disposition : Disposition
  reasonCodes : List String

def candidateDisposition (candidate : CandidateInput) (safeCutoffLowerBound : Option ℚ) :
    Disposition :=
  if !candidate.eligible then .prunedIneligible
  else if candidate.protectedByPolicy then .retainedProtected
  else
    match candidate.coarseScoreLowerBound, candidate.coarseScoreUpperBound, safeCutoffLowerBound with
    | some _, some upper, some cutoff =>
      if cutoff ≤ upper + scoreEpsilon then .retainedSafeBound else .prunedSafeBound
    | _, _, _ => .retainedMissingBound

def evaluateCandidate (safeCutoffLowerBound : Option ℚ) (candidate : CandidateInput) :
    CandidateEvaluation :=
  let disposition := candidateDisposition candidate safeCutoffLowerBound
  { candidate with
    hotelId := JsText.trim candidate.hotelId
    retainedForFineEvaluation := disposition.retained
    disposition
    reasonCodes := uniqueSorted ["scale:coarse-to-fine-planned", disposition.reasonCode] }

/-! ## 4. The audit -/

def compareFullScore (first second : CandidateEvaluation) : Ordering :=
  compare (second.fullDecisionScore.getD (-1)) (first.fullDecisionScore.getD (-1))

/-- `StayOptiScaleEquivalenceAuditV3["status"]`. -/
inductive AuditStatus
  | equivalent | notEquivalent | unavailable
deriving DecidableEq, Repr

def AuditStatus.text : AuditStatus → String
  | .equivalent => "equivalent"
  | .notEquivalent => "not-equivalent"
  | .unavailable => "unavailable"

/-- `StayOptiScaleEquivalenceAuditV3`. -/
structure EquivalenceAudit where
  status : AuditStatus
  tolerance : ℚ
  strongAlternativeTolerance : ℚ
  fullTopHotelIds : List String
  coarseToFineTopHotelIds : List String
  exactTopSetMatch : Bool
  maximumTopScoreLoss : Option ℚ
  strongAlternativeHotelIds : List String
  lostStrongAlternativeHotelIds : List String
  boundViolationHotelIds : List String
  decisionTieClassification : TieClassification
  outputLimitExpandedForDecisionTie : Bool
  reasonCodes : List String

/-- `fullyScored`. -/
def fullyScored (candidates : List CandidateEvaluation) : List CandidateEvaluation :=
  sortBy compareFullScore (candidates.filter fun c => c.eligible && c.fullDecisionScore.isSome)

/-- `plannedScored`. -/
def plannedScored (candidates : List CandidateEvaluation) : List CandidateEvaluation :=
  sortBy compareFullScore ((fullyScored candidates).filter (·.retainedForFineEvaluation))

def fullTop (policy : ScalePolicy) (candidates : List CandidateEvaluation) :
    List CandidateEvaluation :=
  takeDecisionTopWithBoundaryTies (fullyScored candidates) policy.outputCandidateLimit
    compareFullScore

def plannedTop (policy : ScalePolicy) (candidates : List CandidateEvaluation) :
    List CandidateEvaluation :=
  takeDecisionTopWithBoundaryTies (plannedScored candidates) policy.outputCandidateLimit
    compareFullScore

/-- The full score of the first candidate. -/
def bestScore (top : List CandidateEvaluation) : Option ℚ := top.head?.bind (·.fullDecisionScore)

/-- `values.sort()` on strings. -/
def sortTexts (values : List String) : List String := values.insertionSort JsText.Le

def isStrongAlternative (policy : ScalePolicy) (bestFullScore : ℚ)
    (candidate : CandidateEvaluation) : Bool :=
  candidate.protectedByPolicy || candidate.fullDecisionScore.any fun score =>
    bestFullScore - policy.strongAlternativeTolerance ≤ score + scoreEpsilon

/-- A full score outside the coarse bounds. -/
def violatesBounds (candidate : CandidateInput) : Bool :=
  match candidate.fullDecisionScore, candidate.coarseScoreLowerBound,
    candidate.coarseScoreUpperBound with
  | some score, some lower, some upper => score + scoreEpsilon < lower || upper < score - scoreEpsilon
  | _, _, _ => false

def createEquivalenceAudit (rt : Runtime) (candidates : List CandidateEvaluation)
    (policy : ScalePolicy) : EquivalenceAudit :=
  let fullyScored := fullyScored candidates
  let fullTop := fullTop policy candidates
  let plannedTop := plannedTop policy candidates
  let maximumTopScoreLoss : Option ℚ := match bestScore fullTop, bestScore plannedTop with
    | some bestFullScore, some bestPlannedScore =>
      some (round (max 0 (bestFullScore - bestPlannedScore)))
    | _, _ => none
  let strongAlternativeHotelIds := match bestScore fullTop with
    | none => []
    | some bestFullScore => sortTexts
        ((fullyScored.filter (isStrongAlternative policy bestFullScore)).map (·.hotelId))
  let retainedSet := (candidates.filter (·.retainedForFineEvaluation)).map (·.hotelId)
  let lostStrongAlternativeHotelIds :=
    strongAlternativeHotelIds.filter fun hotelId => !retainedSet.contains hotelId
  let boundViolationHotelIds := sortTexts
    ((candidates.filter fun c => violatesBounds c.toCandidateInput).map (·.hotelId))
  let fullTopHotelIds := fullTop.map (·.hotelId)
  let coarseToFineTopHotelIds := plannedTop.map (·.hotelId)
  let status : AuditStatus :=
    if fullyScored.length = 0 then .unavailable
    else if maximumTopScoreLoss.any (· ≤ policy.equivalenceTolerance + scoreEpsilon) &&
      lostStrongAlternativeHotelIds.length = 0 && boundViolationHotelIds.length = 0
    then .equivalent
    else .notEquivalent
  { status
    tolerance := policy.equivalenceTolerance
    strongAlternativeTolerance := policy.strongAlternativeTolerance
    fullTopHotelIds
    coarseToFineTopHotelIds
    exactTopSetMatch := stableSerialize rt (.texts (sortTexts fullTopHotelIds)) =
      stableSerialize rt (.texts (sortTexts coarseToFineTopHotelIds))
    maximumTopScoreLoss
    strongAlternativeHotelIds
    lostStrongAlternativeHotelIds
    boundViolationHotelIds
    decisionTieClassification := match fullTop with
      | first :: second :: _ => if first.fullDecisionScore = second.fullDecisionScore
        then .decisionallyEquivalent else .decisionallyDistinct
      | _ => .decisionallyDistinct
    outputLimitExpandedForDecisionTie := policy.outputCandidateLimit < fullTop.length ||
      policy.outputCandidateLimit < plannedTop.length
    reasonCodes := uniqueSorted [
      "scale:full-equivalence-" ++ (match status with
        | .equivalent => "pass"
        | .notEquivalent => "failed"
        | .unavailable => "unavailable"),
      (if boundViolationHotelIds.length = 0 then "scale:bounds-validated"
        else "scale:bounds-violated"),
      (if lostStrongAlternativeHotelIds.length = 0 then "scale:strong-alternatives-preserved"
        else "scale:strong-alternative-lost"),
      "scale:safe-pruning-audited"] }

/-! ## 5. The evaluation -/

/-- `StayOptiSearchWideScaleCoverageV3["status"]`. -/
inductive ScaleStatus
  | pass | blocked | unavailable
deriving DecidableEq, Repr

def ScaleStatus.text : ScaleStatus → String
  | .pass => "pass"
  | .blocked => "blocked"
  | .unavailable => "unavailable"

/-- `evaluationCore`, less its constant fields. -/
structure CoverageCore where
  status : ScaleStatus
  policy : ScalePolicy
  candidates : List CandidateEvaluation
  retainedHotelIds : List String
  prunedHotelIds : List String
  safeCutoffLowerBound : Option ℚ
  scope : SearchWideScope
  searchWideContext : SearchWideContext
  equivalence : EquivalenceAudit
  workBudget : WorkBudget
  reasonCodes : List String

/-- `StayOptiSearchWideScaleCoverageV3`. -/
structure Coverage extends CoverageCore where
  evaluationId : String
  fingerprint : String

def natJson (n : Nat) : Json := .num n

def ScalePolicy.toJson (p : ScalePolicy) : Json := .obj
  [("fineEvaluationTarget", natJson p.fineEvaluationTarget),
    ("outputCandidateLimit", natJson p.outputCandidateLimit),
    ("equivalenceTolerance", .num p.equivalenceTolerance),
    ("strongAlternativeTolerance", .num p.strongAlternativeTolerance),
    ("maximumCandidateCount", natJson p.maximumCandidateCount),
    ("maximumFineEvaluationCount", natJson p.maximumFineEvaluationCount),
    ("maximumEstimatedWorkingBytes", natJson p.maximumEstimatedWorkingBytes),
    ("maximumCoarseOperationCount", natJson p.maximumCoarseOperationCount)]

def CandidateEvaluation.toJson (c : CandidateEvaluation) : Json := .obj
  [("hotelId", .str c.hotelId), ("eligible", .bool c.eligible),
    ("coarseScoreLowerBound", .num? c.coarseScoreLowerBound),
    ("coarseScoreUpperBound", .num? c.coarseScoreUpperBound),
    ("fullDecisionScore", .num? c.fullDecisionScore),
    ("evidenceCoverage", .num c.evidenceCoverage),
    ("protectedByPolicy", .bool c.protectedByPolicy),
    ("retainedForFineEvaluation", .bool c.retainedForFineEvaluation),
    ("disposition", .str c.disposition.text), ("reasonCodes", .texts c.reasonCodes)]

def SearchWideScope.toJson (s : SearchWideScope) : Json := .obj
  [("sourceSetCompleteness", .str s.sourceSetCompleteness.text),
    ("sourceReportedHotelCount", .num? s.sourceReportedHotelCount),
    ("analyzedHotelCount", natJson s.analyzedHotelCount),
    ("coverageRatioOfReportedSet", .num? s.coverageRatioOfReportedSet),
    ("claimScope", .str s.claimScope.text), ("marketCoverageClaimAllowed", .bool false),
    ("scopeLabel", .str "analyzed-set-not-market"), ("reasonCodes", .texts s.reasonCodes)]

def SearchWideContext.toJson (c : SearchWideContext) : Json := .obj
  [("analyzedHotelCount", natJson c.analyzedHotelCount),
    ("eligibleHotelCount", natJson c.eligibleHotelCount),
    ("fullScoreHotelCount", natJson c.fullScoreHotelCount),
    ("highEvidenceHotelCount", natJson c.highEvidenceHotelCount),
    ("eligibleRatio", .num? c.eligibleRatio), ("relativeScarcity", .str c.relativeScarcity.text),
    ("scarcityBasis", .str "current-analyzed-set-only"),
    ("commercialUrgencyClaimAllowed", .bool false), ("reasonCodes", .texts c.reasonCodes)]

def EquivalenceAudit.toJson (a : EquivalenceAudit) : Json := .obj
  [("status", .str a.status.text), ("tolerance", .num a.tolerance),
    ("strongAlternativeTolerance", .num a.strongAlternativeTolerance),
    ("fullTopHotelIds", .texts a.fullTopHotelIds),
    ("coarseToFineTopHotelIds", .texts a.coarseToFineTopHotelIds),
    ("exactTopSetMatch", .bool a.exactTopSetMatch),
    ("maximumTopScoreLoss", .num? a.maximumTopScoreLoss),
    ("strongAlternativeHotelIds", .texts a.strongAlternativeHotelIds),
    ("lostStrongAlternativeHotelIds", .texts a.lostStrongAlternativeHotelIds),
    ("boundViolationHotelIds", .texts a.boundViolationHotelIds),
    ("decisionTieClassification", .str a.decisionTieClassification.text),
    ("outputLimitExpandedForDecisionTie", .bool a.outputLimitExpandedForDecisionTie),
    ("reasonCodes", .texts a.reasonCodes)]

def WorkBudget.toJson (w : WorkBudget) : Json := .obj
  [("coarseOperationCount", .num w.coarseOperationCount),
    ("fineEvaluationCount", natJson w.fineEvaluationCount),
    ("estimatedWorkingBytes", natJson w.estimatedWorkingBytes),
    ("candidateCountWithinBudget", .bool w.candidateCountWithinBudget),
    ("coarseOperationsWithinBudget", .bool w.coarseOperationsWithinBudget),
    ("fineEvaluationsWithinBudget", .bool w.fineEvaluationsWithinBudget),
    ("estimatedMemoryWithinBudget", .bool w.estimatedMemoryWithinBudget),
    ("withinBudget", .bool w.withinBudget), ("reasonCodes", .texts w.reasonCodes)]

def CoverageCore.fields (c : CoverageCore) : List (String × Json) :=
  [("phase", .str "v3-08"), ("rankingApplication", .str "shadow-only"),
    ("runtimeApplication", .str "shadow-plan-only"), ("publicPresentation", .str "disabled"),
    ("status", .str c.status.text), ("policy", c.policy.toJson),
    ("candidates", .arr (c.candidates.map (·.toJson))),
    ("retainedHotelIds", .texts c.retainedHotelIds), ("prunedHotelIds", .texts c.prunedHotelIds),
    ("safeCutoffLowerBound", .num? c.safeCutoffLowerBound), ("scope", c.scope.toJson),
    ("searchWideContext", c.searchWideContext.toJson), ("equivalence", c.equivalence.toJson),
    ("workBudget", c.workBudget.toJson), ("reasonCodes", .texts c.reasonCodes)]

/-- The evaluation id and the fingerprint of the evaluation. -/
def sealCoverage (rt : Runtime) (core : CoverageCore) : Coverage :=
  let evaluationId :=
    createStableHash rt (.obj core.fields) "stayopti-v3-search-wide-scale-evaluation"
  { core with
    evaluationId
    fingerprint := createStableHash rt (.obj (("evaluationId", .str evaluationId) :: core.fields))
      "stayopti-v3-search-wide-scale-coverage" }

/-- The candidates with trimmed ids, sorted by these. -/
def orderCandidates (rt : Runtime) (candidates : List CandidateInput) : List CandidateInput :=
  sortBy (fun first second => rt.localeCompare first.hotelId second.hotelId)
    (candidates.map fun c => { c with hotelId := JsText.trim c.hotelId })

def coverageCore (rt : Runtime) (log2 : ℚ → ℚ) (candidates : List CandidateInput)
    (policy : ScalePolicy) (scope : SearchWideScope) : CoverageCore :=
  let safeCutoffLowerBound := resolveSafeCutoff candidates policy
  let candidateEvaluations := candidates.map (evaluateCandidate safeCutoffLowerBound)
  let retainedHotelIds := sortTexts
    ((candidateEvaluations.filter (·.retainedForFineEvaluation)).map (·.hotelId))
  let searchWideContext :=
    createSearchWideContext (candidateEvaluations.map (·.toCandidateInput))
  let equivalence := createEquivalenceAudit rt candidateEvaluations policy
  let workBudget :=
    createWorkBudget log2 candidateEvaluations.length retainedHotelIds.length policy
  { status :=
      if equivalence.status = .unavailable then .unavailable
      else if equivalence.status = .equivalent && workBudget.withinBudget then .pass
      else .blocked
    policy
    candidates := candidateEvaluations
    retainedHotelIds
    prunedHotelIds := sortTexts
      ((candidateEvaluations.filter (!·.retainedForFineEvaluation)).map (·.hotelId))
    safeCutoffLowerBound
    scope
    searchWideContext
    equivalence
    workBudget
    reasonCodes := uniqueSorted (["scale:shadow-only", "scale:coarse-to-fine-planned",
      "scale:safe-pruning-audited"] ++ scope.reasonCodes ++ searchWideContext.reasonCodes ++
      equivalence.reasonCodes ++ workBudget.reasonCodes) }

def evaluateSearchWideScaleCoverage (rt : Runtime) (log2 : ℚ → ℚ) (input : ScaleInput) :
    Except String Coverage := do
  let policy ← resolveOptions input.options
  if ¬ (input.candidates.map fun c => JsText.trim c.hotelId).Nodup then
    throw "V3-08 scale candidates require unique hotel IDs."
  input.candidates.forM validateCandidateInput
  let scope ← resolveScope input.candidates.length input.sourceSetCompleteness
    input.sourceReportedHotelCount
  return sealCoverage rt
    (coverageCore rt log2 (orderCandidates rt input.candidates) policy scope)

end SmartStay.Scale
