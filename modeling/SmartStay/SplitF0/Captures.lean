import SmartStay.SplitF0.Evaluation

/-!
# Two captures of the same comparisons

`analyzeSplitF0CrossCaptureStabilityV1` compares two lists of results, and summarizes each without
the scenarios that it puts into quarantine.

1. `summarizeSplitF0PrimarySavings`.
2. `materiallyUnstableMinorUnits`, `compareCaptures`.
3. `analyzeSplitF0CrossCaptureStability`.
-/

namespace SmartStay.SplitF0

open Contract

/-! ## 1. Summaries -/

/-- `SplitF0SavingsSummaryV1`. -/
structure SavingsSummary where
  positiveComparisonCount : Nat
  rawMaximumSaving : Option ℚ
  robustMaximumSaving : Option ℚ
  rawMedianSaving : Option ℚ
  robustMedianSaving : Option ℚ
  quarantinedComparisonCount : Nat

def positiveSavingMinorUnits (comparisons : List ComparisonResult) : List ℤ :=
  ((comparisons.filterMap (·.grossSavingMinorUnits)).filter (0 < ·)).insertionSort (· ≤ ·)

/-- The amount of the last value, if there is one. -/
def maximumSavingAmount (values : List ℤ) : Except String (Option ℚ) :=
  match values.getLast? with
  | none => .ok none
  | some value => (minorUnitsToNumber value).map some

def medianSavingAmount (values : List ℤ) : Except String (Option ℚ) :=
  if values = [] then .ok none
  else do return some (← minorUnitsToNumber (← medianMinorUnits values))

/-- A comparison of the summary that is neither in quarantine nor an outlier. -/
def isRobust (quarantinedScenarioIds : List String) (comparison : ComparisonResult) : Bool :=
  comparison.scenarioId ∉ quarantinedScenarioIds &&
    comparison.outlierAssessment.classification = .none

def summarizeSplitF0PrimarySavings (comparisons : List ComparisonResult)
    (quarantinedScenarioIds : List String) : Except String SavingsSummary := do
  let rawValues := positiveSavingMinorUnits comparisons
  let robustValues :=
    positiveSavingMinorUnits (comparisons.filter (isRobust quarantinedScenarioIds))
  return {
    positiveComparisonCount := rawValues.length
    rawMaximumSaving := ← maximumSavingAmount rawValues
    robustMaximumSaving := ← maximumSavingAmount robustValues
    rawMedianSaving := ← medianSavingAmount rawValues
    robustMedianSaving := ← medianSavingAmount robustValues
    quarantinedComparisonCount :=
      (comparisons.filter (!isRobust quarantinedScenarioIds ·)).length }

/-! ## 2. Comparisons -/

def materiallyUnstableMinorUnits : Option ℤ → Option ℤ → Bool
  | some left, some right =>
    let difference := |left - right|
    let denominator := max 1 (min |left| |right|)
    10000 ≤ difference && (1 : ℚ) / 2 ≤ difference / denominator
  | none, none => false
  | _, _ => true

def optionalMoneyMinorUnits : Option ℚ → Except String (Option ℤ)
  | none => .ok none
  | some value => do
    let sign : ℤ := if 0 < value then 1 else if value < 0 then -1 else 0
    return some ((← splitF0MoneyToMinorUnits |value|) * sign)

/-- `SplitF0CrossCaptureComparisonV1`. -/
structure CrossCaptureComparison where
  scenarioId : String
  splitPointId : String
  baselineStable : Bool
  splitStable : Bool
  savingStable : Bool
  matchedBucketBaselineStable : Bool
  matchedBucketSplitStable : Bool
  matchedBucketSavingStable : Bool
  flags : List OutlierFlag
  classification : OutlierClassification

/-- The comparison of a result that the other capture does not have. -/
def unmatched (left : ComparisonResult) : CrossCaptureComparison :=
  ⟨left.scenarioId, left.splitPointId, false, false, false, false, false, false,
    [.crossCaptureInstability], .flag .crossCaptureInstability⟩

/-- An amount of the diagnostic in minor units. -/
def matchedAmount (r : ComparisonResult) (amount : MatchedBucketDiagnostic → ℚ) :
    Except String (Option ℤ) :=
  optionalMoneyMinorUnits (r.matchedBucketDiagnostic.map amount)

def compareCaptures (left right : ComparisonResult) : Except String CrossCaptureComparison := do
  let baselineStable :=
    !materiallyUnstableMinorUnits left.singleTotalMinorUnits right.singleTotalMinorUnits
  let splitStable :=
    !materiallyUnstableMinorUnits left.splitTotalMinorUnits right.splitTotalMinorUnits
  let savingStable :=
    !materiallyUnstableMinorUnits left.grossSavingMinorUnits right.grossSavingMinorUnits
  let matchedBucketBaselineStable := !materiallyUnstableMinorUnits
    (← matchedAmount left (·.singleTotal)) (← matchedAmount right (·.singleTotal))
  let matchedBucketSplitStable := !materiallyUnstableMinorUnits
    (← matchedAmount left (·.splitTotal)) (← matchedAmount right (·.splitTotal))
  let matchedBucketSavingStable := !materiallyUnstableMinorUnits
    (← matchedAmount left (·.grossSavingAmount)) (← matchedAmount right (·.grossSavingAmount))
  let stable := baselineStable && splitStable && savingStable && matchedBucketBaselineStable &&
    matchedBucketSplitStable && matchedBucketSavingStable
  let flags := uniqueSortedBy (·.text)
    (left.outlierAssessment.flags ++ right.outlierAssessment.flags ++
      (left.matchedBucketDiagnostic.map (·.outlierAssessment.flags)).getD [] ++
      (right.matchedBucketDiagnostic.map (·.outlierAssessment.flags)).getD [] ++
      if stable then [] else [.crossCaptureInstability])
  return ⟨left.scenarioId, left.splitPointId, baselineStable, splitStable, savingStable,
    matchedBucketBaselineStable, matchedBucketSplitStable, matchedBucketSavingStable, flags,
    outlierClassification flags⟩

/-! ## 3. The analysis -/

def comparisonKey (r : ComparisonResult) : String := r.scenarioId ++ "|" ++ r.splitPointId

/-- `capture2ByKey.get(key)`: a later result replaces an earlier one with its key. -/
def getByKey (capture : List ComparisonResult) (key : String) : Option ComparisonResult :=
  capture.reverse.find? (comparisonKey · = key)

def compareWith (capture2 : List ComparisonResult) (left : ComparisonResult) :
    Except String CrossCaptureComparison :=
  match getByKey capture2 (comparisonKey left) with
  | none => .ok (unmatched left)
  | some right => compareCaptures left right

/-- `SplitF0CrossCaptureAnalysisV1`. -/
structure CrossCaptureAnalysis where
  comparisons : List CrossCaptureComparison
  unstableScenarioIds : List String
  quarantinedScenarioIds : List String
  capture1Summary : SavingsSummary
  capture2Summary : SavingsSummary

def unstableScenarioIds (comparisons : List CrossCaptureComparison) : List String :=
  uniqueSorted ((comparisons.filter fun c => c.flags.contains .crossCaptureInstability).map
    (·.scenarioId))

def quarantinedScenarioIds (comparisons : List CrossCaptureComparison) : List String :=
  uniqueSorted ((comparisons.filter fun c => 0 < c.flags.length).map (·.scenarioId))

def analyzeSplitF0CrossCaptureStability (capture1 capture2 : List ComparisonResult) :
    Except String CrossCaptureAnalysis := do
  let comparisons ← capture1.mapM (compareWith capture2)
  let quarantined := quarantinedScenarioIds comparisons
  return {
    comparisons
    unstableScenarioIds := unstableScenarioIds comparisons
    quarantinedScenarioIds := quarantined
    capture1Summary := ← summarizeSplitF0PrimarySavings capture1 quarantined
    capture2Summary := ← summarizeSplitF0PrimarySavings capture2 quarantined }

end SmartStay.SplitF0
