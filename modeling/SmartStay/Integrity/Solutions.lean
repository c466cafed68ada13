import SmartStay.Integrity.Snapshots

/-!
# Stay solutions

`engine-v3/contract/staySolutionV3.ts`: one stay, or two with a transition between them, and
what they cost.

1. `StaySolution`.
2. `validateStaySolution`.
3. `validateStaySolution_single`: a stay of one segment costs what its segment costs.
-/

namespace SmartStay.Integrity

open Contract

/-! ## 1. Solutions -/

inductive SolutionKind
  | single | split
deriving DecidableEq, Repr

inductive Feasibility
  | feasible | incomplete | invalid
deriving DecidableEq, Repr

/-- `StaySolutionCostV3`. -/
structure SolutionCost where
  amount : Option ℚ
  currency : Option String
  completeness : CostCompleteness
  includedTaxes : ℚ
  excludedTaxes : ℚ
  unknownTaxes : ℚ

/-- `StaySolutionSegmentV3`. -/
structure SolutionSegment where
  segmentId : String
  ordinal : Nat
  checkIn : Option String
  checkOut : Option String
  nights : ℤ
  hotelId : String
  offerId : Option String
  bookable : Bool
  cost : SolutionCost

/-- `StaySolutionV3`. -/
structure StaySolution where
  solutionId : String
  kind : SolutionKind
  feasibility : Feasibility
  segments : List SolutionSegment
  transitionCount : ℤ
  checkIn : Option String
  checkOut : Option String
  totalNights : ℤ
  totalCost : SolutionCost

/-! ## 2. Validation -/

/-- `parseIsoDate` of a date or `null`; an invalid date has no value here. -/
def solutionDate : Option String → Option (Option ℤ)
  | none => some none
  | some value => (parseIsoDate value).map some

/-- Both dates are valid and pass the test, or both are `null`. -/
def validRange (checkIn checkOut : Option String) (test : ℤ → ℤ → Bool) : Bool :=
  match solutionDate checkIn, solutionDate checkOut with
  | some (some start), some (some finish) => test start finish
  | some none, some none => true
  | _, _ => false

/-- `normalizeCurrency` of this file: no letters are changed. -/
def capitalCurrency (value : Option String) : Option String :=
  value.filter fun text => text.toList.length = 3 && text.toList.all Char.isUpper

/-- `validateCost` pushes no issue. -/
def validCost (cost : SolutionCost) : Bool :=
  cost.amount.all (0 < ·) && (cost.amount.isNone || (capitalCurrency cost.currency).isSome) &&
    0 ≤ cost.includedTaxes && 0 ≤ cost.excludedTaxes && 0 ≤ cost.unknownTaxes

/-- The loop leaves `allSegmentsFeasible` as it is. -/
def segmentFeasible (segment : SolutionSegment) : Bool :=
  (solutionDate segment.checkIn ≠ some none) && (solutionDate segment.checkOut ≠ some none) &&
    segment.bookable && segment.cost.amount.isSome && segment.cost.currency.isSome &&
    segment.cost.completeness = .reportedComplete

/-- The checks of one segment. -/
def validSegment (index : Nat) (segment : SolutionSegment) : Bool :=
  JsText.trim segment.segmentId ≠ "" && segment.ordinal = index &&
    JsText.trim segment.hotelId ≠ "" && 0 < segment.nights &&
    validRange segment.checkIn segment.checkOut (fun start finish =>
      start < finish && finish - start = segment.nights) &&
    validCost segment.cost

/-- A segment starts where the one before it ends, if both dates are known. -/
def contiguous (first second : SolutionSegment) : Bool :=
  match solutionDate first.checkOut, solutionDate second.checkIn with
  | some (some finish), some (some start) => finish = start
  | _, _ => true

def segmentCurrencies (segments : List SolutionSegment) : List String :=
  segments.filterMap fun segment => capitalCurrency segment.cost.currency

/-- `Math.abs(first - second) <= 0.01`. -/
def within (first second : ℚ) : Bool := |first - second| ≤ 1 / 100

def sumOf (segments : List SolutionSegment) (f : SolutionSegment → ℚ) : ℚ :=
  (segments.map f).sum

/-- `validateStaySolutionV3(solution).valid`. -/
def validateStaySolution (solution : StaySolution) : Bool :=
  let segments := solution.segments
  JsText.trim solution.solutionId ≠ "" &&
    segments.length = (if solution.kind = .single then 1 else 2) &&
    solution.transitionCount = (if solution.kind = .single then 0 else 1) &&
    validRange solution.checkIn solution.checkOut (fun start finish => start < finish) &&
    (segments.zipIdx.all fun s => validSegment s.2 s.1) &&
    ((segments.zip segments.tail).all fun pair => contiguous pair.1 pair.2) &&
    ((segmentCurrencies segments).all fun currency =>
      some currency = (segmentCurrencies segments).head?) &&
    (segments.head?.all fun segment => segment.checkIn = solution.checkIn) &&
    (segments.getLast?.all fun segment => segment.checkOut = solution.checkOut) &&
    (solution.feasibility ≠ .feasible || segments ≠ [] && segments.all segmentFeasible) &&
    0 < solution.totalNights && (segments.map (·.nights)).sum = solution.totalNights &&
    validCost solution.totalCost &&
    ((segmentCurrencies segments).head?.all fun currency =>
      capitalCurrency solution.totalCost.currency = some currency) &&
    (!(segments ≠ [] && segments.all fun segment => segment.cost.amount.isSome) ||
      solution.totalCost.amount.all fun amount =>
        within (sumOf segments fun segment => segment.cost.amount.getD 0) amount) &&
    within (sumOf segments (·.cost.includedTaxes)) solution.totalCost.includedTaxes &&
    within (sumOf segments (·.cost.excludedTaxes)) solution.totalCost.excludedTaxes &&
    within (sumOf segments (·.cost.unknownTaxes)) solution.totalCost.unknownTaxes

/-! ## 3. One segment -/

theorem capitalCurrency_some {value : Option String} {currency : String}
    (h : capitalCurrency value = some currency) : value = some currency :=
  (Option.filter_eq_some_iff.mp h).1

/-- What the cost checks say of a solution of one segment. -/
theorem validateStaySolution_cost {solution : StaySolution} {segment : SolutionSegment}
    (hvalid : validateStaySolution solution = true) (hsegment : solution.segments = [segment]) :
    validCost segment.cost = true ∧
      (solution.feasibility = .feasible → segment.cost.amount.isSome = true) ∧
      (∀ currency, capitalCurrency segment.cost.currency = some currency →
        capitalCurrency solution.totalCost.currency = some currency) ∧
      ∀ amount total, segment.cost.amount = some amount → solution.totalCost.amount = some total →
        |amount - total| ≤ 1 / 100 := by
  simp only [validateStaySolution, hsegment, Bool.and_eq_true] at hvalid
  have hseg := hvalid.1.1.1.1.1.1.1.1.1.1.1.1.1.2
  have hfeasible := hvalid.1.1.1.1.1.1.1.1.2
  have hcurrency := hvalid.1.1.1.1.2
  have hwithin := hvalid.1.1.1.2
  refine ⟨?_, ?_, ?_, ?_⟩
  · simp only [List.zipIdx_cons, List.zipIdx_nil, List.all_cons, List.all_nil, Bool.and_true,
      validSegment, Bool.and_eq_true] at hseg
    exact hseg.2
  · intro hstatus
    have hall : segmentFeasible segment = true := by simpa [hstatus] using hfeasible
    simp only [segmentFeasible, Bool.and_eq_true] at hall
    exact hall.1.1.2
  · intro currency hcapital
    simp only [segmentCurrencies, List.filterMap_cons, hcapital] at hcurrency
    simpa using hcurrency
  · intro amount total hamount htotal
    simp only [htotal, sumOf, within] at hwithin
    simpa [hamount] using hwithin

/-- A feasible stay of one segment costs what its segment costs. -/
theorem validateStaySolution_single {solution : StaySolution} {segment : SolutionSegment}
    {total : ℚ} (hvalid : validateStaySolution solution = true)
    (hsegment : solution.segments = [segment]) (hfeasible : solution.feasibility = .feasible)
    (htotal : solution.totalCost.amount = some total) :
    ∃ amount, segment.cost.amount = some amount ∧ |amount - total| ≤ 1 / 100 ∧
      segment.cost.currency = solution.totalCost.currency := by
  obtain ⟨hcost, hknown, hcurrency, hwithin⟩ := validateStaySolution_cost hvalid hsegment
  obtain ⟨amount, hamount⟩ := Option.isSome_iff_exists.mp (hknown hfeasible)
  have hcapital : (capitalCurrency segment.cost.currency).isSome = true := by
    simp only [validCost, Bool.and_eq_true, hamount, Option.isNone_some, Bool.false_or] at hcost
    exact hcost.1.1.1.2
  obtain ⟨currency, hcapital⟩ := Option.isSome_iff_exists.mp hcapital
  refine ⟨amount, hamount, hwithin amount total hamount htotal, ?_⟩
  rw [capitalCurrency_some hcapital, capitalCurrency_some (hcurrency currency hcapital)]

end SmartStay.Integrity
