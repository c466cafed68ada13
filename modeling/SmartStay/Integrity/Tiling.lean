import SmartStay.Integrity.Solutions
import SmartStay.Lib.Intervals

/-!
# Feasible solutions

What `validateStaySolutionV3` of `engine-v3/contract/staySolutionV3.ts` says of a solution that calls
itself feasible. Its total cost is compared with the costs of the segments only if it is known, and
nothing asks for it to be known.

1. `nightsOf`, `segments_tile`: the segments follow each other from the check-in to the check-out.
2. `ExactTiling`, `feasible_exact_iff`.
3. `feasible_without_total`: a feasible solution without a total cost.
-/

namespace SmartStay.Integrity

open Contract Intervals

/-! ## 1. Nights -/

/-- The day of the check-in and the day of the check-out. -/
def nightsOf (segment : SolutionSegment) : Option (ℤ × ℤ) :=
  match segment.checkIn.bind parseIsoDate, segment.checkOut.bind parseIsoDate with
  | some start, some finish => some (start, finish)
  | _, _ => none

theorem solutionDate_eq_some {date : Option String} {day : ℤ} :
    solutionDate date = some (some day) ↔ date.bind parseIsoDate = some day := by
  cases date <;> simp [solutionDate]

theorem solutionDate_eq_none {date : Option String} : solutionDate date = some none ↔ date = none := by
  cases date <;> simp [solutionDate]

/-- A valid range of a segment with both dates. -/
theorem validRange_known {checkIn checkOut : Option String} {test : ℤ → ℤ → Bool}
    (h : validRange checkIn checkOut test = true) (hin : checkIn ≠ none) :
    ∃ start finish, checkIn.bind parseIsoDate = some start ∧
      checkOut.bind parseIsoDate = some finish ∧ test start finish = true := by
  unfold validRange at h
  split at h
  next start finish hstart hfinish =>
    exact ⟨start, finish, solutionDate_eq_some.mp hstart, solutionDate_eq_some.mp hfinish, h⟩
  next hstart _ => exact absurd (solutionDate_eq_none.mp hstart) hin
  next => exact nomatch h

theorem nightsOf_eq_some {segment : SolutionSegment} {start finish : ℤ} :
    nightsOf segment = some (start, finish) ↔ segment.checkIn.bind parseIsoDate = some start ∧
      segment.checkOut.bind parseIsoDate = some finish := by
  unfold nightsOf
  cases segment.checkIn.bind parseIsoDate <;> cases segment.checkOut.bind parseIsoDate <;> simp

/-- What the checks of a segment and of the feasibility say of its nights. -/
theorem nightsOf_feasible {segment : SolutionSegment} {index : ℕ}
    (hvalid : validSegment index segment = true) (hfeasible : segmentFeasible segment = true) :
    ∃ start finish, nightsOf segment = some (start, finish) ∧ start < finish ∧
      finish - start = segment.nights := by
  simp only [validSegment, Bool.and_eq_true] at hvalid
  simp only [segmentFeasible, Bool.and_eq_true, decide_eq_true_eq] at hfeasible
  have hin : segment.checkIn ≠ none := fun h => hfeasible.1.1.1.1.1 (solutionDate_eq_none.mpr h)
  obtain ⟨start, finish, hstart, hfinish, htest⟩ := validRange_known hvalid.1.2 hin
  rw [Bool.and_eq_true, decide_eq_true_eq, decide_eq_true_eq] at htest
  exact ⟨start, finish, nightsOf_eq_some.mpr ⟨hstart, hfinish⟩, htest.1, htest.2⟩

theorem contiguous_nights {first second : SolutionSegment} {a b c d : ℤ}
    (h : contiguous first second = true) (hfirst : nightsOf first = some (a, b))
    (hsecond : nightsOf second = some (c, d)) : b = c := by
  have hfinish := solutionDate_eq_some.mpr (nightsOf_eq_some.mp hfirst).2
  have hstart := solutionDate_eq_some.mpr (nightsOf_eq_some.mp hsecond).1
  simpa [contiguous, hfinish, hstart] using h

/-- Segments with known nights follow each other. -/
theorem segments_tile {first : SolutionSegment} {rest : List SolutionSegment}
    (hnights : ∀ segment ∈ first :: rest, ∃ start finish,
      nightsOf segment = some (start, finish) ∧ start < finish ∧ finish - start = segment.nights)
    (hcontiguous : (((first :: rest).zip rest).all fun pair => contiguous pair.1 pair.2) = true) :
    ∃ start finish, first.checkIn.bind parseIsoDate = some start ∧
      ((first :: rest).getLast (List.cons_ne_nil _ _)).checkOut.bind parseIsoDate = some finish ∧
      Tiles start ((first :: rest).filterMap nightsOf) finish ∧
      ((first :: rest).map (·.nights)).sum = finish - start := by
  induction rest generalizing first with
  | nil =>
    obtain ⟨start, finish, hfirst, hlt, hlength⟩ := hnights first List.mem_cons_self
    obtain ⟨hin, hout⟩ := nightsOf_eq_some.mp hfirst
    refine ⟨start, finish, hin, hout, ?_, by simp [hlength]⟩
    rw [List.filterMap_cons_some hfirst, List.filterMap_nil]
    exact ⟨rfl, hlt, rfl⟩
  | cons second rest ih =>
    obtain ⟨start, middle, hfirst, hlt, hlength⟩ := hnights first List.mem_cons_self
    rw [List.zip_cons_cons, List.all_cons, Bool.and_eq_true] at hcontiguous
    obtain ⟨start', finish, hin, hout, htiles, hsum⟩ :=
      ih (fun segment hmem => hnights segment (List.mem_cons_of_mem _ hmem)) hcontiguous.2
    obtain ⟨a, b, hsecond, -⟩ := hnights second (by simp)
    have hmiddle : middle = a := contiguous_nights hcontiguous.1 hfirst hsecond
    obtain rfl : a = start' := Option.some.inj ((nightsOf_eq_some.mp hsecond).1.symm.trans hin)
    refine ⟨start, finish, (nightsOf_eq_some.mp hfirst).1, hout, ?_, ?_⟩
    · rw [List.filterMap_cons_some hfirst]
      exact ⟨rfl, hlt, hmiddle ▸ htiles⟩
    · rw [List.map_cons, List.sum_cons, hsum, ← hlength, hmiddle]
      ring

/-! ## 2. Exact solutions -/

def coversNight (night : ℤ) (segment : SolutionSegment) : Bool :=
  (nightsOf segment).any (covers night)

/-- The segments cover each night of the stay once, in one currency, and their costs and taxes add up
to those of the solution. -/
structure ExactTiling (solution : StaySolution) : Prop where
  tiles : ∃ start finish, solution.checkIn.bind parseIsoDate = some start ∧
    solution.checkOut.bind parseIsoDate = some finish ∧ solution.totalNights = finish - start ∧
    ∀ night, solution.segments.countP (coversNight night) =
      if start ≤ night ∧ night < finish then 1 else 0
  nights : solution.totalNights = (solution.segments.map (·.nights)).sum
  currency : ∃ currency, solution.totalCost.currency = some currency ∧
    ∀ segment ∈ solution.segments, segment.cost.currency = some currency
  total : ∃ total, solution.totalCost.amount = some total ∧
    (∀ segment ∈ solution.segments, segment.cost.amount.isSome = true) ∧
    |sumOf solution.segments (fun segment => segment.cost.amount.getD 0) - total| ≤ 1 / 100
  taxes : |sumOf solution.segments (·.cost.includedTaxes) - solution.totalCost.includedTaxes| ≤
      1 / 100 ∧
    |sumOf solution.segments (·.cost.excludedTaxes) - solution.totalCost.excludedTaxes| ≤ 1 / 100 ∧
    |sumOf solution.segments (·.cost.unknownTaxes) - solution.totalCost.unknownTaxes| ≤ 1 / 100

/-- What the validator checks of a solution that calls itself feasible. -/
structure FeasibleChecks (solution : StaySolution) : Prop where
  nonempty : solution.segments ≠ []
  segments : ∀ segment ∈ solution.segments, (∃ index, validSegment index segment = true) ∧
    segmentFeasible segment = true
  contiguous : ((solution.segments.zip solution.segments.tail).all fun pair =>
    contiguous pair.1 pair.2) = true
  currencies : ∀ currency ∈ segmentCurrencies solution.segments,
    some currency = (segmentCurrencies solution.segments).head?
  checkIn : ∀ segment, solution.segments.head? = some segment → segment.checkIn = solution.checkIn
  checkOut : ∀ segment, solution.segments.getLast? = some segment →
    segment.checkOut = solution.checkOut
  nights : (solution.segments.map (·.nights)).sum = solution.totalNights
  currency : ∀ currency, (segmentCurrencies solution.segments).head? = some currency →
    capitalCurrency solution.totalCost.currency = some currency
  total : ∀ total, solution.totalCost.amount = some total →
    |sumOf solution.segments (fun segment => segment.cost.amount.getD 0) - total| ≤ 1 / 100
  taxes : |sumOf solution.segments (·.cost.includedTaxes) - solution.totalCost.includedTaxes| ≤
      1 / 100 ∧
    |sumOf solution.segments (·.cost.excludedTaxes) - solution.totalCost.excludedTaxes| ≤ 1 / 100 ∧
    |sumOf solution.segments (·.cost.unknownTaxes) - solution.totalCost.unknownTaxes| ≤ 1 / 100

theorem feasibleChecks {solution : StaySolution} (hvalid : validateStaySolution solution = true)
    (hfeasible : solution.feasibility = .feasible) : FeasibleChecks solution := by
  simp only [validateStaySolution, Bool.and_eq_true, hfeasible] at hvalid
  obtain ⟨⟨⟨⟨⟨⟨⟨⟨⟨⟨⟨⟨⟨⟨⟨⟨⟨-, -⟩, -⟩, -⟩, hsegments⟩, hcontiguous⟩, hcurrencies⟩, hin⟩, hout⟩,
    hstatus⟩, -⟩, hnights⟩, -⟩, hcurrency⟩, htotal⟩, hincluded⟩, hexcluded⟩, hunknown⟩ := hvalid
  simp only [ne_eq, not_true_eq_false, decide_false, Bool.false_or, Bool.and_eq_true,
    decide_eq_true_eq, List.all_eq_true] at hstatus
  simp only [List.all_eq_true, decide_eq_true_eq] at hsegments hcurrencies
  simp only [Option.all_eq_true, decide_eq_true_eq] at hin hout hcurrency
  simp only [within, decide_eq_true_eq] at hincluded hexcluded hunknown hnights
  refine ⟨hstatus.1, fun segment hmem => ⟨?_, hstatus.2 segment hmem⟩, hcontiguous, hcurrencies, hin,
    hout, hnights, hcurrency, fun total hamount => ?_, hincluded, hexcluded, hunknown⟩
  · obtain ⟨index, hindex, hget⟩ := List.getElem_of_mem hmem
    exact ⟨index, hsegments (segment, index) (by
      rw [List.mem_zipIdx_iff_getElem?]
      simp [hget, hindex])⟩
  · have hknown : (solution.segments.all fun segment => segment.cost.amount.isSome) = true := by
      refine List.all_eq_true.mpr fun segment hmem => ?_
      have hsegment := hstatus.2 segment hmem
      simp only [segmentFeasible, Bool.and_eq_true] at hsegment
      exact hsegment.1.1.2
    simpa [hknown, hstatus.1, hamount, within] using htotal

/-- The currency of a segment with a known cost is one of three capital letters. -/
theorem currency_of_segment {segment : SolutionSegment} {index : ℕ}
    (hvalid : validSegment index segment = true) (hfeasible : segmentFeasible segment = true) :
    ∃ currency, capitalCurrency segment.cost.currency = some currency := by
  simp only [validSegment, Bool.and_eq_true, validCost] at hvalid
  simp only [segmentFeasible, Bool.and_eq_true] at hfeasible
  have hamount : segment.cost.amount.isNone = false := by
    rw [Option.isNone_eq_false_iff]
    exact hfeasible.1.1.2
  have hcurrency := hvalid.2.1.1.1.2
  rw [hamount, Bool.false_or] at hcurrency
  exact Option.isSome_iff_exists.mp hcurrency

/-- The validator asks for all of it, except that the total cost is known. -/
theorem feasible_exact_iff {solution : StaySolution} (hvalid : validateStaySolution solution = true)
    (hfeasible : solution.feasibility = .feasible) :
    ExactTiling solution ↔ solution.totalCost.amount.isSome = true := by
  refine ⟨fun h => ?_, fun htotal => ?_⟩
  · obtain ⟨total, htotal, -⟩ := h.total
    rw [htotal]
    rfl
  have hchecks := feasibleChecks hvalid hfeasible
  obtain ⟨total, htotal⟩ := Option.isSome_iff_exists.mp htotal
  obtain ⟨first, rest, hsegments⟩ := List.exists_cons_of_ne_nil hchecks.nonempty
  have hnights : ∀ segment ∈ first :: rest, ∃ start finish,
      nightsOf segment = some (start, finish) ∧ start < finish ∧ finish - start = segment.nights := by
    intro segment hmem
    obtain ⟨⟨index, hsegment⟩, hpossible⟩ := hchecks.segments segment (hsegments ▸ hmem)
    exact nightsOf_feasible hsegment hpossible
  have hcontiguous := hchecks.contiguous
  rw [hsegments, List.tail_cons] at hcontiguous
  obtain ⟨start, finish, hin, hout, htiles, hsum⟩ := segments_tile hnights hcontiguous
  refine ⟨⟨start, finish, ?_, ?_, ?_, fun night => ?_⟩, hchecks.nights.symm, ?_, ?_, hchecks.taxes⟩
  · rw [← hchecks.checkIn first (by rw [hsegments]; rfl)]
    exact hin
  · have hlast : solution.segments.getLast? =
        some ((first :: rest).getLast (List.cons_ne_nil _ _)) := by
      rw [hsegments]
      exact List.getLast?_eq_some_getLast _
    rw [← hchecks.checkOut _ hlast]
    exact hout
  · rw [← hchecks.nights, hsegments, hsum]
  · rw [← htiles.countP_covers night, hsegments, List.countP_filterMap]
    refine List.countP_congr fun segment _ => ?_
    rw [coversNight]
    cases nightsOf segment <;> simp
  · obtain ⟨⟨index, hfirst⟩, hpossible⟩ := hchecks.segments first (hsegments ▸ List.mem_cons_self)
    obtain ⟨currency, hcurrency⟩ := currency_of_segment hfirst hpossible
    have hhead : (segmentCurrencies solution.segments).head? = some currency := by
      rw [hsegments, segmentCurrencies]
      simp [hcurrency]
    refine ⟨currency, capitalCurrency_some (hchecks.currency currency hhead), fun segment hmem => ?_⟩
    obtain ⟨⟨index', hsegment⟩, hpossible'⟩ := hchecks.segments segment hmem
    obtain ⟨currency', hcurrency'⟩ := currency_of_segment hsegment hpossible'
    have hsame := hchecks.currencies currency' (List.mem_filterMap.mpr ⟨segment, hmem, hcurrency'⟩)
    rw [hhead, Option.some.injEq] at hsame
    rw [capitalCurrency_some hcurrency', hsame]
  · refine ⟨total, htotal, fun segment hmem => ?_, hchecks.total total htotal⟩
    have hsegment := (hchecks.segments segment hmem).2
    simp only [segmentFeasible, Bool.and_eq_true] at hsegment
    exact hsegment.1.1.2

/-! ## 3. A solution without a total -/

/-- A stay of three nights in one hotel. -/
def sampleSolution (total : Option ℚ) : StaySolution where
  solutionId := "solution"
  kind := .single
  feasibility := .feasible
  segments := [
    { segmentId := "segment"
      ordinal := 0
      checkIn := some "2026-10-10"
      checkOut := some "2026-10-13"
      nights := 3
      hotelId := "hotel"
      offerId := none
      bookable := true
      cost := ⟨some 300, some "EUR", .reportedComplete, 0, 0, 0⟩ }]
  transitionCount := 0
  checkIn := some "2026-10-10"
  checkOut := some "2026-10-13"
  totalNights := 3
  totalCost := ⟨total, some "EUR", .reportedComplete, 0, 0, 0⟩

theorem feasible_exact_iff_sample : ExactTiling (sampleSolution (some 300)) :=
  (feasible_exact_iff (by decide +kernel) rfl).mpr rfl

/-- The validator accepts it as feasible, but its cost is not known. -/
theorem feasible_without_total :
    validateStaySolution (sampleSolution none) = true ∧
      (sampleSolution none).feasibility = .feasible ∧ ¬ ExactTiling (sampleSolution none) := by
  refine ⟨by decide +kernel, rfl, fun h => ?_⟩
  obtain ⟨total, htotal, -⟩ := h.total
  exact nomatch htotal

end SmartStay.Integrity
