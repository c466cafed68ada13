import SmartStay.Contract.StableHash
import SmartStay.Lib.JsFloat
import SmartStay.Lib.PiecewiseLinear
import SmartStay.Lib.WeightedMean
import Mathlib.Data.List.Chain
import Mathlib.Data.List.GetD

/-!
# Market statistics

`engine-v2/market-context/marketContextStatistics.ts`: the quantiles of a list of prices, the merge
of several distributions, and the place of a value in a distribution.

1. `createMarketDistributionV2`, `mergeMarketDistributionsV2`,
   `calculateBudgetPercentileFromDistributionV2`.
2. `Ordered`, `createMarketDistributionV2_ordered`: the quantiles of prices ascend.
3. `mergeMarketDistributionsV2_ordered`: a merge of ascending quantiles ascends.
4. `percentile_eq_climb`: the percentile is piecewise linear in the value.
-/

namespace SmartStay.Market

open Contract JsSort PiecewiseLinear WeightedMean

/-! ## 1. Distributions -/

/-- `SmartStayMarketContextSourceV2`. -/
inductive MarketContextSource
  | unavailable | currentSearch | localMemory | localSeed | hybrid
deriving DecidableEq, Repr

/-- `SmartStayMarketDistributionV2`. -/
structure MarketDistribution where
  sampleSize : ℚ
  minimum : Option ℚ
  firstQuartile : Option ℚ
  median : Option ℚ
  thirdQuartile : Option ℚ
  ninetiethPercentile : Option ℚ
  maximum : Option ℚ
deriving DecidableEq

/-- `EMPTY_MARKET_DISTRIBUTION_V2`. -/
def emptyMarketDistribution : MarketDistribution where
  sampleSize := 0
  minimum := none
  firstQuartile := none
  median := none
  thirdQuartile := none
  ninetiethPercentile := none
  maximum := none

/-- `SmartStayWeightedMarketDistributionV2`. -/
structure WeightedMarketDistribution where
  distribution : MarketDistribution
  confidence : ℚ
  source : MarketContextSource

def percentile (sortedValues : List ℚ) (ratio : ℚ) : Option ℚ :=
  if sortedValues.length = 0 then none
  else if sortedValues.length = 1 then sortedValues[0]?
  else do
    let position := (sortedValues.length - 1 : ℚ) * ratio
    let lowerIndex := ⌊position⌋₊
    let upperIndex := ⌈position⌉₊
    let lowerValue ← sortedValues[lowerIndex]?
    let upperValue ← sortedValues[upperIndex]?
    return if lowerIndex = upperIndex then lowerValue
      else lowerValue + (upperValue - lowerValue) * (position - lowerIndex)

/-- `Number.isFinite(value) && value > 0`. -/
def positivePrice : JsFloat → Option ℚ
  | .finite x => if 0 < x then some x else none
  | _ => none

def createMarketDistributionV2 (values : List JsFloat) : MarketDistribution :=
  let sortedValues := sortBy compare (values.filterMap positivePrice)
  if sortedValues.length = 0 then emptyMarketDistribution
  else
    { sampleSize := sortedValues.length
      minimum := sortedValues.head?.map (round · 2)
      firstQuartile := (percentile sortedValues (25 / 100)).map (round · 2)
      median := (percentile sortedValues (5 / 10)).map (round · 2)
      thirdQuartile := (percentile sortedValues (75 / 100)).map (round · 2)
      ninetiethPercentile := (percentile sortedValues (9 / 10)).map (round · 2)
      maximum := sortedValues.getLast?.map (round · 2) }

/-- The weight of a source in `weightedField`. -/
def fieldWeight (source : WeightedMarketDistribution) : ℚ :=
  max source.distribution.sampleSize 1 * JsNumber.clamp source.confidence (5 / 100) 1

def weightedField (sources : List WeightedMarketDistribution)
    (field : MarketDistribution → Option ℚ) : Option ℚ :=
  let values : List (ℚ × ℚ) := sources.filterMap fun source =>
    (field source.distribution).map fun value => (value, fieldWeight source)
  let totalWeight : ℚ := (values.map (·.2)).sum
  if totalWeight ≤ 0 then none else some (round (weightedMean values (·.1) (·.2)) 2)

structure MergedMarketDistribution where
  distribution : MarketDistribution
  confidence : ℚ
  source : MarketContextSource

def mergeMarketDistributionsV2 (sources : List WeightedMarketDistribution) :
    MergedMarketDistribution :=
  if sources.length = 0 then
    { distribution := emptyMarketDistribution, confidence := 0, source := .unavailable }
  else
    let sampleSize := (sources.map fun source => source.distribution.sampleSize).sum
    let confidenceWeight : ℚ := (sources.map fun source => max source.distribution.sampleSize 1).sum
    let confidence : ℚ := if confidenceWeight ≤ 0 then 0
      else weightedMean sources (fun source => JsNumber.clamp source.confidence 0 1)
        fun source => max source.distribution.sampleSize 1
    let sourceKinds := (sources.map (·.source)).eraseDups
    { distribution :=
        { sampleSize
          minimum := weightedField sources (·.minimum)
          firstQuartile := weightedField sources (·.firstQuartile)
          median := weightedField sources (·.median)
          thirdQuartile := weightedField sources (·.thirdQuartile)
          ninetiethPercentile := weightedField sources (·.ninetiethPercentile)
          maximum := weightedField sources (·.maximum) }
      confidence := round (JsNumber.clamp confidence 0 1) 4
      source := if sourceKinds.length > 1 then .hybrid else sourceKinds.head?.getD .unavailable }

/-- A quotient, unless the divisor is zero. -/
def divide? (x y : ℚ) : Option ℚ := if y = 0 then none else some (x / y)

/-- `none` where the quotient of the source is no number. -/
def interpolatePercentile (value lowerValue upperValue lowerPercentile upperPercentile : ℚ) :
    Option ℚ :=
  if upperValue ≤ lowerValue then some upperPercentile
  else (divide? (value - lowerValue) (upperValue - lowerValue)).map fun share =>
    lowerPercentile + share * (upperPercentile - lowerPercentile)

/-- `none` for `null`, and where a quotient of the source is no number. -/
def calculateBudgetPercentileFromDistributionV2 (value : ℚ) (distribution : MarketDistribution) :
    Option ℚ := do
  let minimum ← distribution.minimum
  let firstQuartile ← distribution.firstQuartile
  let median ← distribution.median
  let thirdQuartile ← distribution.thirdQuartile
  let ninetiethPercentile ← distribution.ninetiethPercentile
  let maximum ← distribution.maximum
  if value ≤ minimum then some 0
  else if value ≤ firstQuartile then interpolatePercentile value minimum firstQuartile 0 25
  else if value ≤ median then interpolatePercentile value firstQuartile median 25 50
  else if value ≤ thirdQuartile then interpolatePercentile value median thirdQuartile 50 75
  else if value ≤ ninetiethPercentile then
    interpolatePercentile value thirdQuartile ninetiethPercentile 75 90
  else if value ≤ maximum then interpolatePercentile value ninetiethPercentile maximum 90 100
  else some 100

/-! ## 2. The quantiles of prices -/

/-- The six quantiles, from the lowest. -/
def quantileFields : List (MarketDistribution → Option ℚ) :=
  [(·.minimum), (·.firstQuartile), (·.median), (·.thirdQuartile), (·.ninetiethPercentile),
    (·.maximum)]

/-- All six quantiles are known, and they ascend. -/
def Ordered (d : MarketDistribution) : Prop :=
  ∃ values : List ℚ, quantileFields.map (· d) = values.map some ∧ values.IsChain (· ≤ ·)

theorem ordered_of {d : MarketDistribution} (value : (MarketDistribution → Option ℚ) → ℚ)
    (hknown : ∀ field ∈ quantileFields, field d = some (value field))
    (hchain : quantileFields.IsChain fun lower upper => value lower ≤ value upper) : Ordered d := by
  refine ⟨quantileFields.map value, ?_, (List.isChain_map value).mpr hchain⟩
  rw [List.map_map]
  exact List.map_congr_left hknown

theorem Ordered.known {d : MarketDistribution} (h : Ordered d)
    (field : MarketDistribution → Option ℚ) (hfield : field ∈ quantileFields) :
    field d = some ((field d).getD 0) := by
  obtain ⟨values, hvalues, -⟩ := h
  have hmem : field d ∈ values.map some := hvalues ▸ List.mem_map_of_mem hfield
  obtain ⟨value, -, hvalue⟩ := List.mem_map.mp hmem
  rw [← hvalue, Option.getD_some]

theorem Ordered.chain {d : MarketDistribution} (h : Ordered d) :
    quantileFields.IsChain fun lower upper => (lower d).getD 0 ≤ (upper d).getD 0 := by
  obtain ⟨values, hvalues, hchain⟩ := h
  have heq : quantileFields.map (fun field => (field d).getD 0) = values := by
    calc quantileFields.map (fun field => (field d).getD 0)
        = (quantileFields.map (· d)).map (·.getD 0) := by rw [List.map_map]; rfl
      _ = values := by
        rw [hvalues, List.map_map]
        exact List.map_id _
  exact (List.isChain_map fun field : MarketDistribution → Option ℚ => (field d).getD 0).mp
    (heq ▸ hchain)

/-- The value at an index, and the last one from there on. -/
def valueAt (l : List ℚ) (i : ℕ) : ℚ := l.getD (min i (l.length - 1)) 0

section
variable {l : List ℚ}

theorem getElem?_eq_valueAt {i : ℕ} (hi : i < l.length) : l[i]? = some (valueAt l i) := by
  have hmin : min i (l.length - 1) = i := min_eq_left (by omega)
  rw [valueAt, hmin, List.getD_eq_getElem _ _ hi, List.getElem?_eq_getElem hi]

theorem valueAt_mono (hl : l.Pairwise (· ≤ ·)) : Monotone (valueAt l) := by
  intro i j hij
  by_cases hempty : l.length = 0
  · rw [List.length_eq_zero_iff.mp hempty]
    exact le_rfl
  · have hj : min j (l.length - 1) < l.length := by omega
    have hi : min i (l.length - 1) < l.length := by omega
    rw [valueAt, valueAt, List.getD_eq_getElem _ _ hi, List.getD_eq_getElem _ _ hj]
    exact hl.rel_get_of_le (a := ⟨_, hi⟩) (b := ⟨_, hj⟩) (min_le_min_right _ hij)

/-- A percentile lies on the line through the sorted values. -/
theorem percentile_eq {ratio : ℚ} (hl : 0 < l.length) (h0 : 0 ≤ ratio) (h1 : ratio ≤ 1) :
    percentile l ratio = some (interpolate (valueAt l) ((l.length - 1 : ℚ) * ratio)) := by
  have hlen : (1 : ℚ) ≤ l.length := by exact_mod_cast hl
  have hlast : ((l.length - 1 : ℕ) : ℚ) = l.length - 1 := by rw [Nat.cast_sub hl, Nat.cast_one]
  have hpos : 0 ≤ (l.length - 1 : ℚ) * ratio := mul_nonneg (sub_nonneg.mpr hlen) h0
  have hle : (l.length - 1 : ℚ) * ratio ≤ (l.length - 1 : ℕ) :=
    (mul_le_of_le_one_right (sub_nonneg.mpr hlen) h1).trans hlast.ge
  unfold percentile
  rw [if_neg hl.ne']
  split
  · next hone =>
    rw [getElem?_eq_valueAt hl, hone]
    simp [interpolate]
  · have hupper : ⌈(l.length - 1 : ℚ) * ratio⌉₊ < l.length :=
      (Nat.ceil_le.mpr hle).trans_lt (Nat.sub_lt hl Nat.one_pos)
    have hlower : ⌊(l.length - 1 : ℚ) * ratio⌋₊ < l.length :=
      (Nat.floor_le_ceil _).trans_lt hupper
    dsimp only
    rw [getElem?_eq_valueAt hlower, getElem?_eq_valueAt hupper]
    simp only [Option.bind_eq_bind, Option.bind_some, Option.pure_def, interpolate]
    split
    · next heq => rw [heq, sub_self, zero_mul, add_zero]
    · rfl

theorem getLast?_eq_valueAt (hl : 0 < l.length) : l.getLast? = some (valueAt l (l.length - 1)) := by
  rw [List.getLast?_eq_getElem?, getElem?_eq_valueAt (Nat.sub_lt hl Nat.one_pos)]

/-- The rounded value at a share of the way through the sorted values. -/
def quantile (l : List ℚ) (ratio : ℚ) : ℚ :=
  round (interpolate (valueAt l) ((l.length - 1 : ℚ) * ratio)) 2

theorem quantile_mono (hl : l.Pairwise (· ≤ ·)) (hlen : 0 < l.length) {r r' : ℚ} (h0 : 0 ≤ r)
    (h : r ≤ r') : quantile l r ≤ quantile l r' := by
  have hsub : (0 : ℚ) ≤ l.length - 1 := sub_nonneg.mpr (by exact_mod_cast hlen)
  refine round_mono (interpolate_mono (valueAt_mono hl) (mul_nonneg hsub h0) ?_) 2
  exact mul_le_mul_of_nonneg_left h hsub

end

/-- The distribution of no price is empty, and the quantiles of all others are known and ascend. -/
theorem createMarketDistributionV2_ordered (values : List JsFloat) :
    (values.filterMap positivePrice = [] ∧
      createMarketDistributionV2 values = emptyMarketDistribution) ∨
    Ordered (createMarketDistributionV2 values) := by
  have hsorted : (sortBy compare (values.filterMap positivePrice)).Pairwise (· ≤ ·) :=
    (pairwise_sortBy _).imp fun h => compare_le_iff_le.mp h
  have hperm := sortBy_perm compare (values.filterMap positivePrice)
  unfold createMarketDistributionV2
  generalize sortBy compare (values.filterMap positivePrice) = l at hsorted hperm
  dsimp only
  split
  · next hempty =>
    rw [List.length_eq_zero_iff] at hempty
    exact .inl ⟨List.nil_perm.mp (hempty ▸ hperm), rfl⟩
  · next hne =>
    have hlen : 0 < l.length := Nat.pos_of_ne_zero hne
    have hfirst : l.head? = some (interpolate (valueAt l) ((l.length - 1 : ℚ) * 0)) := by
      rw [List.head?_eq_getElem?, getElem?_eq_valueAt hlen, mul_zero]
      simp [interpolate]
    have hlast : l.getLast? = some (interpolate (valueAt l) ((l.length - 1 : ℚ) * 1)) := by
      have hcast : (l.length - 1 : ℚ) = (l.length - 1 : ℕ) := by
        rw [Nat.cast_sub hlen, Nat.cast_one]
      rw [getLast?_eq_valueAt hlen, mul_one, hcast]
      simp [interpolate]
    have hratios : [0, 25 / 100, 5 / 10, 75 / 100, 9 / 10, 1].IsChain
        fun r r' : ℚ => 0 ≤ r ∧ r ≤ r' := by
      norm_num [List.isChain_cons_cons]
    refine .inr ⟨[0, 25 / 100, 5 / 10, 75 / 100, 9 / 10, 1].map (quantile l), ?_, ?_⟩
    · simp only [quantileFields, List.map_cons, List.map_nil, hfirst, hlast]
      rw [percentile_eq hlen (by norm_num) (by norm_num),
        percentile_eq hlen (by norm_num) (by norm_num),
        percentile_eq hlen (by norm_num) (by norm_num),
        percentile_eq hlen (by norm_num) (by norm_num)]
      rfl
    · refine (List.isChain_map _).mpr (hratios.imp fun r r' h => ?_)
      exact quantile_mono hsorted hlen h.1 h.2

/-! ## 3. Merged distributions -/

theorem fieldWeight_pos (source : WeightedMarketDistribution) : 0 < fieldWeight source := by
  have hsize : (0 : ℚ) < max source.distribution.sampleSize 1 := lt_max_of_lt_right one_pos
  have hconfidence : (5 / 100 : ℚ) ≤ JsNumber.clamp source.confidence (5 / 100) 1 :=
    (JsNumber.clamp_mem (by norm_num)).1
  exact mul_pos hsize (lt_of_lt_of_le (by norm_num) hconfidence)

section
variable {sources : List WeightedMarketDistribution}

theorem sum_fieldWeight_pos (hne : sources ≠ []) : 0 < (sources.map fieldWeight).sum := by
  refine List.sum_pos _ ?_ (by simpa using hne)
  simp [fieldWeight_pos]

/-- A field that all sources know is the rounded mean of their values. -/
theorem weightedField_eq {field : MarketDistribution → Option ℚ} (hne : sources ≠ [])
    (hknown : ∀ source ∈ sources, field source.distribution =
      some ((field source.distribution).getD 0)) :
    weightedField sources field = some (round (weightedMean sources
      (fun source => (field source.distribution).getD 0) fieldWeight) 2) := by
  have hvalues : (sources.filterMap fun source =>
        (field source.distribution).map fun value => (value, fieldWeight source)) =
      sources.map fun source => ((field source.distribution).getD 0, fieldWeight source) := by
    rw [← List.filterMap_eq_map]
    refine List.filterMap_congr fun source hsource => ?_
    rw [hknown source hsource]
    rfl
  have hweights : (sources.map fun source => ((field source.distribution).getD 0,
      fieldWeight source)).map (·.2) = sources.map fieldWeight := by
    rw [List.map_map]
    rfl
  unfold weightedField
  dsimp only
  rw [hvalues, hweights, if_neg (sum_fieldWeight_pos hne).not_ge]
  unfold weightedMean
  rw [hweights, List.map_map]
  rfl

/-- Each merged quantile is a mean with the same weights, and so they ascend as the sources' do. -/
theorem mergeMarketDistributionsV2_ordered (hne : sources ≠ [])
    (hordered : ∀ source ∈ sources, Ordered source.distribution) :
    Ordered (mergeMarketDistributionsV2 sources).distribution := by
  refine ordered_of (fun field => round (weightedMean sources
    (fun source => (field source.distribution).getD 0) fieldWeight) 2) ?_ ?_
  · intro field hfield
    rw [← weightedField_eq hne fun source hsource => (hordered source hsource).known field hfield]
    have hlength : sources.length ≠ 0 := fun h => hne (List.length_eq_zero_iff.mp h)
    rw [mergeMarketDistributionsV2, if_neg hlength]
    simp only [quantileFields, List.mem_cons, List.not_mem_nil, or_false] at hfield
    rcases hfield with rfl | rfl | rfl | rfl | rfl | rfl <;> rfl
  · rw [List.isChain_iff_getElem]
    intro i hi
    refine round_mono (weightedMean_mono (fun source _ => (fieldWeight_pos source).le) ?_) 2
    intro source hsource
    exact List.isChain_iff_getElem.mp (hordered source hsource).chain i hi

end

/-! ## 4. The percentile of a value -/

/-- The guard of `interpolatePercentile` keeps its divisor from being zero. -/
theorem interpolatePercentile_eq {value lower upper lowerPercentile upperPercentile : ℚ}
    (h : lower < upper) : interpolatePercentile value lower upper lowerPercentile upperPercentile =
      some (between lower upper lowerPercentile upperPercentile value) := by
  rw [interpolatePercentile, if_neg h.not_ge, divide?, if_neg (sub_pos.mpr h).ne']
  rfl

variable {value : ℚ}

/-- One test of the source is one segment of the lines. -/
theorem segment_eq {lower upper p q : ℚ} {points : List (ℚ × ℚ)} {rest : Option ℚ}
    (hlower : lower < value) (hrest : upper < value → rest = some (climb value upper q points)) :
    (if value ≤ upper then interpolatePercentile value lower upper p q else rest) =
      some (climb value lower p ((upper, q) :: points)) := by
  rw [climb]
  split
  · next hle => exact interpolatePercentile_eq (hlower.trans_le hle)
  · next hnot => exact hrest (not_le.mp hnot)

/-- The points of a distribution: the quantiles and their shares. -/
def knownPoints (d : MarketDistribution) : Option (ℚ × List (ℚ × ℚ)) := do
  let minimum ← d.minimum
  let firstQuartile ← d.firstQuartile
  let median ← d.median
  let thirdQuartile ← d.thirdQuartile
  let ninetiethPercentile ← d.ninetiethPercentile
  let maximum ← d.maximum
  return (minimum, [(firstQuartile, 25), (median, 50), (thirdQuartile, 75),
    (ninetiethPercentile, 90), (maximum, 100)])

/-- The height at a value of the lines from a point. -/
def heightAt (value : ℚ) (points : ℚ × List (ℚ × ℚ)) : ℚ :=
  if value ≤ points.1 then 0 else climb value points.1 0 points.2

theorem calculateBudgetPercentile_eq (value : ℚ) (d : MarketDistribution) :
    calculateBudgetPercentileFromDistributionV2 value d = (knownPoints d).map (heightAt value) := by
  unfold calculateBudgetPercentileFromDistributionV2 knownPoints
  rcases d.minimum with _ | minimum
  · rfl
  rcases d.firstQuartile with _ | firstQuartile
  · rfl
  rcases d.median with _ | median
  · rfl
  rcases d.thirdQuartile with _ | thirdQuartile
  · rfl
  rcases d.ninetiethPercentile with _ | ninetiethPercentile
  · rfl
  rcases d.maximum with _ | maximum
  · rfl
  simp only [Option.bind_eq_bind, Option.bind_some, Option.pure_def, Option.map_some, heightAt]
  split
  · rfl
  · next hminimum =>
    exact segment_eq (not_le.mp hminimum) fun h1 => segment_eq h1 fun h2 => segment_eq h2 fun h3 =>
      segment_eq h3 fun h4 => segment_eq h4 fun _ => rfl

theorem ascending_of_knownPoints {d : MarketDistribution} {points : ℚ × List (ℚ × ℚ)}
    (h : knownPoints d = some points) :
    Ascending 0 points.2 ∧ lastHeight 0 points.2 = 100 := by
  simp only [knownPoints, Option.bind_eq_bind, Option.bind_eq_some_iff, Option.pure_def,
    Option.some.injEq] at h
  obtain ⟨_, -, _, -, _, -, _, -, _, -, _, -, rfl⟩ := h
  simp only [Ascending, lastHeight]
  norm_num

theorem heightAt_bounds {points : ℚ × List (ℚ × ℚ)} (h : Ascending 0 points.2) :
    0 ≤ heightAt value points ∧ heightAt value points ≤ lastHeight 0 points.2 := by
  unfold heightAt
  split
  · exact ⟨le_rfl, (ascending_le_lastHeight h)⟩
  · next hnot => exact climb_bounds h (not_le.mp hnot)

theorem heightAt_mono {value' : ℚ} {points : ℚ × List (ℚ × ℚ)} (h : Ascending 0 points.2)
    (hle : value ≤ value') : heightAt value points ≤ heightAt value' points := by
  by_cases hnot : value ≤ points.1
  · rw [heightAt, if_pos hnot]
    exact (heightAt_bounds h).1
  · rw [heightAt, heightAt, if_neg hnot, if_neg fun hle' => hnot (hle.trans hle')]
    exact climb_mono h (not_le.mp hnot) hle

/-- A larger value has no smaller percentile, whatever the distribution. -/
theorem calculateBudgetPercentile_mono {value' : ℚ} (h : value ≤ value') (d : MarketDistribution) :
    Option.Rel (· ≤ ·) (calculateBudgetPercentileFromDistributionV2 value d)
      (calculateBudgetPercentileFromDistributionV2 value' d) := by
  rw [calculateBudgetPercentile_eq, calculateBudgetPercentile_eq]
  cases hpoints : knownPoints d with
  | none => exact .none
  | some points => exact .some (heightAt_mono (ascending_of_knownPoints hpoints).1 h)

/-- The percentile in an ordered distribution is known: no quotient of the source fails. -/
theorem Ordered.percentile_known {d : MarketDistribution} (h : Ordered d) (value : ℚ) :
    ∃ percentile, calculateBudgetPercentileFromDistributionV2 value d = some percentile ∧
      0 ≤ percentile ∧ percentile ≤ 100 := by
  have hminimum := h.known (·.minimum) (by simp [quantileFields])
  have hfirstQuartile := h.known (·.firstQuartile) (by simp [quantileFields])
  have hmedian := h.known (·.median) (by simp [quantileFields])
  have hthirdQuartile := h.known (·.thirdQuartile) (by simp [quantileFields])
  have hninetieth := h.known (·.ninetiethPercentile) (by simp [quantileFields])
  have hmaximum := h.known (·.maximum) (by simp [quantileFields])
  obtain ⟨points, hpoints⟩ : ∃ points, knownPoints d = some points := by
    rw [knownPoints, hminimum, hfirstQuartile, hmedian, hthirdQuartile, hninetieth, hmaximum]
    exact ⟨_, rfl⟩
  obtain ⟨hascending, hlast⟩ := ascending_of_knownPoints hpoints
  have hbounds : 0 ≤ heightAt value points ∧ heightAt value points ≤ lastHeight 0 points.2 :=
    heightAt_bounds hascending
  refine ⟨heightAt value points, ?_, hbounds.1, hlast ▸ hbounds.2⟩
  rw [calculateBudgetPercentile_eq, hpoints, Option.map_some]

end SmartStay.Market
