import SmartStay.Market.Statistics
import SmartStay.Recommendation.BestChoice
import SmartStay.Upgrade.Candidates

/-!
# The market behind an intent

`createMarket` and `resolveIntentLevel` of `engine-v2/intent/budgetIntentEngine.ts`: the budget is
placed in a supplied market, or in the costs of the candidates themselves.

1. `BudgetIntentCandidate`, `MarketContext`, `BudgetIntentMarket`.
2. `createMarket`, `resolveIntentLevel`.
3. `createMarket_mono`, `resolveIntentLevel_mono`: what a larger budget does to the market, and what
   a larger budget in such a market does to the level.
4. `statistics_ordered`: ascending quantiles, and a level that ascends with the budget.
-/

namespace SmartStay.Intent

open Contract JsSort Market
open Pareto (PreferenceId)
open Recommendation (BudgetIntentLevel)
open Upgrade (normalizeCurrency)

/-! ## 1. Input -/

/-- What the engine reads of a dimension: `none` is `null` or no number at all. -/
structure ScoredDimension where
  score : Option JsFloat
  confidence : Option JsFloat

structure StarQuality where
  stars : Option JsFloat
  normalizedScore : Option JsFloat
  confidence : Option JsFloat

structure QualityEvaluation where
  score : Option JsFloat
  confidence : Option JsFloat
  starQuality : StarQuality

/-- What the engine reads of `SmartStayBudgetIntentCandidateV2`. -/
structure BudgetIntentCandidate where
  hotelId : String
  eligibleForPrimaryRanking : Bool
  accommodationCategory : Option String
  utilityPreferenceId : PreferenceId
  utilityScore : Option JsFloat
  totalCost : Option JsFloat
  currency : Option String
  quality : QualityEvaluation
  location : ScoredDimension
  comfort : ScoredDimension
  flexibility : ScoredDimension
  categoryFit : ScoredDimension
  userFit : ScoredDimension

/-- `SmartStayMarketContextStatusV2`. -/
inductive MarketContextStatus
  | unavailable | usable | strongData
deriving DecidableEq, Repr

/-- What the engine reads of `SmartStayMarketContextSnapshotV2`. -/
structure MarketContext where
  status : MarketContextStatus
  source : MarketContextSource
  currency : Option String
  confidence : ℚ
  seasonalIndex : Option ℚ
  distribution : MarketDistribution

/-- `SmartStayBudgetIntentMarketV2`; no source stands for `candidate-fallback`, and the distribution
    for its seven fields. -/
structure BudgetIntentMarket where
  source : Option MarketContextSource
  confidence : ℚ
  seasonalIndex : Option ℚ
  currency : Option String
  distribution : MarketDistribution
  budgetPercentile : Option ℚ
  budgetToMedianRatio : Option ℚ
  budgetToUpperQuartileRatio : Option ℚ

/-! ## 2. The engine -/

def normalizePositiveNumber (value : Option JsFloat) : Option ℚ := value.bind positivePrice

def normalizePositiveInteger (value : Option JsFloat) (fallback : ℕ) : ℕ :=
  match normalizePositiveNumber value with
  | none => fallback
  | some x => max (JsNumber.round x).toNat 1

variable (rt : Runtime)

def BudgetIntentCandidate.pricedIn (currency : Option String) (candidate : BudgetIntentCandidate) :
    Bool :=
  candidate.eligibleForPrimaryRanking &&
    normalizeCurrency rt.toUpperCase candidate.currency = currency

/-- The entries of the counts stand in the order in which their currencies first occur. -/
def resolveMarketCurrency (candidates : List BudgetIntentCandidate) : Option String :=
  let currencies := candidates.filterMap fun candidate =>
    if candidate.eligibleForPrimaryRanking && (normalizePositiveNumber candidate.totalCost).isSome
    then normalizeCurrency rt.toUpperCase candidate.currency else none
  let counts := currencies.eraseDups.map fun currency => (currency, currencies.count currency)
  ((sortBy (fun first second => (compare second.2 first.2).then
    (rt.localeCompare first.1 second.1)) counts).head?).map (·.1)

def calculateBudgetPercentile (budget : ℚ) (costs : List ℚ) : Option ℚ :=
  if costs.length = 0 then none
  else some (((costs.filter (· ≤ budget)).length : ℚ) / costs.length * 100)

def budgetRatio (budgetPerRoomNight quantile : Option ℚ) : Option ℚ := do
  let budget ← budgetPerRoomNight
  let value ← quantile
  if 0 < value then some (round (budget / value) 4) else none

def createMarket (candidates : List BudgetIntentCandidate) (budgetPerRoomNight : Option ℚ)
    (nights rooms : ℕ) (marketContext : Option MarketContext) : BudgetIntentMarket :=
  let suppliedContext := marketContext.filter fun context =>
    context.status ≠ .unavailable && 3 ≤ context.distribution.sampleSize &&
      context.distribution.median.isSome
  let currency := (suppliedContext.bind (·.currency)) <|> resolveMarketCurrency rt candidates
  let divisor : ℚ := nights * rooms
  let fallbackCosts := sortBy compare
    (((candidates.filter (·.pricedIn rt currency)).filterMap
      fun candidate => normalizePositiveNumber candidate.totalCost).map (· / divisor))
  let distribution := match suppliedContext with
    | some context => context.distribution
    | none => createMarketDistributionV2 (fallbackCosts.map .finite)
  let budgetPercentile := budgetPerRoomNight.bind fun budget => match suppliedContext with
    | some _ => calculateBudgetPercentileFromDistributionV2 budget distribution
    | none => calculateBudgetPercentile budget fallbackCosts
  { source := suppliedContext.map (·.source)
    confidence := match suppliedContext with
      | some context => context.confidence
      | none => if 8 ≤ distribution.sampleSize then 62 / 100
        else if 3 ≤ distribution.sampleSize then 42 / 100 else 0
    seasonalIndex := suppliedContext.bind (·.seasonalIndex)
    currency := (suppliedContext.bind (·.currency)) <|> normalizeCurrency rt.toUpperCase currency
    distribution
    budgetPercentile := budgetPercentile.map (round · 2)
    budgetToMedianRatio := budgetRatio budgetPerRoomNight distribution.median
    budgetToUpperQuartileRatio := budgetRatio budgetPerRoomNight distribution.thirdQuartile }

/-- The level of a budget in a market with known quantiles. -/
def knownLevel (market : BudgetIntentMarket)
    (budget firstQuartile median thirdQuartile ninetiethPercentile : ℚ) : BudgetIntentLevel :=
  if budget < firstQuartile * (8 / 10) then .constrained
  else if budget < median * (8 / 10) then .value
  else if budget < thirdQuartile * (95 / 100) then .balanced
  else
    let luxuryByPercentile := 85 ≤ market.budgetPercentile.getD 0
    let luxuryByMedian := 3 ≤ market.budgetToMedianRatio.getD 0
    let luxuryByUpperMarket := budget ≥ ninetiethPercentile * 1
    if luxuryByPercentile ∨ luxuryByMedian ∨ luxuryByUpperMarket then .luxury else .premium

def resolveIntentLevel (market : BudgetIntentMarket) (budgetPerRoomNight : Option ℚ) :
    BudgetIntentLevel :=
  match budgetPerRoomNight, market.distribution.firstQuartile, market.distribution.median,
      market.distribution.thirdQuartile, market.distribution.ninetiethPercentile with
  | some budget, some firstQuartile, some median, some thirdQuartile, some ninetiethPercentile =>
    if market.distribution.sampleSize < 3 then .balanced
    else knownLevel market budget firstQuartile median thirdQuartile ninetiethPercentile
  | _, _, _, _, _ => .balanced

/-! ## 3. Larger budgets -/

/-- `constrained < value < balanced < premium < luxury`. -/
def levelRank : BudgetIntentLevel → ℕ
  | .constrained => 0
  | .value => 1
  | .balanced => 2
  | .premium => 3
  | .luxury => 4

/-- The second market is the first one seen with a larger budget. -/
structure MarketGrows (market market' : BudgetIntentMarket) : Prop where
  distribution : market'.distribution = market.distribution
  percentile : Option.Rel (· ≤ ·) market.budgetPercentile market'.budgetPercentile
  medianRatio : Option.Rel (· ≤ ·) market.budgetToMedianRatio market'.budgetToMedianRatio

variable {budget budget' : ℚ}

theorem calculateBudgetPercentile_mono (h : budget ≤ budget') (costs : List ℚ) :
    Option.Rel (· ≤ ·) (calculateBudgetPercentile budget costs)
      (calculateBudgetPercentile budget' costs) := by
  unfold calculateBudgetPercentile
  split
  · exact .none
  · have hsublist : (costs.filter (· ≤ budget)).Sublist (costs.filter (· ≤ budget')) :=
      List.monotone_filter_right costs fun cost hcost =>
        decide_eq_true ((of_decide_eq_true hcost).trans h)
    have hlength :
        ((costs.filter (· ≤ budget)).length : ℚ) ≤ (costs.filter (· ≤ budget')).length := by
      exact_mod_cast hsublist.length_le
    refine .some ?_
    gcongr

theorem round_rel {x y : Option ℚ} (h : Option.Rel (· ≤ ·) x y) :
    Option.Rel (· ≤ ·) (x.map (round · 2)) (y.map (round · 2)) := by
  cases h with
  | none => exact .none
  | some h => exact .some (round_mono h 2)

theorem getD_le_of_rel {x y : Option ℚ} (h : Option.Rel (· ≤ ·) x y) : x.getD 0 ≤ y.getD 0 := by
  cases h with
  | none => exact le_rfl
  | some h => exact h

theorem budgetRatio_mono (h : budget ≤ budget') (quantile : Option ℚ) :
    Option.Rel (· ≤ ·) (budgetRatio (some budget) quantile)
      (budgetRatio (some budget') quantile) := by
  cases quantile with
  | none => exact .none
  | some value =>
    show Option.Rel (· ≤ ·) (if 0 < value then _ else _) (if 0 < value then _ else _)
    split
    · next hpos => exact .some (round_mono (div_le_div_of_nonneg_right h hpos.le) 4)
    · exact .none

/-- A larger budget leaves the quantiles and raises the percentile and the ratio. -/
theorem createMarket_mono (h : budget ≤ budget') (candidates : List BudgetIntentCandidate)
    (nights rooms : ℕ) (context : Option MarketContext) :
    MarketGrows (createMarket rt candidates (some budget) nights rooms context)
      (createMarket rt candidates (some budget') nights rooms context) := by
  constructor
  · rfl
  · refine round_rel ?_
    simp only [Option.bind_some]
    split
    · exact Market.calculateBudgetPercentile_mono h _
    · exact calculateBudgetPercentile_mono h _
  · exact budgetRatio_mono h _

section
variable {p p' : Prop} [Decidable p] [Decidable p'] {x y x' y' : BudgetIntentLevel}

theorem le_rank_ite {n : ℕ} (hx : n ≤ levelRank x) (hy : n ≤ levelRank y) :
    n ≤ levelRank (if p then x else y) := by
  split
  · exact hx
  · exact hy

/-- A test that sends a budget to the lower level, and that a larger budget passes less often. -/
theorem rank_ite_le (htest : p' → p) (hx : levelRank x ≤ levelRank x')
    (hxy : levelRank x ≤ levelRank y') (hy : levelRank y ≤ levelRank y') :
    levelRank (if p then x else y) ≤ levelRank (if p' then x' else y') := by
  by_cases hp : p
  · rw [if_pos hp]
    exact le_rank_ite hx hxy
  · rw [if_neg hp, if_neg fun hp' => hp (htest hp')]
    exact hy

end

variable {market market' : BudgetIntentMarket}

theorem resolveIntentLevel_mono (hgrows : MarketGrows market market') (h : budget ≤ budget') :
    levelRank (resolveIntentLevel market (some budget)) ≤
      levelRank (resolveIntentLevel market' (some budget')) := by
  unfold resolveIntentLevel
  rw [hgrows.distribution]
  rcases market.distribution.firstQuartile with _ | firstQuartile
  · exact le_rfl
  rcases market.distribution.median with _ | median
  · exact le_rfl
  rcases market.distribution.thirdQuartile with _ | thirdQuartile
  · exact le_rfl
  rcases market.distribution.ninetiethPercentile with _ | ninetiethPercentile
  · exact le_rfl
  show levelRank (if _ then _ else knownLevel market _ _ _ _ _) ≤
    levelRank (if _ then _ else knownLevel market' _ _ _ _ _)
  split
  · exact le_rfl
  have hratio := getD_le_of_rel hgrows.medianRatio
  have hpercentile := getD_le_of_rel hgrows.percentile
  have hnot : ∀ limit : ℚ, budget' < limit → budget < limit := fun _ => h.trans_lt
  refine rank_ite_le (hnot _) le_rfl (Nat.zero_le _) ?_
  refine rank_ite_le (hnot _) le_rfl
    (le_rank_ite (by decide) (le_rank_ite (by decide) (by decide))) ?_
  refine rank_ite_le (hnot _) le_rfl (le_rank_ite (by decide) (by decide)) ?_
  dsimp only
  split
  · next hluxury =>
    rw [if_pos]
    rcases hluxury with hluxury | hluxury | hluxury
    · exact .inl (hluxury.trans hpercentile)
    · exact .inr (.inl (hluxury.trans hratio))
    · exact .inr (.inr (hluxury.le.trans h))
  · exact le_rank_ite (by decide) le_rfl

/-! ## 4. Ordered statistics, ascending levels -/

/-- The quantiles of prices are ordered or there is no price; a merge of ordered distributions is
    ordered; the percentile in an ordered distribution is known, lies between 0 and 100 and ascends
    with the value; and the level ascends with the budget. -/
theorem statistics_ordered :
    (∀ values : List JsFloat, (values.filterMap positivePrice = [] ∧
      createMarketDistributionV2 values = emptyMarketDistribution) ∨
      Ordered (createMarketDistributionV2 values)) ∧
    (∀ sources : List WeightedMarketDistribution,
      (∀ source ∈ sources, Ordered source.distribution) →
        sources = [] ∨ Ordered (mergeMarketDistributionsV2 sources).distribution) ∧
    (∀ distribution : MarketDistribution, Ordered distribution →
      ∀ value value' : ℚ, value ≤ value' → ∃ percentile percentile',
        calculateBudgetPercentileFromDistributionV2 value distribution = some percentile ∧
        calculateBudgetPercentileFromDistributionV2 value' distribution = some percentile' ∧
        0 ≤ percentile ∧ percentile ≤ percentile' ∧ percentile' ≤ 100) ∧
    ∀ (rt : Runtime) (candidates : List BudgetIntentCandidate) (nights rooms : ℕ)
      (context : Option MarketContext) (budget budget' : ℚ), budget ≤ budget' →
      levelRank (resolveIntentLevel (createMarket rt candidates (some budget) nights rooms context)
        (some budget)) ≤
      levelRank (resolveIntentLevel (createMarket rt candidates (some budget') nights rooms context)
        (some budget')) := by
  refine ⟨createMarketDistributionV2_ordered, ?_, ?_, ?_⟩
  · intro sources hordered
    by_cases hne : sources = []
    · exact .inl hne
    · exact .inr (mergeMarketDistributionsV2_ordered hne hordered)
  · intro distribution hordered value value' hle
    obtain ⟨percentile, hpercentile, hnonneg, -⟩ := hordered.percentile_known value
    obtain ⟨percentile', hpercentile', -, hmax⟩ := hordered.percentile_known value'
    have hmono := getD_le_of_rel (Market.calculateBudgetPercentile_mono hle distribution)
    rw [hpercentile, hpercentile'] at hmono
    exact ⟨percentile, percentile', hpercentile, hpercentile', hnonneg, hmono, hmax⟩
  · intro rt candidates nights rooms context budget budget' hle
    exact resolveIntentLevel_mono (createMarket_mono rt hle candidates nights rooms context) hle

end SmartStay.Intent
