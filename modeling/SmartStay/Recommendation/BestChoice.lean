import SmartStay.Lib.Preference
import SmartStay.Pareto.Frontier

/-!
# The best choice

`compareBestChoiceCandidates` and `sortBestChoiceCandidates` of
`engine-v2/recommendation/recommendationRolesEngine.ts`. Two luxury candidates are compared by their
experience if it differs by more than a band, else by their market position if that differs enough;
all others by their scores. How far apart two candidates are decides which rule compares them, and so
three candidates can be preferred in a circle.

1. `NormalizedCandidate`, `compareBestChoiceCandidates`.
2. `outclasses`, `compareScores`: the comparator is an order in which some pairs are reversed.
3. `ConsistentPreference`, `preference_consistent_iff`: exactly when the preference is consistent.
4. `preference_cycle`: three candidates of which each is preferred to another.
-/

namespace SmartStay.Recommendation

open Pareto (PreferenceId)
open Preference JsSort

/-! ## 1. The comparator -/

/-- `SmartStayBudgetIntentLevelV2`. -/
inductive BudgetIntentLevel
  | constrained | value | balanced | premium | luxury
deriving DecidableEq, Repr

/-- `SmartStayExperienceTierV2`. -/
inductive ExperienceTier
  | essential | standard | premium | luxury | unknown
deriving DecidableEq, Repr

/-- What the comparator reads of `SmartStayBudgetIntentCandidateEvaluationV2`. -/
structure BudgetIntent where
  preferenceId : PreferenceId
  intentLevel : BudgetIntentLevel
  experienceTier : ExperienceTier
  experienceScore : Option ℚ
  marketPositionPercentile : Option ℚ
  meetsAspirationalMarketFloor : Bool

structure ComparableCost where
  amount : ℚ
  currency : String

/-- What the comparator reads of a normalized candidate. -/
structure NormalizedCandidate where
  hotelId : String
  recommendationScore : Option ℚ
  utilityScore : Option ℚ
  scoreConfidence : ℚ
  evidenceCoverage : ℚ
  riskScore : ℚ
  cost : Option ComparableCost
  budgetIntent : Option BudgetIntent

def maximumComfortLuxuryEquivalenceBand : ℚ := 5 / 2

def minimumLuxuryPositioningPercentileGap : ℚ := 15

def isMaximumComfortLuxuryCandidate (candidate : NormalizedCandidate) : Bool :=
  match candidate.budgetIntent with
  | none => false
  | some intent =>
    intent.preferenceId = .maximumComfort && intent.intentLevel = .luxury &&
      intent.experienceTier = .luxury && intent.meetsAspirationalMarketFloor &&
      intent.marketPositionPercentile.isSome

/-- `candidate.budgetIntent?.experienceScore ?? null`. -/
def experienceScore (candidate : NormalizedCandidate) : Option ℚ :=
  candidate.budgetIntent.bind (·.experienceScore)

/-- `candidate.budgetIntent?.marketPositionPercentile ?? 0`. -/
def marketPosition (candidate : NormalizedCandidate) : ℚ :=
  (candidate.budgetIntent.bind (·.marketPositionPercentile)).getD 0

/-- `candidate.cost?.amount ?? Number.POSITIVE_INFINITY`. The difference of two infinities is `NaN`,
which the comparator takes for no difference. -/
def costOf (candidate : NormalizedCandidate) : WithTop ℚ := candidate.cost.map (·.amount)

/-- The chain of differences at the end of the comparator. -/
def compareScores : NormalizedCandidate → NormalizedCandidate → Ordering :=
  compareLex (fun first second => compareOn (·.recommendationScore.getD (-1)) second first) <|
  compareLex (fun first second => compareOn (·.utilityScore.getD (-1)) second first) <|
  compareLex (fun first second => compareOn (·.scoreConfidence) second first) <|
  compareLex (fun first second => compareOn (·.evidenceCoverage) second first) <|
  compareLex (compareOn (·.riskScore)) <|
  compareLex (compareOn costOf) (compareOn fun candidate => JsText.utf16 candidate.hotelId)

def compareBestChoiceCandidates (first second : NormalizedCandidate) : Ordering :=
  if isMaximumComfortLuxuryCandidate first && isMaximumComfortLuxuryCandidate second then
    match experienceScore first, experienceScore second with
    | some firstExperienceScore, some secondExperienceScore =>
      let equivalentTopExperience :=
        |secondExperienceScore - firstExperienceScore| ≤ maximumComfortLuxuryEquivalenceBand
      let marketPositionDifference := marketPosition second - marketPosition first
      if ¬ equivalentTopExperience then compare secondExperienceScore firstExperienceScore
      else if minimumLuxuryPositioningPercentileGap ≤ |marketPositionDifference| then
        compare marketPositionDifference 0
      else compareScores first second
    | _, _ => compareScores first second
  else compareScores first second

def sortBestChoiceCandidates (method : SortMethod NormalizedCandidate)
    (candidates : List NormalizedCandidate) : List NormalizedCandidate :=
  method.sort compareBestChoiceCandidates candidates

/-! ## 2. Reversed pairs -/

/-- Both are luxury candidates, and the first has a better experience by more than the band or, within
the band, a better market position by the gap. -/
def outclasses (first second : NormalizedCandidate) : Bool :=
  isMaximumComfortLuxuryCandidate first && isMaximumComfortLuxuryCandidate second &&
  match experienceScore first, experienceScore second with
  | some firstExperienceScore, some secondExperienceScore =>
    if |secondExperienceScore - firstExperienceScore| ≤ maximumComfortLuxuryEquivalenceBand then
      minimumLuxuryPositioningPercentileGap ≤ marketPosition first - marketPosition second
    else secondExperienceScore < firstExperienceScore
  | _, _ => false

/-- Two luxury candidates with an experience that is within the band. -/
theorem outclasses_near {first second : NormalizedCandidate} {x y : ℚ}
    (hluxury : isMaximumComfortLuxuryCandidate first = true)
    (hluxury' : isMaximumComfortLuxuryCandidate second = true) (hx : experienceScore first = some x)
    (hy : experienceScore second = some y) (hnear : |y - x| ≤ maximumComfortLuxuryEquivalenceBand) :
    outclasses first second = true ↔
      minimumLuxuryPositioningPercentileGap ≤ marketPosition first - marketPosition second := by
  simp [outclasses, hluxury, hluxury', hx, hy, hnear]

/-- Two luxury candidates whose experience differs by more than the band. -/
theorem outclasses_far {first second : NormalizedCandidate} {x y : ℚ}
    (hluxury : isMaximumComfortLuxuryCandidate first = true)
    (hluxury' : isMaximumComfortLuxuryCandidate second = true) (hx : experienceScore first = some x)
    (hy : experienceScore second = some y) (hfar : ¬ |y - x| ≤ maximumComfortLuxuryEquivalenceBand) :
    outclasses first second = true ↔ y < x := by
  simp [outclasses, hluxury, hluxury', hx, hy, hfar]

theorem experience_of_outclasses {first second : NormalizedCandidate}
    (h : outclasses first second = true) :
    isMaximumComfortLuxuryCandidate first = true ∧ isMaximumComfortLuxuryCandidate second = true ∧
      ∃ x y, experienceScore first = some x ∧ experienceScore second = some y := by
  rw [outclasses, Bool.and_eq_true, Bool.and_eq_true] at h
  obtain ⟨⟨hluxury, hluxury'⟩, hscores⟩ := h
  split at hscores
  next x y hx hy => exact ⟨hluxury, hluxury', x, y, hx, hy⟩
  next => exact nomatch hscores

theorem outclasses_asymm (first second : NormalizedCandidate) (h : outclasses first second = true) :
    ¬ outclasses second first = true := by
  obtain ⟨hluxury, hluxury', x, y, hx, hy⟩ := experience_of_outclasses h
  by_cases hnear : |y - x| ≤ maximumComfortLuxuryEquivalenceBand
  · rw [outclasses_near hluxury hluxury' hx hy hnear, minimumLuxuryPositioningPercentileGap] at h
    rw [outclasses_near hluxury' hluxury hy hx (abs_sub_comm y x ▸ hnear),
      minimumLuxuryPositioningPercentileGap]
    intro h'
    linarith
  · rw [outclasses_far hluxury hluxury' hx hy hnear] at h
    rw [outclasses_far hluxury' hluxury hy hx (abs_sub_comm y x ▸ hnear)]
    exact h.not_gt

/-- Within the band the first comes first if its market position is better by the gap. -/
theorem compare_difference {x y gap : ℚ} (hgap : 0 < gap) (base : Ordering) :
    (if gap ≤ |y - x| then compare (y - x) 0 else base) =
      if gap ≤ x - y then .lt else if gap ≤ y - x then .gt else base := by
  by_cases hxy : gap ≤ x - y
  · have hlt : y - x < 0 := by linarith
    rw [abs_of_neg hlt, neg_sub, if_pos hxy, if_pos hxy]
    exact compare_lt_iff_lt.mpr hlt
  · by_cases hyx : gap ≤ y - x
    · have hlt : 0 < y - x := by linarith
      rw [abs_of_pos hlt, if_pos hyx, if_neg hxy, if_pos hyx]
      exact compare_gt_iff_gt.mpr hlt
    · have hle : ¬ gap ≤ |y - x| := by
        rw [le_abs, neg_sub]
        exact not_or.mpr ⟨hyx, hxy⟩
      rw [if_neg hle, if_neg hxy, if_neg hyx]

theorem compareBestChoiceCandidates_eq (first second : NormalizedCandidate) :
    compareBestChoiceCandidates first second =
      overrideBy (fun a b => outclasses a b = true) compareScores first second := by
  by_cases hscores : isMaximumComfortLuxuryCandidate first = true ∧
      isMaximumComfortLuxuryCandidate second = true ∧
      ∃ x y, experienceScore first = some x ∧ experienceScore second = some y
  · obtain ⟨hluxury, hluxury', x, y, hx, hy⟩ := hscores
    rw [compareBestChoiceCandidates, if_pos (by rw [hluxury, hluxury']; rfl), hx, hy, overrideBy]
    by_cases hnear : |y - x| ≤ maximumComfortLuxuryEquivalenceBand
    · have hnear' := abs_sub_comm y x ▸ hnear
      simp only [not_not.mpr hnear, if_false, outclasses_near hluxury hluxury' hx hy hnear,
        outclasses_near hluxury' hluxury hy hx hnear']
      exact compare_difference (by norm_num [minimumLuxuryPositioningPercentileGap]) _
    · have hfar' := abs_sub_comm y x ▸ hnear
      simp only [hnear, not_false_eq_true, if_true, outclasses_far hluxury hluxury' hx hy hnear,
        outclasses_far hluxury' hluxury hy hx hfar']
      rcases lt_trichotomy x y with hlt | rfl | hlt
      · rw [if_neg hlt.not_gt, if_pos hlt]
        exact compare_gt_iff_gt.mpr hlt
      · exact absurd (by norm_num [maximumComfortLuxuryEquivalenceBand]) hnear
      · rw [if_pos hlt]
        exact compare_lt_iff_lt.mpr hlt
  · -- the scores decide, and no pair is reversed
    have hnone : ∀ a b, (a = first ∧ b = second) ∨ (a = second ∧ b = first) →
        ¬ outclasses a b = true := by
      rintro a b hpair h
      obtain ⟨hluxury, hluxury', x, y, hx, hy⟩ := experience_of_outclasses h
      rcases hpair with ⟨rfl, rfl⟩ | ⟨rfl, rfl⟩
      · exact hscores ⟨hluxury, hluxury', x, y, hx, hy⟩
      · exact hscores ⟨hluxury', hluxury, y, x, hy, hx⟩
    rw [overrideBy, if_neg (hnone _ _ (.inl ⟨rfl, rfl⟩)), if_neg (hnone _ _ (.inr ⟨rfl, rfl⟩)),
      compareBestChoiceCandidates]
    split
    next hluxury =>
      rw [Bool.and_eq_true] at hluxury
      split
      next x y hx hy => exact absurd ⟨hluxury.1, hluxury.2, x, y, hx, hy⟩ hscores
      next => rfl
    next => rfl

instance : Std.TransCmp compareScores :=
  inferInstanceAs (Std.TransCmp (compareLex _ (compareLex _ _)))

theorem hotelId_eq_of_compareScores {first second : NormalizedCandidate}
    (h : compareScores first second = .eq) : first.hotelId = second.hotelId := by
  simp only [compareScores, compareLex, Ordering.then_eq_eq] at h
  exact JsText.utf16_injective (Std.LawfulEqOrd.eq_of_compare h.2.2.2.2.2.2)

/-! ## 3. A consistent preference -/

/-- Candidates are compared consistently. Then the first candidate is preferred to all others, and it
stays the first as long as it is there and only candidates that are not chosen come or go. -/
structure ConsistentPreference (method : SortMethod NormalizedCandidate)
    (pool : List NormalizedCandidate) : Prop where
  consistent : ConsistentOn compareBestChoiceCandidates pool
  preferred : ∀ anchor, (sortBestChoiceCandidates method pool).head? = some anchor →
    ∀ candidate ∈ pool, candidate ≠ anchor → compareBestChoiceCandidates anchor candidate = .lt
  stable : ∀ anchor, (sortBestChoiceCandidates method pool).head? = some anchor →
    ∀ others ⊆ pool, anchor ∈ others → (sortBestChoiceCandidates method others).head? = some anchor

/-- In the order of the scores, the pairs of which the second outclasses the first fit together. -/
def OutclassingFits (pool : List NormalizedCandidate) : Prop :=
  ReversalsFit (fun first second => outclasses first second = true) compareScores pool

theorem consistentOn_iff {pool : List NormalizedCandidate} (hids : (pool.map (·.hotelId)).Nodup) :
    ConsistentOn compareBestChoiceCandidates pool ↔ OutclassingFits pool := by
  have heq : compareBestChoiceCandidates =
      overrideBy (fun a b => outclasses a b = true) compareScores :=
    funext fun first => funext fun second => compareBestChoiceCandidates_eq first second
  rw [heq]
  exact consistentOn_overrideBy_iff outclasses_asymm fun a ha b hb h =>
    List.inj_on_of_nodup_map hids ha hb (hotelId_eq_of_compareScores h)

/-- Candidates that compare equal are one. -/
theorem eq_of_compareBestChoiceCandidates {pool : List NormalizedCandidate}
    (hids : (pool.map (·.hotelId)).Nodup) {a b : NormalizedCandidate} (ha : a ∈ pool) (hb : b ∈ pool)
    (h : compareBestChoiceCandidates a b = .eq) : a = b := by
  rw [compareBestChoiceCandidates_eq, overrideBy] at h
  split at h
  · cases h
  split at h
  · cases h
  · exact List.inj_on_of_nodup_map hids ha hb (hotelId_eq_of_compareScores h)

/-- The preference is consistent exactly if of three candidates in the order of their scores the last
outclasses the first whenever each outclasses the one before it, and only when some does. -/
theorem preference_consistent_iff (method : SortMethod NormalizedCandidate)
    {pool : List NormalizedCandidate} (hids : (pool.map (·.hotelId)).Nodup) :
    ConsistentPreference method pool ↔ OutclassingFits pool := by
  rw [← consistentOn_iff hids]
  refine ⟨fun h => h.consistent, fun h => ?_⟩
  have hdistinct : ∀ a ∈ pool, ∀ b ∈ pool, compareBestChoiceCandidates a b = .eq → a = b :=
    fun a ha b hb => eq_of_compareBestChoiceCandidates hids ha hb
  exact ⟨h, fun anchor hanchor candidate hmem => method.head_preferred h hdistinct hanchor hmem,
    fun anchor hanchor others hsub hmem => method.head_stable h hdistinct hanchor hsub hmem⟩

/-- A luxury candidate with this recommendation score and experience. -/
def sampleCandidate (hotelId : String) (recommendationScore experienceScore : ℚ) :
    NormalizedCandidate where
  hotelId := hotelId
  recommendationScore := some recommendationScore
  utilityScore := some 80
  scoreConfidence := 9 / 10
  evidenceCoverage := 9 / 10
  riskScore := 10
  cost := some ⟨500, "EUR"⟩
  budgetIntent := some
    { preferenceId := .maximumComfort
      intentLevel := .luxury
      experienceTier := .luxury
      experienceScore := some experienceScore
      marketPositionPercentile := some 90
      meetsAspirationalMarketFloor := true }

theorem preference_consistent_iff_pair :
    ConsistentPreference (insertionMethod NormalizedCandidate)
      [sampleCandidate "a" 80 90, sampleCandidate "c" 82 86] := by
  refine (preference_consistent_iff _ (by decide +kernel)).mpr ?_
  unfold OutclassingFits ReversalsFit
  decide +kernel

/-! ## 4. A circle -/

/-- The scores prefer `c` to `b` and `b` to `a`; only the experience of `a` and `c` differs by more than
the band. -/
def samplePool : List NormalizedCandidate :=
  [sampleCandidate "a" 80 90, sampleCandidate "b" 81 88, sampleCandidate "c" 82 86]

/-- Whichever candidate is chosen, another one is preferred to it. -/
theorem preference_cycle :
    (samplePool.map (·.hotelId)).Nodup ∧
      (∀ anchor ∈ samplePool, ∃ candidate ∈ samplePool,
        compareBestChoiceCandidates candidate anchor = .lt) ∧
      ∀ method, ¬ ConsistentPreference method samplePool := by
  have hcircle : ∀ anchor ∈ samplePool, ∃ candidate ∈ samplePool, candidate.hotelId ≠ anchor.hotelId ∧
      compareBestChoiceCandidates candidate anchor = .lt ∧
      compareBestChoiceCandidates anchor candidate = .gt := by decide +kernel
  refine ⟨by decide +kernel, fun anchor hanchor => ?_, fun method h => ?_⟩
  · obtain ⟨candidate, hmem, -, hlt, -⟩ := hcircle anchor hanchor
    exact ⟨candidate, hmem, hlt⟩
  · cases hsort : sortBestChoiceCandidates method samplePool with
    | nil =>
      have hlength := (method.perm compareBestChoiceCandidates samplePool).length_eq
      rw [sortBestChoiceCandidates] at hsort
      rw [hsort] at hlength
      exact nomatch hlength
    | cons anchor rest =>
      have hanchor : anchor ∈ samplePool := method.mem_sort.mp (hsort ▸ List.mem_cons_self)
      obtain ⟨candidate, hmem, hne, -, hgt⟩ := hcircle anchor hanchor
      have hlt := h.preferred anchor (by rw [hsort]; rfl) candidate hmem fun heq => hne (heq ▸ rfl)
      simp [hgt] at hlt

end SmartStay.Recommendation
