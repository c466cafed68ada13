import SmartStay.Policy.Optimum

/-!
# Order and identity

1. `run_perm`: solutions whose decision projections differ may arrive in any order.
2. `run_swap_ne`: two solutions with one projection may not.
3. `CandidateEvaluation.rename`, `Selection.rename`: other ids for the solutions.
4. `chooseBestChoice_rename`, `createPortfolio_rename`: no step of the policy reads an id but
   to tell solutions apart.
5. `policy_neutral_iff`: what the policy is neutral to; `policy_not_neutral`: twin stays in two
   orders.
-/

namespace SmartStay.Policy

open Contract JsSort

variable {rt : Runtime} {input : PolicyInput} {settings : ProfileSettings}

/-! ## 1. Arrival order -/

/-- No two solutions have one decision projection. -/
def ProjectionsDistinct (rt : Runtime) (input : PolicyInput) : Prop :=
  input.solutions.Pairwise fun a b => compareSolutions rt a b ≠ .eq

instance (rt : Runtime) : Std.TransCmp (compareSolutions rt) :=
  inferInstanceAs (Std.TransCmp
    (compareOn fun s => JsText.utf16 (stableSerialize rt (solutionProjection s))))

theorem Accepted.perm {solutions : List SolutionInput} (h : Accepted input)
    (hperm : solutions.Perm input.solutions) : Accepted { input with solutions } where
  caseId_ne := h.caseId_ne
  budget_pos := h.budget_pos
  currency_ne := h.currency_ne
  nights_int := h.nights_int
  nights_pos := h.nights_pos
  two := hperm.length_eq ▸ h.two
  ids_nodup := (hperm.map _).nodup_iff.mpr h.ids_nodup
  valid s hs :=
    have hvalid := h.valid s (hperm.mem_iff.mp hs)
    ⟨hvalid.id_ne, hvalid.currency, hvalid.cost, hvalid.score⟩

theorem canonicalInput_perm {solutions : List SolutionInput} (h : ProjectionsDistinct rt input)
    (hperm : solutions.Perm input.solutions) :
    canonicalInput rt { input with solutions } = canonicalInput rt input := by
  have hdistinct : (input.solutions.map canonicalSolution).Pairwise fun a b =>
      compareSolutions rt a b ≠ .eq := List.pairwise_map.mpr h
  have hsorted := sortBy_eq_of_perm (hperm.map canonicalSolution).symm hdistinct
  simp only [canonicalInput, hsorted]

/-- Solutions with different projections may arrive in any order. -/
theorem run_perm {solutions : List SolutionInput} (haccepted : Accepted input)
    (h : ProjectionsDistinct rt input) (hperm : solutions.Perm input.solutions) :
    runPersonalUtilityRolePolicy rt { input with solutions } =
      runPersonalUtilityRolePolicy rt input := by
  rw [run_spec.mpr ⟨haccepted, rfl⟩]
  refine run_spec.mpr ⟨haccepted.perm hperm, ?_⟩
  rw [canonicalInput_perm h hperm]

theorem verify_of_run_eq {input' : PolicyInput} {result : PolicyResult}
    (h : runPersonalUtilityRolePolicy rt input' = .ok result) :
    verifyPersonalUtilityRolePolicyReplay rt input' result = .ok true := by
  simp [verifyPersonalUtilityRolePolicyReplay, h, bind, Except.bind]

/-! ## 2. Equal projections -/

/-- In a list without duplicates two values come in one order. -/
theorem not_pair_both_ways {α : Type} {l : List α} {x y : α} (hnodup : l.Nodup)
    (hxy : [x, y].Sublist l) (hyx : [y, x].Sublist l) : False := by
  induction l with
  | nil => cases hxy
  | cons z l ih =>
    obtain ⟨hz, hnodup⟩ := List.nodup_cons.mp hnodup
    cases hxy with
    | cons _ hxy' =>
      cases hyx with
      | cons _ hyx' => exact ih hnodup hxy' hyx'
      -- `y` is the head, and `[x, y]` finds it again in the tail
      | cons_cons _ hyx' => exact hz (hxy'.subset (List.mem_cons_of_mem _ List.mem_cons_self))
    | cons_cons _ hxy' =>
      cases hyx with
      | cons _ hyx' => exact hz (hyx'.subset (List.mem_cons_of_mem _ List.mem_cons_self))
      | cons_cons _ hyx' => exact hz (hyx'.subset List.mem_cons_self)

theorem ids_evaluateCandidates : (evaluateCandidates input settings).map (·.solutionId) =
    input.solutions.map (·.solutionId) := by
  simp [evaluateCandidates, withDominance, evaluateCandidate]

/-- The first of two solutions with one projection stays first. -/
theorem pair_sublist_candidates (input : PolicyInput) (settings : ProfileSettings)
    {a b : SolutionInput} {rest : List SolutionInput} (hab : compareSolutions rt a b = .eq)
    (hsolutions : input.solutions = a :: b :: rest) :
    [a.solutionId, b.solutionId].Sublist
      ((evaluateCandidates (canonicalInput rt input) settings).map (·.solutionId)) := by
  rw [ids_evaluateCandidates]
  have hpair : [canonicalSolution a, canonicalSolution b].Sublist
      (input.solutions.map canonicalSolution) := by
    simp [hsolutions]
  have hle : compareSolutions rt (canonicalSolution a) (canonicalSolution b) ≠ .gt := by
    have heq : compareSolutions rt (canonicalSolution a) (canonicalSolution b) = .eq := hab
    simp [heq]
  exact (pair_sublist_sortBy hle hpair).map (·.solutionId)

/-- Two solutions with one projection: their order is seen in the result. -/
theorem run_swap_ne {a b : SolutionInput} {rest : List SolutionInput}
    (haccepted : Accepted { input with solutions := a :: b :: rest })
    (hab : compareSolutions rt a b = .eq) :
    runPersonalUtilityRolePolicy rt { input with solutions := b :: a :: rest } ≠
      runPersonalUtilityRolePolicy rt { input with solutions := a :: b :: rest } := by
  intro heq
  rw [run_spec.mpr ⟨haccepted, rfl⟩] at heq
  obtain ⟨-, hresult⟩ := run_spec.mp heq
  have hcandidates := congrArg (fun result => result.candidates.map (·.solutionId)) hresult
  have hba : compareSolutions rt b a = .eq := Std.OrientedCmp.eq_symm hab
  have hfirst := pair_sublist_candidates { input with solutions := a :: b :: rest }
    (cloneSettings input.profile input.nights) hab rfl
  have hsecond := pair_sublist_candidates { input with solutions := b :: a :: rest }
    (cloneSettings input.profile input.nights) hba rfl
  refine not_pair_both_ways ?_ hfirst (hcandidates ▸ hsecond)
  rw [ids_evaluateCandidates]
  exact (canonicalInput_ids rt _).nodup_iff.mpr haccepted.ids_nodup

/-! ## 3. Other ids -/

/-- New ids for old ones: injective, and none of them blank. -/
structure Renaming (f : String → String) (ids : List String) : Prop where
  injOn : Set.InjOn f {id | id ∈ ids}
  nonblank : ∀ id ∈ ids, (JsText.trim (f id)).length ≠ 0

def SolutionInput.rename (f : String → String) (s : SolutionInput) : SolutionInput :=
  { s with solutionId := f s.solutionId }

def PolicyInput.rename (f : String → String) (input : PolicyInput) : PolicyInput :=
  { input with solutions := input.solutions.map (SolutionInput.rename f) }

def CandidateEvaluation.rename (f : String → String) (c : CandidateEvaluation) :
    CandidateEvaluation :=
  { c with
    solutionId := f c.solutionId
    dominatedBySolutionIds := (c.dominatedBySolutionIds.map f).insertionSort JsText.Le }

/-- A selection with other ids; the ids of its class are listed in their order. -/
def Selection.rename (f : String → String) (s : Selection) : Selection :=
  { s with
    solutionId := s.solutionId.map f
    equivalentSolutionIds := uniqueSortedTexts (s.equivalentSolutionIds.map f)
    presentationRepresentativeSolutionId := s.presentationRepresentativeSolutionId.map f }

def Portfolio.rename (f : String → String) (p : Portfolio) : Portfolio :=
  ⟨p.bestChoice.rename f, p.bestSensibleSaving.rename f, p.worthwhileComfortUpgrade.rename f,
    p.split.rename f⟩

/-! ## 4. The policy on renamed solutions -/

variable {f : String → String} {l : List CandidateEvaluation} {c choice : CandidateEvaluation}

theorem Accepted.rename (h : Accepted input)
    (hf : Renaming f (input.solutions.map (·.solutionId))) : Accepted (input.rename f) where
  caseId_ne := h.caseId_ne
  budget_pos := h.budget_pos
  currency_ne := h.currency_ne
  nights_int := h.nights_int
  nights_pos := h.nights_pos
  two := by simpa [PolicyInput.rename] using h.two
  ids_nodup := by
    have hids : (input.rename f).solutions.map (·.solutionId) =
        (input.solutions.map (·.solutionId)).map f := by
      simp [PolicyInput.rename, SolutionInput.rename]
    rw [hids]
    exact h.ids_nodup.map_on fun x hx y hy hxy => hf.injOn hx hy hxy
  valid s hs := by
    obtain ⟨t, ht, rfl⟩ := List.mem_map.mp hs
    have hvalid := h.valid t ht
    exact ⟨hf.nonblank _ (List.mem_map_of_mem ht), hvalid.currency, hvalid.cost, hvalid.score⟩

theorem canonicalInput_rename :
    canonicalInput rt (input.rename f) = (canonicalInput rt input).rename f := by
  have hmap : (input.solutions.map (SolutionInput.rename f)).map canonicalSolution =
      (input.solutions.map canonicalSolution).map (SolutionInput.rename f) := by
    simp [SolutionInput.rename, canonicalSolution]
  have hsorted : sortBy (compareSolutions rt)
      ((input.solutions.map canonicalSolution).map (SolutionInput.rename f)) =
        (sortBy (compareSolutions rt) (input.solutions.map canonicalSolution)).map
          (SolutionInput.rename f) := sortBy_map fun _ _ _ _ => rfl
  simp only [canonicalInput, PolicyInput.rename, hmap, hsorted]

theorem dominates_rename (a b : CandidateEvaluation) :
    dominates (a.rename f) (b.rename f) = dominates a b := rfl

theorem withDominance_rename (hf : Set.InjOn f {id | id ∈ l.map (·.solutionId)}) :
    withDominance (l.map (CandidateEvaluation.rename f)) =
      (withDominance l).map (CandidateEvaluation.rename f) := by
  simp only [withDominance, List.map_map]
  refine List.map_congr_left fun c hc => ?_
  have hfilter : (l.map (CandidateEvaluation.rename f)).filter (fun other =>
      other.solutionId ≠ f c.solutionId && dominates other (c.rename f)) =
        (l.filter fun other => other.solutionId ≠ c.solutionId && dominates other c).map
          (CandidateEvaluation.rename f) := by
    rw [List.filter_map]
    refine congrArg _ (List.filter_congr fun o ho => ?_)
    have hne : f o.solutionId = f c.solutionId ↔ o.solutionId = c.solutionId :=
      hf.eq_iff (List.mem_map_of_mem ho) (List.mem_map_of_mem hc)
    have hid : (o.rename f).solutionId = f o.solutionId := rfl
    simp only [Function.comp_apply, dominates_rename, hid, ne_eq, hne]
  -- the dominating ids are sorted before or after they are renamed
  have hids : ((((l.filter fun other => other.solutionId ≠ c.solutionId && dominates other c).map
      (·.solutionId)).insertionSort JsText.Le).map f).insertionSort JsText.Le =
        (((l.map (CandidateEvaluation.rename f)).filter fun other =>
          other.solutionId ≠ f c.solutionId && dominates other (c.rename f)).map
            (·.solutionId)).insertionSort JsText.Le := by
    rw [hfilter]
    refine JsText.insertionSort_eq_of_perm (((List.perm_insertionSort _ _).map f).trans ?_)
    simp [CandidateEvaluation.rename, Function.comp_def]
  exact congrArg (fun ids : List String =>
    { c with solutionId := f c.solutionId, dominatedBySolutionIds := ids }) hids.symm

theorem evaluateCandidates_rename
    (hf : Set.InjOn f {id | id ∈ input.solutions.map (·.solutionId)}) :
    evaluateCandidates (input.rename f) settings =
      (evaluateCandidates input settings).map (CandidateEvaluation.rename f) := by
  have hmap : (input.rename f).solutions.map (evaluateCandidate (input.rename f) settings) =
      (input.solutions.map (evaluateCandidate input settings)).map
        (CandidateEvaluation.rename f) := by
    simp only [PolicyInput.rename, List.map_map]
    rfl
  rw [evaluateCandidates, hmap, withDominance_rename, evaluateCandidates]
  simpa [evaluateCandidate] using hf

theorem undominated_rename (c : CandidateEvaluation) :
    undominated (c.rename f) = undominated c := by
  have hlength : ((c.dominatedBySolutionIds.map f).insertionSort JsText.Le).length =
      c.dominatedBySolutionIds.length := by simp
  exact congrArg (fun n : Nat => decide (c.status = .comparable) && decide (n = 0)) hlength

theorem filter_undominated_rename (l : List CandidateEvaluation) :
    (l.map (CandidateEvaluation.rename f)).filter undominated =
      (l.filter undominated).map (CandidateEvaluation.rename f) := by
  rw [List.filter_map]
  exact congrArg _ (List.filter_congr fun c _ => undominated_rename c)

theorem maximumExperience_rename (l : List CandidateEvaluation) :
    maximumExperience (l.map (CandidateEvaluation.rename f)) = maximumExperience l := by
  induction l with
  | nil => rfl
  | cons c l ih =>
    rw [List.map_cons, maximumExperience, maximumExperience, ih]
    rfl

theorem experienceBand_rename (l : List CandidateEvaluation) :
    experienceBand settings (l.map (CandidateEvaluation.rename f)) =
      (experienceBand settings l).map (CandidateEvaluation.rename f) := by
  rw [experienceBand, experienceBand, List.filter_map, maximumExperience_rename]
  rfl

/-- The best choice among renamed candidates. -/
theorem chooseBestChoice_rename (profile : Profile) :
    chooseBestChoice rt (l.map (CandidateEvaluation.rename f)) profile settings =
      (chooseBestChoice rt l profile settings).map (TieResolution.map (CandidateEvaluation.rename f)) := by
  have hresolve : ∀ considered : List CandidateEvaluation,
      resolveDecisionTie rt (considered.map (CandidateEvaluation.rename f)) (compareChoices profile)
        candidatePresentationProjection =
      (resolveDecisionTie rt considered (compareChoices profile)
        candidatePresentationProjection).map (CandidateEvaluation.rename f) := fun considered =>
    resolveDecisionTie_map (fun a _ b _ => by cases profile <;> rfl) fun a _ => rfl
  simp only [chooseBestChoice, filter_undominated_rename, List.length_map]
  by_cases hempty : (l.filter undominated).length = 0
  · simp [hempty]
  · by_cases hcomfort : profile = .comfort
    · simp only [hempty, if_false, hcomfort, if_true, experienceBand_rename, Option.map_some]
      exact congrArg some (hcomfort ▸ hresolve _)
    · simp only [hempty, if_false, hcomfort, hresolve, Option.map_some]

theorem selected_map {α β : Type} (g : α → β) (r : TieResolution α) :
    (r.map g).selected = r.selected.map g := by
  simp only [TieResolution.selected, TieResolution.map, List.head?_map]
  cases r.presentationRepresentative <;> rfl

theorem bestGain_rename (contributions : List DimensionContribution) :
    ∀ best, bestGain (c.rename f) best contributions = bestGain c best contributions := by
  have hscore : ∀ d, sourceScore (c.rename f) d = sourceScore c d := fun d => rfl
  induction contributions with
  | nil => exact fun best => rfl
  | cons contribution rest ih =>
    intro best
    simp only [bestGain, hscore, ih]

theorem decisiveDimension_rename (comparison : Option CandidateEvaluation) :
    decisiveDimension (choice.rename f) (comparison.map (CandidateEvaluation.rename f)) =
      decisiveDimension choice comparison := by
  cases comparison with
  | none => rfl
  | some c => exact congrArg (Option.map Prod.fst) (bestGain_rename _ none)

section Portfolio

/-- What the renaming of candidates needs to know: the ids of the candidates are ids of the
    input, and of the new ones no two are equal or blank. -/
structure Renames (f : String → String) (input : PolicyInput) (l : List CandidateEvaluation) :
    Prop where
  apart : Renaming f (input.solutions.map (·.solutionId))
  nonblank : ∀ id ∈ input.solutions.map (·.solutionId), 0 < (JsText.trim id).length
  ids : ∀ c ∈ l, c.solutionId ∈ input.solutions.map (·.solutionId)

variable (h : Renames f input l)
include h

theorem Renames.eq_iff {a b : CandidateEvaluation} (ha : a ∈ l) (hb : b ∈ l) :
    f a.solutionId = f b.solutionId ↔ a.solutionId = b.solutionId :=
  h.apart.injOn.eq_iff (h.ids a ha) (h.ids b hb)

theorem Renames.evidenceFor (hc : c ∈ l) (dimension : Option ExperienceDimension) :
    evidenceFor (input.rename f) (f c.solutionId) dimension =
      evidenceFor input c.solutionId dimension := by
  have hfind : (input.solutions.map (SolutionInput.rename f)).find?
      (·.solutionId = f c.solutionId) =
        (input.solutions.find? (·.solutionId = c.solutionId)).map (SolutionInput.rename f) := by
    rw [← List.head?_filter, ← List.head?_filter, ← List.head?_map, List.filter_map]
    refine congrArg (fun l => (List.map _ l).head?) (List.filter_congr fun s hs => ?_)
    exact decide_eq_decide.mpr (h.apart.injOn.eq_iff (List.mem_map_of_mem hs) (h.ids c hc))
  simp only [Policy.evidenceFor, PolicyInput.rename, hfind]
  cases input.solutions.find? (·.solutionId = c.solutionId) <;> rfl

theorem Renames.singleton (hc : c ∈ l) :
    uniqueSortedTexts [f c.solutionId] = [f c.solutionId] :=
  uniqueSortedTexts_singleton (Nat.pos_of_ne_zero (h.apart.nonblank _ (h.ids c hc)))

/-- The ids of renamed candidates are listed as the renamed ids are. -/
theorem Renames.uniqueSortedTexts {leaders : List CandidateEvaluation}
    (hleaders : ∀ c ∈ leaders, c ∈ l) :
    uniqueSortedTexts ((leaders.map (CandidateEvaluation.rename f)).map (·.solutionId)) =
      uniqueSortedTexts ((uniqueSortedTexts (leaders.map (·.solutionId))).map f) := by
  refine uniqueSortedTexts_congr fun v => ?_
  simp only [List.mem_map, mem_uniqueSortedTexts]
  constructor
  · rintro ⟨_, ⟨c, hc, rfl⟩, rfl⟩
    exact ⟨c.solutionId, ⟨⟨c, hc, rfl⟩, h.nonblank _ (h.ids c (hleaders c hc))⟩, rfl⟩
  · rintro ⟨_, ⟨⟨c, hc, rfl⟩, -⟩, rfl⟩
    exact ⟨_, ⟨c, hc, rfl⟩, rfl⟩

theorem Renames.alternativesTo (hchoice : choice ∈ l) :
    alternativesTo (choice.rename f) (l.map (CandidateEvaluation.rename f)) =
      (alternativesTo choice l).map (CandidateEvaluation.rename f) := by
  rw [Policy.alternativesTo, Policy.alternativesTo, List.filter_map]
  refine congrArg _ (List.filter_congr fun c hc => ?_)
  have heq : decide (f c.solutionId ≠ f choice.solutionId) =
      decide (c.solutionId ≠ choice.solutionId) :=
    decide_eq_decide.mpr (h.eq_iff hc hchoice).not
  exact congrArg (· && decide (c.status = .comparable)) heq

theorem Renames.choiceSacrifice (hchoice : choice ∈ l) :
    choiceSacrifice rt (choice.rename f) (l.map (CandidateEvaluation.rename f)) =
      choiceSacrifice rt choice l := by
  have hsorted : sortBy (ascending (·.totalCost)) ((l.map (CandidateEvaluation.rename f)).filter
      fun c => c.status = .comparable && c.totalCost.isSome) =
        (sortBy (ascending (·.totalCost)) (l.filter fun c =>
          c.status = .comparable && c.totalCost.isSome)).map (CandidateEvaluation.rename f) := by
    rw [List.filter_map]
    exact sortBy_map fun _ _ _ _ => rfl
  simp only [Policy.choiceSacrifice, hsorted, List.head?_map]
  cases hhead : (sortBy (ascending (·.totalCost)) (l.filter fun c =>
      c.status = .comparable && c.totalCost.isSome)).head? with
  | none => rfl
  | some cheapest =>
    have hmem : cheapest ∈ l :=
      (List.mem_filter.mp (mem_sortBy.mp (List.mem_of_mem_head? hhead))).1
    have heq := h.eq_iff hmem hchoice
    simp only [Option.map_some, CandidateEvaluation.rename, heq]

theorem Renames.distinctChoice (hchoice : choice ∈ l) :
    distinctChoice rt (choice.rename f) (l.map (CandidateEvaluation.rename f)) (input.rename f)
      settings = (distinctChoice rt choice l input settings).rename f := by
  have hresolve : resolveDecisionTie rt
      ((Policy.alternativesTo choice l).map (CandidateEvaluation.rename f))
        (descending (·.personalUtilityScore)) candidatePresentationProjection =
      (resolveDecisionTie rt (Policy.alternativesTo choice l) (descending (·.personalUtilityScore))
        candidatePresentationProjection).map (CandidateEvaluation.rename f) :=
    resolveDecisionTie_map (fun a _ b _ => rfl) fun a _ => rfl
  have hid : (choice.rename f).solutionId = f choice.solutionId := rfl
  unfold Policy.distinctChoice
  simp only [h.alternativesTo hchoice, hresolve, h.choiceSacrifice hchoice, hid,
    h.evidenceFor hchoice]
  generalize resolveDecisionTie rt (Policy.alternativesTo choice l)
    (descending (·.personalUtilityScore)) candidatePresentationProjection = resolution
  have hcomparison : (resolution.map (CandidateEvaluation.rename f)).presentationRepresentative.or
      (if (resolution.map (CandidateEvaluation.rename f)).classification = .decisionallyDistinct then
        (resolution.map (CandidateEvaluation.rename f)).leaders.head? else none) =
      (resolution.presentationRepresentative.or
        (if resolution.classification = .decisionallyDistinct then resolution.leaders.head?
          else none)).map (CandidateEvaluation.rename f) := by
    simp only [TieResolution.map, List.head?_map]
    cases resolution.presentationRepresentative <;> cases resolution.classification <;> rfl
  simp only [hcomparison, decisiveDimension_rename, Selection.rename, Option.map_some,
    List.map_cons, List.map_nil, h.singleton hchoice]
  rfl

theorem Renames.equivalentChoice {resolution : TieResolution CandidateEvaluation}
    (hleaders : ∀ c ∈ resolution.leaders, c ∈ l) (profile : Profile) :
    equivalentChoice profile (resolution.map (CandidateEvaluation.rename f)) =
      (equivalentChoice profile resolution).rename f := by
  simp only [Policy.equivalentChoice, Selection.rename, TieResolution.map,
    h.uniqueSortedTexts hleaders, Option.map_map]
  rfl

omit h in
theorem unavailableRole_rename (role : Role) (status : SelectionStatus) (reasonCode : String) :
    (unavailableRole role status reasonCode).rename f = unavailableRole role status reasonCode := rfl

theorem Renames.tiedRole {leaders : List CandidateEvaluation}
    {representative : Option CandidateEvaluation} (hleaders : ∀ c ∈ leaders, c ∈ l) (role : Role)
    (reasonCode : String) :
    tiedRole role reasonCode (leaders.map (CandidateEvaluation.rename f))
      (representative.map (CandidateEvaluation.rename f)) =
      (tiedRole role reasonCode leaders representative).rename f := by
  simp only [Policy.tiedRole, Selection.rename, h.uniqueSortedTexts hleaders, Option.map_map]
  rfl

omit h in
/-- Where the selected candidate of a role comes from. -/
theorem selected_mem {α : Type} {resolution : TieResolution α} {a : α}
    (hrep : ∀ a, resolution.presentationRepresentative = some a → a ∈ resolution.leaders)
    (hselected : resolution.selected = some a) : a ∈ resolution.leaders := by
  unfold TieResolution.selected at hselected
  cases hpresented : resolution.presentationRepresentative with
  | some b =>
    rw [hpresented] at hselected
    cases hselected
    exact hrep a hpresented
  | none =>
    rw [hpresented] at hselected
    exact List.mem_of_mem_head? hselected

def Saving.rename (f : String → String) (s : Saving) : Saving :=
  { s with candidate := s.candidate.rename f }

def Upgrade.rename (f : String → String) (u : Upgrade) : Upgrade :=
  { u with candidate := u.candidate.rename f }

theorem Renames.differs (hc : c ∈ l) (hchoice : choice ∈ l) :
    decide ((c.rename f).solutionId ≠ (choice.rename f).solutionId) =
      decide (c.solutionId ≠ choice.solutionId) :=
  decide_eq_decide.mpr (h.eq_iff hc hchoice).not

theorem Renames.saving? (hchoice : choice ∈ l) (hc : c ∈ l) :
    saving? (choice.rename f) (c.rename f) = (saving? choice c).map (Saving.rename f) := by
  simp only [Policy.saving?, Option.bind_eq_bind, Option.map_bind, Function.comp_def]
  refine Option.bind_congr fun choiceCost _ => Option.bind_congr fun choiceExperience _ =>
    Option.bind_congr fun choiceQuality _ => Option.bind_congr fun cost _ =>
      Option.bind_congr fun experience _ => Option.bind_congr fun quality _ => ?_
  rw [apply_ite (Option.map (Saving.rename f))]
  exact if_congr (iff_of_eq (congrArg (fun differs : Bool =>
    (decide (c.status = .comparable) && differs && decide (cost < choiceCost) &&
      decide (6 / 10 ≤ c.evidenceCoverage)) = true) (h.differs hc hchoice))) rfl rfl

theorem Renames.upgrade? (hchoice : choice ∈ l) (hc : c ∈ l) :
    upgrade? (choice.rename f) (c.rename f) = (upgrade? choice c).map (Upgrade.rename f) := by
  simp only [Policy.upgrade?, Option.bind_eq_bind, Option.map_bind, Function.comp_def]
  refine Option.bind_congr fun choiceCost _ => Option.bind_congr fun choiceExperience _ =>
    Option.bind_congr fun cost _ => Option.bind_congr fun experience _ => ?_
  rw [apply_ite (Option.map (Upgrade.rename f))]
  exact if_congr (iff_of_eq (congrArg (fun differs : Bool =>
    (decide (c.status = .comparable) && differs && decide (choiceCost < cost) &&
      decide (6 / 10 ≤ c.evidenceCoverage)) = true) (h.differs hc hchoice))) rfl rfl

omit h in
theorem candidate_saving? {s : Saving} (hs : saving? choice c = some s) : s.candidate = c := by
  simp only [saving?, Option.bind_eq_bind, Option.bind_eq_some_iff] at hs
  obtain ⟨_, _, _, _, _, _, _, _, _, _, _, _, hs⟩ := hs
  split at hs
  · cases hs
    rfl
  · cases hs

omit h in
theorem candidate_upgrade? {u : Upgrade} (hu : upgrade? choice c = some u) : u.candidate = c := by
  simp only [upgrade?, Option.bind_eq_bind, Option.bind_eq_some_iff] at hu
  obtain ⟨_, _, _, _, _, _, _, _, hu⟩ := hu
  split at hu
  · cases hu
    rfl
  · cases hu

omit h in
/-- What passes a test among the alternatives made of renamed candidates. -/
theorem filterMap_rename {α : Type} {g g' : CandidateEvaluation → Option α} {r : α → α}
    {p : α → Bool} (hg : ∀ c ∈ l, g' (c.rename f) = (g c).map r) (hp : ∀ a, p (r a) = p a) :
    ((l.map (CandidateEvaluation.rename f)).filterMap g').filter p =
      ((l.filterMap g).filter p).map r := by
  have hmap : (l.map (CandidateEvaluation.rename f)).filterMap g' = (l.filterMap g).map r := by
    rw [List.filterMap_map, List.map_filterMap]
    exact List.filterMap_congr fun c hc => hg c hc
  rw [hmap, List.filter_map]
  exact congrArg _ (List.filter_congr fun a _ => hp a)

/-- A role made of a resolution: none, tied, or selected. -/
def resolvedRole {α : Type} (role : Role) (missingCode tiedCode : String)
    (candidate : α → CandidateEvaluation) (select : α → Selection) (resolution : TieResolution α) :
    Selection :=
  match resolution.selected, resolution.classification with
  | none, _ => unavailableRole role .notApplicable missingCode
  | some _, .decisionallyEquivalent => Policy.tiedRole role tiedCode
      (resolution.leaders.map candidate) (resolution.presentationRepresentative.map candidate)
  | some selected, .decisionallyDistinct => select selected

theorem Renames.resolvedRole {α : Type} {resolution : TieResolution α} {r : α → α}
    {candidate : α → CandidateEvaluation} {select select' : α → Selection}
    (hrep : ∀ a, resolution.presentationRepresentative = some a → a ∈ resolution.leaders)
    (hleaders : ∀ a ∈ resolution.leaders, candidate a ∈ l)
    (hcandidate : ∀ a, candidate (r a) = (candidate a).rename f)
    (hselect : ∀ a ∈ resolution.leaders, select' (r a) = (select a).rename f)
    (role : Role) (missingCode tiedCode : String) :
    resolvedRole role missingCode tiedCode candidate select' (resolution.map r) =
      (resolvedRole role missingCode tiedCode candidate select resolution).rename f := by
  unfold Policy.resolvedRole
  rw [selected_map]
  cases hselected : resolution.selected with
  | none => rfl
  | some a =>
    cases hclass : resolution.classification with
    | decisionallyDistinct =>
      simp only [Option.map_some, TieResolution.map, hclass]
      exact hselect a (selected_mem hrep hselected)
    | decisionallyEquivalent =>
      have hmap : (resolution.leaders.map r).map candidate =
          (resolution.leaders.map candidate).map (CandidateEvaluation.rename f) := by
        simp [hcandidate]
      have hpresented : (resolution.presentationRepresentative.map r).map candidate =
          (resolution.presentationRepresentative.map candidate).map
            (CandidateEvaluation.rename f) := by
        simp [hcandidate, Function.comp_def]
      have hmem : ∀ c ∈ resolution.leaders.map candidate, c ∈ l := by
        simpa using hleaders
      simp only [Option.map_some, TieResolution.map, hclass, hmap, hpresented]
      exact h.tiedRole hmem role tiedCode

theorem Renames.savingSelection {s : Saving} (hs : s.candidate ∈ l) :
    savingSelection rt (s.rename f) (input.rename f) settings =
      (savingSelection rt s input settings).rename f := by
  have hid : (s.rename f).candidate.solutionId = f s.candidate.solutionId := rfl
  simp only [Policy.savingSelection, Selection.rename, hid, h.evidenceFor hs, Option.map_some,
    List.map_cons, List.map_nil, h.singleton hs]
  rfl

theorem Renames.upgradeSelection {u : Upgrade} (hu : u.candidate ∈ l) :
    upgradeSelection rt (u.rename f) (input.rename f) settings =
      (upgradeSelection rt u input settings).rename f := by
  have hid : (u.rename f).candidate.solutionId = f u.candidate.solutionId := rfl
  simp only [Policy.upgradeSelection, Selection.rename, hid, h.evidenceFor hu, Option.map_some,
    List.map_cons, List.map_nil, h.singleton hu]
  rfl

instance : Std.TransCmp compareSavings := inferInstanceAs (Std.TransCmp (compareLex _ _))

instance : Std.TransCmp compareUpgrades := inferInstanceAs (Std.TransCmp (compareLex _ _))

/-- The alternatives that the saving is resolved among. -/
def eligibleSavings (settings : ProfileSettings) (choice : CandidateEvaluation)
    (candidates : List CandidateEvaluation) : List Saving :=
  (candidates.filterMap (saving? choice)).filter fun s =>
    s.qualityLoss ≤ settings.savingQualityLossTolerance &&
      s.experienceLoss ≤ settings.savingExperienceLossTolerance

/-- The alternatives that the upgrade is resolved among. -/
def eligibleUpgrades (settings : ProfileSettings) (choice : CandidateEvaluation)
    (candidates : List CandidateEvaluation) : List Upgrade :=
  (candidates.filterMap (upgrade? choice)).filter fun u =>
    settings.upgradeMinimumExperienceGain ≤ u.experienceGain &&
      settings.upgradeMinimumMarginalValuePer100 ≤ u.marginalValuePer100

omit h in
theorem savingRole_eq (hchoice : (choice.totalCost.isNone || choice.experienceScore.isNone ||
    choice.qualityScore.isNone) = false) : savingRole rt choice l input settings =
      resolvedRole .bestSensibleSaving "saving:no-cheaper-option-within-loss-tolerance"
        "saving:decisionally-equivalent" (·.candidate)
        (fun s => savingSelection rt s input settings)
        (resolveDecisionTie rt (eligibleSavings settings choice l) compareSavings (·.projection)) := by
  simp only [savingRole, hchoice, Bool.false_eq_true, if_false, resolvedRole, eligibleSavings]
  generalize resolveDecisionTie rt _ compareSavings _ = resolution
  cases resolution.selected <;> cases resolution.classification <;> rfl

omit h in
theorem upgradeRole_eq
    (hchoice : (choice.totalCost.isNone || choice.experienceScore.isNone) = false) :
    upgradeRole rt choice l input settings =
      resolvedRole .worthwhileComfortUpgrade "upgrade:no-option-meets-marginal-value-threshold"
        "upgrade:decisionally-equivalent" (·.candidate)
        (fun u => upgradeSelection rt u input settings)
        (resolveDecisionTie rt (eligibleUpgrades settings choice l) compareUpgrades
          (·.projection)) := by
  simp only [upgradeRole, hchoice, Bool.false_eq_true, if_false, resolvedRole, eligibleUpgrades]
  generalize resolveDecisionTie rt _ compareUpgrades _ = resolution
  cases resolution.selected <;> cases resolution.classification <;> rfl

theorem Renames.savingRole (hchoice : choice ∈ l) :
    savingRole rt (choice.rename f) (l.map (CandidateEvaluation.rename f)) (input.rename f)
      settings = (savingRole rt choice l input settings).rename f := by
  cases hcomplete : choice.totalCost.isNone || choice.experienceScore.isNone ||
      choice.qualityScore.isNone with
  | true =>
    have hcomplete' : ((choice.rename f).totalCost.isNone ||
        (choice.rename f).experienceScore.isNone || (choice.rename f).qualityScore.isNone) = true :=
      hcomplete
    simp only [Policy.savingRole, hcomplete, hcomplete', if_true]
    rfl
  | false =>
    have heligible : eligibleSavings settings (choice.rename f)
        (l.map (CandidateEvaluation.rename f)) =
          (eligibleSavings settings choice l).map (Saving.rename f) :=
      filterMap_rename (fun c hc => h.saving? hchoice hc) fun s => rfl
    have hresolve : resolveDecisionTie rt ((eligibleSavings settings choice l).map
        (Saving.rename f)) compareSavings (·.projection) =
          (resolveDecisionTie rt (eligibleSavings settings choice l) compareSavings
            (·.projection)).map (Saving.rename f) :=
      resolveDecisionTie_map (fun _ _ _ _ => rfl) fun _ _ => rfl
    have hleaders : ∀ s ∈ (resolveDecisionTie rt (eligibleSavings settings choice l)
        compareSavings (·.projection)).leaders, s.candidate ∈ l := by
      intro s hs
      obtain ⟨c, hc, hsaving⟩ :=
        List.mem_filterMap.mp (List.mem_filter.mp (mem_leaders.mp hs).1).1
      exact candidate_saving? hsaving ▸ hc
    have hcomplete' : ((choice.rename f).totalCost.isNone ||
        (choice.rename f).experienceScore.isNone || (choice.rename f).qualityScore.isNone) = false :=
      hcomplete
    rw [savingRole_eq hcomplete', savingRole_eq hcomplete, heligible, hresolve]
    exact h.resolvedRole representative_spec.1 hleaders (fun _ => rfl)
      (fun s hs => h.savingSelection (hleaders s hs)) _ _ _

theorem Renames.upgradeRole (hchoice : choice ∈ l) :
    upgradeRole rt (choice.rename f) (l.map (CandidateEvaluation.rename f)) (input.rename f)
      settings = (upgradeRole rt choice l input settings).rename f := by
  cases hcomplete : choice.totalCost.isNone || choice.experienceScore.isNone with
  | true =>
    have hcomplete' : ((choice.rename f).totalCost.isNone ||
        (choice.rename f).experienceScore.isNone) = true := hcomplete
    simp only [Policy.upgradeRole, hcomplete, hcomplete', if_true]
    rfl
  | false =>
    have heligible : eligibleUpgrades settings (choice.rename f)
        (l.map (CandidateEvaluation.rename f)) =
          (eligibleUpgrades settings choice l).map (Upgrade.rename f) :=
      filterMap_rename (fun c hc => h.upgrade? hchoice hc) fun u => rfl
    have hresolve : resolveDecisionTie rt ((eligibleUpgrades settings choice l).map
        (Upgrade.rename f)) compareUpgrades (·.projection) =
          (resolveDecisionTie rt (eligibleUpgrades settings choice l) compareUpgrades
            (·.projection)).map (Upgrade.rename f) :=
      resolveDecisionTie_map (fun _ _ _ _ => rfl) fun _ _ => rfl
    have hleaders : ∀ u ∈ (resolveDecisionTie rt (eligibleUpgrades settings choice l)
        compareUpgrades (·.projection)).leaders, u.candidate ∈ l := by
      intro u hu
      obtain ⟨c, hc, hupgrade⟩ :=
        List.mem_filterMap.mp (List.mem_filter.mp (mem_leaders.mp hu).1).1
      exact candidate_upgrade? hupgrade ▸ hc
    have hcomplete' : ((choice.rename f).totalCost.isNone ||
        (choice.rename f).experienceScore.isNone) = false := hcomplete
    rw [upgradeRole_eq hcomplete', upgradeRole_eq hcomplete, heligible, hresolve]
    exact h.resolvedRole representative_spec.1 hleaders (fun _ => rfl)
      (fun u hu => h.upgradeSelection (hleaders u hu)) _ _ _

theorem Renames.choiceRole {resolution : TieResolution CandidateEvaluation}
    (hleaders : ∀ c ∈ resolution.leaders, c ∈ l) (hchoice : choice ∈ l) :
    choiceRole rt (resolution.map (CandidateEvaluation.rename f)) (choice.rename f)
      (l.map (CandidateEvaluation.rename f)) (input.rename f) settings =
      (choiceRole rt resolution choice l input settings).rename f := by
  cases hclass : resolution.classification with
  | decisionallyDistinct =>
    simp only [Policy.choiceRole, TieResolution.map, hclass]
    exact h.distinctChoice hchoice
  | decisionallyEquivalent =>
    have hequivalent := h.equivalentChoice hleaders input.profile
    simp only [Policy.choiceRole, hclass]
    rw [← hequivalent]
    simp only [TieResolution.map, hclass]
    rfl

/-- The portfolio among renamed candidates. -/
theorem Renames.createPortfolio {resolution : Option (TieResolution CandidateEvaluation)}
    (hrep : ∀ r, resolution = some r → ∀ c, r.presentationRepresentative = some c → c ∈ r.leaders)
    (hleaders : ∀ r, resolution = some r → ∀ c ∈ r.leaders, c ∈ l) :
    createPortfolio rt (input.rename f) settings (l.map (CandidateEvaluation.rename f))
      (resolution.map (TieResolution.map (CandidateEvaluation.rename f))) =
      (createPortfolio rt input settings l resolution).rename f := by
  cases resolution with
  | none => rfl
  | some r =>
    have hleaders' := hleaders r rfl
    cases hselected : r.selected with
    | none =>
      simp only [Policy.createPortfolio, Option.map_some, selected_map, hselected, Option.map_none,
        Portfolio.rename, ← h.equivalentChoice hleaders']
      rfl
    | some c =>
      have hc : c ∈ l := hleaders' c (selected_mem (hrep r rfl) hselected)
      cases hclass : r.classification with
      | decisionallyDistinct =>
        have hclass' : (r.map (CandidateEvaluation.rename f)).classification =
            .decisionallyDistinct := hclass
        simp only [Policy.createPortfolio, Option.map_some, selected_map, hselected, hclass, hclass',
          h.choiceRole hleaders' hc, h.savingRole hc, h.upgradeRole hc, Portfolio.rename,
          unavailableRole_rename]
      | decisionallyEquivalent =>
        have hclass' : (r.map (CandidateEvaluation.rename f)).classification =
            .decisionallyEquivalent := hclass
        simp only [Policy.createPortfolio, Option.map_some, selected_map, hselected, hclass, hclass',
          h.choiceRole hleaders' hc, Portfolio.rename, unavailableRole_rename]

end Portfolio

/-! ## 5. Neutrality -/

theorem chooseBestChoice_mem {profile : Profile} {resolution : TieResolution CandidateEvaluation}
    (hchoice : chooseBestChoice rt l profile settings = some resolution) :
    ∀ c ∈ resolution.leaders, c ∈ l := by
  simp only [chooseBestChoice] at hchoice
  split at hchoice
  · cases hchoice
  · simp only [Option.some.injEq] at hchoice
    subst hchoice
    intro c hc
    have hconsidered := (mem_leaders.mp hc).1
    split at hconsidered
    · exact (List.mem_filter.mp (mem_experienceBand.mp hconsidered).1).1
    · exact (List.mem_filter.mp hconsidered).1

def PolicyPayload.portfolio (p : PolicyPayload) : Portfolio :=
  ⟨p.bestChoice, p.bestSensibleSaving, p.worthwhileComfortUpgrade, p.split⟩

/-- Every order of the solutions gives one result, and its replay is verified. -/
def OrderNeutral (rt : Runtime) (input : PolicyInput) : Prop :=
  ∀ solutions : List SolutionInput, solutions.Perm input.solutions →
    runPersonalUtilityRolePolicy rt { input with solutions } =
      runPersonalUtilityRolePolicy rt input ∧
    ∀ result, runPersonalUtilityRolePolicy rt input = .ok result →
      verifyPersonalUtilityRolePolicyReplay rt { input with solutions } result = .ok true

/-- New ids give the same candidates and the same portfolio under the new ids. -/
def IdentityNeutral (rt : Runtime) (input : PolicyInput) : Prop :=
  ∀ f, Renaming f (input.solutions.map (·.solutionId)) →
    ∀ result, runPersonalUtilityRolePolicy rt input = .ok result →
      ∃ result', runPersonalUtilityRolePolicy rt (input.rename f) = .ok result' ∧
        result'.status = result.status ∧
        result'.candidates = result.candidates.map (CandidateEvaluation.rename f) ∧
        result'.portfolio = result.portfolio.rename f

/-- What is computed from a renamed input. -/
theorem createPayload_rename (h : Renames f input (evaluateCandidates input
    (cloneSettings input.profile input.nights))) :
    (createPayload rt (input.rename f)).status = (createPayload rt input).status ∧
    (createPayload rt (input.rename f)).candidates =
      (createPayload rt input).candidates.map (CandidateEvaluation.rename f) ∧
    (createPayload rt (input.rename f)).portfolio = (createPayload rt input).portfolio.rename f := by
  have hcandidates : evaluateCandidates (input.rename f) (cloneSettings input.profile input.nights) =
      (evaluateCandidates input (cloneSettings input.profile input.nights)).map
        (CandidateEvaluation.rename f) := evaluateCandidates_rename h.apart.injOn
  have hchoice : chooseBestChoice rt
      ((evaluateCandidates input (cloneSettings input.profile input.nights)).map
        (CandidateEvaluation.rename f)) input.profile (cloneSettings input.profile input.nights) =
      (chooseBestChoice rt (evaluateCandidates input (cloneSettings input.profile input.nights))
        input.profile (cloneSettings input.profile input.nights)).map
          (TieResolution.map (CandidateEvaluation.rename f)) := chooseBestChoice_rename input.profile
  have hportfolio : createPortfolio rt (input.rename f) (cloneSettings input.profile input.nights)
      ((evaluateCandidates input (cloneSettings input.profile input.nights)).map
        (CandidateEvaluation.rename f))
      ((chooseBestChoice rt (evaluateCandidates input (cloneSettings input.profile input.nights))
        input.profile (cloneSettings input.profile input.nights)).map
          (TieResolution.map (CandidateEvaluation.rename f))) = _ :=
    h.createPortfolio (fun r hr => (chooseBestChoice_representative hr).1)
      fun r hr => chooseBestChoice_mem hr
  have hprofile : (input.rename f).profile = input.profile := rfl
  have hnights : (input.rename f).nights = input.nights := rfl
  refine ⟨?_, hcandidates, ?_⟩
  · simp only [createPayload, hprofile, hnights, hcandidates, hchoice]
    cases chooseBestChoice rt (evaluateCandidates input (cloneSettings input.profile input.nights))
      input.profile (cloneSettings input.profile input.nights) <;> rfl
  · simp only [PolicyPayload.portfolio, createPayload, hprofile, hnights, hcandidates, hchoice,
      hportfolio, Portfolio.rename]

theorem identityNeutral (rt : Runtime) (input : PolicyInput) : IdentityNeutral rt input := by
  intro f hf result hrun
  obtain ⟨haccepted, rfl⟩ := run_spec.mp hrun
  have hids := canonicalInput_ids rt input
  have hrenames : Renames f (canonicalInput rt input) (evaluateCandidates (canonicalInput rt input)
      (cloneSettings input.profile input.nights)) := by
    refine ⟨⟨fun x hx y hy => hf.injOn (hids.mem_iff.mp hx) (hids.mem_iff.mp hy),
      fun id hid => hf.nonblank id (hids.mem_iff.mp hid)⟩, fun id hid => ?_, fun c hc => ?_⟩
    · obtain ⟨s, hs, rfl⟩ := List.mem_map.mp (hids.mem_iff.mp hid)
      exact Nat.pos_of_ne_zero (haccepted.valid s hs).id_ne
    · rw [← ids_evaluateCandidates]
      exact List.mem_map_of_mem hc
  refine ⟨_, run_spec.mpr ⟨haccepted.rename hf, rfl⟩, ?_⟩
  rw [canonicalInput_rename]
  exact createPayload_rename hrenames

/-- **Neutrality.** Ids never matter. The order of the solutions does not matter exactly when no
    two of them have one decision projection. -/
theorem policy_neutral_iff {result : PolicyResult}
    (h : runPersonalUtilityRolePolicy rt input = .ok result) :
    OrderNeutral rt input ∧ IdentityNeutral rt input ↔ ProjectionsDistinct rt input := by
  obtain ⟨haccepted, -⟩ := run_spec.mp h
  constructor
  · rintro ⟨horder, -⟩
    refine List.pairwise_iff_forall_sublist.mpr fun {a b} hab heq => ?_
    obtain ⟨rest, hrest⟩ := hab.exists_perm_append
    have haccepted' := haccepted.perm hrest.symm
    have hswap : (b :: a :: rest).Perm input.solutions :=
      (List.Perm.swap a b rest).trans hrest.symm
    exact run_swap_ne haccepted' heq
      ((horder _ hswap).1.trans (horder _ hrest.symm).1.symm)
  · intro hdistinct
    refine ⟨fun solutions hperm => ?_, identityNeutral rt input⟩
    have hrun := run_perm haccepted hdistinct hperm
    exact ⟨hrun, fun result' hresult => verify_of_run_eq (hrun.trans hresult)⟩

/-- Two stays of one cost and one score. -/
def twinStays : PolicyInput := { twoStays with solutions := [stay "a" 200 90, stay "b" 200 90] }

theorem twinStays_accepted : Accepted twinStays := assertInput_ok.mp (by decide +kernel)

/-- The two stays differ in their ids only, which the projection leaves out. -/
theorem twinStays_tied :
    compareSolutions plainRuntime (stay "a" 200 90) (stay "b" 200 90) = .eq := by
  have hself : compareSolutions plainRuntime (stay "a" 200 90) (stay "a" 200 90) = .eq :=
    Std.ReflCmp.compare_self
  exact hself

theorem policy_neutral_twinStays :
    ¬ (OrderNeutral plainRuntime twinStays ∧ IdentityNeutral plainRuntime twinStays) := by
  rw [policy_neutral_iff (run_spec.mpr ⟨twinStays_accepted, rfl⟩)]
  simp [ProjectionsDistinct, twinStays, twinStays_tied]

/-- The twins in the other order give another result. -/
theorem policy_not_neutral :
    (∃ result, runPersonalUtilityRolePolicy plainRuntime twinStays = .ok result) ∧
    runPersonalUtilityRolePolicy plainRuntime
      { twinStays with solutions := [stay "b" 200 90, stay "a" 200 90] } ≠
        runPersonalUtilityRolePolicy plainRuntime twinStays :=
  ⟨⟨_, run_spec.mpr ⟨twinStays_accepted, rfl⟩⟩, run_swap_ne twinStays_accepted twinStays_tied⟩

end SmartStay.Policy
