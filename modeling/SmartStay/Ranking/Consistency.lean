import SmartStay.Lib.Fallible
import SmartStay.Lib.Precedence
import SmartStay.Ranking.Evaluation

/-!
# The rankings are permutations of the input

1. `validateInput_ok`: accepted inputs.
2. `compareBaseCandidates` is a strict order on distinct hotels.
3. `groupEquivalent_flatten`, `stableCandidates_perm`: bands and stable candidates.
4. `anchorsFrom_sublist`: the anchors are added to what is selected.
-/

namespace SmartStay.Ranking

open JsSort Precedence

variable {pf : Platform} {o : ResolvedOptions} {previous : List String}

/-! ## 1. Accepted inputs -/

/-- The ids under which the engine knows the candidates. -/
def hotelIds (candidates : List Candidate) : List String :=
  candidates.map fun c => JsText.trim c.hotelId

/-- The input that `validateInput` lets through. -/
structure Accepted (input : RankingInput) : Prop where
  nonblank : ∀ id ∈ hotelIds input.candidates, id ≠ ""
  nodup : (hotelIds input.candidates).Nodup
  components : ∀ c ∈ input.candidates, ∀ id ∈ componentHotelIds c, id = JsText.trim c.hotelId
  signatures : ∀ c ∈ input.candidates, ∀ d ∈ input.candidates,
    createPreferenceSignature c.utility = createPreferenceSignature d.utility
  previous_nonblank : ∀ id ∈ input.previousRankingHotelIds.map JsText.trim, id ≠ ""
  previous_nodup : (input.previousRankingHotelIds.map JsText.trim).Nodup

theorem validateCandidates_ok {candidates : List Candidate} {seen : List String}
    {signature : Option String} {u : Unit} : validateCandidates candidates seen signature = .ok u ↔
      (∀ c ∈ candidates, JsText.trim c.hotelId ≠ "" ∧ JsText.trim c.hotelId ∉ seen ∧
        ∀ id ∈ componentHotelIds c, id = JsText.trim c.hotelId) ∧
      (hotelIds candidates).Nodup ∧
      (∀ c ∈ candidates, ∀ s, signature = some s → s = createPreferenceSignature c.utility) ∧
      ∀ c ∈ candidates, ∀ d ∈ candidates,
        createPreferenceSignature c.utility = createPreferenceSignature d.utility := by
  induction candidates generalizing seen signature with
  | nil => simp [validateCandidates, hotelIds]
  | cons c rest ih =>
    simp only [validateCandidates, Fallible.errorIf_ok, ih]
    have hcomponents : (¬ ((componentHotelIds c).any fun id => id ≠ JsText.trim c.hotelId) = true) ↔
        ∀ id ∈ componentHotelIds c, id = JsText.trim c.hotelId := by
      simp
    have hsignature : (¬ (signature.any fun s => s ≠ createPreferenceSignature c.utility) = true) ↔
        ∀ s, signature = some s → s = createPreferenceSignature c.utility := by
      cases signature <;> simp
    rw [hcomponents, hsignature]
    simp only [List.contains_iff_mem, List.mem_append, List.mem_singleton, Option.some.injEq,
      hotelIds, List.map_cons, List.nodup_cons, List.mem_map]
    constructor
    · rintro ⟨hne, hseen, hids, hsig, hrest, hnodup, hsame, hall⟩
      have heq : ∀ d ∈ rest,
          createPreferenceSignature c.utility = createPreferenceSignature d.utility :=
        fun d hd => hsame d hd _ rfl
      refine ⟨List.forall_mem_cons.mpr ⟨⟨hne, hseen, hids⟩, fun d hd => ?_⟩, ⟨?_, hnodup⟩,
        List.forall_mem_cons.mpr ⟨hsig, fun d hd s hs => (hsig s hs).trans (heq d hd)⟩, ?_⟩
      · obtain ⟨hd1, hd2, hd3⟩ := hrest d hd
        exact ⟨hd1, fun h => hd2 (.inl h), hd3⟩
      · rintro ⟨d, hd, hdc⟩
        exact (hrest d hd).2.1 (.inr hdc)
      · refine List.forall_mem_cons.mpr ⟨List.forall_mem_cons.mpr ⟨rfl, heq⟩, fun d hd =>
          List.forall_mem_cons.mpr ⟨(heq d hd).symm, hall d hd⟩⟩
    · rintro ⟨hids, ⟨hnotMem, hnodup⟩, hsig, hall⟩
      obtain ⟨⟨hne, hseen, hc⟩, hrest⟩ := List.forall_mem_cons.mp hids
      refine ⟨hne, hseen, hc, hsig c List.mem_cons_self, fun d hd => ?_, hnodup, ?_, fun d hd e he =>
        hall d (List.mem_cons_of_mem _ hd) e (List.mem_cons_of_mem _ he)⟩
      · obtain ⟨hd1, hd2, hd3⟩ := hrest d hd
        refine ⟨hd1, ?_, hd3⟩
        rintro (h | h)
        · exact hd2 h
        · exact hnotMem ⟨d, hd, h⟩
      · rintro d hd s rfl
        exact hall c List.mem_cons_self d (List.mem_cons_of_mem _ hd)

theorem validatePrevious_ok {ids seen : List String} {u : Unit} : validatePrevious ids seen = .ok u ↔
    (∀ id ∈ ids.map JsText.trim, id ≠ "" ∧ id ∉ seen) ∧ (ids.map JsText.trim).Nodup := by
  induction ids generalizing seen with
  | nil => simp [validatePrevious]
  | cons id rest ih =>
    simp only [validatePrevious, Fallible.errorIf_ok, ih, List.contains_iff_mem, List.mem_append,
      List.mem_singleton, List.map_cons, List.nodup_cons, not_or, List.forall_mem_cons]
    constructor
    · rintro ⟨hne, hseen, hrest, hnodup⟩
      exact ⟨⟨⟨hne, hseen⟩, fun x hx => ⟨(hrest x hx).1, (hrest x hx).2.1⟩⟩,
        fun hmem => (hrest _ hmem).2.2 rfl, hnodup⟩
    · rintro ⟨⟨⟨hne, hseen⟩, hrest⟩, hnotMem, hnodup⟩
      refine ⟨hne, hseen, fun x hx => ⟨(hrest x hx).1, (hrest x hx).2, ?_⟩, hnodup⟩
      rintro rfl
      exact hnotMem hx

theorem validateInput_ok {input : RankingInput} {u : Unit} :
    validateInput input = .ok u ↔ Accepted input := by
  unfold validateInput
  simp only [Fallible.bind_ok, validateCandidates_ok, validatePrevious_ok, List.not_mem_nil,
    not_false_eq_true, true_and, and_true]
  constructor
  · rintro ⟨-, ⟨hids, hnodup, -, hsame⟩, hprevious, hprevNodup⟩
    refine ⟨fun id hid => ?_, hnodup, fun c hc => (hids c hc).2, hsame, hprevious, hprevNodup⟩
    obtain ⟨c, hc, rfl⟩ := List.mem_map.mp hid
    exact (hids c hc).1
  · rintro ⟨hnonblank, hnodup, hcomponents, hsame, hprevious, hprevNodup⟩
    exact ⟨(), ⟨fun c hc => ⟨hnonblank _ (List.mem_map_of_mem hc), hcomponents c hc⟩, hnodup,
      fun _ _ => nofun, hsame⟩, hprevious, hprevNodup⟩

/-- Acceptance does not depend on the order of the candidates. -/
theorem Accepted.perm {input : RankingInput} {candidates : List Candidate}
    (h : Accepted input) (hperm : candidates.Perm input.candidates) :
    Accepted { input with candidates } where
  nonblank id hid := h.nonblank id ((hperm.map _).mem_iff.mp hid)
  nodup := (hperm.map _).nodup_iff.mpr h.nodup
  components c hc := h.components c (hperm.mem_iff.mp hc)
  signatures c hc d hd := h.signatures c (hperm.mem_iff.mp hc) d (hperm.mem_iff.mp hd)
  previous_nonblank := h.previous_nonblank
  previous_nodup := h.previous_nodup

/-! ## 2. The base order -/

theorem compareEligible_eq :
    compareEligible = compareOn fun c : NormalizedCandidate => !c.eligible := by
  funext first second
  cases hfirst : first.eligible <;> cases hsecond : second.eligible <;>
    simp [compareEligible, compareOn, hfirst, hsecond]
  all_goals rfl

/-- The fields of the base order, compared one after the other. -/
theorem compareBaseCandidates_eq : compareBaseCandidates =
    compareLex (compareOn fun c => !c.eligible) (compareLex
      (fun first second => compareOn (fun c : NormalizedCandidate => c.score.getD (-1)) second first)
      (compareLex (fun first second => compareOn (·.confidence) second first)
      (compareLex (fun first second => compareOn (·.coverage) second first)
      (compareLex (compareOn (·.riskScore))
      (compareLex (compareOn fun c : NormalizedCandidate =>
        (show WithTop ℚ from c.cost.map (·.amount)))
      (compareOn fun c => JsText.utf16 c.hotelId)))))) := by
  rw [← compareEligible_eq]
  rfl

instance : Std.TransCmp compareBaseCandidates := by
  rw [compareBaseCandidates_eq]
  infer_instance

theorem hotelId_eq_of_compare {a b : NormalizedCandidate} (h : compareBaseCandidates a b = .eq) :
    a.hotelId = b.hotelId := by
  simp only [compareBaseCandidates, Ordering.then_eq_eq] at h
  exact JsText.utf16_injective (Std.LawfulEqOrd.eq_of_compare h.2.2.2.2.2.2)

/-- Two orders of the same candidates are sorted into one. -/
theorem sortBy_perm_eq {candidates candidates' : List Candidate}
    (hperm : candidates'.Perm candidates) (hnodup : (hotelIds candidates).Nodup) :
    sortBy compareBaseCandidates (candidates'.map (normalizeCandidate pf)) =
      sortBy compareBaseCandidates (candidates.map (normalizeCandidate pf)) := by
  refine sortBy_eq_of_perm (hperm.map _) ?_
  have hids : ((candidates'.map (normalizeCandidate pf)).map (·.hotelId)).Nodup := by
    rw [List.map_map]
    exact (hperm.map _).nodup_iff.mpr hnodup
  exact (List.pairwise_map.mp hids).imp fun hne heq => hne (hotelId_eq_of_compare heq)

/-! ## 3. Bands -/

variable {l : List NormalizedCandidate}

theorem groupFrom_flatten {anchor : NormalizedCandidate} {current rest : List NormalizedCandidate} :
    (groupFrom o anchor current rest).flatten = current ++ rest := by
  induction rest generalizing anchor current with
  | nil => simp [groupFrom]
  | cons candidate rest ih =>
    unfold groupFrom
    split
    · rw [ih, List.append_assoc, List.singleton_append]
    · rw [List.flatten_cons, ih, List.singleton_append]

/-- The groups are consecutive. -/
theorem groupEquivalent_flatten (l : List NormalizedCandidate) :
    (groupEquivalent o l).flatten = l := by
  cases l with
  | nil => rfl
  | cons candidate rest => exact groupFrom_flatten

theorem groupFrom_ne_nil {anchor : NormalizedCandidate} {current rest : List NormalizedCandidate}
    (hcurrent : current ≠ []) : ∀ g ∈ groupFrom o anchor current rest, g ≠ [] := by
  induction rest generalizing anchor current with
  | nil =>
    intro g hg
    rwa [List.mem_singleton.mp hg]
  | cons candidate rest ih =>
    unfold groupFrom
    split
    · exact ih (by simp)
    · exact List.forall_mem_cons.mpr ⟨hcurrent, ih (by simp)⟩

theorem groupEquivalent_ne_nil : ∀ g ∈ groupEquivalent o l, g ≠ [] := by
  cases l with
  | nil => exact nofun
  | cons candidate rest => exact groupFrom_ne_nil (List.cons_ne_nil _ _)

theorem orderMembers_perm (previous : List String) (members : List NormalizedCandidate) :
    (orderMembers previous members).Perm members :=
  sortBy_perm _ _

theorem map_mapIdx {α β γ : Type} {f : Nat → α → β} {g : β → γ} {k : α → γ} (values : List α)
    (h : ∀ i a, g (f i a) = k a) : (values.mapIdx f).map g = values.map k := by
  refine List.ext_getElem? fun i => ?_
  rw [List.getElem?_map, List.getElem?_mapIdx, List.getElem?_map, Option.map_map]
  exact congrArg (fun k => Option.map k values[i]?) (funext fun a => h i a)

/-- The stable candidates are the members of the groups, each group in its order. -/
theorem stableCandidates_map (o : ResolvedOptions) (l : List NormalizedCandidate)
    (previous : List String) :
    (createStableCandidates o l previous).map (·.toNormalizedCandidate) =
      (groupEquivalent o l).flatMap (orderMembers previous) := by
  have hmembers : (createStableCandidates o l previous).map (·.toNormalizedCandidate) =
      ((groupEquivalent o l).flatMap fun members =>
        (orderMembers previous members).map fun member => (member, bandId members)).map Prod.fst :=
    map_mapIdx _ fun _ _ => rfl
  rw [hmembers, List.map_flatMap]
  simp only [List.map_map, Function.comp_def, List.map_id']

theorem stableCandidates_perm (o : ResolvedOptions) (l : List NormalizedCandidate)
    (previous : List String) :
    ((createStableCandidates o l previous).map (·.toNormalizedCandidate)).Perm l := by
  rw [stableCandidates_map]
  have hmembers : ((groupEquivalent o l).flatMap (orderMembers previous)).Perm
      ((groupEquivalent o l).flatMap id) :=
    List.Perm.flatMap_left _ fun members _ => orderMembers_perm previous members
  rwa [List.flatMap_id, groupEquivalent_flatten] at hmembers

theorem stableRank_eq {k : Nat} {c : StableCandidate}
    (h : (createStableCandidates o l previous)[k]? = some c) : c.stableRank = k + 1 := by
  simp only [createStableCandidates, List.getElem?_mapIdx, Option.map_eq_some_iff] at h
  obtain ⟨member, -, rfl⟩ := h
  rfl

/-! ## 4. The selection -/

variable {s : List StableCandidate}

/-- The ids of the candidates are distinct. -/
def DistinctIds (s : List StableCandidate) : Prop := (s.map (·.hotelId)).Nodup

theorem DistinctIds.inj (h : DistinctIds s) {a b : StableCandidate} (ha : a ∈ s) (hb : b ∈ s)
    (hab : a.hotelId = b.hotelId) : a = b :=
  List.inj_on_of_nodup_map h ha hb hab

theorem anchorsFrom_sublist {roles : List RecommendationRole} {selected : List StableCandidate} :
    ∃ tail, anchorsFrom s roles selected = selected ++ tail ∧ ∀ c ∈ tail, c ∈ s ∧
      c.source.recommendation.role ∈ roles := by
  induction roles generalizing selected with
  | nil => exact ⟨[], by simp [anchorsFrom]⟩
  | cons role rest ih =>
    unfold anchorsFrom
    dsimp only
    split
    · obtain ⟨tail, htail, hmem⟩ := @ih selected
      exact ⟨tail, htail, fun c hc => ⟨(hmem c hc).1, List.mem_cons_of_mem _ (hmem c hc).2⟩⟩
    · next candidate hfind =>
      obtain ⟨tail, htail, hmem⟩ := @ih (selected ++ [candidate])
      refine ⟨candidate :: tail, by rw [htail, List.append_assoc, List.singleton_append],
        List.forall_mem_cons.mpr ⟨⟨List.mem_of_find?_eq_some hfind, ?_⟩,
          fun c hc => ⟨(hmem c hc).1, List.mem_cons_of_mem _ (hmem c hc).2⟩⟩⟩
      have hrole := List.find?_some hfind
      simp only [Bool.and_eq_true, decide_eq_true_eq] at hrole
      rw [hrole.1.2]
      exact List.mem_cons_self

end SmartStay.Ranking
