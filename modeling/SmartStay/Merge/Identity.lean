import SmartStay.Merge.Records

/-!
# Hotels of one provider

A provider tells its hotels apart by their ids. The merge compares normalized ids, and
`normalizeText` is lossy: it folds letter case and accents and puts a blank for punctuation.

1. `DistinctInProvider`: two hotels that a provider tells apart.
2. `StayDistinct`: what the merge compares of them still differs.
3. `createHotelMergeKey_eq_iff`: keys of one provider.
4. `merges_distinct_iff`, `merges_different_ids`: hotels that are told apart are merged when nothing
   that is compared differs, for instance `A-1` and `A 1`.
-/

namespace SmartStay.Merge

open JsValue

variable (rt : MergeRuntime)

/-! ## 1. Different ids -/

/-- Two hotels of one provider with different ids. -/
structure DistinctInProvider (first second : Hotel) : Prop where
  provider : isMissing (member (some first) "sourceProvider") = false ∧
    isMissing (member (some second) "sourceProvider") = false
  sameProvider : textOf rt (member (some first) "sourceProvider") =
    textOf rt (member (some second) "sourceProvider")
  ids : isMissing (member (some first) "sourceHotelId") = false ∧
    isMissing (member (some second) "sourceHotelId") = false
  differentIds : textOf rt (member (some first) "sourceHotelId") ≠
    textOf rt (member (some second) "sourceHotelId")

def normalizedProvider (hotel : Hotel) : JsString :=
  normalizeText rt (member (some hotel) "sourceProvider")

def normalizedId (hotel : Hotel) : JsString := normalizeText rt (member (some hotel) "sourceHotelId")

/-- A hotel whose provider and id are not empty once they are normalized. -/
def HasSource (hotel : Hotel) : Prop := normalizedProvider rt hotel ≠ [] ∧ normalizedId rt hotel ≠ []

/-- What the merge compares of two hotels differs: the normalized ids, or the names and places of
hotels without such an id. -/
structure StayDistinct (first second : Hotel) : Prop where
  ids : HasSource rt first → HasSource rt second → normalizedId rt first ≠ normalizedId rt second
  descriptions : ¬ HasSource rt first → ¬ HasSource rt second →
    descriptiveKey rt (some first) = none ∨
      descriptiveKey rt (some first) ≠ descriptiveKey rt (some second)

variable {rt}

/-! ## 2. Keys -/

theorem joinParts_cons (first second : JsString) (rest : List JsString) :
    joinParts (first :: second :: rest) = first ++ (124 :: joinParts (second :: rest)) := by
  simp [joinParts, List.intercalate, JsString.ofString]
  rfl

/-- Texts that are not missing are normalized alike when they are equal. -/
theorem normalizeText_congr {first second : JsValue} (hfirst : isMissing first = false)
    (hsecond : isMissing second = false) (h : textOf rt first = textOf rt second) :
    normalizeText rt first = normalizeText rt second := by
  have hpresent : ∀ value : JsValue, isMissing value = false → normalizeText rt value =
      collapseSpaces (rt.replaceSymbols (rt.toLowerCase
        ((rt.normalizeNfkd (textOf rt value)).filter fun u => !isMark u)).trim) := by
    intro value hvalue
    match value, hvalue with
    | some (.bool _), _ | some (.num _), _ | some (.str _), _ | some (.arr _), _
    | some (.obj _), _ => rfl
  rw [hpresent first hfirst, hpresent second hsecond, h]

theorem sourceKey_of_hasSource {hotel : Hotel} (h : HasSource rt hotel) :
    sourceKey rt (some hotel) =
      some (joinParts [.ofString "source", normalizedProvider rt hotel, normalizedId rt hotel]) :=
  if_pos h

theorem sourceKey_eq_none {hotel : Hotel} (h : ¬ HasSource rt hotel) :
    sourceKey rt (some hotel) = none :=
  if_neg h

theorem head_joinParts {name : String} {u : CodeUnit} (h : (JsString.ofString name).head? = some u)
    (second : JsString) (rest : List JsString) :
    (joinParts (.ofString name :: second :: rest)).head? = some u := by
  rw [joinParts_cons, List.head?_append, h]
  rfl

/-- A key of a provider and its id is no key of a name and a place. -/
theorem sourceKey_ne_descriptiveKey {first second : Hotel} {key key' : JsString}
    (h : sourceKey rt (some first) = some key) (h' : descriptiveKey rt (some second) = some key') :
    key ≠ key' := by
  have hhead : key.head? = some 115 := by
    rw [sourceKey] at h
    split at h
    · rw [← Option.some.inj h]
      exact head_joinParts (by decide +kernel) ..
    · exact nomatch h
  have hhead' : key'.head? ≠ some 115 := by
    rw [descriptiveKey] at h'
    -- one case for each kind of key
    split at h'
    · rw [← Option.some.inj h', head_joinParts (u := 105) (by decide +kernel)]
      decide
    split at h'
    · rw [← Option.some.inj h', head_joinParts (u := 97) (by decide +kernel)]
      decide
    split at h'
    · rw [← Option.some.inj h', head_joinParts (u := 99) (by decide +kernel)]
      decide
    · exact nomatch h'
  rintro rfl
  exact hhead' hhead

/-! ## 3. Keys of one provider -/

theorem normalizedProvider_eq {first second : Hotel} (h : DistinctInProvider rt first second) :
    normalizedProvider rt first = normalizedProvider rt second :=
  normalizeText_congr h.provider.1 h.provider.2 h.sameProvider

/-- Two hotels at one index are the same. -/
theorem eq_of_index_eq {hotels : JsValue} {first second : Hotel × ℕ} (hfirst : first ∈ mergeable hotels)
    (hsecond : second ∈ mergeable hotels) (h : first.2 = second.2) : first = second := by
  unfold mergeable at hfirst hsecond
  split at hfirst
  · have hget := List.mem_zipIdx_iff_getElem?.mp (List.mem_filter.mp hfirst).1
    have hget' := List.mem_zipIdx_iff_getElem?.mp (List.mem_filter.mp hsecond).1
    rw [h, hget', Option.some.injEq] at hget
    exact Prod.ext hget.symm h
  · exact absurd hfirst List.not_mem_nil

/-- Hotels that their provider tells apart have one key when nothing that is compared differs. -/
theorem mergeKey_eq_iff {hotels : JsValue} {first second : Hotel × ℕ}
    (hfirst : first ∈ mergeable hotels) (hsecond : second ∈ mergeable hotels)
    (h : DistinctInProvider rt first.1 second.1) :
    mergeKey rt first = mergeKey rt second ↔ ¬ StayDistinct rt first.1 second.1 := by
  by_cases hsource : HasSource rt first.1 <;> by_cases hsource' : HasSource rt second.1
  · -- the normalized ids are compared
    have hkeys : mergeKey rt first = mergeKey rt second ↔
        normalizedId rt first.1 = normalizedId rt second.1 := by
      rw [mergeKey, mergeKey, createHotelMergeKey, createHotelMergeKey,
        sourceKey_of_hasSource hsource, sourceKey_of_hasSource hsource']
      simp only [Option.orElse_some, MergeKey.text.injEq, joinParts_cons, normalizedProvider_eq h,
        List.append_cancel_left_eq, List.cons.injEq, true_and]
      simp [joinParts, List.intercalate]
    rw [hkeys]
    constructor
    · exact fun heq hdistinct => hdistinct.ids hsource hsource' heq
    · intro hnot
      by_contra hne
      exact hnot ⟨fun _ _ => hne, fun hnone => absurd hsource hnone⟩
  · refine iff_of_false (fun heq => ?_) (not_not.mpr ⟨fun _ h => absurd h hsource', fun h =>
      absurd hsource h⟩)
    rw [mergeKey, mergeKey, createHotelMergeKey, createHotelMergeKey,
      sourceKey_of_hasSource hsource, sourceKey_eq_none hsource'] at heq
    cases hdescriptive : descriptiveKey rt (some second.1) with
    | none => simp [hdescriptive] at heq
    | some key =>
      refine sourceKey_ne_descriptiveKey (sourceKey_of_hasSource hsource) hdescriptive ?_
      simpa [hdescriptive] using heq
  · refine iff_of_false (fun heq => ?_) (not_not.mpr ⟨fun h => absurd h hsource, fun _ h =>
      absurd hsource' h⟩)
    rw [mergeKey, mergeKey, createHotelMergeKey, createHotelMergeKey,
      sourceKey_of_hasSource hsource', sourceKey_eq_none hsource] at heq
    cases hdescriptive : descriptiveKey rt (some first.1) with
    | none => simp [hdescriptive] at heq
    | some key =>
      refine sourceKey_ne_descriptiveKey (sourceKey_of_hasSource hsource') hdescriptive ?_
      simpa [hdescriptive, eq_comm] using heq
  · -- names and places are compared
    have hkeys : mergeKey rt first = mergeKey rt second ↔
        descriptiveKey rt (some first.1) ≠ none ∧
          descriptiveKey rt (some first.1) = descriptiveKey rt (some second.1) := by
      rw [mergeKey, mergeKey, createHotelMergeKey, createHotelMergeKey,
        sourceKey_eq_none hsource, sourceKey_eq_none hsource']
      cases hdescriptive : descriptiveKey rt (some first.1) <;>
        cases hdescriptive' : descriptiveKey rt (some second.1)
      case none.none =>
        refine iff_of_false (fun heq => ?_) (by simp)
        have hindex : first.2 = second.2 := by simpa using heq
        have heq := eq_of_index_eq hfirst hsecond hindex
        exact h.differentIds (by rw [heq])
      all_goals simp
    rw [hkeys]
    constructor
    · rintro ⟨hne, heq⟩ hdistinct
      exact (hdistinct.descriptions hsource hsource').elim hne (absurd heq)
    · intro hnot
      by_contra hkey
      refine hnot ⟨fun h => absurd h hsource, fun _ _ => ?_⟩
      by_cases hnone : descriptiveKey rt (some first.1) = none
      · exact .inl hnone
      · exact .inr fun heq => hkey ⟨hnone, heq⟩

/-! ## 4. Hotels that are merged -/

/-- No record is merged from hotels that their provider tells apart exactly if whenever two hotels of
the list are told apart, the merge still tells them apart. -/
theorem merges_distinct_iff (rt : MergeRuntime) (hotels : JsValue) :
    (∀ entry ∈ hotelMap rt hotels, ∀ first ∈ inputsOf rt hotels entry.1,
      ∀ second ∈ inputsOf rt hotels entry.1, ¬ DistinctInProvider rt first.1 second.1) ↔
    ∀ first ∈ mergeable hotels, ∀ second ∈ mergeable hotels,
      DistinctInProvider rt first.1 second.1 → StayDistinct rt first.1 second.1 := by
  constructor
  · intro hnone first hfirst second hsecond hdistinct
    by_contra hlost
    have hkey := (mergeKey_eq_iff hfirst hsecond hdistinct).mpr hlost
    obtain ⟨record, hrecord⟩ := Grouping.exists_mem_groupInto (mergeKey rt)
      (fun entry : Hotel × ℕ => ofHotel entry.1)
      (fun existing entry => mergeHotelRecords rt existing (ofHotel entry.1)) hfirst
    exact hnone _ hrecord first (Grouping.mem_valuesOf.mpr ⟨hfirst, rfl⟩) second
      (Grouping.mem_valuesOf.mpr ⟨hsecond, hkey.symm⟩) hdistinct
  · intro hall entry _ first hfirst second hsecond hdistinct
    obtain ⟨hfirst, hkey⟩ := Grouping.mem_valuesOf.mp hfirst
    obtain ⟨hsecond, hkey'⟩ := Grouping.mem_valuesOf.mp hsecond
    exact (mergeKey_eq_iff hfirst hsecond hdistinct).mp (hkey.trans hkey'.symm)
      (hall first hfirst second hsecond hdistinct)

/-- Two hotels of one provider with these ids. -/
def sampleIds (first second : String) : JsValue :=
  some (.arr [sampleHotel first "EUR" [("a", 90)], sampleHotel second "EUR" [("b", 80)]])

/-- The hotels `A-1` and `A 1` become one. -/
theorem merges_different_ids :
    ∃ entry ∈ hotelMap asciiMergeRuntime (sampleIds "A-1" "A 1"),
      ∃ first ∈ inputsOf asciiMergeRuntime (sampleIds "A-1" "A 1") entry.1,
      ∃ second ∈ inputsOf asciiMergeRuntime (sampleIds "A-1" "A 1") entry.1,
        DistinctInProvider asciiMergeRuntime first.1 second.1 := by
  have hdistinct : DistinctInProvider asciiMergeRuntime (sampleHotel "A-1" "EUR" [("a", 90)])
      (sampleHotel "A 1" "EUR" [("b", 80)]) :=
    ⟨by decide +kernel, by decide +kernel, by decide +kernel, by decide +kernel⟩
  have hfirst : (sampleHotel "A-1" "EUR" [("a", 90)], 0) ∈ mergeable (sampleIds "A-1" "A 1") :=
    List.mem_cons_self
  have hsecond : (sampleHotel "A 1" "EUR" [("b", 80)], 1) ∈ mergeable (sampleIds "A-1" "A 1") :=
    List.mem_cons_of_mem _ List.mem_cons_self
  have hkey : mergeKey asciiMergeRuntime (sampleHotel "A 1" "EUR" [("b", 80)], 1) =
      mergeKey asciiMergeRuntime (sampleHotel "A-1" "EUR" [("a", 90)], 0) := by decide +kernel
  obtain ⟨record, hrecord⟩ := Grouping.exists_mem_groupInto (mergeKey asciiMergeRuntime)
    (fun entry : Hotel × ℕ => ofHotel entry.1)
    (fun existing entry => mergeHotelRecords asciiMergeRuntime existing (ofHotel entry.1)) hfirst
  exact ⟨_, hrecord, _, Grouping.mem_valuesOf.mpr ⟨hfirst, rfl⟩, _,
    Grouping.mem_valuesOf.mpr ⟨hsecond, hkey⟩, hdistinct⟩

end SmartStay.Merge
