import SmartStay.Lib.Grouping
import SmartStay.Lib.Sort
import SmartStay.Merge.Keys
import Mathlib.Order.Nat

/-!
# Offers

`mergeOffers` and `getBestOffer` of `server/providers/common/hotelMergeService.js`.

1. `getValidOffers`, `getOfferCompletenessScore`, `mergeOffers`.
2. `Kept`, `mergeOffers_kept`: of all offers under a key the first of the most complete ones is kept.
3. `getBestOffer` and its cases.
-/

namespace SmartStay.Merge

open JsValue Grouping JsSort

abbrev Offer := JsonValue JsFloat

/-! ## 1. Merging -/

/-- The price of an offer with a valid one. -/
def priceOf (offer : Offer) : ℚ :=
  match numberOf (member (some offer) "price") with
  | .finite x => x
  | _ => 0

/-- An offer with a finite price above zero. -/
def isValidOffer (offer : Offer) : Bool :=
  match numberOf (member (some offer) "price") with
  | .finite x => truthy (some offer) && 0 < x
  | _ => false

/-- `getValidOffers` of a hotel with these `offers`. -/
def getValidOffers (offers : JsValue) : List Offer :=
  match offers with
  | some (.arr offers) => offers.filter isValidOffer
  | _ => []

/-- The elements of an array that is not empty, as a mark of a complete offer. -/
def isFilledArray (value : JsValue) : Bool :=
  match value with
  | some (.arr items) => 0 < items.length
  | _ => false

/-- One point for each piece of information; anything that is no object has none. -/
def getOfferCompletenessScore (offer : Offer) : Nat :=
  let read := member (some offer)
  let marks :=
    [truthy (read "roomName"), (numberOf (read "totalKnownCost")).isFinite,
      (numberOf (read "excludedTaxes")).isFinite, read "refundable" matches some (.bool _),
      truthy (read "cancellationPolicy"), isFilledArray (read "cancellationPolicies"),
      truthy (read "deepLink")]
  match offer with
  | .obj _ | .arr _ => marks.count true
  | _ => 0

variable (rt : MergeRuntime)

def offerKey (offer : Offer) : JsString := createOfferMergeKey rt (some offer)

def mergeOffers (firstOffers secondOffers : List Offer) : List Offer :=
  (groupInto (offerKey rt) id (keepBetter getOfferCompletenessScore)
    ((firstOffers ++ secondOffers).filter fun offer => truthy (some offer))).map Prod.snd

/-! ## 2. The offers that are kept -/

/-- The offers that stand for `candidates`: under each of their keys the first of the most complete
ones. -/
structure Kept (offers candidates : List Offer) : Prop where
  nodup : (offers.map (offerKey rt)).Nodup
  complete : ∀ offer ∈ candidates, offerKey rt offer ∈ offers.map (offerKey rt)
  firstBest : ∀ offer ∈ offers, FirstBest getOfferCompletenessScore offer
    (valuesOf (offerKey rt) (offerKey rt offer) candidates)

variable {rt}

theorem truthy_of_valid {offer : Offer} (h : isValidOffer offer = true) :
    truthy (some offer) = true := by
  unfold isValidOffer at h
  split at h
  · exact (Bool.and_eq_true_iff.mp h).1
  · cases h

theorem valid_of_getValidOffers {offers : JsValue} {offer : Offer}
    (h : offer ∈ getValidOffers offers) : isValidOffer offer = true := by
  unfold getValidOffers at h
  split at h
  · exact (List.mem_filter.mp h).2
  · exact absurd h List.not_mem_nil

theorem Kept.mem {offers candidates : List Offer} (h : Kept rt offers candidates) {offer : Offer}
    (hoffer : offer ∈ offers) : offer ∈ candidates :=
  (mem_valuesOf.mp (h.firstBest offer hoffer).mem).1

/-- Offers merged with offers that can be merged. -/
theorem mergeOffers_kept {first second : List Offer}
    (hvalid : ∀ offer ∈ first ++ second, isValidOffer offer = true) :
    Kept rt (mergeOffers rt first second) (first ++ second) := by
  have hall : (first ++ second).filter (fun offer => truthy (some offer)) = first ++ second :=
    List.filter_eq_self.mpr fun offer hoffer => truthy_of_valid (hvalid offer hoffer)
  unfold mergeOffers
  rw [hall]
  generalize first ++ second = candidates
  have hentry : ∀ entry ∈ groupInto (offerKey rt) id (keepBetter getOfferCompletenessScore)
      candidates, offerKey rt entry.2 = entry.1 ∧ FirstBest getOfferCompletenessScore entry.2
        (valuesOf (offerKey rt) entry.1 candidates) := by
    rintro ⟨k, offer⟩ hmem
    have hbest := firstBest_of_mem hmem
    exact ⟨(mem_valuesOf.mp hbest.mem).2, hbest⟩
  have hkeys : ((groupInto (offerKey rt) id (keepBetter getOfferCompletenessScore)
      candidates).map Prod.snd).map (offerKey rt) =
      (groupInto (offerKey rt) id (keepBetter getOfferCompletenessScore) candidates).map
        Prod.fst := by
    rw [List.map_map]
    exact List.map_congr_left fun entry hmem => (hentry entry hmem).1
  refine ⟨hkeys ▸ nodup_groupInto candidates, fun offer hoffer => ?_, fun offer hoffer => ?_⟩
  · rw [hkeys]
    obtain ⟨kept, hkept⟩ := exists_mem_groupInto (offerKey rt) id
      (keepBetter getOfferCompletenessScore) hoffer
    exact List.mem_map_of_mem hkept
  · obtain ⟨entry, hmem, rfl⟩ := List.mem_map.mp hoffer
    obtain ⟨hkey, hbest⟩ := hentry entry hmem
    rwa [hkey]

/-- Kept offers stand for their candidates when more offers are merged. -/
theorem Kept.merge {offers candidates more : List Offer} (h : Kept rt offers candidates)
    (hvalid : ∀ offer ∈ candidates ++ more, isValidOffer offer = true) :
    Kept rt (mergeOffers rt offers more) (candidates ++ more) := by
  have hkept : Kept rt (mergeOffers rt offers more) (offers ++ more) := by
    refine mergeOffers_kept fun offer hoffer => hvalid offer ?_
    rcases List.mem_append.mp hoffer with hoffer | hoffer
    · exact List.mem_append_left _ (h.mem hoffer)
    · exact List.mem_append_right _ hoffer
  refine ⟨hkept.nodup, fun offer hoffer => ?_, fun offer hoffer => ?_⟩
  · rcases List.mem_append.mp hoffer with hoffer | hoffer
    · obtain ⟨kept, hmem, hkey⟩ := List.mem_map.mp (h.complete offer hoffer)
      exact hkey ▸ hkept.complete kept (List.mem_append_left _ hmem)
    · exact hkept.complete offer (List.mem_append_right _ hoffer)
  · have hbest := hkept.firstBest offer hoffer
    generalize offerKey rt offer = k at hbest ⊢
    rw [valuesOf_append] at hbest ⊢
    have hone : (valuesOf (offerKey rt) k offers).length ≤ 1 := valuesOf_nodup h.nodup
    cases hvalues : valuesOf (offerKey rt) k offers with
    | nil =>
      -- no candidate had the key
      have hnone : valuesOf (offerKey rt) k candidates = [] := by
        refine List.eq_nil_iff_forall_not_mem.mpr fun candidate hcandidate => ?_
        obtain ⟨hmem, rfl⟩ := mem_valuesOf.mp hcandidate
        obtain ⟨kept, hmem, hkey⟩ := List.mem_map.mp (h.complete candidate hmem)
        exact absurd (mem_valuesOf.mpr ⟨hmem, hkey⟩) (hvalues ▸ List.not_mem_nil)
      rwa [hnone, ← hvalues]
    | cons kept rest =>
      rw [hvalues] at hbest hone
      obtain rfl : rest = [] := List.length_eq_zero_iff.mp (by simpa using hone)
      obtain ⟨hmem, rfl⟩ := mem_valuesOf.mp (hvalues ▸ List.mem_cons_self)
      exact (h.firstBest kept hmem).append hbest

/-! ## 3. The best offer -/

/-- `getOfferComparableCost` of a valid offer. -/
def getOfferComparableCost (offer : Offer) : ℚ :=
  match numberOf (member (some offer) "totalKnownCost") with
  | .finite x => if 0 < x then x else priceOf offer
  | _ => priceOf offer

variable (rt) in
def offerCurrency (offer : Offer) : JsString := normalizeCurrency rt (member (some offer) "currency")

/-- The comparator of the sort: by cost, then by price. -/
def compareCosts : Offer → Offer → Ordering :=
  compareLex (compareOn getOfferComparableCost) (compareOn priceOf)

instance : Std.TransCmp compareCosts :=
  inferInstanceAs (Std.TransCmp (compareLex (compareOn _) (compareOn _)))

/-- The first offer of those sorted by cost. -/
def cheapest (offers : List Offer) : Option Offer := (sortBy compareCosts offers).head?

variable (rt) in
def getBestOffer (offers : List Offer) (preferredCurrency : JsString) : Option Offer :=
  let validOffers := offers.filter isValidOffer
  let normalizedPreferredCurrency := normalizeCurrency rt (some (.str preferredCurrency))
  if normalizedPreferredCurrency ≠ [] then
    cheapest (validOffers.filter fun offer => offerCurrency rt offer = normalizedPreferredCurrency)
  else if 1 < ((validOffers.map (offerCurrency rt)).filter (· ≠ [])).dedup.length then none
  else cheapest validOffers

theorem cheapest_spec {offers : List Offer} {best : Offer} (h : cheapest offers = some best) :
    best ∈ offers ∧ ∀ offer ∈ offers, getOfferComparableCost best ≤ getOfferComparableCost offer := by
  refine ⟨mem_sortBy.mp (List.mem_of_mem_head? h), fun offer hoffer => ?_⟩
  have hle := head_sortBy_le h hoffer
  by_contra hlt
  refine hle ?_
  rw [compareCosts, compareLex, compareOn, compare_gt_iff_gt.mpr (not_le.mp hlt)]
  rfl

/-- An offer whose cost is compared: one in the preferred currency or, when none is preferred, any of
offers that name one currency at most. -/
structure Comparable (rt : MergeRuntime) (offers : List Offer) (currency : JsString) (offer : Offer) :
    Prop where
  mem : offer ∈ offers
  preferred : currency ≠ [] → offerCurrency rt offer = currency
  single : currency = [] → ∀ first ∈ offers, ∀ second ∈ offers, offerCurrency rt first ≠ [] →
    offerCurrency rt second ≠ [] → offerCurrency rt first = offerCurrency rt second

/-- `new Set(values).size <= 1` -/
theorem dedup_length_le_one {α : Type} [DecidableEq α] {xs : List α} :
    xs.dedup.length ≤ 1 ↔ ∀ x ∈ xs, ∀ y ∈ xs, x = y := by
  have hnodup := xs.nodup_dedup
  constructor
  · intro hlength x hx y hy
    have hne : xs.dedup ≠ [] := List.ne_nil_of_mem (List.mem_dedup.mpr hx)
    obtain ⟨z, hz⟩ := List.length_eq_one_iff.mp
      (le_antisymm hlength (List.length_pos_iff.mpr hne))
    have hall : ∀ w ∈ xs, w = z := fun w hw => by
      rw [← List.mem_dedup, hz] at hw
      exact List.mem_singleton.mp hw
    rw [hall x hx, hall y hy]
  · intro hall
    match hdedup : xs.dedup with
    | [] | [_] => simp
    | x :: y :: rest =>
      rw [hdedup] at hnodup
      have hmem : ∀ z ∈ x :: y :: rest, z ∈ xs := fun z hz => List.mem_dedup.mp (hdedup ▸ hz)
      have heq := hall x (hmem x (by simp)) y (hmem y (by simp))
      simp [heq] at hnodup

/-- The cheapest of the offers in the list, if there are any. -/
theorem cheapest_cases (offers : List Offer) :
    (cheapest offers = none ∧ offers = []) ∨ ∃ best ∈ offers, cheapest offers = some best ∧
      ∀ offer ∈ offers, getOfferComparableCost best ≤ getOfferComparableCost offer := by
  by_cases hne : offers = []
  · subst hne
    exact .inl ⟨rfl, rfl⟩
  · obtain ⟨best, hbest⟩ := exists_head_sortBy compareCosts hne
    obtain ⟨hmem, hle⟩ := cheapest_spec hbest
    exact .inr ⟨best, hmem, hbest, hle⟩

/-- The best offer is a cheapest one of those whose costs are compared. -/
theorem getBestOffer_cases {offers : List Offer} {currency : JsString}
    (hvalid : ∀ offer ∈ offers, isValidOffer offer = true)
    (hcurrency : normalizeCurrency rt (some (.str currency)) = currency) :
    (getBestOffer rt offers currency = none ∧ ∀ offer, ¬ Comparable rt offers currency offer) ∨
      ∃ best, getBestOffer rt offers currency = some best ∧ Comparable rt offers currency best ∧
        ∀ offer, Comparable rt offers currency offer →
          getOfferComparableCost best ≤ getOfferComparableCost offer := by
  have hall : offers.filter isValidOffer = offers := List.filter_eq_self.mpr hvalid
  rw [getBestOffer]
  simp only [hcurrency, hall]
  by_cases hpreferred : currency = []
  · subst hpreferred
    rw [if_neg (by simp)]
    split
    next hmany =>
      refine .inl ⟨rfl, fun offer h => ?_⟩
      refine absurd (dedup_length_le_one.mpr ?_) (Nat.not_le.mpr hmany)
      simp only [List.mem_filter, List.mem_map, decide_eq_true_eq]
      rintro _ ⟨⟨first, hfirst, rfl⟩, hne⟩ _ ⟨⟨second, hsecond, rfl⟩, hne'⟩
      exact h.single rfl first hfirst second hsecond hne hne'
    next hone =>
      have hsingle := dedup_length_le_one.mp (Nat.not_lt.mp hone)
      simp only [List.mem_filter, List.mem_map, decide_eq_true_eq] at hsingle
      rcases cheapest_cases offers with ⟨hnone, rfl⟩ | ⟨best, hmem, hbest, hle⟩
      · exact .inl ⟨hnone, fun offer h => absurd h.mem List.not_mem_nil⟩
      · refine .inr ⟨best, hbest, ⟨hmem, fun hne => absurd rfl hne, fun _ => ?_⟩,
          fun offer h => hle offer h.mem⟩
        intro first hfirst second hsecond hne hne'
        exact hsingle _ ⟨⟨first, hfirst, rfl⟩, hne⟩ _ ⟨⟨second, hsecond, rfl⟩, hne'⟩
  · rw [if_pos hpreferred]
    rcases cheapest_cases (offers.filter fun offer => offerCurrency rt offer = currency) with
      ⟨hnone, hnil⟩ | ⟨best, hmem, hbest, hle⟩
    · refine .inl ⟨hnone, fun offer h => ?_⟩
      exact absurd (List.mem_filter.mpr ⟨h.mem, decide_eq_true (h.preferred hpreferred)⟩)
        (hnil ▸ List.not_mem_nil)
    · obtain ⟨hmem, hin⟩ := List.mem_filter.mp hmem
      exact .inr ⟨best, hbest,
        ⟨hmem, fun _ => of_decide_eq_true hin, fun h => absurd h hpreferred⟩, fun offer h =>
          hle offer (List.mem_filter.mpr ⟨h.mem, decide_eq_true (h.preferred hpreferred)⟩)⟩

end SmartStay.Merge
