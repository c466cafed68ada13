import SmartStay.Lib.FirstOfKey
import SmartStay.Lib.JsFloat
import SmartStay.Lib.Number
import SmartStay.Lib.Sort
import SmartStay.Lib.Text

/-!
# The offers of a hotel card

`utils/hotelOfferSelection.ts` picks the offer that a hotel shows, with the completeness of a cost
from `utils/stayCost.ts`. Offers with one fingerprint count as one, and the first of them is kept:
the fingerprint has neither `bookable` nor the taxes, and an amount only in cents.

1. `HotelOffer`, `createCandidate`.
2. `createFingerprint`, `compareOffers`, `selectHotelOffers`.
3. `validOffers_perm`, `comparedOffers`: what an order of the offers changes.
4. `PrimaryLaw`, `primary_law_iff`, `unbookable_primary`.
-/

namespace SmartStay.Offers

open Grouping JsSort

/-! ## 1. Offers -/

/-- What the selection reads of `HotelOffer`. A number without a value is `null` or absent. -/
structure HotelOffer where
  id : String
  provider : String
  price : JsFloat
  currency : String
  cancellationPolicy : Option String
  refundable : Option Bool := none
  freeCancellationUntil : Option String := none
  cancellationPenalty : Option JsFloat := none
  cancellationPenaltyCurrency : Option String := none
  cancellationPenaltyType : Option String := none
  taxesIncluded : Option Bool
  excludedTaxes : Option JsFloat := none
  unknownTaxes : Option JsFloat := none
  totalKnownCost : Option JsFloat := none
  roomName : Option String
  mealPlan : Option String := none
  bookable : Bool

/-- What the selection reads of `Hotel`; absent offers are an empty list. -/
structure Hotel where
  currency : String
  offers : List HotelOffer

/-- The conversions of texts and numbers. -/
structure Platform where
  toLowerCase : String → String
  toUpperCase : String → String
  numberText : JsFloat → String

/-- `StayCostCompleteness`. -/
inductive Completeness
  | reportedComplete | reportedTaxStatusUnknown | partialCost | unknown
deriving DecidableEq

/-- The number, when it is one of at least zero, and zero otherwise. -/
def getNonNegativeNumber : Option JsFloat → ℚ
  | some (.finite x) => if 0 ≤ x then x else 0
  | _ => 0

def classifyStayCostCompleteness (taxesIncluded : Option Bool)
    (excludedTaxesInput unknownTaxesInput : Option JsFloat) : Completeness :=
  let excludedTaxes := getNonNegativeNumber excludedTaxesInput
  let unknownTaxes := getNonNegativeNumber unknownTaxesInput
  if 0 < unknownTaxes then .partialCost
  else if taxesIncluded = some true then .reportedComplete
  else if taxesIncluded = some false && 0 < excludedTaxes then .reportedComplete
  else if taxesIncluded = some false || 0 < excludedTaxes then .partialCost
  else if taxesIncluded = none then .reportedTaxStatusUnknown
  else .unknown

def getStayCostCompletenessPriority : Completeness → ℕ
  | .reportedComplete => 0
  | .reportedTaxStatusUnknown => 1
  | .partialCost => 2
  | .unknown => 3

/-- `ComparableHotelOffer`. -/
structure ComparableHotelOffer where
  offer : HotelOffer
  amount : ℚ
  currency : String
  completeness : Completeness
  originalIndex : ℕ

/-- A finite number greater than zero. -/
def positiveNumber? : Option JsFloat → Option ℚ
  | some (.finite x) => if 0 < x then some x else none
  | _ => none

/-- `/^(?:offer-[1-9][0-9]*|offer-[a-f0-9]{24})$/i` on the trimmed id. -/
def hasPublicOfferId (offer : HotelOffer) : Bool :=
  let characters := (JsText.trim offer.id).toList.map Char.toLower
  let digits := characters.drop 6
  characters.take 6 == "offer-".toList &&
    ((digits.head?.any fun c => '1' ≤ c && c ≤ '9') && digits.all Char.isDigit ||
      digits.length == 24 && digits.all JsText.isLowerHex)

def getOfferAmount (offer : HotelOffer) : Option ℚ :=
  (positiveNumber? offer.totalKnownCost).or (positiveNumber? (some offer.price))

section
variable (pf : Platform)

def normalizeCurrency (value : String) : String :=
  let currency := pf.toUpperCase (JsText.trim value)
  if currency.length = 3 && currency.toList.all fun c => 'A' ≤ c && c ≤ 'Z' then currency else ""

def normalizeText : Option String → String
  | some value =>
    String.ofList (JsText.collapseSpaces (pf.toLowerCase (JsText.trim value)).toList)
  | none => ""

def createCandidate (offer : HotelOffer) (originalIndex : ℕ) : Option ComparableHotelOffer :=
  if !hasPublicOfferId offer then none
  else
    (getOfferAmount offer).bind fun amount =>
      let currency := normalizeCurrency pf offer.currency
      if currency = "" then none
      else
        some
          { offer
            amount
            currency
            completeness := classifyStayCostCompleteness offer.taxesIncluded offer.excludedTaxes
              offer.unknownTaxes
            originalIndex }

/-! ## 2. The selection -/

/-- `String(value ?? "")` of a flag. -/
def flagText : Option Bool → String
  | some true => "true"
  | some false => "false"
  | none => ""

def createFingerprint (candidate : ComparableHotelOffer) : String :=
  "|".intercalate
    [normalizeText pf (some candidate.offer.provider),
      normalizeText pf candidate.offer.roomName,
      normalizeText pf candidate.offer.mealPlan,
      JsNumber.toFixed2 candidate.amount,
      candidate.currency,
      normalizeText pf candidate.offer.cancellationPolicy,
      flagText candidate.offer.refundable,
      normalizeText pf candidate.offer.freeCancellationUntil,
      (candidate.offer.cancellationPenalty.map pf.numberText).getD "",
      normalizeText pf candidate.offer.cancellationPenaltyCurrency,
      normalizeText pf candidate.offer.cancellationPenaltyType,
      flagText candidate.offer.taxesIncluded]

def removeDuplicates (offers : List ComparableHotelOffer) : List ComparableHotelOffer :=
  firstOfEach (createFingerprint pf) offers

end

/-- `Boolean(offer.cancellationPolicy)`. -/
def hasPolicy (offer : HotelOffer) : Bool := offer.cancellationPolicy.any (· ≠ "")

/-- The comparison of two offers, but for their places. -/
def compareQuality : ComparableHotelOffer → ComparableHotelOffer → Ordering :=
  compareLex (compareOn fun candidate => !candidate.offer.bookable) <|
  compareLex (compareOn (·.amount)) <|
  compareLex (compareOn fun candidate => getStayCostCompletenessPriority candidate.completeness)
    (compareOn fun candidate => !hasPolicy candidate.offer)

def compareOffers : ComparableHotelOffer → ComparableHotelOffer → Ordering :=
  compareLex compareQuality (compareOn (·.originalIndex))

/-- `HotelOfferSelection`. -/
structure HotelOfferSelection where
  primary : Option ComparableHotelOffer
  offers : List ComparableHotelOffer
  alternativeCount : ℕ

section
variable (pf : Platform)

def validOffers (offers : List HotelOffer) : List ComparableHotelOffer :=
  offers.zipIdx.filterMap fun (offer, originalIndex) => createCandidate pf offer originalIndex

/-- The offers in the hotel's own currency, when it has one. -/
def preferredOffers (hotel : Hotel) : List ComparableHotelOffer :=
  let preferredCurrency := normalizeCurrency pf hotel.currency
  if preferredCurrency = "" then []
  else (validOffers pf hotel.offers).filter fun candidate => candidate.currency = preferredCurrency

def comparisonCurrency (hotel : Hotel) : String :=
  (((preferredOffers pf hotel).head?.map (·.currency)).or
    ((validOffers pf hotel.offers).head?.map (·.currency))).getD ""

/-- `sameCurrencyOffers`: the offers that are compared. -/
def comparedOffers (hotel : Hotel) : List ComparableHotelOffer :=
  (validOffers pf hotel.offers).filter fun candidate =>
    candidate.currency = comparisonCurrency pf hotel

def selectHotelOffers (hotel : Hotel) : HotelOfferSelection :=
  let offers := sortBy compareOffers (removeDuplicates pf (comparedOffers pf hotel))
  { primary := offers.head?
    offers
    alternativeCount := offers.length - 1 }

end

/-! ## 3. The order of the offers -/

/-- A candidate without its place. -/
def placeless (candidate : ComparableHotelOffer) : ComparableHotelOffer :=
  { candidate with originalIndex := 0 }

/-- The valid offers of a currency without their places. -/
def offersIn (pf : Platform) (currency : String) (offers : List HotelOffer) :
    List ComparableHotelOffer :=
  (offers.filterMap (createCandidate pf · 0)).filter fun candidate => candidate.currency = currency

variable {pf : Platform} {hotel : Hotel} {offers : List HotelOffer}
  {candidate : ComparableHotelOffer}

theorem placeless_createCandidate (pf : Platform) (offer : HotelOffer) (originalIndex : ℕ) :
    (createCandidate pf offer originalIndex).map placeless = createCandidate pf offer 0 := by
  cases hpublic : hasPublicOfferId offer with
  | false => simp [createCandidate, hpublic]
  | true =>
    cases hamount : getOfferAmount offer with
    | none => simp [createCandidate, hpublic, hamount]
    | some amount =>
      by_cases hcurrency : normalizeCurrency pf offer.currency = ""
      · simp [createCandidate, hpublic, hamount, hcurrency]
      · simp [createCandidate, hpublic, hamount, hcurrency, placeless]

theorem filterMap_zipIdx {α β : Type} (f : α → Option β) (l : List α) :
    (l.zipIdx.filterMap fun entry => f entry.1) = l.filterMap f := by
  have hfst : (l.zipIdx.map Prod.fst).filterMap f = l.filterMap f := by rw [List.zipIdx_map_fst]
  rw [← hfst, List.filterMap_map]
  rfl

theorem placeless_validOffers (pf : Platform) (offers : List HotelOffer) :
    (validOffers pf offers).map placeless = offers.filterMap (createCandidate pf · 0) := by
  rw [validOffers, List.map_filterMap, ← filterMap_zipIdx (createCandidate pf · 0) offers]
  refine List.filterMap_congr ?_
  rintro ⟨offer, originalIndex⟩ -
  exact placeless_createCandidate pf offer originalIndex

theorem placeless_comparedOffers (pf : Platform) (hotel : Hotel) :
    (comparedOffers pf hotel).map placeless =
      offersIn pf (comparisonCurrency pf hotel) hotel.offers := by
  rw [offersIn, ← placeless_validOffers, List.filter_map]
  rfl

theorem offersIn_perm (pf : Platform) (currency : String) {offers' : List HotelOffer}
    (h : offers.Perm offers') :
    (offersIn pf currency offers).Perm (offersIn pf currency offers') :=
  (h.filterMap _).filter _

/-- An offer in the hotel's own currency is there in every order. -/
theorem preferredOffers_eq_nil_iff : preferredOffers pf hotel = [] ↔
    normalizeCurrency pf hotel.currency = "" ∨
      offersIn pf (normalizeCurrency pf hotel.currency) hotel.offers = [] := by
  have hvalid : ((validOffers pf hotel.offers).filter fun candidate =>
      candidate.currency = normalizeCurrency pf hotel.currency).map placeless =
      offersIn pf (normalizeCurrency pf hotel.currency) hotel.offers := by
    rw [offersIn, ← placeless_validOffers, List.filter_map]
    rfl
  rw [← hvalid, List.map_eq_nil_iff, preferredOffers]
  split
  · next hempty => simp [hempty]
  · next hsome => simp [hsome]

theorem preferredOffers_perm (h : offers.Perm hotel.offers) :
    preferredOffers pf { hotel with offers } = [] ↔ preferredOffers pf hotel = [] := by
  rw [preferredOffers_eq_nil_iff, preferredOffers_eq_nil_iff]
  refine or_congr_right ?_
  rw [← List.length_eq_zero_iff, ← List.length_eq_zero_iff]
  rw [(offersIn_perm pf (normalizeCurrency pf hotel.currency) h).length_eq]

theorem currency_of_mem_preferredOffers (h : candidate ∈ preferredOffers pf hotel) :
    candidate.currency = normalizeCurrency pf hotel.currency := by
  by_cases hcurrency : normalizeCurrency pf hotel.currency = ""
  · simp [preferredOffers, hcurrency] at h
  · simp only [preferredOffers, if_neg hcurrency, List.mem_filter, decide_eq_true_eq] at h
    exact h.2

/-- The comparison currency is the hotel's own, when it is offered. -/
theorem comparisonCurrency_of_preferred (h : preferredOffers pf hotel ≠ []) :
    comparisonCurrency pf hotel = normalizeCurrency pf hotel.currency := by
  obtain ⟨first, rest, hcons⟩ := List.exists_cons_of_ne_nil h
  have hfirst := currency_of_mem_preferredOffers (hcons ▸ List.mem_cons_self)
  rw [comparisonCurrency, hcons]
  exact hfirst

/-- Otherwise it is that of the first valid offer. -/
theorem comparisonCurrency_of_first {first : ComparableHotelOffer}
    (h : preferredOffers pf hotel = [])
    (hfirst : (validOffers pf hotel.offers).head? = some first) :
    comparisonCurrency pf hotel = first.currency := by
  rw [comparisonCurrency, h, hfirst]
  rfl

/-- Either the hotel's own currency is offered, or only one is. -/
def SettledCurrency (pf : Platform) (hotel : Hotel) : Prop :=
  preferredOffers pf hotel ≠ [] ∨ ∀ first ∈ validOffers pf hotel.offers,
    ∀ second ∈ validOffers pf hotel.offers, first.currency = second.currency

theorem exists_placeless (h : offers.Perm hotel.offers)
    (hmem : candidate ∈ validOffers pf offers) : ∃ same ∈ validOffers pf hotel.offers,
      placeless same = placeless candidate := by
  have hmap := List.mem_map_of_mem (f := placeless) hmem
  rw [placeless_validOffers, (h.filterMap _).mem_iff, ← placeless_validOffers] at hmap
  exact List.mem_map.mp hmap

theorem SettledCurrency.comparisonCurrency_perm (hsettled : SettledCurrency pf hotel)
    (h : offers.Perm hotel.offers) :
    comparisonCurrency pf { hotel with offers } = comparisonCurrency pf hotel := by
  by_cases hpreferred : preferredOffers pf hotel = []
  · have hall := hsettled.resolve_left (not_not.mpr hpreferred)
    have hpreferred' := (preferredOffers_perm h).mpr hpreferred
    have hlength : (validOffers pf offers).length = (validOffers pf hotel.offers).length := by
      have hlen := (h.filterMap (createCandidate pf · 0)).length_eq
      rwa [← placeless_validOffers, ← placeless_validOffers, List.length_map,
        List.length_map] at hlen
    cases hvalid : validOffers pf offers with
    | nil =>
      rw [hvalid, eq_comm, List.length_nil, List.length_eq_zero_iff] at hlength
      rw [comparisonCurrency, comparisonCurrency, hpreferred, hpreferred', hvalid, hlength]
    | cons first rest =>
      cases hvalid' : validOffers pf hotel.offers with
      | nil => simp [hvalid, hvalid'] at hlength
      | cons first' rest' =>
        have hhead : (validOffers pf offers).head? = some first := by rw [hvalid]; rfl
        rw [comparisonCurrency_of_first hpreferred (by rw [hvalid']; rfl),
          comparisonCurrency_of_first hpreferred' hhead]
        obtain ⟨same, hsame, hplaceless⟩ := exists_placeless h (hvalid ▸ List.mem_cons_self)
        have hcurrency : same.currency = first.currency :=
          congrArg (fun candidate => candidate.currency) hplaceless
        rw [← hcurrency]
        exact hall same hsame first' (hvalid' ▸ List.mem_cons_self)
  · have hpreferred' := mt (preferredOffers_perm h).mp hpreferred
    rw [comparisonCurrency_of_preferred hpreferred, comparisonCurrency_of_preferred hpreferred']

/-! ## 4. The primary offer -/

instance : Std.TransCmp compareQuality := inferInstanceAs (Std.TransCmp (compareLex _ _))

instance : Std.TransCmp compareOffers := inferInstanceAs (Std.TransCmp (compareLex _ _))

/-- What the claimed order of the offers does not change. -/
def attributes (candidate : ComparableHotelOffer) : Bool × ℚ × String × Completeness :=
  (candidate.offer.bookable, candidate.amount, candidate.currency, candidate.completeness)

/-- No offer of the list is better. -/
def BestOf (l : List ComparableHotelOffer) (candidate : ComparableHotelOffer) : Prop :=
  ∀ other ∈ l, compareQuality candidate other ≠ .gt

/-- The primary offer is the best one, whatever the order of the offers. -/
structure PrimaryLaw (pf : Platform) (hotel : Hotel) : Prop where
  best : ∀ offers, offers.Perm hotel.offers → comparedOffers pf { hotel with offers } ≠ [] →
    ∃ primary ∈ comparedOffers pf { hotel with offers },
      (selectHotelOffers pf { hotel with offers }).primary = some primary ∧
      BestOf (comparedOffers pf { hotel with offers }) primary ∧
      ((∃ candidate ∈ comparedOffers pf { hotel with offers }, candidate.offer.bookable = true) →
        primary.offer.bookable = true)
  same : ∀ offers, offers.Perm hotel.offers →
    (selectHotelOffers pf { hotel with offers }).primary.map attributes =
      (selectHotelOffers pf hotel).primary.map attributes

/-- Some best offer shares its fingerprint with best offers only. -/
def BestKept (pf : Platform) (l : List ComparableHotelOffer) : Prop :=
  l ≠ [] → ∃ best ∈ l, ∀ candidate ∈ l,
    createFingerprint pf candidate = createFingerprint pf best → BestOf l candidate

theorem bookable_of_best {l : List ComparableHotelOffer} {best other : ComparableHotelOffer}
    (h : BestOf l best) (hother : other ∈ l) (hbookable : other.offer.bookable = true) :
    best.offer.bookable = true := by
  have hle := (compareLex_ne_gt.mp (h other hother)).1
  rw [compareOn, hbookable] at hle
  cases hbest : best.offer.bookable with
  | true => rfl
  | false => exact absurd (by rw [hbest]; rfl) hle

theorem primary_eq_none_iff :
    (selectHotelOffers pf hotel).primary = none ↔ comparedOffers pf hotel = [] := by
  rw [selectHotelOffers, List.head?_eq_none_iff, ← List.length_eq_zero_iff,
    (sortBy_perm compareOffers _).length_eq, List.length_eq_zero_iff]
  exact firstOfEach_eq_nil

/-- The primary offer is the best of those that are kept. -/
theorem primary_spec {primary : ComparableHotelOffer}
    (h : (selectHotelOffers pf hotel).primary = some primary) :
    primary ∈ removeDuplicates pf (comparedOffers pf hotel) ∧
      BestOf (removeDuplicates pf (comparedOffers pf hotel)) primary :=
  ⟨mem_sortBy.mp (List.mem_of_mem_head? h),
    fun _ hother => (compareLex_ne_gt.mp (head_sortBy_le h hother)).1⟩

theorem mem_compared_of_primary {primary : ComparableHotelOffer}
    (h : (selectHotelOffers pf hotel).primary = some primary) : primary ∈ comparedOffers pf hotel :=
  mem_of_mem_firstOfEach (primary_spec h).1

theorem currency_of_primary {primary : ComparableHotelOffer}
    (h : (selectHotelOffers pf hotel).primary = some primary) :
    primary.currency = comparisonCurrency pf hotel :=
  of_decide_eq_true (List.mem_filter.mp (mem_compared_of_primary h)).2

theorem BestOf.trans {l kept : List ComparableHotelOffer} {best other : ComparableHotelOffer}
    (h : BestOf kept best) (hother : other ∈ kept) (hbest : BestOf l other) : BestOf l best :=
  fun candidate hcandidate => ne_gt_iff_isLE.mpr (Std.TransCmp.isLE_trans
    (ne_gt_iff_isLE.mp (h other hother)) (ne_gt_iff_isLE.mp (hbest candidate hcandidate)))

theorem BestKept.primary (h : BestKept pf (comparedOffers pf hotel))
    (hne : comparedOffers pf hotel ≠ []) :
    ∃ primary ∈ comparedOffers pf hotel, (selectHotelOffers pf hotel).primary = some primary ∧
      BestOf (comparedOffers pf hotel) primary := by
  obtain ⟨primary, hprimary⟩ := Option.ne_none_iff_exists'.mp (mt primary_eq_none_iff.mp hne)
  obtain ⟨best, hbest, hall⟩ := h hne
  obtain ⟨kept, hkept, hkeptBest⟩ := exists_firstOfEach_of_forall hbest hall
  exact ⟨primary, mem_compared_of_primary hprimary, hprimary,
    (primary_spec hprimary).2.trans hkept hkeptBest⟩

/-- Offers that compare as equal have the same attributes. -/
theorem attributes_eq {first second : ComparableHotelOffer}
    (h : compareQuality first second = .eq) (hcurrency : first.currency = second.currency) :
    attributes first = attributes second := by
  simp only [compareQuality, compareLex_eq_eq, compareOn, compare_eq_iff_eq] at h
  obtain ⟨hbookable, hamount, hpriority, -⟩ := h
  have hcompleteness : first.completeness = second.completeness := by
    revert hpriority
    cases first.completeness <;> cases second.completeness <;>
      simp [getStayCostCompletenessPriority]
  rw [attributes, attributes, hamount, hcurrency, hcompleteness, Bool.not_inj hbookable]

variable {l l' : List ComparableHotelOffer}

theorem bestOf_placeless_iff :
    BestOf (l.map placeless) (placeless candidate) ↔ BestOf l candidate := by
  rw [BestOf, List.forall_mem_map]
  rfl

/-- The best offers do not depend on their places. -/
theorem bestKept_placeless_iff : BestKept pf (l.map placeless) ↔ BestKept pf l := by
  unfold BestKept
  rw [ne_eq, List.map_eq_nil_iff]
  refine imp_congr_right fun _ => ?_
  constructor
  · rintro ⟨_, hmem, hall⟩
    obtain ⟨best, hbest, rfl⟩ := List.mem_map.mp hmem
    exact ⟨best, hbest, fun candidate hcandidate hfingerprint => bestOf_placeless_iff.mp
      (hall _ (List.mem_map_of_mem hcandidate) hfingerprint)⟩
  · rintro ⟨best, hbest, hall⟩
    refine ⟨placeless best, List.mem_map_of_mem hbest, List.forall_mem_map.mpr ?_⟩
    exact fun candidate hcandidate hfingerprint => bestOf_placeless_iff.mpr
      (hall candidate hcandidate hfingerprint)

theorem BestOf.perm (hperm : l.Perm l') (h : BestOf l candidate) : BestOf l' candidate :=
  fun other hother => h other (hperm.mem_iff.mpr hother)

theorem BestKept.perm (hperm : l.Perm l') (h : BestKept pf l) : BestKept pf l' := by
  intro hne
  obtain ⟨best, hbest, hall⟩ := h fun hnil => hne (hnil ▸ hperm).symm.eq_nil
  exact ⟨best, hperm.mem_iff.mp hbest, fun candidate hcandidate hfingerprint =>
    (hall candidate (hperm.mem_iff.mpr hcandidate) hfingerprint).perm hperm⟩

/-- With a settled currency an order of the offers orders what is compared. -/
theorem SettledCurrency.compared_perm (hsettled : SettledCurrency pf hotel)
    (hperm : offers.Perm hotel.offers) :
    ((comparedOffers pf { hotel with offers }).map placeless).Perm
      ((comparedOffers pf hotel).map placeless) := by
  rw [placeless_comparedOffers, placeless_comparedOffers, hsettled.comparisonCurrency_perm hperm]
  exact offersIn_perm pf _ hperm

theorem primaryLaw_of_bestKept (hsettled : SettledCurrency pf hotel)
    (h : BestKept pf (comparedOffers pf hotel)) : PrimaryLaw pf hotel := by
  have hprimary : ∀ offers, offers.Perm hotel.offers →
      comparedOffers pf { hotel with offers } ≠ [] →
      ∃ primary ∈ comparedOffers pf { hotel with offers },
        (selectHotelOffers pf { hotel with offers }).primary = some primary ∧
        BestOf (comparedOffers pf { hotel with offers }) primary := by
    intro offers hperm hne
    have hkept := (bestKept_placeless_iff.mpr h).perm (hsettled.compared_perm hperm).symm
    exact (bestKept_placeless_iff.mp hkept).primary hne
  refine ⟨fun offers hperm hne => ?_, fun offers hperm => ?_⟩
  · obtain ⟨primary, hmem, hsome, hbest⟩ := hprimary offers hperm hne
    exact ⟨primary, hmem, hsome, hbest, fun ⟨_, hcandidate, hbookable⟩ =>
      bookable_of_best hbest hcandidate hbookable⟩
  · have hcompared := hsettled.compared_perm hperm
    by_cases hne : comparedOffers pf hotel = []
    · have hnil : comparedOffers pf { hotel with offers } = [] := by
        rw [hne] at hcompared
        exact List.map_eq_nil_iff.mp hcompared.eq_nil
      rw [primary_eq_none_iff.mpr hne, primary_eq_none_iff.mpr hnil]
    · have hne' : comparedOffers pf { hotel with offers } ≠ [] := fun hnil => hne <| by
        rw [hnil] at hcompared
        exact List.map_eq_nil_iff.mp hcompared.symm.eq_nil
      obtain ⟨first, hfirst, hsome, hbest⟩ := hprimary offers hperm hne'
      obtain ⟨second, hsecond, hsome', hbest'⟩ := h.primary hne
      have hle : compareQuality first second ≠ .gt :=
        (bestOf_placeless_iff.mpr hbest).perm hcompared (placeless second)
          (List.mem_map_of_mem hsecond)
      have hge : compareQuality second first ≠ .gt :=
        (bestOf_placeless_iff.mpr hbest').perm hcompared.symm (placeless first)
          (List.mem_map_of_mem hfirst)
      have hcurrency : first.currency = second.currency := by
        rw [currency_of_primary hsome, currency_of_primary hsome']
        exact hsettled.comparisonCurrency_perm hperm
      have heq : compareQuality first second = .eq := by
        cases hcmp : compareQuality first second with
        | lt => exact absurd (Std.OrientedCmp.gt_of_lt hcmp) hge
        | eq => rfl
        | gt => exact absurd hcmp hle
      rw [hsome, hsome', Option.map_some, Option.map_some, attributes_eq heq hcurrency]

/-- Another order shows another currency unless the currency is settled. -/
theorem PrimaryLaw.settledCurrency (h : PrimaryLaw pf hotel) : SettledCurrency pf hotel := by
  by_contra hnot
  simp only [SettledCurrency, not_or, not_not, not_forall] at hnot
  obtain ⟨hpreferred, first, hfirst, second, hsecond, hne⟩ := hnot
  obtain ⟨other, hother, hcurrency⟩ : ∃ other ∈ validOffers pf hotel.offers,
      other.currency ≠ comparisonCurrency pf hotel := by
    by_cases heq : first.currency = comparisonCurrency pf hotel
    · exact ⟨second, hsecond, fun heq' => hne (heq.trans heq'.symm)⟩
    · exact ⟨first, hfirst, heq⟩
  obtain ⟨⟨offer, originalIndex⟩, hmem, hcreate⟩ := List.mem_filterMap.mp hother
  obtain ⟨before, after, hoffers⟩ := List.append_of_mem (List.fst_mem_of_mem_zipIdx hmem)
  change createCandidate pf offer originalIndex = some other at hcreate
  -- the offer in another currency comes first
  have hperm : (offer :: (before ++ after)).Perm hotel.offers := by
    rw [hoffers]
    exact List.perm_middle.symm
  have hhead : (validOffers pf (offer :: (before ++ after))).head? = some (placeless other) := by
    have hplaceless := placeless_createCandidate pf offer originalIndex
    rw [hcreate, Option.map_some] at hplaceless
    have hfirst : validOffers pf (offer :: (before ++ after)) = placeless other ::
        ((before ++ after).zipIdx 1).filterMap fun (offer, originalIndex) =>
          createCandidate pf offer originalIndex :=
      List.filterMap_cons_some (a := (offer, 0)) hplaceless.symm
    rw [hfirst, List.head?_cons]
  have hcurrency' := comparisonCurrency_of_first ((preferredOffers_perm hperm).mpr hpreferred) hhead
  have hcompared : comparedOffers pf { hotel with offers := offer :: (before ++ after) } ≠ [] :=
    List.ne_nil_of_mem (List.mem_filter.mpr
      ⟨List.mem_of_mem_head? hhead, decide_eq_true hcurrency'.symm⟩)
  obtain ⟨primary, -, hprimary, -⟩ := h.best _ hperm hcompared
  have hsame := h.same _ hperm
  rw [hprimary, Option.map_some, eq_comm, Option.map_eq_some_iff] at hsame
  obtain ⟨shown, hshown, hattributes⟩ := hsame
  have hshownCurrency : shown.currency = primary.currency :=
    congrArg (fun attributes => attributes.2.2.1) hattributes
  rw [currency_of_primary hshown, currency_of_primary hprimary, hcurrency'] at hshownCurrency
  exact hcurrency hshownCurrency.symm

/-- The candidates of offers that are chosen by their candidates. -/
theorem offersIn_filter (pf : Platform) (currency : String) (p : ComparableHotelOffer → Bool)
    (offers : List HotelOffer) :
    offersIn pf currency (offers.filter fun offer => (createCandidate pf offer 0).any p) =
      (offersIn pf currency offers).filter p ∧
    offersIn pf currency (offers.filter fun offer => !(createCandidate pf offer 0).any p) =
      (offersIn pf currency offers).filter (!p ·) := by
  unfold offersIn
  induction offers with
  | nil => exact ⟨rfl, rfl⟩
  | cons offer offers ih =>
    cases hcreate : createCandidate pf offer 0 with
    | none => simpa [hcreate] using ih
    | some candidate =>
      cases hp : p candidate <;> by_cases hcurrency : candidate.currency = currency <;>
        simpa [hcreate, hp, hcurrency] using ih

/-- An order with the worst offers first keeps none of the best. -/
theorem PrimaryLaw.bestKept (h : PrimaryLaw pf hotel) : BestKept pf (comparedOffers pf hotel) := by
  classical
  rw [← bestKept_placeless_iff]
  by_contra hnot
  simp only [BestKept, not_forall, not_exists, not_and] at hnot
  obtain ⟨hne, hnone⟩ := hnot
  let p (candidate : ComparableHotelOffer) : Bool :=
    decide (BestOf ((comparedOffers pf hotel).map placeless) candidate)
  let best (offer : HotelOffer) : Bool := (createCandidate pf offer 0).any p
  have hperm : (hotel.offers.filter (!best ·) ++ hotel.offers.filter best).Perm hotel.offers :=
    List.perm_append_comm.trans (List.filter_append_perm best hotel.offers)
  have hcompared := h.settledCurrency.compared_perm hperm
  have hsplit : (comparedOffers pf { hotel with
      offers := hotel.offers.filter (!best ·) ++ hotel.offers.filter best }).map placeless =
      ((comparedOffers pf hotel).map placeless).filter (!p ·) ++
        ((comparedOffers pf hotel).map placeless).filter p := by
    rw [placeless_comparedOffers, placeless_comparedOffers,
      h.settledCurrency.comparisonCurrency_perm hperm]
    obtain ⟨hbest, hworse⟩ :=
      offersIn_filter pf (comparisonCurrency pf hotel) p hotel.offers
    rw [← hbest, ← hworse, offersIn, List.filterMap_append, List.filter_append]
    rfl
  have hne' : comparedOffers pf { hotel with
      offers := hotel.offers.filter (!best ·) ++ hotel.offers.filter best } ≠ [] := by
    intro hnil
    rw [hnil] at hcompared
    exact hne hcompared.symm.eq_nil
  obtain ⟨primary, -, hprimary, hprimaryBest, -⟩ := h.best _ hperm hne'
  have hkept : placeless primary ∈ firstOfEach (createFingerprint pf)
      (((comparedOffers pf hotel).map placeless).filter (!p ·) ++
        ((comparedOffers pf hotel).map placeless).filter p) := by
    rw [← hsplit]
    exact mem_firstOfEach_map.mpr ⟨primary, (primary_spec hprimary).1, rfl⟩
  have hworse := not_of_worst_first (fun candidate hcandidate => ?_) hkept
  · exact of_decide_eq_false hworse ((bestOf_placeless_iff.mpr hprimaryBest).perm hcompared)
  · obtain ⟨other, hother, hfingerprint, hnotBest⟩ := hnone candidate hcandidate
    exact ⟨other, hother, hfingerprint, decide_eq_false hnotBest⟩

/-- The primary offer is the best in every order exactly if the currency is settled and some best
offer shares its fingerprint with best offers only. -/
theorem primary_law_iff (pf : Platform) (hotel : Hotel) : PrimaryLaw pf hotel ↔
    SettledCurrency pf hotel ∧ BestKept pf (comparedOffers pf hotel) :=
  ⟨fun h => ⟨h.settledCurrency, h.bestKept⟩, fun h => primaryLaw_of_bestKept h.1 h.2⟩

/-- ASCII letters, and numbers that are integers. -/
def plainPlatform : Platform where
  toLowerCase := JsText.toLowerCase
  toUpperCase text := String.ofList (text.toList.map Char.toUpper)
  numberText
    | .finite x => toString x.num
    | .posInfinity => "Infinity"
    | .negInfinity => "-Infinity"
    | .nan => "NaN"

/-- One offer twice: first as the provider lists it, then as it can be booked. -/
def listedTwice : Hotel :=
  let offer : HotelOffer :=
    { id := "offer-1", provider := "LiteAPI", price := .finite 480, currency := "EUR",
      cancellationPolicy := some "Refundable", taxesIncluded := some true,
      roomName := some "Double", bookable := false }
  { currency := "EUR", offers := [offer, { offer with id := "offer-2", bookable := true }] }

/-- The primary offer cannot be booked though a valid offer can, and with the offers in the other
order it can. -/
theorem unbookable_primary :
    (selectHotelOffers plainPlatform listedTwice).primary.map (·.offer.bookable) = some false ∧
      (∃ candidate ∈ comparedOffers plainPlatform listedTwice, candidate.offer.bookable = true) ∧
      (selectHotelOffers plainPlatform
        { listedTwice with offers := listedTwice.offers.reverse }).primary.map
          (·.offer.bookable) = some true := by
  decide +kernel

end SmartStay.Offers
