import SmartStay.Merge.Offers

/-!
# Merged hotels

`mergeHotelRecords` and `mergeProviderHotelResults` of
`server/providers/common/hotelMergeService.js`: the offers and the commercial data of a hotel. What
describes a hotel (its reviews, images, place and services) decides neither which hotels are merged
nor what an offer or a price becomes, and is left out.

1. `CommercialData`, `createCommercialData`.
2. `HotelRecord`, `mergeHotelRecords`, `mergeProviderHotelResults`.
3. `merged_stands`: however many hotels a record was merged from, its offers stand for all of theirs.
4. `HeadlineOf`, `createCommercialData_cases`: where a headline comes from.
5. `mergeProviderHotelResults_offers`, `headline_of_no_offer`.
-/

namespace SmartStay.Merge

open JsValue Grouping

abbrev Hotel := JsonValue JsFloat

/-! ## 1. Commercial data -/

structure CommercialData where
  provider : JsValue
  price : JsValue
  basePrice : JsValue
  saving : JsValue
  currency : JsValue
  taxesIncluded : JsValue
  includedTaxes : JsValue
  excludedTaxes : JsValue
  unknownTaxes : JsValue
  taxBreakdown : JsValue
  totalKnownCost : JsValue
  cancellationPolicy : JsValue
  refundableTag : JsValue
  refundable : JsValue
  freeCancellationUntil : JsValue
  cancellationPenalty : JsValue
  cancellationPenaltyCurrency : JsValue
  cancellationPenaltyType : JsValue
  cancellationTimezone : JsValue
  cancellationPolicies : JsValue
  roomName : JsValue
  deepLink : JsValue

/-- The commercial data of a hotel or an offer. -/
def CommercialData.read (value : JsValue) : CommercialData where
  provider := member value "provider"
  price := member value "price"
  basePrice := member value "basePrice"
  saving := member value "saving"
  currency := member value "currency"
  taxesIncluded := member value "taxesIncluded"
  includedTaxes := member value "includedTaxes"
  excludedTaxes := member value "excludedTaxes"
  unknownTaxes := member value "unknownTaxes"
  taxBreakdown := member value "taxBreakdown"
  totalKnownCost := member value "totalKnownCost"
  cancellationPolicy := member value "cancellationPolicy"
  refundableTag := member value "refundableTag"
  refundable := member value "refundable"
  freeCancellationUntil := member value "freeCancellationUntil"
  cancellationPenalty := member value "cancellationPenalty"
  cancellationPenaltyCurrency := member value "cancellationPenaltyCurrency"
  cancellationPenaltyType := member value "cancellationPenaltyType"
  cancellationTimezone := member value "cancellationTimezone"
  cancellationPolicies := member value "cancellationPolicies"
  roomName := member value "roomName"
  deepLink := member value "deepLink"

/-- `value ?? null`. -/
def orNull (value : JsValue) : JsValue := nullish value (some .null)

/-- `value ?? 0`. -/
def orZero (value : JsValue) : JsValue := nullish value (some (.num (.finite 0)))

/-- `Array.isArray(value) ? value : []`. -/
def orEmptyArray (value : JsValue) : JsValue :=
  match value with
  | some (.arr items) => some (.arr items)
  | _ => some (.arr [])

/-- The data with a default for what is missing. -/
def CommercialData.withDefaults (data : CommercialData) : CommercialData where
  provider := orNull data.provider
  price := orNull data.price
  basePrice := orNull data.basePrice
  saving := orZero data.saving
  currency := orNull data.currency
  taxesIncluded := orNull data.taxesIncluded
  includedTaxes := orZero data.includedTaxes
  excludedTaxes := orZero data.excludedTaxes
  unknownTaxes := orZero data.unknownTaxes
  taxBreakdown := orEmptyArray data.taxBreakdown
  totalKnownCost := orNull data.totalKnownCost
  cancellationPolicy := orNull data.cancellationPolicy
  refundableTag := orNull data.refundableTag
  refundable := orNull data.refundable
  freeCancellationUntil := orNull data.freeCancellationUntil
  cancellationPenalty := orNull data.cancellationPenalty
  cancellationPenaltyCurrency := orNull data.cancellationPenaltyCurrency
  cancellationPenaltyType := orNull data.cancellationPenaltyType
  cancellationTimezone := orNull data.cancellationTimezone
  cancellationPolicies := orEmptyArray data.cancellationPolicies
  roomName := orNull data.roomName
  deepLink := orNull data.deepLink

/-- The data of the best offer, or of the hotel when there is none. -/
def createCommercialData (bestOffer : Option Offer) (fallbackHotel : CommercialData) :
    CommercialData :=
  match bestOffer with
  | none => fallbackHotel.withDefaults
  | some offer => (CommercialData.read (some offer)).withDefaults

/-! ## 2. Merging -/

structure HotelRecord where
  offers : JsValue
  commercialData : CommercialData

def ofHotel (hotel : Hotel) : HotelRecord where
  offers := member (some hotel) "offers"
  commercialData := .read (some hotel)

/-- The offers that a hotel brings into a merge. -/
def offersOf (hotel : Hotel) : List Offer := getValidOffers (member (some hotel) "offers")

/-- The offers of all hotels, in their order. -/
def offersOfAll (inputs : List (Hotel × ℕ)) : List Offer :=
  inputs.flatMap fun entry => offersOf entry.1

variable (rt : MergeRuntime)

/-- `normalizeCurrency(getValidOffers(hotel)[0]?.currency)`. -/
def firstOfferCurrency (hotel : HotelRecord) : JsString :=
  normalizeCurrency rt
    ((getValidOffers hotel.offers).head?.bind fun offer => member (some offer) "currency")

def preferredCurrency (firstHotel secondHotel : HotelRecord) : JsString :=
  let currencies :=
    [normalizeCurrency rt firstHotel.commercialData.currency,
      normalizeCurrency rt secondHotel.commercialData.currency, firstOfferCurrency rt firstHotel,
      firstOfferCurrency rt secondHotel]
  (currencies.find? (· ≠ [])).getD []

def mergeHotelRecords (firstHotel secondHotel : HotelRecord) : HotelRecord :=
  let offers := mergeOffers rt (getValidOffers firstHotel.offers) (getValidOffers secondHotel.offers)
  let bestOffer := getBestOffer rt offers (preferredCurrency rt firstHotel secondHotel)
  { offers := some (.arr offers)
    commercialData := createCommercialData bestOffer firstHotel.commercialData }

/-- The keys of the map. A hotel without a safe identity has a key of its own, which no text equals. -/
inductive MergeKey where
  | text (key : JsString)
  | unmatched (index : ℕ)
deriving DecidableEq

/-- `createHotelMergeKey(hotel) ?? unmatched|index`. -/
def mergeKey (entry : Hotel × ℕ) : MergeKey :=
  match createHotelMergeKey rt (some entry.1) with
  | some key => .text key
  | none => .unmatched entry.2

/-- `typeof hotel === "object"` -/
def isHotel : Hotel → Bool
  | .obj _ | .arr _ => true
  | _ => false

/-- The hotels that are merged, each with its index. -/
def mergeable (hotels : JsValue) : List (Hotel × ℕ) :=
  match hotels with
  | some (.arr hotels) => hotels.zipIdx.filter fun entry => isHotel entry.1
  | _ => []

def hotelMap (hotels : JsValue) : List (MergeKey × HotelRecord) :=
  groupInto (mergeKey rt) (fun entry => ofHotel entry.1)
    (fun existing entry => mergeHotelRecords rt existing (ofHotel entry.1)) (mergeable hotels)

def mergeProviderHotelResults (hotels : JsValue) : List HotelRecord :=
  (hotelMap rt hotels).map Prod.snd

/-- The hotels that the record under a key is merged from. -/
def inputsOf (hotels : JsValue) (key : MergeKey) : List (Hotel × ℕ) :=
  valuesOf (mergeKey rt) key (mergeable hotels)

/-- What hotels are merged to, one after the other. -/
def merged (inputs : List (Hotel × ℕ)) : Option HotelRecord :=
  combined (fun entry : Hotel × ℕ => ofHotel entry.1)
    (fun existing entry => mergeHotelRecords rt existing (ofHotel entry.1)) inputs

variable {rt}

theorem merged_of_mem {hotels : JsValue} {key : MergeKey} {record : HotelRecord}
    (h : (key, record) ∈ hotelMap rt hotels) : merged rt (inputsOf rt hotels key) = some record :=
  mem_groupInto.mp h

/-! ## 3. The offers of merged hotels -/

theorem valid_of_offersOfAll {inputs : List (Hotel × ℕ)} {offer : Offer}
    (h : offer ∈ offersOfAll inputs) : isValidOffer offer = true := by
  obtain ⟨entry, -, hmem⟩ := List.mem_flatMap.mp h
  exact valid_of_getValidOffers hmem

theorem offersOfAll_concat (init : List (Hotel × ℕ)) (last : Hotel × ℕ) :
    offersOfAll (init ++ [last]) = offersOfAll init ++ offersOf last.1 := by
  rw [offersOfAll, List.flatMap_append, List.flatMap_singleton]
  rfl

/-- Valid offers are what `getValidOffers` returns of them. -/
theorem getValidOffers_arr {offers : List Offer} (h : ∀ offer ∈ offers, isValidOffer offer = true) :
    getValidOffers (some (.arr offers)) = offers :=
  List.filter_eq_self.mpr h

/-- One more hotel is merged into what the others were merged to. -/
theorem merged_concat {init : List (Hotel × ℕ)} {previous : HotelRecord}
    (h : merged rt init = some previous) (last : Hotel × ℕ) :
    merged rt (init ++ [last]) = some (mergeHotelRecords rt previous (ofHotel last.1)) := by
  unfold merged at h ⊢
  rw [combined_concat, h]

theorem merged_eq_none {inputs : List (Hotel × ℕ)} : merged rt inputs = none ↔ inputs = [] := by
  cases inputs with
  | nil => exact iff_of_true rfl rfl
  | cons => exact iff_of_false nofun nofun

/-- Whatever is merged into a record next, its own offers stand for those of its inputs. -/
theorem merged_stands {inputs : List (Hotel × ℕ)} {record : HotelRecord}
    (h : merged rt inputs = some record) (more : List Offer)
    (hmore : ∀ offer ∈ more, isValidOffer offer = true) :
    Kept rt (mergeOffers rt (getValidOffers record.offers) more) (offersOfAll inputs ++ more) := by
  induction inputs using List.reverseRecOn generalizing record more with
  | nil => exact nomatch h
  | append_singleton init last ih =>
    have hvalid : ∀ offer ∈ offersOfAll (init ++ [last]) ++ more, isValidOffer offer = true :=
      fun offer hoffer => (List.mem_append.mp hoffer).elim valid_of_offersOfAll (hmore offer)
    rw [offersOfAll_concat] at hvalid ⊢
    cases hprevious : merged rt init with
    | none =>
      -- the record is an input itself
      obtain rfl := merged_eq_none.mp hprevious
      obtain rfl : ofHotel last.1 = record := Option.some.inj h
      exact mergeOffers_kept hvalid
    | some previous =>
      rw [merged_concat hprevious, Option.some.injEq] at h
      subst h
      have hkept := ih hprevious (offersOf last.1) fun _ => valid_of_getValidOffers
      have hself : getValidOffers (mergeHotelRecords rt previous (ofHotel last.1)).offers =
          mergeOffers rt (getValidOffers previous.offers) (offersOf last.1) :=
        getValidOffers_arr fun offer hoffer =>
          hvalid offer (List.mem_append_left _ (hkept.mem hoffer))
      rw [hself]
      exact hkept.merge hvalid

/-! ## 4. The headline -/

/-- The price, the currency and the total cost of a record are those of `offer`. -/
structure HeadlineOf (offer : Offer) (data : CommercialData) : Prop where
  price : data.price = orNull (member (some offer) "price")
  currency : data.currency = orNull (member (some offer) "currency")
  totalKnownCost : data.totalKnownCost = orNull (member (some offer) "totalKnownCost")

theorem headlineOf_createCommercialData (offer : Offer) (fallbackHotel : CommercialData) :
    HeadlineOf offer (createCommercialData (some offer) fallbackHotel) :=
  ⟨rfl, rfl, rfl⟩

/-- The preferred currency is normalized. -/
theorem preferredCurrency_normalized (firstHotel secondHotel : HotelRecord) :
    normalizeCurrency rt (some (.str (preferredCurrency rt firstHotel secondHotel))) =
      preferredCurrency rt firstHotel secondHotel := by
  rw [preferredCurrency]
  cases hfind : List.find? (fun currency : JsString => decide (currency ≠ [])) _ with
  | none => exact normalizeCurrency_empty rt
  | some currency =>
    have hmem := List.mem_of_find?_eq_some hfind
    simp only [List.mem_cons, List.not_mem_nil, or_false] at hmem
    rcases hmem with rfl | rfl | rfl | rfl <;> exact normalizeCurrency_idem rt _

/-- The data after a merge: of a best one among the offers that can be compared, if there are any. -/
theorem createCommercialData_cases {offers : List Offer} {currency : JsString}
    (hvalid : ∀ offer ∈ offers, isValidOffer offer = true)
    (hcurrency : normalizeCurrency rt (some (.str currency)) = currency)
    (fallbackHotel : CommercialData) :
    ((∃ offer, Comparable rt offers currency offer) →
      ∃ best, Comparable rt offers currency best ∧
        (∀ offer, Comparable rt offers currency offer →
          getOfferComparableCost best ≤ getOfferComparableCost offer) ∧
        HeadlineOf best (createCommercialData (getBestOffer rt offers currency) fallbackHotel)) ∧
    ((∀ offer, ¬ Comparable rt offers currency offer) →
      createCommercialData (getBestOffer rt offers currency) fallbackHotel =
        fallbackHotel.withDefaults) := by
  rcases getBestOffer_cases hvalid hcurrency with ⟨hnone, hno⟩ | ⟨best, hbest, hcomparable, hle⟩
  · rw [hnone]
    exact ⟨fun ⟨offer, hoffer⟩ => absurd hoffer (hno offer), fun _ => rfl⟩
  · rw [hbest]
    exact ⟨fun _ => ⟨best, hcomparable, hle, headlineOf_createCommercialData ..⟩,
      fun hno => absurd hcomparable (hno best)⟩

/-! ## 5. Merged offers and headlines -/

/-- A record merged from two hotels or more: its offers are the first of the most complete ones under
each key of an offer with a valid price, and its headline is that of a cheapest one of the offers that
can be compared. Where none can be compared, the headline stays the one before the last hotel. -/
theorem mergeProviderHotelResults_offers (rt : MergeRuntime) {hotels : JsValue} {record : HotelRecord}
    (h : record ∈ mergeProviderHotelResults rt hotels) :
    ∃ key, (key, record) ∈ hotelMap rt hotels ∧
      (2 ≤ (inputsOf rt hotels key).length → ∃ offers init last previous,
        record.offers = some (.arr offers) ∧
        Kept rt offers (offersOfAll (inputsOf rt hotels key)) ∧
        inputsOf rt hotels key = init ++ [last] ∧ merged rt init = some previous ∧
        ((∃ offer, Comparable rt offers (preferredCurrency rt previous (ofHotel last.1)) offer) →
          ∃ best, Comparable rt offers (preferredCurrency rt previous (ofHotel last.1)) best ∧
            (∀ offer, Comparable rt offers (preferredCurrency rt previous (ofHotel last.1)) offer →
              getOfferComparableCost best ≤ getOfferComparableCost offer) ∧
            HeadlineOf best record.commercialData) ∧
        ((∀ offer, ¬ Comparable rt offers (preferredCurrency rt previous (ofHotel last.1)) offer) →
          record.commercialData = previous.commercialData.withDefaults)) := by
  obtain ⟨⟨key, _⟩, hmem, rfl⟩ := List.mem_map.mp h
  refine ⟨key, hmem, fun hmany => ?_⟩
  have hmerged := merged_of_mem hmem
  generalize inputsOf rt hotels key = inputs at hmerged hmany ⊢
  rcases List.eq_nil_or_concat inputs with rfl | ⟨init, last, rfl⟩
  · simp at hmany
  rw [List.concat_eq_append] at hmerged hmany ⊢
  cases hprevious : merged rt init with
  | none =>
    obtain rfl := merged_eq_none.mp hprevious
    simp at hmany
  | some previous =>
    rw [merged_concat hprevious, Option.some.injEq] at hmerged
    subst hmerged
    have hkept := merged_stands hprevious (offersOf last.1) fun _ => valid_of_getValidOffers
    rw [← offersOfAll_concat] at hkept
    have hvalid : ∀ offer ∈ mergeOffers rt (getValidOffers previous.offers) (offersOf last.1),
        isValidOffer offer = true := fun _ hoffer => valid_of_offersOfAll (hkept.mem hoffer)
    obtain ⟨hbest, hnone⟩ := createCommercialData_cases hvalid
      (preferredCurrency_normalized previous (ofHotel last.1)) previous.commercialData
    exact ⟨_, init, last, previous, rfl, hkept, rfl, hprevious, hbest, hnone⟩

/-- A hotel whose offers have these prices, in `offerCurrency`. -/
def sampleHotel (id offerCurrency : String) (prices : List (String × ℚ)) : Hotel :=
  let text (s : String) : JsonValue JsFloat := .str (.ofString s)
  let amount (x : ℚ) : JsonValue JsFloat := .num (.finite x)
  let offers := prices.map fun entry => JsonValue.obj [(.ofString "id", text entry.1),
    (.ofString "currency", text offerCurrency), (.ofString "price", amount entry.2)]
  .obj [(.ofString "sourceProvider", text "liteapi"), (.ofString "sourceHotelId", text id),
    (.ofString "currency", text "EUR"), (.ofString "price", amount 100), (.ofString "offers", .arr offers)]

/-- The same hotel twice, with offers in `offerCurrency`. -/
def sampleTwice (offerCurrency : String) : JsValue :=
  some (.arr [sampleHotel "A-1" offerCurrency [("a", 90)], sampleHotel "A-1" offerCurrency [("b", 80)]])

theorem mergeProviderHotelResults_offers_two :
    ∃ record ∈ mergeProviderHotelResults asciiMergeRuntime (sampleTwice "EUR"), ∃ key offers,
      record.offers = some (.arr offers) ∧
      Kept asciiMergeRuntime offers
        (offersOfAll (inputsOf asciiMergeRuntime (sampleTwice "EUR") key)) := by
  have hmany : ∀ entry ∈ hotelMap asciiMergeRuntime (sampleTwice "EUR"),
      2 ≤ (inputsOf asciiMergeRuntime (sampleTwice "EUR") entry.1).length := by decide +kernel
  have hne : mergeProviderHotelResults asciiMergeRuntime (sampleTwice "EUR") ≠ [] := by
    rw [← List.length_pos_iff]
    decide +kernel
  obtain ⟨record, hrecord⟩ := List.exists_mem_of_ne_nil _ hne
  obtain ⟨key, hmem, h⟩ := mergeProviderHotelResults_offers asciiMergeRuntime hrecord
  obtain ⟨offers, -, -, -, hoffers, hkept, -⟩ := h (hmany _ hmem)
  exact ⟨record, hrecord, key, offers, hoffers, hkept⟩

/-- The prices of the offers of a record. -/
def offerPrices (record : HotelRecord) : List JsFloat :=
  match record.offers with
  | some (.arr offers) => offers.map fun offer => numberOf (orNull (member (some offer) "price"))
  | _ => []

theorem not_headlineOf {record : HotelRecord} {offers : List Offer}
    (h : numberOf record.commercialData.price ∉ offerPrices record)
    (hoffers : record.offers = some (.arr offers)) {offer : Offer} (hoffer : offer ∈ offers) :
    ¬ HeadlineOf offer record.commercialData := by
  intro hheadline
  refine h ?_
  rw [offerPrices, hoffers, hheadline.price]
  exact List.mem_map_of_mem hoffer

/-- Two hotels in euros with offers in dollars: the merged hotel keeps its price in euros, which none
of its offers has. -/
theorem headline_of_no_offer :
    ∃ entry ∈ hotelMap asciiMergeRuntime (sampleTwice "USD"),
      2 ≤ (inputsOf asciiMergeRuntime (sampleTwice "USD") entry.1).length ∧
      ∀ offers, entry.2.offers = some (.arr offers) →
        ∀ offer ∈ offers, ¬ HeadlineOf offer entry.2.commercialData := by
  have hfound : ∃ entry ∈ hotelMap asciiMergeRuntime (sampleTwice "USD"),
      2 ≤ (inputsOf asciiMergeRuntime (sampleTwice "USD") entry.1).length ∧
      numberOf entry.2.commercialData.price ∉ offerPrices entry.2 := by decide +kernel
  obtain ⟨entry, hmem, hmany, hprice⟩ := hfound
  exact ⟨entry, hmem, hmany, fun _ hoffers _ hoffer => not_headlineOf hprice hoffers hoffer⟩

end SmartStay.Merge
