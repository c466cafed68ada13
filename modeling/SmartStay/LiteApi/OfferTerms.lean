import SmartStay.LiteApi.Offers

/-!
# What an offer depends on

1. `get_spread`: the properties of a spread object.
2. `SameBut`, `pickFirst_congr`: values that differ in some properties only.
3. `createLiteApiOffer_congr`: records that differ in their containers and ids only, and in no nested
   rate, make offers of the same terms.
-/

namespace SmartStay.LiteApi

open JsValue JsSort Grouping

/-! ## 1. Spread objects -/

theorem get_append (first second : Fields) (key : JsString) :
    JsonValue.get (first ++ second) key = (JsonValue.get first key).or (JsonValue.get second key) := by
  unfold JsonValue.get
  rw [List.find?_append]
  cases first.find? fun field => field.1 = key <;> rfl

/-- A search finds what a filter keeps. -/
theorem find?_filter_of_imp {α : Type} {p q : α → Bool} {l : List α}
    (h : ∀ x ∈ l, q x = true → p x = true) : (l.filter p).find? q = l.find? q := by
  induction l with
  | nil => rfl
  | cons x l ih =>
    have hrest := ih fun y hy => h y (List.mem_cons_of_mem _ hy)
    cases hp : p x with
    | true => rw [List.filter_cons_of_pos hp, List.find?_cons, List.find?_cons, hrest]
    | false =>
      have hq : q x = false := by
        by_contra hq
        rw [h x List.mem_cons_self (by simpa using hq)] at hp
        cases hp
      rw [List.filter_cons_of_neg (by simp [hp]), List.find?_cons, hq, hrest]

theorem get_spread (base added : Fields) (key : JsString) :
    JsonValue.get (spread base added) key = (JsonValue.get added key).or (JsonValue.get base key) := by
  rw [spread, get_append]
  cases hover : JsonValue.get added key with
  | some value => rfl
  | none =>
    have hfresh : ∀ own ∈ added, own.1 ≠ key := by
      intro own hown heq
      rw [JsonValue.get, Option.map_eq_none_iff, List.find?_eq_none] at hover
      exact hover own hown (by simpa using heq)
    refine congrArg (Option.map Prod.snd) (find?_filter_of_imp fun field _ hkey => ?_)
    rw [of_decide_eq_true hkey]
    simpa using hfresh

theorem member_obj (fields : Fields) (name : String) :
    member (some (.obj fields)) name = JsonValue.get fields (.ofString name) := rfl

theorem get_fieldsOf (value : Value) (name : String) :
    JsonValue.get (fieldsOf value) (.ofString name) = member (some value) name := by
  cases value <;> rfl

/-! ## 2. Values that differ in some properties -/

/-- The values agree on all properties but these. -/
def SameBut (hidden : List String) (first second : Value) : Prop :=
  ∀ name, name ∉ hidden → member (some first) name = member (some second) name

/-- No path starts with one of the properties. -/
def avoids (hidden : List String) (paths : List Path) : Bool :=
  paths.all fun path =>
    match path with
    | .name name :: _ => !hidden.contains name
    | _ => false

section

variable {hidden : List String} {first second : Value} {paths : List Path} {rt : LiteApiRuntime}

theorem follow_name (value : Value) (name : String) :
    follow (some value) (.name name) = member (some value) name := by
  cases value <;> rfl

theorem getValueByPath_avoids (h : SameBut hidden first second) {path : Path}
    (havoid : avoids hidden [path] = true) :
    getValueByPath (some first) path = getValueByPath (some second) path := by
  cases path with
  | nil => cases havoid
  | cons step path =>
    cases step with
    | index n => cases havoid
    | name name =>
      rw [getValueByPath_cons, getValueByPath_cons, follow_name, follow_name]
      exact congrArg (getValueByPath · path) (h name (by simpa [avoids] using havoid))

theorem avoids_mem (havoid : avoids hidden paths = true) {path : Path} (hpath : path ∈ paths) :
    avoids hidden [path] = true := by
  have hall := List.all_eq_true.mp havoid path hpath
  simpa [avoids] using hall

theorem pickFirst_congr (h : SameBut hidden first second) (havoid : avoids hidden paths = true) :
    pickFirst (some first) paths = pickFirst (some second) paths := by
  have hvalues : paths.map (getValueByPath (some first)) =
      paths.map (getValueByPath (some second)) :=
    List.map_congr_left fun path hpath => getValueByPath_avoids h (avoids_mem havoid hpath)
  rw [pickFirst, pickFirst, hvalues]

theorem pickString_congr (h : SameBut hidden first second) (havoid : avoids hidden paths = true) :
    pickString rt (some first) paths = pickString rt (some second) paths :=
  congrArg (asString rt) (pickFirst_congr h havoid)

theorem pickFirstNumber_congr (h : SameBut hidden first second)
    (havoid : avoids hidden paths = true) :
    pickFirstNumber (some first) paths = pickFirstNumber (some second) paths := by
  have hnumbers : paths.map (fun path => (getValueByPath (some first) path).bind
      (readNumber false)) = paths.map fun path => (getValueByPath (some second) path).bind
        (readNumber false) :=
    List.map_congr_left fun path hpath => by
      rw [getValueByPath_avoids h (avoids_mem havoid hpath)]
  have hsearch := congrArg (List.findSome? id) hnumbers
  rw [List.findSome?_map, List.findSome?_map] at hsearch
  exact hsearch

theorem pickFirstText_congr (h : SameBut hidden first second)
    (havoid : avoids hidden paths = true) :
    pickFirstText rt (some first) paths = pickFirstText rt (some second) paths := by
  have htexts : paths.map (fun path => asText rt (getValueByPath (some first) path)) =
      paths.map fun path => asText rt (getValueByPath (some second) path) :=
    List.map_congr_left fun path hpath => by
      rw [getValueByPath_avoids h (avoids_mem havoid hpath)]
  rw [pickFirstText, pickFirstText, htexts]

end

/-! ## 3. What an offer depends on -/

/-- The containers of rates, and the id that may be one of a position. -/
def hiddenNames : List String := "rateId" :: rateContainers

/-- Records that differ in their containers and ids only, and in no nested rate. -/
structure SameRate (first second : Value) : Prop where
  properties : SameBut hiddenNames first second
  nested : getNestedRates first = getNestedRates second
  objects : isPlainObject first = true ∧ isPlainObject second = true
  marked : isSelectedNestedRate first = true ∧ isSelectedNestedRate second = true

/-- What an offer says besides where it comes from. -/
structure OfferTerms where
  price : ℚ
  commercialPricing : PricingControl
  taxesIncluded : Option Bool
  includedTaxes : ℚ
  excludedTaxes : ℚ
  unknownTaxes : ℚ
  totalKnownCost : ℚ
  refundable : Option Bool
  freeCancellationUntil : Option JsString
  cancellationPenalty : Option ℚ
  mealPlan : Option JsString
  roomName : Option JsString
  selectionFingerprint : Option JsString

def LiteApiOffer.terms (offer : LiteApiOffer) : OfferTerms where
  price := offer.price
  commercialPricing := offer.commercialPricing
  taxesIncluded := offer.taxesIncluded
  includedTaxes := offer.includedTaxes
  excludedTaxes := offer.excludedTaxes
  unknownTaxes := offer.unknownTaxes
  totalKnownCost := offer.totalKnownCost
  refundable := offer.refundable
  freeCancellationUntil := offer.freeCancellationUntil
  cancellationPenalty := offer.cancellationPenalty
  mealPlan := offer.mealPlan
  roomName := offer.roomName
  selectionFingerprint := offer.selectionFingerprint

section

variable {rt : LiteApiRuntime} {first second : Value}

/-- What is read of each rate is the same when it is the same of the records themselves. -/
theorem map_ratesOf_congr {β : Type} {f : Value → β}
    (hnested : getNestedRates first = getNestedRates second) (hself : f first = f second) :
    (ratesOf first).map f = (ratesOf second).map f := by
  unfold ratesOf
  rw [hnested]
  split
  · rw [List.map_singleton, List.map_singleton, hself]
  · rfl

theorem retailSellingPrice_congr (h : SameBut hiddenNames first second) :
    getLiteApiRetailSellingPrice first = getLiteApiRetailSellingPrice second :=
  pickFirstNumber_congr h (by decide)

theorem publicPriceFloor_congr (h : SameBut hiddenNames first second) :
    getLiteApiPublicPriceFloor first = getLiteApiPublicPriceFloor second :=
  pickFirstNumber_congr h (by decide)

theorem publicPrice_congr (h : SameBut hiddenNames first second) :
    getPublicPrice first = getPublicPrice second := by
  rw [getPublicPrice, getPublicPrice, retailSellingPrice_congr h, publicPriceFloor_congr h]

theorem checkoutPrice_congr (h : SameBut hiddenNames first second) :
    getCheckoutPrice first = getCheckoutPrice second := by
  rw [getCheckoutPrice, getCheckoutPrice, retailSellingPrice_congr h, publicPrice_congr h]

theorem rateCurrency_congr (h : SameBut hiddenNames first second) :
    getRateCurrency rt first = getRateCurrency rt second := by
  funext fallbackCurrency
  rw [getRateCurrency, getRateCurrency, pickString_congr h (by decide)]

theorem commissionAmount_congr (h : SameRate first second) :
    getLiteApiCommissionAmount first = getLiteApiCommissionAmount second := by
  have hsource : getCommissionFromSource first = getCommissionFromSource second :=
    pickFirstNumber_congr h.properties (by decide)
  rw [getLiteApiCommissionAmount, getLiteApiCommissionAmount, hsource, h.nested]

theorem pricing_congr (h : SameRate first second) (context : OfferContext) :
    pricingOf context first = pricingOf context second := by
  have hretail := retailSellingPrice_congr h.properties
  have hfloor := publicPriceFloor_congr h.properties
  have hcommission : commissionVerified first = commissionVerified second := by
    rw [commissionVerified, commissionVerified, commissionAmount_congr h, hretail]
  unfold pricingOf createLiteApiCommercialPricing unmanagedPricing managedPricing
  rw [hretail, hfloor, hcommission]

theorem offerPrice_congr (h : SameRate first second) (context : OfferContext) :
    offerPrice context first = offerPrice context second := by
  rw [offerPrice, offerPrice, pricing_congr h, checkoutPrice_congr h.properties,
    publicPrice_congr h.properties]

theorem taxSummary_congr (h : SameRate first second) :
    createTaxSummary rt first = createTaxSummary rt second := by
  have hcurrency : getRateCurrency rt first = getRateCurrency rt second :=
    rateCurrency_congr h.properties
  have hitem : taxItem rt first = taxItem rt second := by
    funext source tax
    rw [taxItem, taxItem, hcurrency]
  have hself : (taxesOf first).filterMap (taxItem rt second first) =
      (taxesOf second).filterMap (taxItem rt second second) := by
    have htaxes : taxesOf first = taxesOf second := by
      rw [taxesOf, taxesOf, pickFirst_congr h.properties (by decide)]
    have hown : taxItem rt second first = taxItem rt second second := by
      funext tax
      rw [taxItem, taxItem, hcurrency]
    rw [htaxes, hown]
  have hitems : taxItems rt first = taxItems rt second := by
    rw [taxItems, taxItems, hitem, List.flatMap_def, List.flatMap_def,
      map_ratesOf_congr (f := fun source => (taxesOf source).filterMap (taxItem rt second source))
        h.nested hself]
  unfold createTaxSummary taxBreakdown
  rw [hitems]

theorem selectionTag_eq (sources : List Value) : selectionTag rt sources =
    let tags := sources.map (refundableTagOf rt)
    if (tags.filterMap id).contains .nrfn then some .nrfn
    else if (tags.filterMap id).length = tags.length ∧ 0 < (tags.filterMap id).length then some .rfn
    else none := by
  have htags : (sources.map (refundableTagOf rt)).filterMap id =
      sources.filterMap (refundableTagOf rt) := List.filterMap_map
  dsimp only
  rw [htags, List.length_map]
  rfl

theorem cancellationSummary_congr (h : SameRate first second) :
    createCancellationSummary rt first = createCancellationSummary rt second := by
  have hcurrency : getRateCurrency rt first = getRateCurrency rt second :=
    rateCurrency_congr h.properties
  have htags : (ratesOf first).map (refundableTagOf rt) =
      (ratesOf second).map (refundableTagOf rt) :=
    map_ratesOf_congr h.nested (by
      rw [refundableTagOf, refundableTagOf, pickFirst_congr h.properties (by decide)])
  have hitem : cancellationItem rt first = cancellationItem rt second := by
    funext source penalty
    rw [cancellationItem, cancellationItem, hcurrency]
  have hself : (penaltyObjects first).map (cancellationItem rt second first) =
      (penaltyObjects second).map (cancellationItem rt second second) := by
    have hpenalties : penaltyObjects first = penaltyObjects second := by
      rw [penaltyObjects, penaltyObjects, pickFirst_congr h.properties (by decide)]
    have hown : cancellationItem rt second first = cancellationItem rt second second := by
      funext penalty
      rw [cancellationItem, cancellationItem, hcurrency]
    rw [hpenalties, hown]
  have hitems : cancellationItems rt first = cancellationItems rt second := by
    rw [cancellationItems, cancellationItems, hitem, List.flatMap_def, List.flatMap_def,
      map_ratesOf_congr
        (f := fun source => (penaltyObjects source).map (cancellationItem rt second source))
        h.nested hself]
  unfold createCancellationSummary groupedPenalties
  rw [selectionTag_eq, selectionTag_eq, htags, hitems]

theorem roomName_congr (h : SameRate first second) :
    buildRoomName rt first = buildRoomName rt second := by
  rw [buildRoomName, buildRoomName, h.nested, pickString_congr h.properties (by decide)]

theorem mealPlan_congr (h : SameRate first second) :
    buildMealPlan rt first = buildMealPlan rt second := by
  have hplans : (ratesOf first).map (fun source => pickString rt (some source) boardPaths) =
      (ratesOf second).map fun source => pickString rt (some source) boardPaths :=
    map_ratesOf_congr h.nested (pickString_congr h.properties (by decide))
  rw [buildMealPlan, buildMealPlan, hplans]

theorem selectionDescriptor_congr (h : SameBut hiddenNames first second) :
    createSelectionDescriptor rt first = createSelectionDescriptor rt second := by
  have hread : ∀ name, name ∉ hiddenNames → member (some first) name = member (some second) name :=
    h
  dsimp only [createSelectionDescriptor]
  rw [hread "cancellationPolicies" (by decide), hread "cancellationPolicy" (by decide),
    hread "children" (by decide), hread "childAges" (by decide), hread "occupancy" (by decide)]
  congr 1
  all_goals first
    | exact pickFirstText_congr h (by decide)
    | exact pickFirstNumber_congr h (by decide)

theorem fingerprint_congr (h : SameRate first second) :
    createLiteApiSelectionFingerprint rt first = createLiteApiSelectionFingerprint rt second := by
  have hdescriptors : selectionDescriptors rt first = selectionDescriptors rt second := by
    unfold selectionDescriptors getSelectionSources
    rw [if_pos h.marked.1, if_pos h.marked.2, List.map_singleton, List.map_singleton,
      selectionDescriptor_congr h.properties, pickFirstText_congr h.properties (by decide)]
  rw [createLiteApiSelectionFingerprint, createLiteApiSelectionFingerprint, if_pos h.objects.1,
    if_pos h.objects.2, hdescriptors]

/-- The terms of an offer do not depend on the containers that its record hides. -/
theorem createLiteApiOffer_congr (h : SameRate first second) (context : OfferContext) :
    (createLiteApiOffer rt context first).map LiteApiOffer.terms =
      (createLiteApiOffer rt context second).map LiteApiOffer.terms := by
  have hterms : ∀ price, (offerAt rt context first price).terms =
      (offerAt rt context second price).terms := by
    intro price
    have htaxes : createTaxSummary rt first = createTaxSummary rt second := taxSummary_congr h
    have hcancellation : createCancellationSummary rt first =
        createCancellationSummary rt second := cancellationSummary_congr h
    simp only [offerAt, LiteApiOffer.terms, htaxes, hcancellation, pricing_congr h,
      mealPlan_congr h, roomName_congr h, fingerprint_congr h]
  rw [createLiteApiOffer, createLiteApiOffer, offerPrice_congr h, Option.map_map, Option.map_map]
  exact congrArg (Option.map · _) (funext hterms)

end

end SmartStay.LiteApi
