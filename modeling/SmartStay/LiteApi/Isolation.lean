import SmartStay.LiteApi.OfferTerms

/-!
# The rates of one room

Whether the offer that is made of a nested rate depends on the other rates of its room.

1. `NestedOffer`, `exists_nestedOffer`: the record of a nested rate.
2. `getNestedRates_merged`, `exposed_rates`: which rates the record shows.
3. `nestedOffer_isolated_iff`.
-/

namespace SmartStay.LiteApi

open JsValue

/-! ## 1. The record of a nested rate -/

section

variable {rt : LiteApiRuntime} {record room room' rate made made' : Value} {index index' : Nat}

theorem SameBut.mono {hidden hidden' : List String} {first second : Value}
    (h : SameBut hidden first second) (hsub : hidden ⊆ hidden') : SameBut hidden' first second :=
  fun name hname => h name fun hmem => hname (hsub hmem)

theorem containers_hidden : rateContainers ⊆ hiddenNames := List.subset_cons_self _ _

/-- The names of the properties that `mergeRoomWithRate` sets. -/
def mergedNames : List String := ["__liteApiSelectedNestedRate", "roomName", "offerId", "rateId"]

theorem member_mergeRoomWithRate (name : String) :
    member (some (mergeRoomWithRate rt room rate index)) name =
      (JsonValue.get (mergedFields rt room rate index) (.ofString name)).or
        ((member (some rate) name).or (member (some room) name)) := by
  rw [mergeRoomWithRate, member_obj, get_spread, get_spread, get_fieldsOf, get_fieldsOf]

theorem member_merged {name : String} (hname : name ∉ mergedNames) :
    member (some (mergeRoomWithRate rt room rate index)) name =
      (member (some rate) name).or (member (some room) name) := by
  have hset : JsonValue.get (mergedFields rt room rate index) (.ofString name) = none := by
    refine JsonValue.get_eq_none fun field hfield heq => hname ?_
    have hnames : field.1 ∈ mergedNames.map JsString.ofString :=
      List.mem_map_of_mem (f := Prod.fst) hfield
    rw [heq] at hnames
    exact (List.mem_map_of_injective Contract.ofString_injective).mp hnames
  rw [member_mergeRoomWithRate, hset]
  rfl

theorem merged_properties (h : SameBut rateContainers room room') :
    SameBut hiddenNames (mergeRoomWithRate rt room rate index)
      (mergeRoomWithRate rt room' rate index') := by
  intro name hname
  by_cases hset : name ∈ mergedNames
  · have hroomName : pickString rt (some room) roomNamePaths =
        pickString rt (some room') roomNamePaths := pickString_congr h (by decide)
    have hofferId : pickString rt (some room) [["offerId"]] =
        pickString rt (some room') [["offerId"]] := pickString_congr h (by decide)
    have hid : name ≠ "rateId" := fun heq => hname (heq ▸ List.mem_cons_self)
    have hfields : JsonValue.get (mergedFields rt room rate index) (.ofString name) =
        JsonValue.get (mergedFields rt room' rate index') (.ofString name) := by
      have hlast : ∀ value : Value, JsonValue.get [(.ofString "rateId", value)] (.ofString name) =
          none := fun value => JsonValue.get_eq_none (by
            simpa using fun heq => hid (Contract.ofString_injective heq).symm)
      show JsonValue.get ([_, _, _] ++ [_]) _ = JsonValue.get ([_, _, _] ++ [_]) _
      rw [get_append, get_append, hlast, hlast, hroomName, hofferId]
    have hsome : (JsonValue.get (mergedFields rt room' rate index') (.ofString name)).isSome := by
      simp only [mergedNames, List.mem_cons, List.not_mem_nil, or_false] at hset
      rcases hset with rfl | rfl | rfl | rfl <;> simp [JsonValue.get, mergedFields]
    obtain ⟨value, hvalue⟩ := Option.isSome_iff_exists.mp hsome
    rw [member_mergeRoomWithRate, member_mergeRoomWithRate, hfields, hvalue]
    rfl
  · have hcontainer : name ∉ rateContainers := fun hmem => hname (containers_hidden hmem)
    rw [member_merged hset, member_merged hset, h name hcontainer]

/-- The record that `getLiteApiOfferRecords` makes of a priced rate of a room without a price. -/
structure NestedOffer (rt : LiteApiRuntime) (record room rate made : Value) : Prop where
  isRecord : isPlainObject record = true
  room_mem : room ∈ roomsOf record
  isRoom : isPlainObject room = true
  unpriced : isPriced (getPublicPrice room) = false
  rate_mem : rate ∈ getNestedRates room
  priced : isPriced (getPublicPrice rate) = true
  merged : ∃ index, made = mergeRoomWithRate rt room rate index
  listed : made ∈ getLiteApiOfferRecords rt record

theorem foldl_subset {α β : Type} {step : List β → α → List β}
    (hkeep : ∀ acc a, acc ⊆ step acc a) (l : List α) (acc : List β) : acc ⊆ l.foldl step acc := by
  induction l generalizing acc with
  | nil => exact List.Subset.refl acc
  | cons b l ih => exact List.Subset.trans (hkeep acc b) (ih (step acc b))

/-- What one round adds, a loop that only adds keeps. -/
theorem exists_mem_foldl {α β : Type} {step : List β → α → List β} {p : β → Prop} {l : List α}
    {a : α} (hkeep : ∀ acc a, acc ⊆ step acc a) (ha : a ∈ l)
    (hadd : ∀ acc, ∃ x, p x ∧ x ∈ step acc a) (acc : List β) :
    ∃ x, p x ∧ x ∈ l.foldl step acc := by
  induction l generalizing acc with
  | nil => cases ha
  | cons b l ih =>
    rcases List.mem_cons.mp ha with rfl | ha
    · obtain ⟨x, hx, hmem⟩ := hadd acc
      exact ⟨x, hx, foldl_subset hkeep l _ hmem⟩
    · exact ih ha (step acc b)

theorem addNestedRate_subset (offers : List Value) (nestedRate : Value) :
    offers ⊆ addNestedRate rt room offers nestedRate := by
  unfold addNestedRate
  split
  · exact List.subset_append_left _ _
  · exact List.Subset.refl _

theorem addRoom_subset (offers : List Value) (room : Value) : offers ⊆ addRoom rt offers room := by
  unfold addRoom
  split
  · exact List.Subset.refl _
  · split
    · exact List.subset_append_left _ _
    · exact foldl_subset addNestedRate_subset _ _

theorem addDirectRate_subset (offers : List Value) (rate : Value) :
    offers ⊆ addDirectRate rt offers rate := by
  unfold addDirectRate
  split
  · exact List.subset_append_left _ _
  · exact List.Subset.refl _

/-- Every priced rate of a room without a price is made a record of. -/
theorem exists_nestedOffer (hrecord : isPlainObject record = true) (hmem : room ∈ roomsOf record)
    (hroom : isPlainObject room = true) (hunpriced : isPriced (getPublicPrice room) = false)
    (hrate : rate ∈ getNestedRates room) (hpriced : isPriced (getPublicPrice rate) = true) :
    ∃ made, NestedOffer rt record room rate made := by
  have hnested : ∀ offers : List Value, ∃ made,
      (∃ index, made = mergeRoomWithRate rt room rate index) ∧ made ∈ addRoom rt offers room := by
    intro offers
    rw [addRoom, hroom, hunpriced]
    refine exists_mem_foldl addNestedRate_subset hrate (fun acc => ?_) offers
    rw [addNestedRate, if_pos hpriced]
    exact ⟨_, ⟨acc.length, rfl⟩, List.mem_append_right _ (List.mem_singleton_self _)⟩
  obtain ⟨made, hmade, hadded⟩ := exists_mem_foldl addRoom_subset hmem hnested []
  refine ⟨made, hrecord, hmem, hroom, hunpriced, hrate, hpriced, hmade, ?_⟩
  have hdirect : (roomsOf record).foldl (addRoom rt) [] ⊆
      (itemsOf record ["rates", "rate", "availableRates"]).foldl (addDirectRate rt)
        ((roomsOf record).foldl (addRoom rt) []) := foldl_subset addDirectRate_subset _ _
  have hlisted := hdirect hadded
  rw [getLiteApiOfferRecords, hrecord]
  dsimp only
  rw [if_neg (by simp), if_neg]
  · exact hlisted
  · simp [List.ne_nil_of_mem hlisted]

end

/-! ## 2. The rates that a record shows -/

section

variable {rt : LiteApiRuntime} {record room rate made : Value} {index : Nat}

/-- The rate has every container up to the first one that holds an object, or all of them. -/
def coversContainers (rate : Value) : List String → Bool
  | [] => true
  | name :: names => (member (some rate) name).isSome &&
      (!(objectsIn rate name).isEmpty || coversContainers rate names)

/-- The containers of the room do not show in the record of the rate. -/
def hidesRoomRates (rate : Value) : Bool := coversContainers rate rateContainers

theorem containers_not_merged : ∀ name ∈ rateContainers, name ∉ mergedNames := by decide

theorem objectsIn_merged_own {name : String} (hname : name ∈ rateContainers)
    (hown : (member (some rate) name).isSome = true) :
    objectsIn (mergeRoomWithRate rt room rate index) name = objectsIn rate name := by
  obtain ⟨value, hvalue⟩ := Option.isSome_iff_exists.mp hown
  rw [objectsIn, objectsIn, member_merged (containers_not_merged name hname), hvalue]
  rfl

theorem objectsIn_merged_room {name : String} (hname : name ∈ rateContainers)
    (hlacks : member (some rate) name = none) :
    objectsIn (mergeRoomWithRate rt room rate index) name = objectsIn room name := by
  rw [objectsIn, objectsIn, member_merged (containers_not_merged name hname), hlacks]
  rfl

/-- A rate that covers the containers keeps its own nested rates. -/
theorem getNestedRates_merged (h : hidesRoomRates rate = true) :
    getNestedRates (mergeRoomWithRate rt room rate index) = getNestedRates rate := by
  have hsearch : ∀ names, names ⊆ rateContainers → coversContainers rate names = true →
      ((names.map (objectsIn (mergeRoomWithRate rt room rate index))).find? fun rates =>
        !rates.isEmpty) = (names.map (objectsIn rate)).find? fun rates => !rates.isEmpty := by
    intro names
    induction names with
    | nil => exact fun _ _ => rfl
    | cons name names ih =>
      intro hsub hcovers
      obtain ⟨hown, hrest⟩ := Bool.and_eq_true_iff.mp hcovers
      rw [List.map_cons, List.map_cons, List.find?_cons, List.find?_cons,
        objectsIn_merged_own (hsub List.mem_cons_self) hown]
      cases hfilled : !(objectsIn rate name).isEmpty with
      | true => rfl
      | false =>
        rw [hfilled, Bool.false_or] at hrest
        exact ih (fun _ hmem => hsub (List.mem_cons_of_mem _ hmem)) hrest
  rw [getNestedRates, getNestedRates, hsearch _ (List.Subset.refl _) h]

/-- Otherwise there is a container that the rate lacks, after empty ones. -/
theorem exists_lacked {names : List String} (h : coversContainers rate names = false) :
    ∃ before name after, names = before ++ name :: after ∧ member (some rate) name = none ∧
      ∀ other ∈ before, (member (some rate) other).isSome = true ∧ objectsIn rate other = [] := by
  induction names with
  | nil => cases h
  | cons name names ih =>
    cases hown : member (some rate) name with
    | none => exact ⟨[], name, names, rfl, hown, nofun⟩
    | some value =>
      have hempty : objectsIn rate name = [] ∧ coversContainers rate names = false := by
        simpa [coversContainers, hown] using h
      obtain ⟨before, lacked, after, rfl, hlacks, hbefore⟩ := ih hempty.2
      refine ⟨name :: before, lacked, after, rfl, hlacks, ?_⟩
      exact List.forall_mem_cons.mpr ⟨⟨by rw [hown]; rfl, hempty.1⟩, hbefore⟩

/-- A room with the properties of another one and its rates in one container. -/
def roomWith (room : Value) (container : String) (rates : List Value) : Value :=
  .obj (((fieldsOf room).filter fun field =>
    !(rateContainers.map JsString.ofString).contains field.1) ++
      [(.ofString container, .arr rates)])

theorem get_ownFields (fields : Fields) (name : String) :
    JsonValue.get (fields.filter fun field =>
      !(rateContainers.map JsString.ofString).contains field.1) (.ofString name) =
        if name ∈ rateContainers then none else JsonValue.get fields (.ofString name) := by
  have hname : ∀ key, key = JsString.ofString name →
      ((rateContainers.map JsString.ofString).contains key = true ↔ name ∈ rateContainers) := by
    rintro key rfl
    rw [List.contains_iff_mem, List.mem_map_of_injective Contract.ofString_injective]
  split
  · next hmem =>
    refine JsonValue.get_eq_none fun field hfield heq => ?_
    have hkept := (List.mem_filter.mp hfield).2
    rw [(hname _ heq).mpr hmem] at hkept
    cases hkept
  · next hmem =>
    refine congrArg (Option.map Prod.snd) (find?_filter_of_imp fun field _ hkey => ?_)
    rw [Bool.not_eq_true', Bool.eq_false_iff]
    exact fun hcontains => hmem ((hname _ (of_decide_eq_true hkey)).mp hcontains)

theorem member_roomWith {container : String} {rates : List Value} (name : String) :
    member (some (roomWith room container rates)) name =
      (if name ∈ rateContainers then none else member (some room) name).or
        (if name = container then some (.arr rates) else none) := by
  have hlast : JsonValue.get [(JsString.ofString container, JsonValue.arr rates)]
      (.ofString name) = if name = container then some (.arr rates) else none := by
    split
    · next heq => rw [heq]; simp [JsonValue.get]
    · next hne =>
      exact JsonValue.get_eq_none (by
        simpa using fun heq => hne (Contract.ofString_injective heq).symm)
  rw [roomWith, member_obj, get_append, get_ownFields, hlast, get_fieldsOf]

theorem roomWith_properties {container : String} {rates : List Value}
    (hcontainer : container ∈ rateContainers) :
    SameBut rateContainers room (roomWith room container rates) := by
  intro name hname
  have hne : name ≠ container := fun heq => hname (heq ▸ hcontainer)
  rw [member_roomWith, if_neg hname, if_neg hne, Option.or_none]

theorem objectsIn_roomWith {container name : String} {rates : List Value}
    (hname : name ∈ rateContainers) (hobjects : ∀ rate ∈ rates, isPlainObject rate = true) :
    objectsIn (roomWith room container rates) name = if name = container then rates else [] := by
  rw [objectsIn, member_roomWith, if_pos hname]
  split
  · exact List.filter_eq_self.mpr hobjects
  · rfl

/-- Of one container alone the search finds its rates. -/
theorem find?_container {objects : String → List Value} {before after : List String}
    {container : String} {rates : List Value} (hrates : rates ≠ [])
    (hbefore : ∀ name ∈ before, objects name = []) (hcontainer : objects container = rates) :
    (((before ++ container :: after).map objects).find? fun rates => !rates.isEmpty) =
      some rates := by
  induction before with
  | nil =>
    rw [List.nil_append, List.map_cons, hcontainer, List.find?_cons_of_pos]
    simpa using hrates
  | cons name before ih =>
    obtain ⟨hname, hrest⟩ := List.forall_mem_cons.mp hbefore
    rw [List.cons_append, List.map_cons, hname, List.find?_cons_of_neg (by simp)]
    exact ih hrest

/-- In a room that holds its rates where the rate has no container, the record shows all of them. -/
theorem exposed_rates {before after : List String} {container : String} {rates : List Value}
    (hnames : rateContainers = before ++ container :: after)
    (hlacks : member (some rate) container = none)
    (hbefore : ∀ other ∈ before, (member (some rate) other).isSome = true ∧
      objectsIn rate other = [])
    (hobjects : ∀ rate ∈ rates, isPlainObject rate = true) (hrates : rates ≠ []) :
    getNestedRates (roomWith room container rates) = rates ∧
      getNestedRates (mergeRoomWithRate rt (roomWith room container rates) rate index) = rates := by
  have hmem : ∀ name ∈ before, name ∈ rateContainers := fun name hname =>
    hnames ▸ List.mem_append_left _ hname
  have hcontainer : container ∈ rateContainers :=
    hnames ▸ List.mem_append_right _ List.mem_cons_self
  have hdistinct : container ∉ before := by
    have hnodup : rateContainers.Nodup := by decide
    rw [hnames, List.nodup_append] at hnodup
    exact fun hin => hnodup.2.2 container hin container List.mem_cons_self rfl
  constructor
  · rw [getNestedRates, hnames, find?_container hrates]
    · rfl
    · intro name hname
      rw [objectsIn_roomWith (hmem name hname) hobjects, if_neg]
      exact fun heq => hdistinct (heq ▸ hname)
    · rw [objectsIn_roomWith hcontainer hobjects, if_pos rfl]
  · rw [getNestedRates, hnames, find?_container hrates]
    · rfl
    · intro name hname
      rw [objectsIn_merged_own (hmem name hname) (hbefore name hname).1, (hbefore name hname).2]
    · rw [objectsIn_merged_room hcontainer hlacks, objectsIn_roomWith hcontainer hobjects,
        if_pos rfl]

end

/-! ## 3. Isolation -/

section

variable {rt : LiteApiRuntime} {record room rate made : Value} {context : OfferContext}

/-- The search offers a rate without a policy. -/
def searchContext : OfferContext where
  hotelId := []
  index := 0
  fallbackCurrency := []
  sourceProvider := []
  providerName := []
  isCheckout := false
  commercialPricingPolicy := none
  requestedSellerCommissionPercent := none

/-- The price without a policy is that of the checkout. -/
theorem offerPrice_search (rate : Value) : offerPrice searchContext rate = getCheckoutPrice rate := by
  show ((getLiteApiRetailSellingPrice rate).or (getLiteApiPublicPriceFloor rate)).or
    (getPublicPrice rate) = (getLiteApiRetailSellingPrice rate).or (getPublicPrice rate)
  unfold getPublicPrice
  cases getLiteApiRetailSellingPrice rate <;> cases getLiteApiPublicPriceFloor rate <;> rfl

/-- Without a positive selling price there is no offer, whatever the policy. -/
theorem createLiteApiOffer_unpriced (h : isPriced (getCheckoutPrice rate) = false) :
    createLiteApiOffer rt context rate = none := by
  have hprice : ∀ price, offerPrice context rate = some price → ¬ 0 < price := by
    intro price hsome hpos
    have hcheckout : ∀ price, getCheckoutPrice rate = some price → ¬ 0 < price := by
      intro price hsome
      simpa [isPriced, hsome] using h
    unfold offerPrice at hsome
    split at hsome
    · exact hcheckout price hsome hpos
    · split at hsome
      · cases hsome
      · next hstate =>
        cases hpercent : getMinimumCommissionPercent context.commercialPricingPolicy with
        | none =>
          have hpricing : pricingOf context rate = unmanagedPricing rate := by
            rw [pricingOf, createLiteApiCommercialPricing, hpercent]
          rw [hpricing] at hsome
          exact hcheckout price ((offerPrice_search rate).symm.trans hsome) hpos
        | some percent =>
          -- a price under a policy is shown when it is positive only
          have hpricing : pricingOf context rate = managedPricing rate
              context.commercialPricingPolicy context.requestedSellerCommissionPercent percent := by
            rw [pricingOf, createLiteApiCommercialPricing, hpercent]
          rw [hpricing] at hstate
          refine hstate (if_pos ?_)
          cases hretail : getLiteApiRetailSellingPrice rate with
          | none => exact .inl rfl
          | some retail =>
            have hselling : getCheckoutPrice rate = some retail := by
              rw [getCheckoutPrice, hretail]
              rfl
            exact .inr (.inl (not_lt.mp (hcheckout retail hselling)))
  cases hsome : offerPrice context rate with
  | none => rw [createLiteApiOffer, hsome]; rfl
  | some price =>
    rw [createLiteApiOffer, hsome, Option.filter_some, if_neg (by simpa using hprice price hsome)]
    rfl

/-- Another room with the same properties, the rate among its nested rates, makes an offer of the
    same terms. -/
def Isolated (rt : LiteApiRuntime) (room rate made : Value) : Prop :=
  ∀ context record' room' made', NestedOffer rt record' room' rate made' →
    SameBut rateContainers room room' →
    (createLiteApiOffer rt context made).map LiteApiOffer.terms =
      (createLiteApiOffer rt context made').map LiteApiOffer.terms

/-- A meal plan that the rate does not name. -/
def otherMealPlan (plan : JsString) : JsString :=
  if plan = .ofString "a" then .ofString "b" else .ofString "a"

/-- A rate of that meal plan. -/
def sibling (plan : JsString) : Value := .obj [(.ofString "boardName", .str (otherMealPlan plan))]

theorem sibling_mealPlan (plan : JsString) :
    pickString rt (some (sibling plan)) boardPaths = otherMealPlan plan := by
  have hread : pickFirst (some (sibling plan)) boardPaths = some (.str (otherMealPlan plan)) := by
    unfold sibling otherMealPlan
    split <;> rfl
  rw [pickString, hread]
  unfold otherMealPlan
  split <;> rfl

theorem otherMealPlan_ne (plan : JsString) :
    otherMealPlan plan ≠ plan ∧ otherMealPlan plan ≠ [] := by
  unfold otherMealPlan
  split
  · next heq => rw [heq]; exact ⟨by decide, by decide⟩
  · next hne => exact ⟨fun heq => hne heq.symm, by decide⟩

/-- With a rate of another meal plan beside it, the rate shows another meal plan. -/
theorem mealPlan_exposed {first second : Value} (hfirst : getNestedRates first = [rate])
    (hsecond : getNestedRates second =
      [rate, sibling (pickString rt (some rate) boardPaths)]) :
    buildMealPlan rt first ≠ buildMealPlan rt second := by
  obtain ⟨hne, hfilled⟩ := otherMealPlan_ne (pickString rt (some rate) boardPaths)
  have hratesFirst : ratesOf first = [rate] := by rw [ratesOf, hfirst]; rfl
  have hratesSecond : ratesOf second =
      [rate, sibling (pickString rt (some rate) boardPaths)] := by rw [ratesOf, hsecond]; rfl
  rw [buildMealPlan, buildMealPlan, hratesFirst, hratesSecond]
  simp only [List.map_cons, List.map_nil, sibling_mealPlan]
  generalize pickString rt (some rate) boardPaths = plan at hne hfilled
  generalize otherMealPlan plan = other at hne hfilled
  by_cases hplan : plan = []
  · simp [differentTexts, hplan, hfilled, joinNames, List.eraseDups_cons]
  · have hkept : (other == plan) = false := by simpa using hne
    simp [differentTexts, hplan, hfilled, joinNames, List.eraseDups_cons, hkept, List.intercalate]

/-- A room as the only one of a record. -/
def recordOf (room : Value) : Value := .obj [(.ofString "roomTypes", room)]

theorem exists_nestedOffer_recordOf (hroom : isPlainObject room = true)
    (hunpriced : isPriced (getPublicPrice room) = false) (hrate : rate ∈ getNestedRates room)
    (hpriced : isPriced (getPublicPrice rate) = true) :
    ∃ made, NestedOffer rt (recordOf room) room rate made := by
  refine exists_nestedOffer rfl ?_ hroom hunpriced hrate hpriced
  cases room with
  | obj fields => exact List.mem_append_left _ (List.mem_singleton_self _)
  | _ => cases hroom

theorem nestedRates_objects (h : rate ∈ getNestedRates room) : isPlainObject rate = true := by
  unfold getNestedRates at h
  cases hfound : (rateContainers.map (objectsIn room)).find? fun rates => !rates.isEmpty with
  | none => rw [hfound] at h; cases h
  | some rates =>
    rw [hfound] at h
    obtain ⟨name, -, rfl⟩ := List.mem_map.mp (List.mem_of_find?_eq_some hfound)
    exact (List.mem_filter.mp h).2

/-- A rate that lacks a container can be put in it with any others, and shows all of them. -/
theorem exists_variant (h : NestedOffer rt record room rate made)
    (hcovers : hidesRoomRates rate = false) {rates : List Value}
    (hobjects : ∀ rate ∈ rates, isPlainObject rate = true) (hrate : rate ∈ rates) :
    ∃ record' room' made', NestedOffer rt record' room' rate made' ∧
      SameBut rateContainers room room' ∧ getNestedRates made' = rates := by
  obtain ⟨before, container, after, hnames, hlacks, hbefore⟩ := exists_lacked hcovers
  have hcontainer : container ∈ rateContainers :=
    hnames ▸ List.mem_append_right _ List.mem_cons_self
  have hsame : SameBut rateContainers room (roomWith room container rates) :=
    roomWith_properties hcontainer
  have hshown := fun index => @exposed_rates rt room rate index before after container rates hnames
    hlacks hbefore hobjects (List.ne_nil_of_mem hrate)
  have hunpriced : isPriced (getPublicPrice (roomWith room container rates)) = false := by
    rw [← publicPrice_congr (hsame.mono containers_hidden)]
    exact h.unpriced
  obtain ⟨made', hmade'⟩ := @exists_nestedOffer_recordOf rt (roomWith room container rates) rate rfl
    hunpriced ((hshown 0).1.symm ▸ hrate) h.priced
  obtain ⟨index', rfl⟩ := hmade'.merged
  exact ⟨_, _, _, hmade', hsame, (hshown index').2⟩

/-- The record of a rate sells at the same price in any room with the same properties. -/
theorem NestedOffer.checkoutPrice_eq {record' room' made' : Value}
    (h : NestedOffer rt record room rate made) (h' : NestedOffer rt record' room' rate made')
    (hsame : SameBut rateContainers room room') : getCheckoutPrice made = getCheckoutPrice made' := by
  obtain ⟨index, rfl⟩ := h.merged
  obtain ⟨index', rfl⟩ := h'.merged
  exact checkoutPrice_congr (merged_properties hsame)

theorem merged_marked (index : Nat) :
    isSelectedNestedRate (mergeRoomWithRate rt room rate index) = true := by
  rw [isSelectedNestedRate, member_mergeRoomWithRate]
  simp [JsonValue.get, mergedFields]

/-- The position of a rate decides nothing but its id. -/
theorem sameRate_index (index index' : Nat) :
    SameRate (mergeRoomWithRate rt room rate index) (mergeRoomWithRate rt room rate index') := by
  refine ⟨merged_properties fun _ _ => rfl, ?_, ⟨rfl, rfl⟩, merged_marked index,
    merged_marked index'⟩
  have hobjects : ∀ name ∈ rateContainers, objectsIn (mergeRoomWithRate rt room rate index) name =
      objectsIn (mergeRoomWithRate rt room rate index') name := by
    intro name hname
    rw [objectsIn, objectsIn, member_merged (containers_not_merged name hname),
      member_merged (containers_not_merged name hname)]
  rw [getNestedRates, getNestedRates, List.map_congr_left hobjects]

theorem NestedOffer.sameRate {record' room' made' : Value}
    (h : NestedOffer rt record room rate made) (h' : NestedOffer rt record' room' rate made')
    (hsame : SameBut rateContainers room room') (hcovers : hidesRoomRates rate = true) :
    SameRate made made' := by
  obtain ⟨index, rfl⟩ := h.merged
  obtain ⟨index', rfl⟩ := h'.merged
  refine ⟨merged_properties hsame, ?_, ⟨rfl, rfl⟩, merged_marked index, merged_marked index'⟩
  rw [getNestedRates_merged hcovers, getNestedRates_merged hcovers]

/-- The offer of a nested rate does not depend on the other rates of its room if and only if the rate
    hides them, or it has no positive selling price and there is no offer. -/
theorem nestedOffer_isolated_iff (rt : LiteApiRuntime) (record room rate made : Value)
    (h : NestedOffer rt record room rate made) :
    Isolated rt room rate made ↔
      hidesRoomRates rate = true ∨ isPriced (getCheckoutPrice made) = false := by
  constructor
  · intro hisolated
    by_contra hneither
    rw [not_or, Bool.not_eq_true, Bool.not_eq_false] at hneither
    obtain ⟨hcovers, hprice⟩ := hneither
    have hobject : isPlainObject rate = true := nestedRates_objects h.rate_mem
    -- the room with this rate alone, and with another one beside it
    obtain ⟨_, _, alone, halone, hsame, hfirst⟩ := exists_variant h hcovers
      (List.forall_mem_singleton.mpr hobject) List.mem_cons_self
    obtain ⟨_, _, beside, hbeside, hsame', hsecond⟩ := exists_variant h hcovers
      (List.forall_mem_cons.mpr ⟨hobject, List.forall_mem_singleton.mpr
        (show isPlainObject (sibling (pickString rt (some rate) boardPaths)) = true from rfl)⟩)
      List.mem_cons_self
    have hterms := (hisolated searchContext _ _ _ halone hsame).symm.trans
      (hisolated searchContext _ _ _ hbeside hsame')
    have hoffer : ∀ made', getCheckoutPrice made = getCheckoutPrice made' → ∃ price,
        createLiteApiOffer rt searchContext made' =
          some (offerAt rt searchContext made' price) := by
      intro made' heq
      obtain ⟨price, hprice, hpos⟩ := (Option.any_eq_true _ _).mp hprice
      refine ⟨price, ?_⟩
      rw [createLiteApiOffer, offerPrice_search, ← heq, hprice, Option.filter_some, if_pos hpos]
      rfl
    obtain ⟨price, hfirstOffer⟩ := hoffer alone (h.checkoutPrice_eq halone hsame)
    obtain ⟨price', hsecondOffer⟩ := hoffer beside (h.checkoutPrice_eq hbeside hsame')
    rw [hfirstOffer, hsecondOffer] at hterms
    exact mealPlan_exposed hfirst hsecond (congrArg OfferTerms.mealPlan (Option.some.inj hterms))
  · rintro (hcovers | hunpriced) context record' room' made' h' hsame
    · exact createLiteApiOffer_congr (h.sameRate h' hsame hcovers) context
    · have hunpriced' := hunpriced
      rw [h.checkoutPrice_eq h' hsame] at hunpriced'
      rw [createLiteApiOffer_unpriced hunpriced, createLiteApiOffer_unpriced hunpriced']

end

/-- A rate of a hundred euros with the properties besides. -/
def hundredEuroRate (fields : Fields) : Value :=
  .obj ((.ofString "offerRetailRate", .obj [(.ofString "amount", .num (.finite 100)),
    (.ofString "currency", .str (.ofString "EUR"))]) :: fields)

/-- The same rate with a tax of ten euros that it does not include. -/
def taxedRate : Value :=
  hundredEuroRate [(.ofString "taxesAndFees", .arr [.obj [(.ofString "amount", .num (.finite 10)),
    (.ofString "included", .bool false)]])]

/-- A room with nothing but rates. -/
def bareRoom (rates : List Value) : Value := .obj [(.ofString "rates", .arr rates)]

/-- A rate that holds a rate of its own. -/
def packageRate : Value := hundredEuroRate [(.ofString "rates", .arr [taxedRate])]

/-- A rate that holds rates itself hides those of its room. -/
theorem packageRate_isolated : ∃ made,
    NestedOffer plainLiteApi (recordOf (bareRoom [packageRate])) (bareRoom [packageRate])
      packageRate made ∧ Isolated plainLiteApi (bareRoom [packageRate]) packageRate made := by
  obtain ⟨made, hmade⟩ := @exists_nestedOffer_recordOf plainLiteApi (bareRoom [packageRate])
    packageRate rfl (by decide) (List.mem_singleton_self _) (by decide)
  exact ⟨made, hmade, (nestedOffer_isolated_iff plainLiteApi _ _ _ made hmade).mpr
    (.inl (by decide))⟩

/-- What is known to be paid for the first rate of a room. -/
def firstTotal (rates : List Value) : Option ℚ :=
  (createLiteApiOffer plainLiteApi searchContext
    (mergeRoomWithRate plainLiteApi (bareRoom rates) (hundredEuroRate []) 0)).map
      LiteApiOffer.totalKnownCost

/-- A rate without taxes costs ten euros more when a taxed one stands beside it in the room. -/
theorem sibling_tax_added : firstTotal [hundredEuroRate []] = some 100 ∧
    firstTotal [hundredEuroRate [], taxedRate] = some 110 ∧
    ¬ ∀ rt record room rate made, NestedOffer rt record room rate made →
      Isolated rt room rate made := by
  have htotals : firstTotal [hundredEuroRate []] = some 100 ∧
      firstTotal [hundredEuroRate [], taxedRate] = some 110 := by decide +kernel
  refine ⟨htotals.1, htotals.2, fun hall => ?_⟩
  obtain ⟨alone, halone⟩ := @exists_nestedOffer_recordOf plainLiteApi
    (bareRoom [hundredEuroRate []]) (hundredEuroRate []) rfl (by decide)
    (List.mem_singleton_self _) (by decide)
  obtain ⟨beside, hbeside⟩ := @exists_nestedOffer_recordOf plainLiteApi
    (bareRoom [hundredEuroRate [], taxedRate]) (hundredEuroRate []) rfl (by decide)
    List.mem_cons_self (by decide)
  have hproperties : SameBut rateContainers (bareRoom [hundredEuroRate []])
      (bareRoom [hundredEuroRate [], taxedRate]) := by
    intro name hname
    have hne : JsString.ofString "rates" ≠ .ofString name := fun heq =>
      hname (Contract.ofString_injective heq ▸ List.mem_cons_self)
    simp [bareRoom, member_obj, JsonValue.get, hne]
  have hterms := hall _ _ _ _ _ halone searchContext _ _ _ hbeside hproperties
  obtain ⟨index, rfl⟩ := halone.merged
  obtain ⟨index', rfl⟩ := hbeside.merged
  rw [createLiteApiOffer_congr (sameRate_index index 0),
    createLiteApiOffer_congr (sameRate_index index' 0)] at hterms
  have htotal := congrArg (Option.map OfferTerms.totalKnownCost) hterms
  rw [Option.map_map, Option.map_map] at htotal
  have hsame : firstTotal [hundredEuroRate []] = firstTotal [hundredEuroRate [], taxedRate] :=
    htotal
  rw [htotals.1, htotals.2] at hsame
  norm_num at hsame

end SmartStay.LiteApi
