import Mathlib.Algebra.Order.BigOperators.Group.List
import SmartStay.LiteApi.Offers

/-!
# What an offer costs

The taxes of an offer against those of the rooms that it selects, when every amount is a whole number
of cents.

1. `IsCents`: such an amount is not changed by `roundMoney`.
2. `sumByIncluded_taxBreakdown`: grouping and rounding lose no tax and count none twice.
3. `totalKnownCost_eq_iff`: nothing is added to the price but what is in its currency.
4. `taxesIncluded_sound_iff`: whether the taxes that are left out may not be included.
-/

namespace SmartStay.LiteApi

open Grouping

/-! ## 1. Cents -/

def IsCents (x : ℚ) : Prop := ∃ n : ℤ, x = n / 10 ^ 2

theorem isCents_zero : IsCents 0 := ⟨0, by simp⟩

theorem IsCents.add {x y : ℚ} (hx : IsCents x) (hy : IsCents y) : IsCents (x + y) := by
  obtain ⟨n, rfl⟩ := hx
  obtain ⟨m, rfl⟩ := hy
  exact ⟨n + m, by push_cast; ring⟩

theorem IsCents.roundMoney_eq {x : ℚ} (h : IsCents x) : roundMoney x = x := by
  obtain ⟨n, rfl⟩ := h
  exact JsNumber.fixed_of_decimal 2 n

theorem isCents_roundMoney (x : ℚ) : IsCents (roundMoney x) := by
  unfold roundMoney JsNumber.fixed
  split
  · exact ⟨-JsNumber.round (|x| * 10 ^ 2), by push_cast; ring⟩
  · exact ⟨JsNumber.round (|x| * 10 ^ 2), by ring⟩

theorem isCents_sum {l : List ℚ} (h : ∀ x ∈ l, IsCents x) : IsCents l.sum := by
  induction l with
  | nil => exact isCents_zero
  | cons x l ih =>
    rw [List.forall_mem_cons] at h
    rw [List.sum_cons]
    exact h.1.add (ih h.2)

/-- The amounts that a rate is sold at, and those of the taxes of its rooms. -/
structure InCents (rate : Value) : Prop where
  retail : ∀ price, getLiteApiRetailSellingPrice rate = some price → IsCents price
  floor : ∀ price, getLiteApiPublicPriceFloor rate = some price → IsCents price
  taxes : ∀ source ∈ ratesOf rate, ∀ tax ∈ taxesOf source, ∀ amount,
    taxAmount tax = some amount → IsCents amount

section

variable {rt : LiteApiRuntime} {context : OfferContext} {rate : Value}

theorem InCents.publicPrice (h : InCents rate) {price : ℚ} (hprice : getPublicPrice rate = some price) :
    IsCents price := by
  unfold getPublicPrice at hprice
  split at hprice
  next floor retail hfloor hretail =>
    rw [Option.some.injEq] at hprice
    rcases max_choice floor retail with hmax | hmax
    · exact h.floor price (by rw [hfloor, ← hprice, hmax])
    · exact h.retail price (by rw [hretail, ← hprice, hmax])
  next =>
    rcases Option.or_eq_some_iff.mp hprice with hfloor | ⟨-, hretail⟩
    · exact h.floor price hfloor
    · exact h.retail price hretail

theorem InCents.sellingPrice (h : InCents rate) {price : ℚ}
    (hprice : (pricingOf context rate).sellingPrice = some price) : IsCents price := by
  unfold pricingOf createLiteApiCommercialPricing at hprice
  split at hprice
  next =>
    rcases Option.or_eq_some_iff.mp hprice with hretail | ⟨-, hfloor⟩
    · exact h.retail price hretail
    · exact h.floor price hfloor
  next =>
    -- a managed price is rounded
    dsimp only [managedPricing] at hprice
    obtain ⟨-, hprice⟩ := Option.ite_none_right_eq_some.mp hprice
    rw [← Option.some.inj hprice]
    exact isCents_roundMoney _

theorem InCents.offerPrice (h : InCents rate) {price : ℚ} (hprice : offerPrice context rate = some price) :
    IsCents price := by
  unfold LiteApi.offerPrice at hprice
  split at hprice
  · rcases Option.or_eq_some_iff.mp hprice with hretail | ⟨-, hpublic⟩
    · exact h.retail price hretail
    · exact h.publicPrice hpublic
  · split at hprice
    · cases hprice
    · rcases Option.or_eq_some_iff.mp hprice with hselling | ⟨-, hpublic⟩
      · exact h.sellingPrice hselling
      · exact h.publicPrice hpublic

/-! ## 2. Grouped taxes -/

theorem mem_taxItems {item : TaxItem} : item ∈ taxItems rt rate ↔
    ∃ source ∈ ratesOf rate, ∃ tax ∈ taxesOf source, taxItem rt rate source tax = some item := by
  simp [taxItems]

/-- The tax of an item, which has an amount that is not negative. -/
theorem taxItem_eq_some {source tax : Value} {item : TaxItem}
    (h : taxItem rt rate source tax = some item) :
    taxAmount tax = some item.amount ∧ 0 ≤ item.amount ∧ item.included = taxIncluded rt tax := by
  obtain ⟨amount, hamount, rfl⟩ := Option.map_eq_some_iff.mp h
  obtain ⟨hsome, hnonneg⟩ := Option.filter_eq_some_iff.mp hamount
  exact ⟨hsome, by simpa using hnonneg, rfl⟩

theorem amount_nonneg {item : TaxItem} (h : item ∈ taxItems rt rate) : 0 ≤ item.amount := by
  obtain ⟨_, -, _, -, hitem⟩ := mem_taxItems.mp h
  exact (taxItem_eq_some hitem).2.1

theorem InCents.taxItem (h : InCents rate) {item : TaxItem} (hitem : item ∈ taxItems rt rate) :
    IsCents item.amount := by
  obtain ⟨source, hsource, tax, htax, hitem⟩ := mem_taxItems.mp hitem
  exact h.taxes source hsource tax htax _ (taxItem_eq_some hitem).1

/-- A stored tax has the flag of its key and an amount in cents. -/
def StoredTax (key : JsString × JsString × Option Bool) (item : TaxItem) : Prop :=
  item.included = key.2.2 ∧ IsCents item.amount

def hasFlag (included : Option Bool) (tax : TaxItem) : Bool := tax.included = included

/-- The amount of a tax with a property, and nothing for the others. -/
def amountIf (p : TaxItem → Bool) (tax : TaxItem) : ℚ := if p tax then tax.amount else 0

theorem sum_amountIf (p : TaxItem → Bool) (l : List TaxItem) :
    ((l.filter p).map TaxItem.amount).sum = (l.map (amountIf p)).sum := by
  induction l with
  | nil => rfl
  | cons tax l ih =>
    rw [List.map_cons, List.sum_cons, ← ih, amountIf]
    cases htax : p tax with
    | true => rw [List.filter_cons_of_pos htax, List.map_cons, List.sum_cons, if_pos rfl]
    | false =>
      rw [List.filter_cons_of_neg (by simp [htax]), if_neg Bool.false_ne_true, zero_add]

theorem storedTax_start (h : InCents rate) {item : TaxItem} (hitem : item ∈ taxItems rt rate) :
    { item with amount := roundMoney item.amount } = item ∧ StoredTax (taxKey rt item) item := by
  have hcents := h.taxItem hitem
  rw [hcents.roundMoney_eq]
  exact ⟨rfl, rfl, hcents⟩

theorem storedTax_add (h : InCents rate) {item stored : TaxItem} (hitem : item ∈ taxItems rt rate)
    (hstored : StoredTax (taxKey rt item) stored) :
    StoredTax (taxKey rt item) (addTax stored item) ∧
      (addTax stored item).amount = stored.amount + item.amount := by
  have hcents := hstored.2.add (h.taxItem hitem)
  have hsum : (addTax stored item).amount = stored.amount + item.amount := hcents.roundMoney_eq
  exact ⟨⟨hstored.1, hsum ▸ hcents⟩, hsum⟩

/-- A tax that is combined with a stored one adds its amount to those with the same flag. -/
theorem amountIf_addTax (h : InCents rate) {item stored : TaxItem} (hitem : item ∈ taxItems rt rate)
    (hstored : StoredTax (taxKey rt item) stored) (included : Option Bool) :
    amountIf (hasFlag included) (addTax stored item) =
      amountIf (hasFlag included) stored + amountIf (hasFlag included) item := by
  have hsum := (storedTax_add h hitem hstored).2
  have hflag : hasFlag included stored = hasFlag included item := by
    rw [hasFlag, hasFlag, hstored.1]
    rfl
  have hkept : hasFlag included (addTax stored item) = hasFlag included stored := rfl
  rw [amountIf, amountIf, amountIf, hsum, hkept, hflag]
  split
  · rfl
  · rw [add_zero]

/-- The stored taxes with a flag sum up to those of the rooms with this flag. -/
theorem sumByIncluded_taxBreakdown (h : InCents rate) (included : Option Bool) :
    sumByIncluded (taxBreakdown rt rate) included =
      (((taxItems rt rate).filter (hasFlag included)).map TaxItem.amount).sum := by
  have hgrouped := @sum_groupInto _ _ _ _ (taxKey rt)
    (fun item => { item with amount := roundMoney item.amount }) addTax ℚ _ StoredTax
    (amountIf (hasFlag included)) (amountIf (hasFlag included)) (taxItems rt rate)
    (fun item hitem => by
      obtain ⟨hsame, hstored⟩ := storedTax_start h hitem
      rw [hsame]
      exact ⟨hstored, rfl⟩)
    (fun item hitem stored hstored =>
      ⟨(storedTax_add h hitem hstored).1, amountIf_addTax h hitem hstored included⟩)
  have hcents : IsCents (((taxItems rt rate).filter (hasFlag included)).map TaxItem.amount).sum := by
    refine isCents_sum fun x hx => ?_
    obtain ⟨item, hitem, rfl⟩ := List.mem_map.mp hx
    exact h.taxItem (List.mem_of_mem_filter hitem)
  have hbreakdown : ((taxBreakdown rt rate).map (amountIf (hasFlag included))).sum =
      ((taxItems rt rate).map (amountIf (hasFlag included))).sum := by
    rw [taxBreakdown, List.map_map]
    exact hgrouped
  rw [sum_amountIf] at hcents ⊢
  rw [← hcents.roundMoney_eq, ← hbreakdown, ← sum_amountIf]
  rfl

/-- The flags of the stored taxes are those of the taxes of the rooms. -/
theorem mem_flags {flag : Option Bool} : flag ∈ (taxBreakdown rt rate).map TaxItem.included ↔
    flag ∈ (taxItems rt rate).map TaxItem.included := by
  have hstored := @forall_groupInto _ _ _ _ (taxKey rt)
    (fun item => { item with amount := roundMoney item.amount }) addTax
    (fun key item => item.included = key.2.2) (taxItems rt rate) (fun _ _ => rfl)
    (fun _ _ _ hflag => hflag)
  have hflags : (taxBreakdown rt rate).map TaxItem.included =
      ((groupInto (taxKey rt) (fun item => { item with amount := roundMoney item.amount }) addTax
        (taxItems rt rate)).map Prod.fst).map fun key => key.2.2 := by
    rw [taxBreakdown, List.map_map, List.map_map]
    exact List.map_congr_left hstored
  have hitems : (taxItems rt rate).map TaxItem.included =
      ((taxItems rt rate).map (taxKey rt)).map fun key => key.2.2 := by
    rw [List.map_map]
    rfl
  rw [hflags, hitems, List.mem_map, List.mem_map]
  simp only [mem_keys_groupInto]

/-! ## 3. The price and its taxes -/

/-- The taxes that are paid besides the price. -/
def excludedItems (rt : LiteApiRuntime) (rate : Value) : List TaxItem :=
  (taxItems rt rate).filter (hasFlag (some false))

/-- The sum of the amounts in a currency. -/
def sumIn (currency : JsString) (items : List TaxItem) : ℚ :=
  ((items.filter fun tax => tax.currency = currency).map TaxItem.amount).sum

theorem sumIn_cons (currency : JsString) (tax : TaxItem) (items : List TaxItem) :
    sumIn currency (tax :: items) =
      (if tax.currency = currency then tax.amount else 0) + sumIn currency items := by
  unfold sumIn
  split
  next hsame =>
    rw [List.filter_cons_of_pos (by simpa using hsame), List.map_cons, List.sum_cons]
  next hother => rw [List.filter_cons_of_neg (by simpa using hother), zero_add]

theorem sumIn_le {currency : JsString} {items : List TaxItem} (h : ∀ tax ∈ items, 0 ≤ tax.amount) :
    sumIn currency items ≤ (items.map TaxItem.amount).sum := by
  rw [sumIn, sum_amountIf]
  refine List.sum_le_sum fun tax htax => ?_
  unfold amountIf
  split
  · exact le_rfl
  · exact h tax htax

/-- The amounts in one currency are the whole sum when those in the others are zero. -/
theorem sum_eq_sumIn_iff {currency : JsString} {items : List TaxItem}
    (h : ∀ tax ∈ items, 0 ≤ tax.amount) : (items.map TaxItem.amount).sum = sumIn currency items ↔
      ∀ tax ∈ items, 0 < tax.amount → tax.currency = currency := by
  induction items with
  | nil => exact iff_of_true rfl nofun
  | cons tax items ih =>
    rw [List.forall_mem_cons] at h
    have hle : sumIn currency items ≤ (items.map TaxItem.amount).sum := sumIn_le h.2
    rw [List.map_cons, List.sum_cons, sumIn_cons, List.forall_mem_cons, ← ih h.2]
    by_cases hsame : tax.currency = currency
    · rw [if_pos hsame, add_right_inj]
      exact (and_iff_right fun _ => hsame).symm
    · -- the amount is not in the smaller sum, which is the whole one only without it
      rw [if_neg hsame, zero_add]
      constructor
      · intro hsum
        have hzero : tax.amount ≤ 0 := by linarith
        exact ⟨fun hpos => absurd hpos hzero.not_gt, by linarith [h.1]⟩
      · rintro ⟨hcurrency, hsum⟩
        have hzero : tax.amount = 0 := le_antisymm (not_lt.mp (hsame ∘ hcurrency)) h.1
        rw [hzero, zero_add, hsum]

/-- What an offer is known to cost is its price and the excluded taxes in its currency, if and only if
    no tax is excluded in another currency. -/
theorem totalKnownCost_eq_iff {offer : LiteApiOffer} (h : InCents rate)
    (hoffer : createLiteApiOffer rt context rate = some offer) :
    offer.totalKnownCost = offer.price + sumIn offer.currency (excludedItems rt rate) ↔
      ∀ tax ∈ excludedItems rt rate, 0 < tax.amount → tax.currency = offerCurrency rt context rate := by
  obtain ⟨price, hprice, rfl⟩ := Option.map_eq_some_iff.mp hoffer
  have hcents := h.offerPrice (Option.filter_eq_some_iff.mp hprice).1
  have hsum : (createTaxSummary rt rate).excludedTaxes =
      ((excludedItems rt rate).map TaxItem.amount).sum := sumByIncluded_taxBreakdown h (some false)
  have hexcluded : IsCents (createTaxSummary rt rate).excludedTaxes := isCents_roundMoney _
  have htotal : (offerAt rt context rate price).totalKnownCost =
      price + ((excludedItems rt rate).map TaxItem.amount).sum := by
    rw [← hsum]
    exact (hcents.add hexcluded).roundMoney_eq
  have hnonneg : ∀ tax ∈ excludedItems rt rate, 0 ≤ tax.amount := fun tax htax =>
    amount_nonneg (List.mem_of_mem_filter htax)
  rw [htotal]
  exact (add_right_inj price).trans (sum_eq_sumIn_iff hnonneg)

/-! ## 4. Included taxes -/

theorem taxesIncluded_eq_true_iff : (createTaxSummary rt rate).taxesIncluded = some true ↔
    taxItems rt rate ≠ [] ∧ ∀ item ∈ taxItems rt rate, item.included = some true := by
  have hstored : (createTaxSummary rt rate).taxesIncluded = some true ↔
      taxBreakdown rt rate ≠ [] ∧ ∀ tax ∈ taxBreakdown rt rate, tax.included = some true := by
    unfold createTaxSummary
    dsimp only
    split
    next hexcluded =>
      obtain ⟨tax, htax, hflag⟩ := List.any_eq_true.mp hexcluded
      have hfalse : tax.included = some false := by simpa using hflag
      refine iff_of_false (by simp) fun hall => ?_
      rw [hall.2 tax htax] at hfalse
      cases hfalse
    next => simp
  have hflags : ∀ items : List TaxItem, (∀ tax ∈ items, tax.included = some true) ↔
      ∀ flag ∈ items.map TaxItem.included, flag = some true := by simp
  have hempty : taxBreakdown rt rate = [] ↔ taxItems rt rate = [] := by
    rw [← List.map_eq_nil_iff (f := TaxItem.included), ← List.map_eq_nil_iff (f := TaxItem.included),
      List.eq_nil_iff_forall_not_mem, List.eq_nil_iff_forall_not_mem]
    simp only [mem_flags]
  rw [hstored, hflags, hflags, ne_eq, hempty]
  simp only [mem_flags]

/-- A tax with an amount that is not negative; the others are left out. -/
def isCounted (tax : Value) : Bool := (taxAmount tax).any (0 ≤ ·)

/-- The taxes of all the rooms of a selection. -/
def selectionTaxes (rate : Value) : List Value := (ratesOf rate).flatMap taxesOf

theorem flags_of_source (source : Value) (taxes : List Value) :
    (taxes.filterMap (taxItem rt rate source)).map TaxItem.included =
      (taxes.filter isCounted).map (taxIncluded rt) := by
  induction taxes with
  | nil => rfl
  | cons tax taxes ih =>
    cases hitem : taxItem rt rate source tax with
    | none =>
      have hleft : isCounted tax = false := by
        rw [isCounted, Option.any_eq_false]
        simpa [taxItem, Option.filter_eq_none_iff] using hitem
      rw [List.filterMap_cons_none hitem, List.filter_cons_of_neg (by simp [hleft]), ih]
    | some item =>
      obtain ⟨hamount, hnonneg, hflag⟩ := taxItem_eq_some hitem
      have hcounted : isCounted tax = true := by simpa [isCounted, hamount] using hnonneg
      rw [List.filterMap_cons_some hitem, List.filter_cons_of_pos hcounted, List.map_cons,
        List.map_cons, ih, hflag]

/-- The flags of the items are those of the taxes that are counted. -/
theorem flags_taxItems : (taxItems rt rate).map TaxItem.included =
    ((selectionTaxes rate).filter isCounted).map (taxIncluded rt) := by
  rw [taxItems, selectionTaxes, List.map_flatMap, List.filter_flatMap, List.map_flatMap]
  simp only [flags_of_source]

/-- An offer has its taxes included if and only if it counts some, and those that it counts are. -/
theorem taxesIncluded_iff : (createTaxSummary rt rate).taxesIncluded = some true ↔
    (∃ tax ∈ selectionTaxes rate, isCounted tax = true) ∧
      ∀ tax ∈ selectionTaxes rate, isCounted tax = true → taxIncluded rt tax = some true := by
  have hsome : taxItems rt rate ≠ [] ↔ ∃ tax ∈ selectionTaxes rate, isCounted tax = true := by
    rw [ne_eq, ← List.map_eq_nil_iff (f := TaxItem.included), flags_taxItems, List.map_eq_nil_iff,
      List.filter_eq_nil_iff]
    simp
  have hall : (∀ item ∈ taxItems rt rate, item.included = some true) ↔
      ∀ tax ∈ selectionTaxes rate, isCounted tax = true → taxIncluded rt tax = some true := by
    have hflags : (∀ flag ∈ (taxItems rt rate).map TaxItem.included, flag = some true) ↔
        ∀ flag ∈ ((selectionTaxes rate).filter isCounted).map (taxIncluded rt), flag = some true := by
      rw [flags_taxItems]
    rw [List.forall_mem_map, List.forall_mem_map] at hflags
    simpa [List.mem_filter] using hflags
  rw [taxesIncluded_eq_true_iff, hsome, hall]

end

end SmartStay.LiteApi
