import SmartStay.LiteApi.Costs
import SmartStay.LiteApi.Isolation

/-!
# What an offer states

An offer against the taxes, the rooms and the penalties of its rate: when it misstates neither its
cost nor its flexibility.

1. `freeCancellationUntil_eq`: the deadline of an offer is the one that sorts first as a text.
2. `instantOf_eq`: a deadline denotes the same instant before and after it is normalised.
3. `DeadlinesInOrder`, `deadlinesInOrder_of_normalised`: whether texts sort like their instants.
4. `neverMisstates_iff`.
-/

namespace SmartStay.LiteApi

open JsSort Grouping

variable {rt : LiteApiRuntime} {context : OfferContext} {rate : Value}

/-! ## 1. The deadline of an offer -/

/-- The penalties of all the rooms of a selection. -/
def selectionPenalties (rate : Value) : List Value := (ratesOf rate).flatMap penaltyObjects

def compareTimes (rt : LiteApiRuntime) (first second : Option JsString) : Ordering :=
  rt.localeCompare (first.getD []) (second.getD [])

def comparePenalties (rt : LiteApiRuntime) (first second : Value) : Ordering :=
  compareTimes rt (cancelTimeOf rt first) (cancelTimeOf rt second)

theorem cancelTimes_items : (cancellationItems rt rate).map CancellationItem.cancelTime =
    (selectionPenalties rate).map (cancelTimeOf rt) := by
  rw [cancellationItems, selectionPenalties, List.map_flatMap, List.map_flatMap]
  simp only [List.map_map]
  rfl

/-- The stored penalties have the deadlines of their keys. -/
theorem cancelTimes_grouped : (groupedPenalties rt rate).map CancellationItem.cancelTime =
    ((groupInto penaltyKey (fun item => { item with amount := item.amount.map roundMoney })
      addPenalty (cancellationItems rt rate)).map Prod.fst).map Prod.fst := by
  rw [groupedPenalties, List.map_map, List.map_map]
  exact List.map_congr_left (@forall_groupInto _ _ _ _ penaltyKey _ addPenalty
    (fun key item => item.cancelTime = key.1) _ (fun _ _ => rfl) fun _ _ _ htime => htime)

/-- Grouping keeps the deadlines, each where it comes first. -/
theorem find?_cancelTimes (p : Option JsString → Bool) :
    ((groupedPenalties rt rate).map CancellationItem.cancelTime).find? p =
      ((selectionPenalties rate).map (cancelTimeOf rt)).find? p := by
  have hkeys : (cancellationItems rt rate).map CancellationItem.cancelTime =
      ((cancellationItems rt rate).map penaltyKey).map Prod.fst := by
    rw [List.map_map]
    rfl
  rw [cancelTimes_grouped, ← cancelTimes_items, hkeys, List.find?_map, find?_keys_groupInto,
    ← List.find?_map]

theorem mem_cancelTimes {time : Option JsString} :
    time ∈ (groupedPenalties rt rate).map CancellationItem.cancelTime ↔
      time ∈ (selectionPenalties rate).map (cancelTimeOf rt) := by
  have hfound := congrArg (Option.isSome · = true) (@find?_cancelTimes rt rate fun other => other = time)
  simpa only [List.find?_isSome, decide_eq_true_eq, exists_eq_right, eq_iff_iff] using hfound

theorem transCmp_times (h : Std.TransCmp rt.localeCompare) : Std.TransCmp (compareTimes rt) :=
  transCmp_comap rt.localeCompare fun time : Option JsString => time.getD []

theorem transCmp_penalties (h : Std.TransCmp rt.localeCompare) : Std.TransCmp (comparePenalties rt) :=
  transCmp_comap rt.localeCompare fun penalty => (cancelTimeOf rt penalty).getD []

/-- The first deadline after grouping and sorting is the first one of all the rooms. -/
theorem firstTime_eq (h : Std.TransCmp rt.localeCompare) :
    (sortBy (compareDeadlines rt) (groupedPenalties rt rate)).head?.map CancellationItem.cancelTime =
      (sortBy (comparePenalties rt) (selectionPenalties rate)).head?.map (cancelTimeOf rt) := by
  have := transCmp_times h
  have hgrouped := @sortBy_map _ _ (compareDeadlines rt) (groupedPenalties rt rate) (compareTimes rt)
    CancellationItem.cancelTime fun _ _ _ _ => rfl
  have hpenalties := @sortBy_map _ _ (comparePenalties rt) (selectionPenalties rate)
    (compareTimes rt) (cancelTimeOf rt) fun _ _ _ _ => rfl
  have hfirst : comesAfterNone (compareTimes rt)
      ((groupedPenalties rt rate).map CancellationItem.cancelTime) =
        comesAfterNone (compareTimes rt) ((selectionPenalties rate).map (cancelTimeOf rt)) := by
    funext time
    rw [Bool.eq_iff_iff, comesAfterNone_iff, comesAfterNone_iff]
    simp only [mem_cancelTimes]
  rw [← List.head?_map, ← List.head?_map, ← hgrouped, ← hpenalties, head?_sortBy, head?_sortBy,
    find?_cancelTimes, hfirst]

/-- The deadline of an offer is the first one as a text, whatever room it comes from. -/
theorem freeCancellationUntil_eq (h : Std.TransCmp rt.localeCompare) :
    (createCancellationSummary rt rate).freeCancellationUntil =
      if selectionTag rt (ratesOf rate) = some .rfn then
        (sortBy (comparePenalties rt) (selectionPenalties rate)).head?.bind (cancelTimeOf rt)
      else none := by
  have hfirst := congrArg (Option.bind · id) (@firstTime_eq rt rate h)
  simp only [Option.bind_map, Function.id_comp] at hfirst
  rw [← hfirst]
  rfl

/-! ## 2. The instants of deadlines -/

/-- What the deadlines take from the runtime: a collation that orders all texts, and a `Date.parse`
    that reads the texts of `toISOString`. -/
structure DeadlineRuntime (rt : LiteApiRuntime) : Prop where
  collation : Std.TransCmp rt.localeCompare
  roundTrip : ∀ raw instant, rt.parseDate raw = some instant →
    rt.parseDate (toISOString instant) = some instant

/-- A deadline has an explicit offset or a timezone that is UTC. -/
def hasZone (rt : LiteApiRuntime) (penalty : Value) : Bool :=
  rawDeadline rt penalty = [] || hasExplicitOffset (rawDeadline rt penalty) ||
    isUtc rt (rawTimezone rt penalty)

/-- The instant that a text denotes, in UTC when it has no offset of its own. -/
def textInstant (rt : LiteApiRuntime) (text : JsString) : Option ℤ :=
  rt.parseDate (if hasExplicitOffset text then text else text ++ .ofString "Z")

/-- The instant of the deadline of a penalty, as it is written. -/
def instantOf (rt : LiteApiRuntime) (penalty : Value) : Option ℤ :=
  let raw := rawDeadline rt penalty
  if raw = [] then none
  else textInstant rt (if !hasExplicitOffset raw && isLocalTime raw then asUtc raw else raw)

theorem hasExplicitOffset_concat (text : JsString) : hasExplicitOffset (text ++ [90]) = true := by
  unfold hasExplicitOffset
  rw [List.reverse_append]
  cases text.reverse with
  | nil => rfl
  | cons u rest => rfl

theorem hasExplicitOffset_toISOString (instant : ℤ) :
    hasExplicitOffset (toISOString instant) = true := by
  have hrecord := FixedWidth.record_concat digitUnit [(2, 45), (2, 84), (2, 58), (2, 58), (2, 46)]
    (3, 90) (monthFields instant).dropLast (timeOfDay instant % 1000) rfl
  have hfields : FixedWidth.record digitUnit monthShape (monthFields instant) = _ := hrecord
  dsimp only [toISOString]
  rw [hfields, ← List.append_assoc, ← List.cons_append, ← List.append_assoc,
    hasExplicitOffset_concat]

/-- Normalising a deadline keeps its instant. -/
theorem instantOf_eq (hrt : DeadlineRuntime rt) {penalty : Value} {text : JsString}
    (hzone : hasZone rt penalty = true) (h : cancelTimeOf rt penalty = some text) :
    instantOf rt penalty = textInstant rt text := by
  unfold cancelTimeOf normalizeCancellationDeadline at h
  unfold instantOf
  unfold hasZone at hzone
  generalize rawDeadline rt penalty = raw at h hzone ⊢
  dsimp only
  by_cases hraw : raw = []
  · rw [if_pos hraw] at h
    cases h
  rw [if_neg hraw] at h ⊢
  cases hoffset : hasExplicitOffset raw with
  | true =>
    rw [hoffset, if_pos rfl, Option.some.injEq] at h
    rw [← h]
    cases hdate : rt.parseDate raw with
    | none => rfl
    | some instant =>
      -- the text of a date is read back
      show textInstant rt raw = textInstant rt (toISOString instant)
      rw [textInstant, textInstant, hoffset, if_pos rfl, hasExplicitOffset_toISOString, if_pos rfl,
        hdate, hrt.roundTrip raw instant hdate]
  | false =>
    have hutc : isUtc rt (rawTimezone rt penalty) = true := by simpa [hraw, hoffset] using hzone
    rw [hoffset, if_neg Bool.false_ne_true, hutc, Bool.and_true] at h
    cases hlocal : isLocalTime raw with
    | true =>
      rw [hlocal, if_pos rfl, Option.some.injEq] at h
      rw [← h]
      rfl
    | false =>
      rw [hlocal, if_neg Bool.false_ne_true, Option.some.injEq] at h
      rw [← h]
      rfl

/-! ## 3. The order of deadlines -/

/-- The deadline of a penalty comes before that of another. -/
def IsEarlier (rt : LiteApiRuntime) (first second : Value) : Prop :=
  ∃ i j, instantOf rt first = some i ∧ instantOf rt second = some j ∧ i < j

/-- Some text sorts before that of a penalty that another one is earlier than: the text of a penalty
    that is listed before it and does not sort after it, or of one that is listed after it and sorts
    before it. -/
def DeadlinesInOrder (rt : LiteApiRuntime) (rate : Value) : Prop :=
  ∀ before penalty after, selectionPenalties rate = before ++ penalty :: after →
    ∀ other ∈ selectionPenalties rate, IsEarlier rt other penalty →
      (∃ p ∈ before, comparePenalties rt p penalty ≠ .gt) ∨
        ∃ p ∈ after, comparePenalties rt p penalty = .lt

/-- The first deadline as a text is not later than any other one. -/
theorem deadlinesInOrder_iff (h : Std.TransCmp rt.localeCompare) : DeadlinesInOrder rt rate ↔
    ∀ first, (sortBy (comparePenalties rt) (selectionPenalties rate)).head? = some first →
      ∀ other ∈ selectionPenalties rate, ¬ IsEarlier rt other first := by
  have := transCmp_penalties h
  constructor
  · intro horder first hfirst other hother hearlier
    obtain ⟨before, after, heq, hbefore, hafter⟩ := head?_sortBy_eq_some_iff.mp hfirst
    rcases horder before first after heq other hother hearlier with ⟨p, hp, hle⟩ | ⟨p, hp, hlt⟩
    · exact hle (hbefore p hp)
    · exact hafter p hp hlt
  · intro hfirst before penalty after heq other hother hearlier
    by_contra hneither
    rw [not_or] at hneither
    push Not at hneither
    exact hfirst penalty (head?_sortBy_eq_some_iff.mpr ⟨before, after, heq, hneither⟩) other hother
      hearlier

/-- Deadlines that are written by `toISOString`, in years of four digits, sort like their instants when
    these texts do. -/
theorem deadlinesInOrder_of_normalised
    (hcollation : ∀ i j, HasFourDigitYear i → HasFourDigitYear j → toISOString i < toISOString j →
      rt.localeCompare (toISOString i) (toISOString j) = .lt)
    (hnormalised : ∀ penalty ∈ selectionPenalties rate, ∀ i, instantOf rt penalty = some i →
      HasFourDigitYear i ∧ cancelTimeOf rt penalty = some (toISOString i)) :
    DeadlinesInOrder rt rate := by
  rintro before penalty after heq other hother ⟨i, j, hi, hj, hlt⟩
  have hpenalty : penalty ∈ selectionPenalties rate := heq ▸ by simp
  obtain ⟨hyear, htime⟩ := hnormalised other hother i hi
  obtain ⟨hyear', htime'⟩ := hnormalised penalty hpenalty j hj
  have hsorts : comparePenalties rt other penalty = .lt := by
    rw [comparePenalties, compareTimes, htime, htime']
    exact hcollation i j hyear hyear' (toISOString_lt hyear hyear' hlt)
  rw [heq] at hother
  rcases List.mem_append.mp hother with hbefore | hafter
  · exact .inl ⟨other, hbefore, by rw [hsorts]; nofun⟩
  · rcases List.mem_cons.mp hafter with rfl | hafter
    · -- no deadline is earlier than itself
      rw [hi, Option.some.injEq] at hj
      exact absurd hlt (hj ▸ lt_irrefl i)
    · exact .inr ⟨other, hafter, hsorts⟩

/-! ## 4. Cost and flexibility -/

/-- The tag of a selection says that it is refundable only when those of all its rooms do. -/
theorem refundable_of_selectionTag {sources : List Value} (h : selectionTag rt sources = some .rfn) :
    ∀ source ∈ sources, refundableTagOf rt source = some .rfn := by
  dsimp only [selectionTag] at h
  split at h
  · cases h
  next hnone =>
    obtain ⟨⟨hall, -⟩, -⟩ := Option.ite_none_right_eq_some.mp h
    have hsome := List.filterMap_length_eq_length.mp hall
    intro source hsource
    obtain ⟨tag, htag⟩ := Option.isSome_iff_exists.mp (hsome source hsource)
    cases tag with
    | rfn => exact htag
    | nrfn =>
      have hmem : RefundableTag.nrfn ∈ sources.filterMap (refundableTagOf rt) :=
        List.mem_filterMap.mpr ⟨source, hsource, htag⟩
      exact absurd (List.contains_iff_mem.mpr hmem) hnone

theorem refundable_iff : (createCancellationSummary rt rate).refundable = some true ↔
    selectionTag rt (ratesOf rate) = some .rfn := by
  show (selectionTag rt (ratesOf rate)).map _ = _ ↔ _
  cases selectionTag rt (ratesOf rate) with
  | none => simp
  | some tag => cases tag <;> simp

/-- What an offer states about its cost and its flexibility is true of the rooms of its rate. -/
structure NeverMisstates (rt : LiteApiRuntime) (rate : Value) (offer : LiteApiOffer) : Prop where
  cost : offer.totalKnownCost = offer.price + sumIn offer.currency (excludedItems rt rate)
  taxes : offer.taxesIncluded = some true →
    ∀ tax ∈ selectionTaxes rate, taxIncluded rt tax = some true
  refundable : offer.refundable = some true →
    ∀ source ∈ ratesOf rate, refundableTagOf rt source = some .rfn
  deadline : (∀ penalty ∈ selectionPenalties rate, hasZone rt penalty = true) →
    ∀ text, offer.freeCancellationUntil = some text → ∀ i, textInstant rt text = some i →
      ∀ penalty ∈ selectionPenalties rate, ∀ j, instantOf rt penalty = some j → i ≤ j

/-- No tax of a positive amount is excluded in a currency other than the offer's. -/
def ExcludedInCurrency (rt : LiteApiRuntime) (context : OfferContext) (rate : Value) : Prop :=
  ∀ tax ∈ excludedItems rt rate, 0 < tax.amount → tax.currency = offerCurrency rt context rate

/-- When some tax is counted and all that are counted are included, so are those that are left out. -/
def LeftOutIncluded (rt : LiteApiRuntime) (rate : Value) : Prop :=
  (∃ tax ∈ selectionTaxes rate, isCounted tax = true) →
    (∀ tax ∈ selectionTaxes rate, isCounted tax = true → taxIncluded rt tax = some true) →
      ∀ tax ∈ selectionTaxes rate, isCounted tax = false → taxIncluded rt tax = some true

theorem taxes_sound_iff : ((createTaxSummary rt rate).taxesIncluded = some true →
    ∀ tax ∈ selectionTaxes rate, taxIncluded rt tax = some true) ↔ LeftOutIncluded rt rate := by
  rw [taxesIncluded_iff]
  constructor
  · intro hall hsome hcounted tax htax _
    exact hall ⟨hsome, hcounted⟩ tax htax
  · rintro hleft ⟨hsome, hcounted⟩ tax htax
    cases h : isCounted tax with
    | true => exact hcounted tax htax h
    | false => exact hleft hsome hcounted tax htax h

/-- A deadline that denotes an instant is not empty. -/
theorem exists_cancelTime {penalty : Value} {i : ℤ} (h : instantOf rt penalty = some i) :
    ∃ text, cancelTimeOf rt penalty = some text := by
  obtain ⟨hraw, -⟩ := Option.ite_none_left_eq_some.mp h
  unfold cancelTimeOf normalizeCancellationDeadline
  rw [if_neg hraw]
  split
  · exact ⟨_, rfl⟩
  · split
    · exact ⟨_, rfl⟩
    · exact ⟨_, rfl⟩

theorem deadline_sound_iff (hrt : DeadlineRuntime rt)
    (hzone : ∀ penalty ∈ selectionPenalties rate, hasZone rt penalty = true) :
    (∀ text, (createCancellationSummary rt rate).freeCancellationUntil = some text →
      ∀ i, textInstant rt text = some i →
        ∀ penalty ∈ selectionPenalties rate, ∀ j, instantOf rt penalty = some j → i ≤ j) ↔
      (selectionTag rt (ratesOf rate) = some .rfn → DeadlinesInOrder rt rate) := by
  have hcollation := hrt.collation
  rw [freeCancellationUntil_eq hcollation, deadlinesInOrder_iff hcollation]
  constructor
  · rintro hsound hrefundable first hfirst other hother ⟨j, i, hj, hi, hlt⟩
    obtain ⟨text, htext⟩ := exists_cancelTime hi
    have hmem : first ∈ selectionPenalties rate := mem_sortBy.mp (List.mem_of_mem_head? hfirst)
    rw [instantOf_eq hrt (hzone first hmem) htext] at hi
    rw [if_pos hrefundable, hfirst, Option.bind_some] at hsound
    exact (hsound text htext i hi other hother j hj).not_gt hlt
  · intro horder text htext i hi other hother j hj
    obtain ⟨hrefundable, htext⟩ := Option.ite_none_right_eq_some.mp htext
    obtain ⟨first, hfirst, htime⟩ := Option.bind_eq_some_iff.mp htext
    have hmem : first ∈ selectionPenalties rate := mem_sortBy.mp (List.mem_of_mem_head? hfirst)
    rw [← instantOf_eq hrt (hzone first hmem) htime] at hi
    by_contra hlt
    exact horder hrefundable first hfirst other hother ⟨j, i, hj, hi, not_le.mp hlt⟩

/-- An offer misstates nothing if and only if no excluded tax is in another currency, no tax is left out
    that is not included beside others that are, and, when all rooms are refundable and all deadlines
    have a zone, no deadline that is later than another one is the first one as a text. -/
theorem neverMisstates_iff (rt : LiteApiRuntime) (hrt : DeadlineRuntime rt) (context : OfferContext)
    (rate : Value) (offer : LiteApiOffer) (hcents : InCents rate)
    (hoffer : createLiteApiOffer rt context rate = some offer) :
    NeverMisstates rt rate offer ↔
      ExcludedInCurrency rt context rate ∧ LeftOutIncluded rt rate ∧
        (selectionTag rt (ratesOf rate) = some .rfn →
          (∀ penalty ∈ selectionPenalties rate, hasZone rt penalty = true) →
            DeadlinesInOrder rt rate) := by
  have hcost := totalKnownCost_eq_iff hcents hoffer
  obtain ⟨price, -, rfl⟩ := Option.map_eq_some_iff.mp hoffer
  constructor
  · intro h
    refine ⟨hcost.mp h.cost, taxes_sound_iff.mp h.taxes, fun hrefundable hzone => ?_⟩
    exact (deadline_sound_iff hrt hzone).mp (h.deadline hzone) hrefundable
  · rintro ⟨hcurrency, hleft, horder⟩
    exact
      { cost := hcost.mpr hcurrency
        taxes := taxes_sound_iff.mpr hleft
        refundable := fun h => refundable_of_selectionTag (refundable_iff.mp h)
        deadline := fun hzone => (deadline_sound_iff hrt hzone).mpr fun h => horder h hzone }

/-- The field of a record that is a text. -/
def textField (name text : String) : JsString × Value := (.ofString name, .str (.ofString text))

def amountField (amount : ℚ) : JsString × Value := (.ofString "amount", .num (.finite amount))

/-- Ten of a currency that are paid besides the price. -/
def excludedTen (currency : String) : Value :=
  .obj [amountField 10, textField "currency" currency, (.ofString "included", .bool false)]

/-- A refundable rate of a hundred euros with a tax of ten of a currency and two deadlines. -/
def refundableRate (currency : String) : Value :=
  hundredEuroRate [textField "refundableTag" "RFN",
    (.ofString "taxesAndFees", .arr [excludedTen currency]),
    (.ofString "cancellationPolicies", .obj [(.ofString "cancelPolicyInfos", .arr
      [.obj [textField "cancelTime" "2026-05-02T00:00:00+02:00", amountField 50],
        .obj [textField "cancelTime" "2026-05-01 10:00", textField "timezone" "UTC",
          amountField 20]])])]

/-- The dates that the texts above denote. -/
def knownDates : List (JsString × ℤ) :=
  [(.ofString "2026-05-01T10:00:00.000Z", 1777629600000),
    (.ofString "2026-05-01T22:00:00.000Z", 1777672800000),
    (.ofString "2026-05-02T00:00:00+02:00", 1777672800000)]

/-- A runtime that reads these dates. -/
def datedLiteApi : LiteApiRuntime :=
  { plainLiteApi with
    parseDate := fun text => (knownDates.find? fun date => date.1 = text).map Prod.snd }

theorem compare_lt_of_lt {first second : JsString} (h : first < second) :
    plainLiteApi.localeCompare first second = .lt := by
  show List.compareLex compare first second = .lt
  induction first generalizing second with
  | nil =>
    cases second with
    | nil => exact absurd h (List.lt_irrefl [])
    | cons => exact List.compareLex_nil_cons
  | cons u first ih =>
    cases second with
    | nil => exact absurd h (List.not_lt_nil _)
    | cons v second =>
      rw [List.compareLex_cons_cons]
      rcases List.cons_lt_cons_iff.mp h with hlt | ⟨rfl, hlt⟩
      · rw [compare_lt_iff_lt.mpr hlt]
        rfl
      · rw [compare_eq_iff_eq.mpr rfl, ih hlt]
        rfl

theorem datedLiteApi_deadlines : DeadlineRuntime datedLiteApi where
  collation := inferInstanceAs (Std.TransCmp (compare : JsString → JsString → Ordering))
  roundTrip raw instant h := by
    obtain ⟨date, hdate, rfl⟩ := Option.map_eq_some_iff.mp h
    have hknown : ∀ date ∈ knownDates, datedLiteApi.parseDate (toISOString date.2) = some date.2 := by
      decide +kernel
    exact hknown date (List.mem_of_find?_eq_some hdate)

theorem inCents_of_amounts (hretail : getLiteApiRetailSellingPrice rate = some 100)
    (hfloor : getLiteApiPublicPriceFloor rate = none)
    (htaxes : ∀ source ∈ ratesOf rate, ∀ tax ∈ taxesOf source, taxAmount tax = some 10) :
    InCents rate where
  retail price h := by
    rw [hretail, Option.some.injEq] at h
    exact ⟨10000, by rw [← h]; norm_num⟩
  floor price h := by
    rw [hfloor] at h
    cases h
  taxes source hsource tax htax amount h := by
    rw [htaxes source hsource tax htax, Option.some.injEq] at h
    exact ⟨1000, by rw [← h]; norm_num⟩

/-- An offer with a tax in its own currency, whose earlier deadline is listed last. -/
theorem euroTax_stated : ∃ offer,
    createLiteApiOffer datedLiteApi searchContext (refundableRate "EUR") = some offer ∧
      offer.freeCancellationUntil = some (.ofString "2026-05-01T10:00:00.000Z") ∧
      NeverMisstates datedLiteApi (refundableRate "EUR") offer := by
  have hsome : (createLiteApiOffer datedLiteApi searchContext (refundableRate "EUR")).isSome ∧
      (createCancellationSummary datedLiteApi (refundableRate "EUR")).freeCancellationUntil =
        some (.ofString "2026-05-01T10:00:00.000Z") := by decide +kernel
  obtain ⟨offer, hoffer⟩ := Option.isSome_iff_exists.mp hsome.1
  have hcents : InCents (refundableRate "EUR") :=
    inCents_of_amounts (by decide +kernel) (by decide +kernel) (by decide +kernel)
  have hnormalised : ∀ penalty ∈ selectionPenalties (refundableRate "EUR"),
      (instantOf datedLiteApi penalty).all fun i => decide (HasFourDigitYear i ∧
        cancelTimeOf datedLiteApi penalty = some (toISOString i)) := by decide +kernel
  refine ⟨offer, hoffer, ?_, (neverMisstates_iff datedLiteApi datedLiteApi_deadlines searchContext _
    offer hcents hoffer).mpr ⟨?_, ?_, fun _ _ => ?_⟩⟩
  · obtain ⟨price, -, rfl⟩ := Option.map_eq_some_iff.mp hoffer
    exact hsome.2
  · show ∀ tax ∈ excludedItems _ _, 0 < tax.amount → tax.currency = _
    decide +kernel
  · show (∃ tax ∈ selectionTaxes _, _) → (∀ tax ∈ selectionTaxes _, _ → _) → ∀ tax ∈ selectionTaxes _, _
    decide +kernel
  · refine deadlinesInOrder_of_normalised (fun i j _ _ h => compare_lt_of_lt h)
      fun penalty hpenalty i hi => ?_
    simpa [hi] using hnormalised penalty hpenalty

/-- A tax of ten dollars makes a price of a hundred euros cost a hundred and ten. -/
theorem dollars_added_to_euros :
    (createLiteApiOffer datedLiteApi searchContext (refundableRate "USD")).map (fun offer =>
      (offer.currency, offer.price, offer.totalKnownCost)) = some (.ofString "EUR", 100, 110) ∧
    ¬ ∀ rt, DeadlineRuntime rt → ∀ context rate offer, InCents rate →
      createLiteApiOffer rt context rate = some offer → NeverMisstates rt rate offer := by
  have hterms : (createLiteApiOffer datedLiteApi searchContext (refundableRate "USD")).map
      (fun offer => (offer.currency, offer.price, offer.totalKnownCost)) =
        some (.ofString "EUR", 100, 110) := by decide +kernel
  refine ⟨hterms, fun hall => ?_⟩
  obtain ⟨offer, hoffer, hterms⟩ := Option.map_eq_some_iff.mp hterms
  have hcents : InCents (refundableRate "USD") :=
    inCents_of_amounts (by decide +kernel) (by decide +kernel) (by decide +kernel)
  have hcost := (hall _ datedLiteApi_deadlines _ _ offer hcents hoffer).cost
  simp only [Prod.mk.injEq] at hterms
  obtain ⟨hcurrency, hprice, htotal⟩ := hterms
  have hnothing : sumIn (.ofString "EUR") (excludedItems datedLiteApi (refundableRate "USD")) = 0 := by
    decide +kernel
  rw [hcurrency, hprice, htotal, hnothing] at hcost
  norm_num at hcost

end SmartStay.LiteApi
