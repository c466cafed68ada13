import SmartStay.LiteApi.Isolation

/-!
# The record that a prebook confirms

`selectPrebookOfferRecord` of `server/providers/liteApi/liteApiOfferMapper.js`: which record of a
prebook payload stands for the offer that was selected, and whether it holds the selected rooms.

1. `getLiteApiPrebookPayload`, `getOfferReferenceCandidates`.
2. `createPrebookAggregateRecord`.
3. `selectPrebookOfferRecord`: the five routes in their order.
4. `roomCount_aggregate`, `records_priced`: what the last routes can return.
5. `keepsSelection_iff`.
-/

namespace SmartStay.LiteApi

open JsValue

/-! ## 1. The payload and the references -/

def getLiteApiPrebookPayload (data : Value) : Option Value :=
  if isPlainObject data = false then none
  else
    match pickFirst (some data) [["data"], ["result"], ["prebook"]] with
    | some (.obj fields) => some (.obj fields)
    | _ => some data

section

variable (rt : LiteApiRuntime)

def getOfferReferenceCandidates (offer : Value) : List JsString :=
  (["offerId", "rateId", "rateToken", "id"].map fun name =>
    pickString rt (some offer) [[.name name]]).filter (· ≠ [])

/-! ## 2. The aggregate of all records -/

/-- The price of the payload, or else the sum of those of its records. -/
def aggregatePrice (payload : Value) (records : List Value) : ℚ :=
  ((getCheckoutPrice payload).filter (0 < ·)).getD
    (roundMoney (records.map fun record => (getCheckoutPrice record).getD 0).sum)

/-- The properties of an aggregate besides its name. -/
def aggregateFields (records : List Value) (price : ℚ) (currency : JsString) : Fields :=
  [(.ofString "__liteApiPrebookAggregate", .bool true), (.ofString "rates", .arr records),
    (.ofString "offerRetailRate", .obj [(.ofString "amount", .num (.finite price)),
      (.ofString "currency", .str currency)])]

def aggregateRecord (records : List Value) (price : ℚ) (currency : JsString) : Value :=
  .obj (aggregateFields records price currency ++ [(.ofString "roomName",
    ((buildRoomName rt (.obj (aggregateFields records price currency))).map JsonValue.str).getD
      .null)])

/-- The currency of an offer, or else that of its payload. -/
def aggregateCurrency (payload : Value) (originalOffer : JsValue) : JsString :=
  textOr (asString rt (member originalOffer "currency"))
    (getCheckoutCurrency rt payload (.ofString "EUR"))

def createPrebookAggregateRecord (payload : Value) (records : List Value) (originalOffer : JsValue) :
    Option Value :=
  let fallbackCurrency := aggregateCurrency rt payload originalOffer
  let currencies := records.map fun record => (getCheckoutCurrency rt record fallbackCurrency).trim
  if records.length < 2 ∨ records.any fun record => !isPriced (getCheckoutPrice record) then none
  else
    match differentTexts currencies with
    | [currency] =>
      if fallbackCurrency ≠ [] ∧ currency ≠ fallbackCurrency ∨ aggregatePrice payload records ≤ 0 then
        none
      else some (aggregateRecord rt records (aggregatePrice payload records) currency)
    | _ => none

/-! ## 3. Selecting a record -/

/-- What an offer says about its selection. -/
structure ExpectedSelection where
  reference : JsString
  fingerprint : JsString
  roomCount : Option Nat

/-- A positive integer. -/
def positiveInteger : JsFloat → Option Nat
  | .finite x => if x.den = 1 ∧ 0 < x then some x.num.toNat else none
  | _ => none

/-- `Number` of a room count fails for an object with a `toString` of its own. -/
def expectedSelection (originalOffer : JsValue) : Except String ExpectedSelection :=
  let providerOfferContext := member originalOffer "providerOfferContext"
  (toNumber (member providerOfferContext "selectionRoomCount")).map fun roomCount =>
    { reference := asString rt (member originalOffer "providerOfferReference")
      fingerprint := asString rt (member providerOfferContext "selectionFingerprint")
      roomCount := positiveInteger roomCount }

/-- The rooms of a record are as many as expected. -/
def hasExpectedRooms (expected : ExpectedSelection) (record : Value) : Bool :=
  expected.roomCount.all fun roomCount => getLiteApiSelectionRoomCount record = roomCount

def hasReference (expected : ExpectedSelection) (record : Value) : Bool :=
  (getOfferReferenceCandidates rt record).contains expected.reference

def hasFingerprint (expected : ExpectedSelection) (record : Value) : Bool :=
  asString rt ((createLiteApiSelectionFingerprint rt record).map JsonValue.str) =
    expected.fingerprint

variable (expected : ExpectedSelection) (payload : Value)

def exactMatches : List Value :=
  if expected.reference = [] then []
  else (getLiteApiOfferRecords rt payload).filter (hasReference rt expected)

def fingerprintMatches : List Value :=
  if expected.fingerprint = [] then []
  else (getLiteApiOfferRecords rt payload).filter (hasFingerprint rt expected)

/-- The only record with the reference, when it has the rooms. -/
def exactRecord : Option Value :=
  match exactMatches rt expected payload with
  | [record] => if hasExpectedRooms expected record then some record else none
  | _ => none

/-- The only record with the fingerprint. -/
def fingerprintRecord : Option Value :=
  match fingerprintMatches rt expected payload with
  | [record] => some record
  | _ => none

/-- The aggregate of all records, when it has the fingerprint. -/
def matchingAggregate (originalOffer : JsValue) : Option Value :=
  if expected.fingerprint = [] then none
  else (createPrebookAggregateRecord rt payload (getLiteApiOfferRecords rt payload)
    originalOffer).filter (hasFingerprint rt expected)

/-- The only record, or the payload when there is none, unless a match is ambiguous. -/
def onlyRecord : Option Value :=
  if 1 < (exactMatches rt expected payload).length ∨
      1 < (fingerprintMatches rt expected payload).length then none
  else
    match getLiteApiOfferRecords rt payload with
    | [record] => some record
    | [] => if isPriced (getCheckoutPrice payload) then some payload else none
    | _ => none

def selectRecord (originalOffer : JsValue) : Option Value :=
  (((exactRecord rt expected payload).or (fingerprintRecord rt expected payload)).or
    (matchingAggregate rt expected payload originalOffer)).or (onlyRecord rt expected payload)

end

def selectPrebookOfferRecord (rt : LiteApiRuntime) (payload : Value) (originalOffer : JsValue) :
    Except String (Option Value) :=
  (expectedSelection rt originalOffer).map fun expected =>
    selectRecord rt expected payload originalOffer

/-- `mappedOffer` of `createLiteApiPrebookOffer`: the terms that a prebook confirms. -/
def mappedPrebookOffer (rt : LiteApiRuntime) (data : Value) (originalOffer : JsValue)
    (context : OfferContext) : Except String (Option LiteApiOffer) :=
  match getLiteApiPrebookPayload data with
  | none => .ok none
  | some payload =>
    let currency := textOr (pickString rt (some payload) [["currency"], ["price", "currency"]])
      (textOr (asString rt (member originalOffer "currency")) context.fallbackCurrency)
    (selectPrebookOfferRecord rt payload originalOffer).map fun offerRecord =>
      offerRecord.bind (createLiteApiOffer rt
        { context with index := 0, fallbackCurrency := currency, isCheckout := true })

/-! ## 4. What the last routes can return -/

section

variable {rt : LiteApiRuntime} {expected : ExpectedSelection} {payload record : Value}
  {originalOffer : JsValue}

theorem forall_foldl {α β : Type} {step : List β → α → List β} {p : β → Prop}
    (hstep : ∀ acc a, (∀ x ∈ acc, p x) → ∀ x ∈ step acc a, p x) (l : List α) {acc : List β}
    (hacc : ∀ x ∈ acc, p x) : ∀ x ∈ l.foldl step acc, p x := by
  induction l generalizing acc with
  | nil => exact hacc
  | cons a l ih => exact ih (hstep acc a hacc)

theorem forall_concat {β : Type} {p : β → Prop} {acc : List β} {x : β} (hacc : ∀ y ∈ acc, p y)
    (hx : p x) : ∀ y ∈ acc ++ [x], p y := by
  intro y hy
  rcases List.mem_append.mp hy with hy | hy
  · exact hacc y hy
  · exact List.mem_singleton.mp hy ▸ hx

def IsObject (record : Value) : Prop := isPlainObject record = true

theorem addNestedRate_objects (room : Value) (offers : List Value) (nestedRate : Value)
    (h : ∀ offer ∈ offers, IsObject offer) :
    ∀ offer ∈ addNestedRate rt room offers nestedRate, IsObject offer := by
  unfold addNestedRate
  split
  · exact forall_concat h rfl
  · exact h

theorem addRoom_objects (offers : List Value) (room : Value) (h : ∀ offer ∈ offers, IsObject offer) :
    ∀ offer ∈ addRoom rt offers room, IsObject offer := by
  unfold addRoom
  split
  · exact h
  · split
    · exact forall_concat h rfl
    · exact forall_foldl (addNestedRate_objects room) _ h

theorem addDirectRate_objects (offers : List Value) (rate : Value)
    (h : ∀ offer ∈ offers, IsObject offer) :
    ∀ offer ∈ addDirectRate rt offers rate, IsObject offer := by
  unfold addDirectRate
  split
  · exact forall_concat h rfl
  · exact h

/-- Every record of offers is an object. -/
theorem records_objects : ∀ offer ∈ getLiteApiOfferRecords rt record, IsObject offer := by
  unfold getLiteApiOfferRecords
  split
  · nofun
  · dsimp only
    split
    · exact List.forall_mem_singleton.mpr rfl
    · exact forall_foldl addDirectRate_objects _ (forall_foldl addRoom_objects _ nofun)

/-- The aggregate selects the rooms of all records. -/
theorem roomCount_aggregate {records : List Value} {price : ℚ} {currency : JsString}
    (hobjects : ∀ record ∈ records, IsObject record) (hrecords : records ≠ []) :
    getLiteApiSelectionRoomCount (aggregateRecord rt records price currency) = records.length := by
  have hrates : objectsIn (aggregateRecord rt records price currency) "rates" = records := by
    show (asArray (some (.arr records))).filter isPlainObject = records
    exact List.filter_eq_self.mpr hobjects
  have hnested : getNestedRates (aggregateRecord rt records price currency) = records := by
    rw [getNestedRates, rateContainers, List.map_cons, hrates,
      List.find?_cons_of_pos (by simpa using hrecords)]
    rfl
  have hunmarked : isSelectedNestedRate (aggregateRecord rt records price currency) = false := rfl
  have hfilled : records.isEmpty = false := by simpa using hrecords
  show (getSelectionSources (aggregateRecord rt records price currency)).length = _
  rw [getSelectionSources, hunmarked, hnested, hfilled]
  rfl

/-- Paths that start with the name of a property lead nowhere from what is no object. -/
theorem getValueByPath_of_not_object (h : isPlainObject payload = false) (name : String)
    (path : Path) : getValueByPath (some payload) (.name name :: path) = none := by
  cases payload with
  | obj fields => cases h
  | _ => exact getValueByPath_none path

theorem pickFirstNumber_of_not_object (h : isPlainObject payload = false) {paths : List Path}
    (hpaths : ∀ path ∈ paths, ∃ name rest, path = .name name :: rest) :
    pickFirstNumber (some payload) paths = none := by
  refine List.findSome?_eq_none_iff.mpr fun path hpath => ?_
  obtain ⟨name, rest, rfl⟩ := hpaths path hpath
  rw [getValueByPath_of_not_object h]
  rfl

theorem isPriced_checkout_le (h : isPriced (getCheckoutPrice payload) = true) :
    isPriced (getPublicPrice payload) = true := by
  unfold getCheckoutPrice at h
  cases hretail : getLiteApiRetailSellingPrice payload with
  | none => rwa [hretail, Option.none_or] at h
  | some retail =>
    have hpositive : 0 < retail := by simpa [hretail, isPriced] using h
    unfold getPublicPrice
    rw [hretail]
    cases getLiteApiPublicPriceFloor payload with
    | none => simpa [isPriced] using hpositive
    | some floor => simpa [isPriced] using Or.inr hpositive

/-- A payload with a price always has a record, so that the bare payload is never returned. -/
theorem records_ne_nil (h : isPriced (getCheckoutPrice payload) = true) :
    getLiteApiOfferRecords rt payload ≠ [] := by
  have hpublic := isPriced_checkout_le h
  unfold getLiteApiOfferRecords
  cases hobject : isPlainObject payload with
  | false =>
    have hretail : getLiteApiRetailSellingPrice payload = none :=
      pickFirstNumber_of_not_object hobject (by simp)
    have hfloor : getLiteApiPublicPriceFloor payload = none :=
      pickFirstNumber_of_not_object hobject (by simp)
    rw [getPublicPrice, hretail, hfloor] at hpublic
    cases hpublic
  | true =>
    rw [if_neg (by simp), hpublic]
    dsimp only
    split
    · exact List.cons_ne_nil _ _
    next hfilled => simpa using hfilled

theorem exactRecord_eq_some : exactRecord rt expected payload = some record ↔
    exactMatches rt expected payload = [record] ∧ hasExpectedRooms expected record = true := by
  unfold exactRecord
  split
  next found hfound =>
    rw [Option.ite_none_right_eq_some, Option.some.injEq, hfound, List.singleton_inj]
    constructor
    · rintro ⟨hrooms, rfl⟩
      exact ⟨rfl, hrooms⟩
    · rintro ⟨rfl, hrooms⟩
      exact ⟨hrooms, rfl⟩
  next hnone => exact iff_of_false nofun fun h => hnone record h.1

theorem fingerprintRecord_eq_some : fingerprintRecord rt expected payload = some record ↔
    fingerprintMatches rt expected payload = [record] := by
  unfold fingerprintRecord
  split
  next found hfound => rw [hfound, Option.some.injEq, List.singleton_inj]
  next hnone => exact iff_of_false nofun fun h => hnone record h

/-- A record with the fingerprint is among the matches. -/
theorem mem_fingerprintMatches : record ∈ fingerprintMatches rt expected payload ↔
    expected.fingerprint ≠ [] ∧ record ∈ getLiteApiOfferRecords rt payload ∧
      hasFingerprint rt expected record = true := by
  unfold fingerprintMatches
  split
  next hempty => simp [hempty]
  next hsome => rw [List.mem_filter, and_iff_right hsome]

theorem mem_exactMatches : record ∈ exactMatches rt expected payload ↔
    record ∈ getLiteApiOfferRecords rt payload ∧ hasReference rt expected record = true := by
  unfold exactMatches
  split
  next hempty =>
    -- no record has the empty reference
    refine iff_of_false (List.not_mem_nil) fun h => ?_
    have hmem := List.contains_iff_mem.mp h.2
    rw [hempty] at hmem
    simpa using (List.mem_filter.mp hmem).2
  next => exact List.mem_filter

/-- An aggregate is made of two records or more, and selects the rooms of all. -/
theorem matchingAggregate_rooms (h : matchingAggregate rt expected payload originalOffer = some record) :
    hasFingerprint rt expected record = true ∧ 2 ≤ (getLiteApiOfferRecords rt payload).length ∧
      getLiteApiSelectionRoomCount record = (getLiteApiOfferRecords rt payload).length := by
  obtain ⟨-, h⟩ := Option.ite_none_left_eq_some.mp h
  obtain ⟨hmade, hfingerprint⟩ := Option.filter_eq_some_iff.mp h
  obtain ⟨hfew, hmade⟩ := Option.ite_none_left_eq_some.mp hmade
  rw [not_or, not_lt] at hfew
  refine ⟨hfingerprint, hfew.1, ?_⟩
  split at hmade
  next =>
    obtain ⟨-, hmade⟩ := Option.ite_none_left_eq_some.mp hmade
    have hrecords : getLiteApiOfferRecords rt payload ≠ [] := fun hnil => by
      rw [hnil] at hfew
      exact absurd hfew.1 (by decide)
    rw [← Option.some.inj hmade, roomCount_aggregate records_objects hrecords]
  next => cases hmade

/-- A payload with one record has no ambiguous match. -/
theorem matches_of_single (h : getLiteApiOfferRecords rt payload = [record]) :
    (exactMatches rt expected payload).length ≤ 1 ∧
      (fingerprintMatches rt expected payload).length ≤ 1 := by
  unfold exactMatches fingerprintMatches
  rw [h]
  constructor
  · split
    · exact Nat.zero_le _
    · exact List.length_filter_le _ _
  · split
    · exact Nat.zero_le _
    · exact List.length_filter_le _ _

theorem onlyRecord_eq_some : onlyRecord rt expected payload = some record ↔
    getLiteApiOfferRecords rt payload = [record] := by
  unfold onlyRecord
  split
  next hambiguous =>
    refine iff_of_false nofun fun h => ?_
    obtain ⟨hexact, hfingerprint⟩ := @matches_of_single rt expected payload record h
    omega
  next =>
    split
    next found hfound => rw [hfound, Option.some.injEq, List.singleton_inj]
    next hnil =>
      refine iff_of_false (fun h => ?_) (by simp [hnil])
      exact records_ne_nil (Option.ite_none_right_eq_some.mp h).1 hnil
    next hnone _ => exact iff_of_false nofun fun h => hnone record h

/-! ## 5. The selected rooms are kept -/

/-- What is confirmed are the rooms that were selected: as many of them, the reference or the
    fingerprint of the selection, and nothing when the reference is ambiguous. -/
structure KeepsSelection (rt : LiteApiRuntime) (payload : Value) (originalOffer : JsValue)
    (expected : ExpectedSelection) : Prop where
  rooms : ∀ record, selectPrebookOfferRecord rt payload originalOffer = .ok (some record) →
    ∀ roomCount, expected.roomCount = some roomCount →
      getLiteApiSelectionRoomCount record = roomCount
  selection : ∀ record, selectPrebookOfferRecord rt payload originalOffer = .ok (some record) →
    expected.fingerprint ≠ [] →
      hasReference rt expected record = true ∨ hasFingerprint rt expected record = true
  ambiguous : 2 ≤ (exactMatches rt expected payload).length →
    (∀ record, fingerprintMatches rt expected payload ≠ [record]) →
      matchingAggregate rt expected payload originalOffer = none →
        selectPrebookOfferRecord rt payload originalOffer = .ok none

/-- The only record with the reference has the expected rooms. -/
def ReferenceDecides (rt : LiteApiRuntime) (expected : ExpectedSelection) (payload : Value) : Prop :=
  ∃ record, exactMatches rt expected payload = [record] ∧ hasExpectedRooms expected record = true

/-- When the reference does not decide: the only record with the fingerprint has the expected rooms,
    an aggregate with the fingerprint is made of as many records, and a record that is the only one
    and has not the fingerprint has the expected rooms when no fingerprint is expected. -/
structure RoutesChecked (rt : LiteApiRuntime) (payload : Value) (originalOffer : JsValue)
    (expected : ExpectedSelection) : Prop where
  fingerprint : ∀ record, fingerprintMatches rt expected payload = [record] →
    hasExpectedRooms expected record = true
  aggregate : (∀ record, fingerprintMatches rt expected payload ≠ [record]) →
    (matchingAggregate rt expected payload originalOffer).isSome = true →
      ∀ roomCount, expected.roomCount = some roomCount →
        (getLiteApiOfferRecords rt payload).length = roomCount
  single : ∀ record, getLiteApiOfferRecords rt payload = [record] →
    fingerprintMatches rt expected payload = [] →
      expected.fingerprint = [] ∧ hasExpectedRooms expected record = true

theorem hasExpectedRooms_iff : hasExpectedRooms expected record = true ↔
    ∀ roomCount, expected.roomCount = some roomCount →
      getLiteApiSelectionRoomCount record = roomCount := by
  unfold hasExpectedRooms
  cases expected.roomCount <;> simp

theorem selectPrebookOfferRecord_eq (h : expectedSelection rt originalOffer = .ok expected) :
    selectPrebookOfferRecord rt payload originalOffer =
      .ok (selectRecord rt expected payload originalOffer) := by
  rw [selectPrebookOfferRecord, h]
  rfl

/-- The route that a record was returned on, after those before it had none. -/
theorem selectRecord_cases (h : selectRecord rt expected payload originalOffer = some record) :
    (exactMatches rt expected payload = [record] ∧ hasExpectedRooms expected record = true) ∨
      ¬ ReferenceDecides rt expected payload ∧
        (fingerprintMatches rt expected payload = [record] ∨
          (∀ other, fingerprintMatches rt expected payload ≠ [other]) ∧
            (matchingAggregate rt expected payload originalOffer = some record ∨
              getLiteApiOfferRecords rt payload = [record])) := by
  have hundecided : exactRecord rt expected payload = none → ¬ ReferenceDecides rt expected payload := by
    rintro hnone ⟨other, hother⟩
    rw [exactRecord_eq_some.mpr hother] at hnone
    cases hnone
  have hunmatched : fingerprintRecord rt expected payload = none →
      ∀ other, fingerprintMatches rt expected payload ≠ [other] := by
    intro hnone other hother
    rw [fingerprintRecord_eq_some.mpr hother] at hnone
    cases hnone
  simp only [selectRecord, Option.or_eq_some_iff, Option.or_eq_none_iff] at h
  rcases h with ((hexact | ⟨hexact, hfingerprint⟩) | ⟨⟨hexact, hnone⟩, haggregate⟩) |
    ⟨⟨⟨hexact, hnone⟩, -⟩, honly⟩
  · exact .inl (exactRecord_eq_some.mp hexact)
  · exact .inr ⟨hundecided hexact, .inl (fingerprintRecord_eq_some.mp hfingerprint)⟩
  · exact .inr ⟨hundecided hexact, .inr ⟨hunmatched hnone, .inl haggregate⟩⟩
  · exact .inr ⟨hundecided hexact, .inr ⟨hunmatched hnone, .inr (onlyRecord_eq_some.mp honly)⟩⟩

/-- What is returned when the reference does not decide. -/
theorem selectRecord_of_undecided (h : ¬ ReferenceDecides rt expected payload) :
    selectRecord rt expected payload originalOffer =
      ((fingerprintRecord rt expected payload).or
        (matchingAggregate rt expected payload originalOffer)).or (onlyRecord rt expected payload) := by
  have hexact : exactRecord rt expected payload = none := by
    cases hfound : exactRecord rt expected payload with
    | none => rfl
    | some record => exact absurd ⟨record, exactRecord_eq_some.mp hfound⟩ h
  rw [selectRecord, hexact, Option.none_or]

/-- An ambiguous reference leaves nothing but the fingerprint to decide. -/
theorem selectRecord_of_ambiguous (hexact : 2 ≤ (exactMatches rt expected payload).length)
    (hfingerprint : ∀ record, fingerprintMatches rt expected payload ≠ [record])
    (haggregate : matchingAggregate rt expected payload originalOffer = none) :
    selectRecord rt expected payload originalOffer = none := by
  have hundecided : ¬ ReferenceDecides rt expected payload := by
    rintro ⟨record, hrecord, -⟩
    rw [hrecord, List.length_singleton] at hexact
    omega
  have hunmatched : fingerprintRecord rt expected payload = none := by
    cases hfound : fingerprintRecord rt expected payload with
    | none => rfl
    | some record => exact absurd (fingerprintRecord_eq_some.mp hfound) (hfingerprint record)
  rw [selectRecord_of_undecided hundecided, hunmatched, haggregate, onlyRecord, if_pos (.inl hexact)]
  rfl

theorem RoutesChecked.of_keepsSelection (h : expectedSelection rt originalOffer = .ok expected)
    (hundecided : ¬ ReferenceDecides rt expected payload)
    (hkeeps : KeepsSelection rt payload originalOffer expected) :
    RoutesChecked rt payload originalOffer expected := by
  have hroute := @selectRecord_of_undecided rt expected payload originalOffer hundecided
  have hselect := @selectPrebookOfferRecord_eq rt expected payload originalOffer h
  refine ⟨fun record hmatch => ?_, fun hunmatched haggregate => ?_, fun record hsingle hnone => ?_⟩
  · rw [fingerprintRecord_eq_some.mpr hmatch, Option.some_or, Option.some_or] at hroute
    exact hasExpectedRooms_iff.mpr (hkeeps.rooms record (by rw [hselect, hroute]))
  · obtain ⟨record, hrecord⟩ := Option.isSome_iff_exists.mp haggregate
    have hfingerprint : fingerprintRecord rt expected payload = none := by
      cases hfound : fingerprintRecord rt expected payload with
      | none => rfl
      | some other => exact absurd (fingerprintRecord_eq_some.mp hfound) (hunmatched other)
    rw [hfingerprint, Option.none_or, hrecord, Option.some_or] at hroute
    intro roomCount hcount
    rw [← (matchingAggregate_rooms hrecord).2.2]
    exact hkeeps.rooms record (by rw [hselect, hroute]) roomCount hcount
  · have hfingerprint : fingerprintRecord rt expected payload = none := by
      rw [fingerprintRecord, hnone]
    have haggregate : matchingAggregate rt expected payload originalOffer = none := by
      cases hfound : matchingAggregate rt expected payload originalOffer with
      | none => rfl
      | some other =>
        have hmany := (matchingAggregate_rooms hfound).2.1
        rw [hsingle, List.length_singleton] at hmany
        omega
    rw [hfingerprint, haggregate, onlyRecord_eq_some.mpr hsingle, Option.none_or, Option.none_or]
      at hroute
    have hreturned : selectPrebookOfferRecord rt payload originalOffer = .ok (some record) := by
      rw [hselect, hroute]
    have hrooms := hasExpectedRooms_iff.mpr (hkeeps.rooms record hreturned)
    refine ⟨?_, hrooms⟩
    by_contra hexpected
    have hmem : record ∈ getLiteApiOfferRecords rt payload := hsingle ▸ List.mem_singleton_self record
    rcases hkeeps.selection record hreturned hexpected with hreference | hmatch
    · -- the reference of a record with the expected rooms would have decided
      refine hundecided ⟨record, ?_, hrooms⟩
      have hin := mem_exactMatches.mpr ⟨hmem, hreference⟩
      match hmatches : exactMatches rt expected payload with
      | [] => rw [hmatches] at hin; cases hin
      | [other] => rw [hmatches, List.mem_singleton] at hin; rw [hin]
      | _ :: _ :: _ =>
        have hfew := (@matches_of_single rt expected payload record hsingle).1
        rw [hmatches] at hfew
        simp at hfew
    · have hin := mem_fingerprintMatches.mpr ⟨hexpected, hmem, hmatch⟩
      rw [hnone] at hin
      cases hin

theorem fingerprintMatches_of_single (hsingle : getLiteApiOfferRecords rt payload = [record])
    (hunmatched : ∀ other, fingerprintMatches rt expected payload ≠ [other]) :
    fingerprintMatches rt expected payload = [] := by
  have hfew := (@matches_of_single rt expected payload record hsingle).2
  match hmatches : fingerprintMatches rt expected payload with
  | [] => rfl
  | [other] => exact absurd hmatches (hunmatched other)
  | _ :: _ :: _ =>
    rw [hmatches] at hfew
    simp at hfew

/-- On every route that has checked what it returns, a returned record is the selection. -/
theorem checked_of_selected (hchecked : ReferenceDecides rt expected payload ∨
      RoutesChecked rt payload originalOffer expected)
    (h : selectRecord rt expected payload originalOffer = some record) :
    hasExpectedRooms expected record = true ∧ (expected.fingerprint ≠ [] →
      hasReference rt expected record = true ∨ hasFingerprint rt expected record = true) := by
  rcases selectRecord_cases h with ⟨hexact, hrooms⟩ | ⟨hundecided, hlater⟩
  · have hin : record ∈ exactMatches rt expected payload := hexact ▸ List.mem_singleton_self _
    exact ⟨hrooms, fun _ => .inl (mem_exactMatches.mp hin).2⟩
  have hroutes := hchecked.resolve_left hundecided
  rcases hlater with hmatch | ⟨hunmatched, haggregate | hsingle⟩
  · have hin : record ∈ fingerprintMatches rt expected payload := hmatch ▸ List.mem_singleton_self _
    exact ⟨hroutes.fingerprint record hmatch, fun _ => .inr (mem_fingerprintMatches.mp hin).2.2⟩
  · obtain ⟨hmatch, -, hcount⟩ := matchingAggregate_rooms haggregate
    refine ⟨hasExpectedRooms_iff.mpr fun roomCount hexpected => ?_, fun _ => .inr hmatch⟩
    rw [hcount, hroutes.aggregate hunmatched (by rw [haggregate]; rfl) roomCount hexpected]
  · obtain ⟨hempty, hrooms⟩ :=
      hroutes.single record hsingle (fingerprintMatches_of_single hsingle hunmatched)
    exact ⟨hrooms, fun hexpected => absurd hempty hexpected⟩

/-- A prebook keeps the selection if and only if the reference decides or each later route has checked
    what it returns. -/
theorem keepsSelection_iff (rt : LiteApiRuntime) (payload : Value) (originalOffer : JsValue)
    (expected : ExpectedSelection) (h : expectedSelection rt originalOffer = .ok expected) :
    KeepsSelection rt payload originalOffer expected ↔
      ReferenceDecides rt expected payload ∨ RoutesChecked rt payload originalOffer expected := by
  have hselect := @selectPrebookOfferRecord_eq rt expected payload originalOffer h
  constructor
  · intro hkeeps
    by_cases hdecides : ReferenceDecides rt expected payload
    · exact .inl hdecides
    · exact .inr (.of_keepsSelection h hdecides hkeeps)
  · intro hchecked
    have hselected : ∀ record, selectPrebookOfferRecord rt payload originalOffer = .ok (some record) →
        selectRecord rt expected payload originalOffer = some record := by
      intro record hreturned
      rwa [hselect, Except.ok.injEq] at hreturned
    exact
      { rooms := fun record hreturned =>
          hasExpectedRooms_iff.mp (checked_of_selected hchecked (hselected record hreturned)).1
        selection := fun record hreturned =>
          (checked_of_selected hchecked (hselected record hreturned)).2
        ambiguous := fun hexact hfingerprint haggregate => by
          rw [hselect, selectRecord_of_ambiguous hexact hfingerprint haggregate] }

end

/-- An offer with the reference `a` that selects some rooms. -/
def offerOfRooms (roomCount : Nat) : JsValue :=
  some (.obj [(.ofString "providerOfferReference", .str (.ofString "a")),
    (.ofString "providerOfferContext", .obj [
      (.ofString "selectionFingerprint", .str (.ofString "f")),
      (.ofString "selectionRoomCount", .num (.finite roomCount))])])

def expectedRooms (roomCount : Nat) : ExpectedSelection :=
  { reference := .ofString "a", fingerprint := .ofString "f", roomCount := some roomCount }

/-- A payload with a rate for every reference. -/
def payloadOf (references : List String) : Value :=
  .obj [(.ofString "rates", .arr (references.map fun reference =>
    hundredEuroRate [(.ofString "offerId", .str (.ofString reference))]))]

/-- The rate with the reference is confirmed, and not the other one. -/
theorem rateOfReference_kept : KeepsSelection plainLiteApi (payloadOf ["b", "a"]) (offerOfRooms 1)
    (expectedRooms 1) := by
  have hone : (exactMatches plainLiteApi (expectedRooms 1) (payloadOf ["b", "a"])).length = 1 ∧
      (exactMatches plainLiteApi (expectedRooms 1) (payloadOf ["b", "a"])).all
        (hasExpectedRooms (expectedRooms 1)) = true := by decide +kernel
  refine (keepsSelection_iff plainLiteApi _ _ _ rfl).mpr (.inl ?_)
  obtain ⟨record, hrecord⟩ := List.length_eq_one_iff.mp hone.1
  have hrooms := hone.2
  rw [hrecord, List.all_cons, List.all_nil, Bool.and_true] at hrooms
  exact ⟨record, hrecord, hrooms⟩

/-- A rate of one room with the reference of an offer of two is rejected by the first route and returned
    by the last one. -/
theorem single_record_readmitted :
    (selectPrebookOfferRecord plainLiteApi (payloadOf ["a"]) (offerOfRooms 2)).toOption.map
      (Option.map getLiteApiSelectionRoomCount) = some (some 1) ∧
    ¬ ∀ rt payload originalOffer expected, expectedSelection rt originalOffer = .ok expected →
      KeepsSelection rt payload originalOffer expected := by
  have hreturned : (selectPrebookOfferRecord plainLiteApi (payloadOf ["a"])
      (offerOfRooms 2)).toOption.map (Option.map getLiteApiSelectionRoomCount) = some (some 1) := by
    decide +kernel
  refine ⟨hreturned, fun hall => ?_⟩
  have hkeeps := hall plainLiteApi (payloadOf ["a"]) (offerOfRooms 2) (expectedRooms 2) rfl
  cases hselected : selectPrebookOfferRecord plainLiteApi (payloadOf ["a"]) (offerOfRooms 2) with
  | error e => rw [hselected] at hreturned; cases hreturned
  | ok returned =>
    cases returned with
    | none => rw [hselected] at hreturned; cases hreturned
    | some record =>
      have hone : getLiteApiSelectionRoomCount record = 1 := by
        rw [hselected] at hreturned
        exact Option.some.inj (Option.some.inj hreturned)
      have htwo := hkeeps.rooms record hselected 2 rfl
      rw [hone] at htwo
      cases htwo

end SmartStay.LiteApi
