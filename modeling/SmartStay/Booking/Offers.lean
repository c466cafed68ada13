import Mathlib.Data.List.Find
import SmartStay.Lib.Fallible
import SmartStay.Lib.Number
import SmartStay.Lib.Text

/-!
# Public ids and snapshots of booking offers

`server/services/bookingOfferIntegrityService.js` and `resolveBookingOffer` of
`bookingRedirectService.js`. An offer is shown to a user under a public id, the truncated hash
of twelve normalised fields, and is found again by that id; what a provider confirms is compared
with the found offer in the thirteen fields of a snapshot.

1. `Scalar`, `Offer`, `Hotel`: what a provider stored.
2. The normalisations.
3. `createOfferIdentityPayload`, `createPublicOfferId`, `resolveOfferByPublicId`.
4. `createBookingOfferSnapshot`, `compareBookingOfferSnapshots`; `changedFields_nil`.
5. `resolveBookingOffer`; `resolveBookingOffer_ok`.
-/

namespace SmartStay.Booking

/-! ## 1. Offers -/

/-- A field as the provider left it. `null` is also a field that is absent; a number without a
    value is `NaN` or infinite. -/
inductive Scalar
  | null
  | number (value : Option ℚ)
  | text (value : String)
  | flag (value : Bool)
deriving DecidableEq

/-- `first ?? second`. -/
def Scalar.orElse : Scalar → Scalar → Scalar
  | .null, second => second
  | first, _ => first

/-- A stored offer: the fields that the booking services read. -/
structure Offer where
  id : Scalar := .null
  sourceProvider : Scalar := .null
  roomName : Scalar := .null
  mealPlan : Scalar := .null
  price : Scalar := .null
  totalKnownCost : Scalar := .null
  currency : Scalar := .null
  taxesIncluded : Scalar := .null
  includedTaxes : Scalar := .null
  excludedTaxes : Scalar := .null
  unknownTaxes : Scalar := .null
  refundable : Scalar := .null
  freeCancellationUntil : Scalar := .null
  cancellationPolicy : Scalar := .null
  deepLink : Scalar := .null
  bookable : Scalar := .null
  providerOfferReference : Scalar := .null
deriving DecidableEq

structure Hotel where
  id : String
  sourceHotelId : Scalar := .null
  sourceProvider : Scalar := .null
  offers : List Offer

/-- `toLowerCase`, `Number` of a text that is not empty, and the first 24 digits of the
    hexadecimal SHA-256 of a text. -/
structure Platform where
  toLowerCase : String → String
  numberOf : String → Option ℚ
  digest : String → String

/-! ## 2. Normalisation -/

def normalizeText : Scalar → String
  | .text value => JsText.trim value
  | _ => ""

section
variable (pf : Platform)

def normalizeIdentityText (value : Scalar) : String :=
  String.ofList (JsText.collapseSpaces (pf.toLowerCase (normalizeText value)).toList)

/-- `Number(value)`, when it is finite. -/
def toNumber : Scalar → Option ℚ
  | .null => some 0
  | .number value => value
  | .text value => pf.numberOf value
  | .flag value => some (if value then 1 else 0)

def normalizeNumber (value : Scalar) : String :=
  if value = .null ∨ value = .text "" then ""
  else
    match toNumber pf value with
    | some number => JsNumber.toFixed2 number
    | none => ""

end

def normalizeBoolean : Scalar → String
  | .flag value => if value then "true" else "false"
  | _ => ""

/-! ## 3. Public ids -/

/-- `/(?:^|:)rate_[0-9]+$/i`. -/
def isGeneratedRateId (id : String) : Bool :=
  let reversed := id.toList.reverse.map Char.toLower
  let head := reversed.dropWhile Char.isDigit
  (reversed.head?).any Char.isDigit && head.take 5 == "_etar".toList &&
    ((head.drop 5).head?).all (· == ':')

/-- `/:primary$/i`. -/
def isPrimaryOfferId (id : String) : Bool :=
  ":primary".toList.isSuffixOf (id.toList.map Char.toLower)

def getStableInternalOfferId (offer : Offer) : String :=
  let internalId := normalizeText offer.id
  if internalId = "" || isGeneratedRateId internalId || isPrimaryOfferId internalId then ""
  else internalId

section
variable (pf : Platform)

def createOfferIdentityPayload (offer : Offer) : String :=
  "\u001f".intercalate [
    normalizeIdentityText pf offer.sourceProvider,
    normalizeIdentityText pf (.text (getStableInternalOfferId offer)),
    normalizeIdentityText pf offer.roomName,
    normalizeIdentityText pf offer.mealPlan,
    normalizeNumber pf (offer.totalKnownCost.orElse offer.price),
    normalizeIdentityText pf offer.currency,
    normalizeBoolean offer.refundable,
    normalizeIdentityText pf offer.freeCancellationUntil,
    normalizeNumber pf offer.excludedTaxes,
    normalizeNumber pf offer.unknownTaxes,
    normalizeIdentityText pf offer.cancellationPolicy,
    normalizeIdentityText pf offer.deepLink]

def createPublicOfferId (offer : Offer) : String :=
  "offer-" ++ pf.digest (createOfferIdentityPayload pf offer)

end

/-- `/^offer-[a-f0-9]{24}$/i` on the trimmed text. -/
def isPublicOfferId (value : String) : Bool :=
  let characters := (JsText.trim value).toList.map Char.toLower
  characters.take 6 == "offer-".toList && (characters.drop 6).length == 24 &&
    (characters.drop 6).all JsText.isLowerHex

def resolveOfferByPublicId (pf : Platform) (offers : List Offer) (offerId : String) :
    Option Offer :=
  let normalizedOfferId := JsText.trim offerId
  if !isPublicOfferId normalizedOfferId then none
  else offers.find? fun offer => createPublicOfferId pf offer == normalizedOfferId

/-- An empty text is `null`. -/
def nonEmpty? (text : String) : Option String := if text = "" then none else some text

def getOfferSourceProvider (offer : Offer) (hotel : Hotel) : Option String :=
  nonEmpty? (normalizeText offer.sourceProvider) <|>
    nonEmpty? (normalizeText hotel.sourceProvider)

def getProviderOfferReference (offer : Offer) : Option String :=
  nonEmpty? (normalizeText offer.providerOfferReference)

/-- What the services rely on in a hash: its digits. -/
def HexDigest (pf : Platform) : Prop :=
  ∀ payload, (pf.digest payload).toList.length = 24 ∧
    (pf.digest payload).toList.all JsText.isLowerHex = true

section
variable {pf : Platform} (hhex : HexDigest pf) (offer : Offer)
include hhex

theorem trim_createPublicOfferId :
    JsText.trim (createPublicOfferId pf offer) = createPublicOfferId pf offer := by
  refine JsText.trim_of_no_space fun c hc => ?_
  rw [createPublicOfferId, String.toList_append, List.mem_append] at hc
  rcases hc with hfront | hdigit
  · have hplain : "offer-".toList.all (!JsText.isSpace ·) = true := by decide
    simpa using List.all_eq_true.mp hplain c hfront
  · exact (JsText.isLowerHex_plain (List.all_eq_true.mp (hhex _).2 c hdigit)).1

theorem isPublicOfferId_createPublicOfferId :
    isPublicOfferId (createPublicOfferId pf offer) = true := by
  obtain ⟨hlength, hall⟩ := hhex (createOfferIdentityPayload pf offer)
  have hlower : (pf.digest (createOfferIdentityPayload pf offer)).toList.map Char.toLower =
      (pf.digest (createOfferIdentityPayload pf offer)).toList := by
    refine (List.map_congr_left fun c hc => ?_).trans (List.map_id _)
    exact (JsText.isLowerHex_plain (List.all_eq_true.mp hall c hc)).2
  have hchars : (createPublicOfferId pf offer).toList.map Char.toLower =
      "offer-".toList ++ (pf.digest (createOfferIdentityPayload pf offer)).toList := by
    rw [createPublicOfferId, String.toList_append, List.map_append, hlower]
    rfl
  unfold isPublicOfferId
  rw [trim_createPublicOfferId hhex, hchars]
  dsimp only
  rw [List.take_left' (by rfl), List.drop_left' (by rfl), hlength, hall]
  rfl

/-- A shown id finds the first offer with that id. -/
theorem resolveOfferByPublicId_shown (offers : List Offer) :
    resolveOfferByPublicId pf offers (createPublicOfferId pf offer) =
      offers.find? fun other => createPublicOfferId pf other == createPublicOfferId pf offer := by
  unfold resolveOfferByPublicId
  simp [trim_createPublicOfferId hhex, isPublicOfferId_createPublicOfferId hhex]

end

/-! ## 4. Snapshots -/

/-- The record that `createBookingOfferSnapshot` returns. -/
structure BookingOfferSnapshot where
  price : String
  totalKnownCost : String
  currency : String
  taxesIncluded : String
  includedTaxes : String
  excludedTaxes : String
  unknownTaxes : String
  roomName : String
  mealPlan : String
  refundable : String
  freeCancellationUntil : String
  cancellationPolicy : String
  bookable : Bool
deriving DecidableEq

/-- `Object.entries(snapshot)`, with `bookable` as a text. -/
def BookingOfferSnapshot.entries (snapshot : BookingOfferSnapshot) : List (String × String) :=
  [("price", snapshot.price), ("totalKnownCost", snapshot.totalKnownCost),
    ("currency", snapshot.currency), ("taxesIncluded", snapshot.taxesIncluded),
    ("includedTaxes", snapshot.includedTaxes), ("excludedTaxes", snapshot.excludedTaxes),
    ("unknownTaxes", snapshot.unknownTaxes), ("roomName", snapshot.roomName),
    ("mealPlan", snapshot.mealPlan), ("refundable", snapshot.refundable),
    ("freeCancellationUntil", snapshot.freeCancellationUntil),
    ("cancellationPolicy", snapshot.cancellationPolicy),
    ("bookable", if snapshot.bookable then "true" else "false")]

def createBookingOfferSnapshot (pf : Platform) (offer : Offer) : BookingOfferSnapshot where
  price := normalizeNumber pf offer.price
  totalKnownCost := normalizeNumber pf offer.totalKnownCost
  currency := normalizeIdentityText pf offer.currency
  taxesIncluded := normalizeBoolean offer.taxesIncluded
  includedTaxes := normalizeNumber pf offer.includedTaxes
  excludedTaxes := normalizeNumber pf offer.excludedTaxes
  unknownTaxes := normalizeNumber pf offer.unknownTaxes
  roomName := normalizeIdentityText pf offer.roomName
  mealPlan := normalizeIdentityText pf offer.mealPlan
  refundable := normalizeBoolean offer.refundable
  freeCancellationUntil := normalizeIdentityText pf offer.freeCancellationUntil
  cancellationPolicy := normalizeIdentityText pf offer.cancellationPolicy
  bookable := offer.bookable ≠ .flag false

structure SnapshotComparison where
  changed : Bool
  changedFields : List String
  original : BookingOfferSnapshot
  confirmed : BookingOfferSnapshot

/-- The names of the fields in which two snapshots differ. -/
def changedFields (original confirmed : BookingOfferSnapshot) : List String :=
  ((original.entries.zip confirmed.entries).filter fun pair => pair.1.2 ≠ pair.2.2).map
    fun pair => pair.1.1

def compareBookingOfferSnapshots (pf : Platform) (originalOffer confirmedOffer : Offer) :
    SnapshotComparison :=
  let original := createBookingOfferSnapshot pf originalOffer
  let confirmed := createBookingOfferSnapshot pf confirmedOffer
  let fields := changedFields original confirmed
  { changed := decide (0 < fields.length)
    changedFields := fields
    original := original
    confirmed := confirmed }

theorem changedFields_nil {original confirmed : BookingOfferSnapshot} :
    changedFields original confirmed = [] ↔ original = confirmed := by
  constructor
  · intro h
    cases original
    cases confirmed
    simp [changedFields, BookingOfferSnapshot.entries] at h
    simp only [BookingOfferSnapshot.mk.injEq]
    grind
  · rintro rfl
    simp [changedFields, BookingOfferSnapshot.entries]

/-! ## 5. The offer of a request -/

structure BookingError where
  code : String
  message : String
  status : Nat
  retryable : Bool := false
deriving DecidableEq

/-- A search session: its hotels. -/
structure Session where
  searchId : Option String
  hotels : List Hotel

def getRequiredText (value : Scalar) (code message : String) : Except BookingError String :=
  let normalizedValue := normalizeText value
  if normalizedValue = "" then .error ⟨code, message, 400, false⟩ else .ok normalizedValue

def requireCanonicalHotel (session : Session) (hotelId : Scalar) : Except BookingError Hotel := do
  let normalizedHotelId ← getRequiredText hotelId "HOTEL_ID_REQUIRED" "hotelId is required."
  match session.hotels.find? (·.id == normalizedHotelId) with
  | some hotel => .ok hotel
  | none => .error ⟨"HOTEL_NOT_IN_SEARCH",
      "The requested hotel does not belong to this search.", 404, false⟩

def requirePublicOfferId (offerId : Scalar) : Except BookingError String := do
  let normalizedOfferId ← getRequiredText offerId "OFFER_ID_REQUIRED" "offerId is required."
  if !isPublicOfferId normalizedOfferId then
    .error ⟨"OFFER_ID_INVALID", "offerId is invalid.", 400, false⟩
  else .ok normalizedOfferId

/-- The hotel, the offer and the id under which it was found. -/
def resolveBookingOffer (pf : Platform) (session : Session) (hotelId offerId : Scalar) :
    Except BookingError (Hotel × Offer × String) := do
  let hotel ← requireCanonicalHotel session hotelId
  let normalizedOfferId ← requirePublicOfferId offerId
  match resolveOfferByPublicId pf hotel.offers normalizedOfferId with
  | some offer => .ok (hotel, offer, normalizedOfferId)
  | none => .error ⟨"OFFER_NOT_IN_HOTEL",
      "The requested offer does not belong to this hotel.", 404, false⟩

/-- The hotel of a request and the first of its offers with the identity of `offer`. -/
def foundOffer? (pf : Platform) (session : Session) (hotelId : Scalar) (offer : Offer) :
    Option (Hotel × Offer) :=
  if normalizeText hotelId = "" then none
  else do
    let hotel ← session.hotels.find? (·.id == normalizeText hotelId)
    let found ← hotel.offers.find? fun other =>
      createOfferIdentityPayload pf other == createOfferIdentityPayload pf offer
    some (hotel, found)

/-- The hash is injective on the payloads of the offers of a session. -/
def DigestInjective (pf : Platform) (session : Session) : Prop :=
  ∀ hotel ∈ session.hotels, ∀ hotel' ∈ session.hotels, ∀ offer ∈ hotel.offers,
    ∀ offer' ∈ hotel'.offers,
      pf.digest (createOfferIdentityPayload pf offer) =
        pf.digest (createOfferIdentityPayload pf offer') →
      createOfferIdentityPayload pf offer = createOfferIdentityPayload pf offer'

theorem requireCanonicalHotel_ok {session : Session} {hotelId : Scalar} {hotel : Hotel} :
    requireCanonicalHotel session hotelId = .ok hotel ↔ normalizeText hotelId ≠ "" ∧
      session.hotels.find? (·.id == normalizeText hotelId) = some hotel := by
  unfold requireCanonicalHotel getRequiredText
  by_cases hid : normalizeText hotelId = ""
  · simp [hid, bind, Except.bind]
  · cases hfind : session.hotels.find? (·.id == normalizeText hotelId) with
    | none => simp [hid, hfind, bind, Except.bind]
    | some other => simp [hid, hfind, bind, Except.bind]

theorem requirePublicOfferId_shown {pf : Platform} (hhex : HexDigest pf) (offer : Offer) :
    requirePublicOfferId (.text (createPublicOfferId pf offer)) =
      .ok (createPublicOfferId pf offer) := by
  have hne : createPublicOfferId pf offer ≠ "" := by
    intro hempty
    have hpublic := isPublicOfferId_createPublicOfferId hhex offer
    rw [hempty] at hpublic
    exact absurd hpublic (by decide)
  simp [requirePublicOfferId, getRequiredText, normalizeText, trim_createPublicOfferId hhex, hne,
    isPublicOfferId_createPublicOfferId hhex, bind, Except.bind]

/-- On the offers of a session the shown ids tell the same offers apart as the payloads. -/
theorem find?_shown {pf : Platform} {session : Session} (hinj : DigestInjective pf session)
    {home hotel : Hotel} (hhome : home ∈ session.hotels) (hhotel : hotel ∈ session.hotels)
    {offer : Offer} (hoffer : offer ∈ home.offers) :
    (hotel.offers.find? fun other =>
        createPublicOfferId pf other == createPublicOfferId pf offer) =
      hotel.offers.find? fun other =>
        createOfferIdentityPayload pf other == createOfferIdentityPayload pf offer := by
  refine List.find?_congr fun other hother => ?_
  rw [Bool.eq_iff_iff, beq_iff_eq, beq_iff_eq]
  constructor
  · intro hid
    refine hinj hotel hhotel home hhome other hother offer hoffer ?_
    have hlist := congrArg String.toList hid
    rw [createPublicOfferId, createPublicOfferId, String.toList_append, String.toList_append] at hlist
    exact String.toList_inj.mp (List.append_cancel_left hlist)
  · intro hpayload
    rw [createPublicOfferId, hpayload, createPublicOfferId]

theorem resolveBookingOffer_shown {pf : Platform} {session : Session} (hhex : HexDigest pf)
    (hinj : DigestInjective pf session) (hotelId : Scalar) {home : Hotel}
    (hhome : home ∈ session.hotels) {offer : Offer} (hoffer : offer ∈ home.offers)
    {hotel : Hotel} {found : Offer} {id : String} :
    resolveBookingOffer pf session hotelId (.text (createPublicOfferId pf offer)) =
        .ok (hotel, found, id) ↔
      foundOffer? pf session hotelId offer = some (hotel, found) ∧
        id = createPublicOfferId pf offer := by
  unfold resolveBookingOffer foundOffer?
  rw [requirePublicOfferId_shown hhex, Fallible.bind_ok]
  constructor
  · rintro ⟨hotel', hcanonical, hresult⟩
    obtain ⟨hid, hfind⟩ := requireCanonicalHotel_ok.mp hcanonical
    simp only [bind, Except.bind, resolveOfferByPublicId_shown hhex,
      find?_shown hinj hhome (List.mem_of_find?_eq_some hfind) hoffer] at hresult
    split at hresult
    · rename_i found' hfound
      cases hresult
      refine ⟨?_, rfl⟩
      rw [if_neg hid, hfind]
      simp [hfound]
    · cases hresult
  · rintro ⟨hfound, rfl⟩
    split at hfound
    · cases hfound
    rename_i hid
    cases hfind : session.hotels.find? (·.id == normalizeText hotelId) with
    | none => simp [hfind] at hfound
    | some hotel' =>
      refine ⟨hotel', requireCanonicalHotel_ok.mpr ⟨hid, hfind⟩, ?_⟩
      simp only [bind, Except.bind, resolveOfferByPublicId_shown hhex,
        find?_shown hinj hhome (List.mem_of_find?_eq_some hfind) hoffer]
      simp only [hfind, Option.bind_eq_bind, Option.bind_some, Option.bind_eq_some_iff] at hfound
      obtain ⟨found', hfind', hpair⟩ := hfound
      cases hpair
      rw [hfind']

end SmartStay.Booking
