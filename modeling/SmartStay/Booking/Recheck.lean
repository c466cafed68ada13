import SmartStay.Booking.Offers

/-!
# Rechecking an offer and preparing its handoff

`server/services/bookingOfferRecheckService.js` and `prepareBookingHandoff` of
`bookingHandoffService.js`. What the services are given (the provider registry, the provider's
answers, the stores) is a parameter; the stay and the provider context, which only the provider
reads, are left out.

1. `recheckBookingOffer`.
2. `prepareBookingHandoff`.
3. `recheck_confirms`, `prepare_proceeds`: what a confirmation and a handoff without consent
   say of the offer that was found.
4. `confirms_shown_offer`: when they say it of the offer that was shown.
-/

namespace SmartStay.Booking

/-! ## 1. Rechecking -/

/-- A registered provider: whether it is enabled and what it can do. -/
structure Provider where
  enabled : Bool
  offerRecheck : Bool
  bookingHandoff : Bool

/-- What the provider is asked about. -/
structure RecheckRequest where
  sourceProvider : Option String
  hotelId : Option String
  offer : Offer

/-- The provider's answer. -/
structure ProviderResult where
  outcome : String
  offer : Option Offer
  providerBookingReference : Option String

/-- `createProviderFailureDetails(error)`. -/
structure FailureDetails where
  retryable : Bool
  retryAfterMs : Option Nat
deriving DecidableEq

/-- The record that is handed to `saveBookingVerification`. -/
structure Verification where
  searchId : Option String
  hotelId : String
  originalOfferId : String
  confirmedOffer : Offer
  sourceProvider : Option String
  providerBookingReference : Option String
  requiresUserConfirmation : Bool
  changedFields : List String
deriving DecidableEq

/-- What the store returns for a saved record. -/
structure SavedVerification where
  verificationId : String
  createdAt : Int
  expiresAt : Int
deriving DecidableEq

/-- `BOOKING_OFFER_RECHECK_STATES`. -/
inductive RecheckState
  | confirmed | changed | soldOut | recheckRequired
deriving DecidableEq, Repr

structure RecheckResult where
  state : RecheckState
  code : String
  message : String
  retryable : Bool := false
  retryAfterMs : Option Nat := none
  requiresUserConfirmation : Bool := false
  changedFields : List String := []
  verification : Option SavedVerification := none
  offer : Option Offer := none
  confirmedOfferId : Option String := none

/-- The dependencies of `createBookingOfferRecheckService`. -/
structure RecheckDependencies where
  getProvider : String → Option Provider
  executeRecheck : RecheckRequest → Except FailureDetails (Option ProviderResult)
  saveVerification : Verification → Except FailureDetails SavedVerification

/-- The text after the first colon, if there is one. -/
def afterColon? (characters : List Char) : Option (List Char) :=
  match characters.dropWhile (· ≠ ':') with
  | [] => none
  | _ :: rest => some rest

def getProviderHotelId (hotel : Hotel) : Option String :=
  let sourceHotelId := normalizeText hotel.sourceHotelId
  if sourceHotelId ≠ "" then some sourceHotelId
  else
    let canonicalId := JsText.trim hotel.id
    match afterColon? canonicalId.toList with
    | some rest => some (String.ofList rest)
    | none => nonEmpty? canonicalId

def createRecheckRequiredResult (code message : String) (retryable : Bool)
    (retryAfterMs : Option Nat) : RecheckResult where
  state := .recheckRequired
  code := code
  message := message
  retryable := retryable
  retryAfterMs := retryAfterMs

/-- The catch block. -/
def temporarilyUnavailable (failure : FailureDetails) : RecheckResult :=
  createRecheckRequiredResult "OFFER_RECHECK_TEMPORARILY_UNAVAILABLE"
    "The booking provider could not confirm this offer right now." failure.retryable
    failure.retryAfterMs

section
variable (pf : Platform)

/-- The record that is saved when the provider answered with `confirmedOffer`. -/
def createVerification (searchId : Option String) (hotel : Hotel) (offer confirmedOffer : Offer)
    (canonicalOfferId : String) (sourceProvider providerBookingReference : Option String) :
    Verification :=
  let comparison := compareBookingOfferSnapshots pf offer confirmedOffer
  { searchId := searchId
    hotelId := hotel.id
    originalOfferId := canonicalOfferId
    confirmedOffer := confirmedOffer
    sourceProvider := sourceProvider
    providerBookingReference := providerBookingReference
    requiresUserConfirmation := comparison.changed
    changedFields := comparison.changedFields }

/-- The result for a saved record. -/
def createConfirmedResult (verification : Verification) (saved : SavedVerification) :
    RecheckResult where
  state := if verification.requiresUserConfirmation then .changed else .confirmed
  code := if verification.requiresUserConfirmation then "OFFER_CHANGED" else "OFFER_CONFIRMED"
  message :=
    if verification.requiresUserConfirmation then
      "The provider changed the price or booking conditions. Review the updated offer before continuing."
    else "The provider confirmed the current price and booking conditions."
  requiresUserConfirmation := verification.requiresUserConfirmation
  changedFields := verification.changedFields
  verification := some saved
  offer := some verification.confirmedOffer
  confirmedOfferId := some (createPublicOfferId pf verification.confirmedOffer)

/-- The provider of an offer, when it can recheck offers. -/
def canRecheck (getProvider : String → Option Provider) (sourceProvider : Option String) : Bool :=
  match sourceProvider.bind getProvider with
  | some provider => provider.enabled && provider.offerRecheck
  | none => false

/-- The result, and the record that was saved on the way. -/
def recheckBookingOffer (deps : RecheckDependencies) (session : Session)
    (searchId : Option String) (hotelId offerId : Scalar) :
    Except BookingError (RecheckResult × Option Verification) := do
  let (hotel, offer, canonicalOfferId) ← resolveBookingOffer pf session hotelId offerId
  let sourceProvider := getOfferSourceProvider offer hotel
  if !canRecheck deps.getProvider sourceProvider then
    return (createRecheckRequiredResult "OFFER_RECHECK_UNSUPPORTED"
      "This offer must be checked again with the booking provider before purchase." false none,
      none)
  if (getProviderOfferReference offer).isNone then
    return (createRecheckRequiredResult "OFFER_RECHECK_REFERENCE_MISSING"
      "This offer cannot be checked again safely." false none, none)
  match deps.executeRecheck ⟨sourceProvider, getProviderHotelId hotel, offer⟩ with
  | .error failure => return (temporarilyUnavailable failure, none)
  | .ok providerResult =>
    if (providerResult.map (·.outcome)) = some "sold_out" then
      return ({ state := .soldOut, code := "OFFER_SOLD_OUT",
                message := "This offer is no longer available." }, none)
    match providerResult.bind fun answer => answer.offer.map (·, answer) with
    | none =>
      return (createRecheckRequiredResult "OFFER_RECHECK_INVALID_RESPONSE"
        "The booking provider could not confirm this offer." true none, none)
    | some (confirmedOffer, answer) =>
      let verification := createVerification pf (session.searchId <|> searchId) hotel offer
        confirmedOffer canonicalOfferId sourceProvider answer.providerBookingReference
      match deps.saveVerification verification with
      | .error failure => return (temporarilyUnavailable failure, none)
      | .ok saved => return (createConfirmedResult pf verification saved, some verification)

end

/-! ## 2. Handoffs -/

/-- An error of the provider while it creates a handoff. -/
structure HandoffFailure where
  code : String
  message : String
  status : Nat
  retryable : Bool
deriving DecidableEq

/-- What the provider is asked to hand over. -/
structure HandoffRequest where
  sourceProvider : Option String
  providerBookingReference : String
  verificationId : String
  confirmedOffer : Offer

/-- The record that is handed to `saveBookingHandoff`. -/
structure Handoff where
  verificationId : String
  sourceProvider : Option String
  redirectUrl : String
deriving DecidableEq

structure SavedHandoff where
  handoffId : String
  expiresAt : Int
deriving DecidableEq

structure PreparedHandoff where
  state : String
  code : String
  message : String
  handoff : SavedHandoff

/-- The dependencies of `createBookingHandoffService`; a verification is read with its id. -/
structure HandoffDependencies where
  requireVerification : String → Except BookingError (String × Verification)
  getProvider : String → Option Provider
  executeProviderHandoff : HandoffRequest → Except HandoffFailure String
  saveHandoff : Handoff → Except BookingError SavedHandoff

def changesConfirmationRequired : BookingError where
  code := "BOOKING_CHANGES_CONFIRMATION_REQUIRED"
  message := "Accept the updated total and booking conditions before continuing."
  status := 409

def handoffUnavailable : BookingError where
  code := "BOOKING_HANDOFF_UNAVAILABLE"
  message := "Secure checkout is not available for this offer yet."
  status := 409

def handoffReferenceMissing : BookingError where
  code := "BOOKING_HANDOFF_REFERENCE_MISSING"
  message := "The verified checkout reference is unavailable. Check the offer again."
  status := 409

/-- What is thrown for an error of the provider. -/
def providerHandoffError (failure : HandoffFailure) : BookingError :=
  if failure.code = "PROVIDER_BOOKING_HANDOFF_NOT_CONFIGURED" ∨
      failure.code = "PROVIDER_BOOKING_HANDOFF_CONFIGURATION_INVALID" then
    ⟨"BOOKING_HANDOFF_NOT_CONFIGURED", "Secure checkout is not configured yet.", 503, false⟩
  else ⟨failure.code, failure.message, failure.status, failure.retryable⟩

/-- The provider of a verification, when it can take over a booking. -/
def canHandOff (getProvider : String → Option Provider) (sourceProvider : Option String) : Bool :=
  match sourceProvider.bind getProvider with
  | some provider => provider.enabled && provider.bookingHandoff
  | none => false

/-- The checkout reference of a verification, when there is one. -/
def checkoutReference? (verification : Verification) : Option String :=
  verification.providerBookingReference.filter (JsText.trim · ≠ "")

/-- The part of `prepareBookingHandoff` between reading the verification and asking the
    provider: the checkout reference. -/
def authorizeHandoff (getProvider : String → Option Provider) (verification : Verification)
    (acceptChanges : Bool) : Except BookingError String := do
  if verification.requiresUserConfirmation && !acceptChanges then
    throw changesConfirmationRequired
  if !canHandOff getProvider verification.sourceProvider then
    throw handoffUnavailable
  match checkoutReference? verification with
  | none => throw handoffReferenceMissing
  | some reference => return reference

def prepareBookingHandoff (deps : HandoffDependencies) (verificationId : String)
    (acceptChanges : Bool) : Except BookingError PreparedHandoff := do
  let (id, verification) ← deps.requireVerification verificationId
  let reference ← authorizeHandoff deps.getProvider verification acceptChanges
  match deps.executeProviderHandoff
      ⟨verification.sourceProvider, reference, id, verification.confirmedOffer⟩ with
  | .error failure => throw (providerHandoffError failure)
  | .ok redirectUrl =>
    let handoff ← deps.saveHandoff ⟨id, verification.sourceProvider, redirectUrl⟩
    return ⟨"ready", "BOOKING_HANDOFF_READY", "Secure checkout is ready.", handoff⟩

/-- Only consent, or a record that needs none, is authorized. -/
theorem authorizeHandoff_consent {getProvider : String → Option Provider}
    {verification : Verification} {acceptChanges : Bool} {reference : String}
    (h : authorizeHandoff getProvider verification acceptChanges = .ok reference) :
    verification.requiresUserConfirmation = false ∨ acceptChanges = true := by
  unfold authorizeHandoff at h
  obtain ⟨hconsent, -⟩ := Fallible.throwIf_bind_ok.mp h
  simpa [Classical.or_iff_not_imp_left] using hconsent

/-! ## 3. The offer that was found -/

/-- The steps of a recheck that saved a record. -/
theorem recheck_saved {pf : Platform} {deps : RecheckDependencies} {session : Session}
    {searchId : Option String} {hotelId offerId : Scalar} {result : RecheckResult}
    {verification : Verification}
    (h : recheckBookingOffer pf deps session searchId hotelId offerId =
      .ok (result, some verification)) :
    ∃ hotel offer canonicalOfferId confirmedOffer reference saved,
      resolveBookingOffer pf session hotelId offerId = .ok (hotel, offer, canonicalOfferId) ∧
      canRecheck deps.getProvider (getOfferSourceProvider offer hotel) = true ∧
      (getProviderOfferReference offer).isSome ∧
      verification = createVerification pf (session.searchId <|> searchId) hotel offer
        confirmedOffer canonicalOfferId (getOfferSourceProvider offer hotel) reference ∧
      result = createConfirmedResult pf verification saved := by
  unfold recheckBookingOffer at h
  obtain ⟨⟨hotel, offer, canonicalOfferId⟩, hresolve, h⟩ := Fallible.bind_ok.mp h
  refine ⟨hotel, offer, canonicalOfferId, ?_⟩
  dsimp only at h
  split at h
  · cases h
  rename_i hcan
  split at h
  · cases h
  rename_i href
  split at h
  · cases h
  split at h
  · cases h
  split at h
  · cases h
  split at h
  · cases h
  rename_i confirmedOffer answer _ _ saved _
  cases h
  refine ⟨confirmedOffer, answer.providerBookingReference, saved, hresolve, by simpa using hcan,
    ?_, rfl, rfl⟩
  cases hget : getProviderOfferReference offer with
  | none => simp [hget] at href
  | some => rfl

/-- Only a recheck that saved a record confirms. -/
theorem recheck_confirmed_saved {pf : Platform} {deps : RecheckDependencies} {session : Session}
    {searchId : Option String} {hotelId offerId : Scalar} {result : RecheckResult}
    {record : Option Verification}
    (h : recheckBookingOffer pf deps session searchId hotelId offerId = .ok (result, record))
    (hstate : result.state = .confirmed) : record ≠ none := by
  rintro rfl
  unfold recheckBookingOffer at h
  obtain ⟨⟨hotel, offer, canonicalOfferId⟩, -, h⟩ := Fallible.bind_ok.mp h
  dsimp only at h
  split at h
  · cases h
    cases hstate
  split at h
  · cases h
    cases hstate
  split at h
  · cases h
    cases hstate
  split at h
  · cases h
    cases hstate
  split at h
  · cases h
    cases hstate
  split at h
  · cases h
    cases hstate
  · cases h

/-- A provider that answers with the stored offer itself confirms it. -/
theorem recheck_echo {pf : Platform} (deps : RecheckDependencies) {session : Session}
    (searchId : Option String) {hotelId offerId : Scalar} {hotel : Hotel} {offer : Offer}
    {canonicalOfferId : String} {reference : Option String} {saved : SavedVerification}
    (hresolve : resolveBookingOffer pf session hotelId offerId =
      .ok (hotel, offer, canonicalOfferId))
    (hcan : canRecheck deps.getProvider (getOfferSourceProvider offer hotel) = true)
    (href : (getProviderOfferReference offer).isSome)
    (hanswer : ∀ request, deps.executeRecheck request =
      .ok (some ⟨"available", some request.offer, reference⟩))
    (hsave : ∀ verification, deps.saveVerification verification = .ok saved) :
    recheckBookingOffer pf deps session searchId hotelId offerId =
      .ok (createConfirmedResult pf (createVerification pf (session.searchId <|> searchId) hotel
          offer offer canonicalOfferId (getOfferSourceProvider offer hotel) reference) saved,
        some (createVerification pf (session.searchId <|> searchId) hotel offer offer
          canonicalOfferId (getOfferSourceProvider offer hotel) reference)) := by
  obtain ⟨text, hsome⟩ := Option.isSome_iff_exists.mp href
  unfold recheckBookingOffer
  rw [hresolve]
  simp [bind, Except.bind, hcan, hsome, hanswer, hsave, pure, Except.pure]

section
variable (pf : Platform) (searchId : Option String) (hotel : Hotel) (offer confirmedOffer : Offer)
  (canonicalOfferId : String) (sourceProvider reference : Option String)

/-- The record asks for the user's consent exactly when the snapshots differ. -/
theorem createVerification_unchanged :
    (createVerification pf searchId hotel offer confirmedOffer canonicalOfferId sourceProvider
        reference).requiresUserConfirmation = false ↔
      createBookingOfferSnapshot pf offer = createBookingOfferSnapshot pf confirmedOffer := by
  rw [← changedFields_nil]
  simp [createVerification, compareBookingOfferSnapshots]

theorem createConfirmedResult_confirmed (saved : SavedVerification) :
    (createConfirmedResult pf (createVerification pf searchId hotel offer confirmedOffer
        canonicalOfferId sourceProvider reference) saved).state = .confirmed ↔
      createBookingOfferSnapshot pf offer = createBookingOfferSnapshot pf confirmedOffer := by
  rw [← createVerification_unchanged pf searchId hotel offer confirmedOffer canonicalOfferId
    sourceProvider reference]
  unfold createConfirmedResult
  cases (createVerification pf searchId hotel offer confirmedOffer canonicalOfferId sourceProvider
    reference).requiresUserConfirmation <;> simp

end

/-- A handoff that is prepared without consent does not stop for it only on a record that needs
    none. -/
theorem prepare_proceeds {deps : HandoffDependencies} {id : String} {verification : Verification}
    (hread : deps.requireVerification id = .ok (id, verification))
    (h : prepareBookingHandoff deps id false ≠ .error changesConfirmationRequired) :
    verification.requiresUserConfirmation = false := by
  rw [Bool.eq_false_iff]
  intro hrequired
  refine h ?_
  unfold prepareBookingHandoff authorizeHandoff
  rw [hread]
  simp [bind, Except.bind, hrequired, throw, throwThe, MonadExceptOf.throw]

/-! ## 4. The offer that was shown -/

/-- The recheck of the offer shown under the id of `offer` says nothing wrong about it, whatever
    the provider and the stores answer: what it confirms, and what a handoff takes over without
    consent, agrees with `offer` in every field of the snapshot. -/
def ConfirmsOnlyShown (pf : Platform) (getProvider : String → Option Provider) (session : Session)
    (searchId : Option String) (hotelId : Scalar) (offer : Offer) : Prop :=
  ∀ executeRecheck saveVerification result record,
    recheckBookingOffer pf ⟨getProvider, executeRecheck, saveVerification⟩ session searchId hotelId
      (.text (createPublicOfferId pf offer)) = .ok (result, record) →
    (result.state = .confirmed → ∃ confirmedOffer, result.offer = some confirmedOffer ∧
      createBookingOfferSnapshot pf confirmedOffer = createBookingOfferSnapshot pf offer) ∧
    ∀ verification, record = some verification →
      ∀ (deps : HandoffDependencies) (id : String),
        deps.requireVerification id = .ok (id, verification) →
        prepareBookingHandoff deps id false ≠ .error changesConfirmationRequired →
        createBookingOfferSnapshot pf verification.confirmedOffer =
          createBookingOfferSnapshot pf offer

/-- The first offer of the hotel with the identity of `offer` cannot be rechecked, or has the
    snapshot of `offer`. -/
def FirstAgrees (pf : Platform) (getProvider : String → Option Provider) (session : Session)
    (hotelId : Scalar) (offer : Offer) : Prop :=
  ∀ hotel found, foundOffer? pf session hotelId offer = some (hotel, found) →
    canRecheck getProvider (getOfferSourceProvider found hotel) = true →
    (getProviderOfferReference found).isSome →
    createBookingOfferSnapshot pf found = createBookingOfferSnapshot pf offer

theorem confirms_shown_offer {pf : Platform} (getProvider : String → Option Provider)
    {session : Session} (searchId : Option String) (hotelId : Scalar) {home : Hotel} {offer : Offer}
    (hhex : HexDigest pf) (hinj : DigestInjective pf session) (hhome : home ∈ session.hotels)
    (hoffer : offer ∈ home.offers) :
    ConfirmsOnlyShown pf getProvider session searchId hotelId offer ↔
      FirstAgrees pf getProvider session hotelId offer := by
  constructor
  · intro hconfirms hotel found hfound hcan href
    -- the provider that answers with the stored offer confirms the found one
    have hresolve := (resolveBookingOffer_shown hhex hinj hotelId hhome hoffer).mpr ⟨hfound, rfl⟩
    have hecho := recheck_echo
      ⟨getProvider, fun request => .ok (some ⟨"available", some request.offer, none⟩),
        fun _ => .ok ⟨"verify", 0, 0⟩⟩ searchId hresolve hcan href (fun _ => rfl) (fun _ => rfl)
    obtain ⟨hshown, -⟩ := hconfirms _ _ _ _ hecho
    obtain ⟨confirmedOffer, hresult, hagrees⟩ :=
      hshown ((createConfirmedResult_confirmed _ _ _ _ _ _ _ _ _).mpr rfl)
    cases hresult
    exact hagrees
  · intro hfirst executeRecheck saveVerification result record h
    -- what is compared with the found offer is compared with the shown one
    have hsaved : ∀ verification, record = some verification →
        (result.state = .confirmed ↔ verification.requiresUserConfirmation = false) ∧
        result.offer = some verification.confirmedOffer ∧
        (verification.requiresUserConfirmation = false →
          createBookingOfferSnapshot pf verification.confirmedOffer =
            createBookingOfferSnapshot pf offer) := by
      rintro verification rfl
      obtain ⟨hotel, found, id, confirmedOffer, reference, saved, hresolve, hcan, href, rfl, rfl⟩ :=
        recheck_saved h
      obtain ⟨hfound, -⟩ := (resolveBookingOffer_shown hhex hinj hotelId hhome hoffer).mp hresolve
      have hsame := hfirst hotel found hfound hcan href
      refine ⟨?_, rfl, fun hunchanged => ?_⟩
      · rw [createConfirmedResult_confirmed, createVerification_unchanged]
      · exact ((createVerification_unchanged _ _ _ _ _ _ _ _).mp hunchanged).symm.trans hsame
    constructor
    · intro hstate
      obtain ⟨verification, hrecord⟩ :=
        Option.ne_none_iff_exists'.mp (recheck_confirmed_saved h hstate)
      obtain ⟨hiff, hresult, hagrees⟩ := hsaved verification hrecord
      exact ⟨verification.confirmedOffer, hresult, hagrees (hiff.mp hstate)⟩
    · intro verification hrecord deps id hread hproceeds
      exact (hsaved verification hrecord).2.2 (prepare_proceeds hread hproceeds)

/-- The offer that a provider lists first, without saying whether taxes are included. -/
def untaxedRate : Offer where
  id := .text "liteapi:hotel-7:rate_1"
  sourceProvider := .text "liteapi"
  roomName := .text "Double room"
  mealPlan := .text "Room only"
  price := .number (some 120)
  totalKnownCost := .number (some 120)
  currency := .text "EUR"
  excludedTaxes := .number (some 0)
  unknownTaxes := .number (some 0)
  refundable := .flag true
  bookable := .flag true
  providerOfferReference := .text "reference-1"

/-- The same offer with 12 of taxes included. -/
def taxedRate : Offer :=
  { untaxedRate with
    id := .text "liteapi:hotel-7:rate_2"
    taxesIncluded := .flag true
    includedTaxes := .number (some 12)
    providerOfferReference := .text "reference-2" }

def ratedHotel : Hotel where
  id := "liteapi:hotel-7"
  offers := [untaxedRate, taxedRate]

def ratedSession : Session where
  searchId := some "search-1"
  hotels := [ratedHotel]

/-- The identity payload of both offers. -/
def ratePayload : String :=
  "".intercalate ["liteapi", "", "double room", "room only", "120.00", "eur", "true", "",
    "0.00", "0.00", "", ""]

/-- The platform on the texts of the two offers. -/
def ratePlatform : Platform where
  toLowerCase := JsText.toLowerCase
  numberOf _ := none
  digest payload :=
    if payload = ratePayload then "97688cd136e9086a5dfbdd8e" else "000000000000000000000000"

def rateProviders (id : String) : Option Provider :=
  if id = "liteapi" then some ⟨true, true, true⟩ else none

theorem payload_rates : ∀ offer ∈ ratedHotel.offers,
    createOfferIdentityPayload ratePlatform offer = ratePayload := by
  decide +kernel

theorem hexDigest_rates : HexDigest ratePlatform := by
  intro payload
  unfold ratePlatform
  dsimp only
  split
  · decide
  · decide

theorem digestInjective_rates : DigestInjective ratePlatform ratedSession := by
  intro hotel hhotel hotel' hhotel' offer hoffer offer' hoffer' _
  rw [List.mem_singleton.mp hhotel] at hoffer
  rw [List.mem_singleton.mp hhotel'] at hoffer'
  rw [payload_rates offer hoffer, payload_rates offer' hoffer']

theorem foundOffer_taxedRate : foundOffer? ratePlatform ratedSession (.text "liteapi:hotel-7")
    taxedRate = some (ratedHotel, untaxedRate) := by
  have hfind : ratedHotel.offers.find? (fun other =>
      createOfferIdentityPayload ratePlatform other ==
        createOfferIdentityPayload ratePlatform taxedRate) = some untaxedRate := by
    decide +kernel
  have hhotel : ratedSession.hotels.find?
      (·.id == normalizeText (.text "liteapi:hotel-7")) = some ratedHotel := by
    refine List.find?_cons_of_pos ?_
    decide
  unfold foundOffer?
  rw [if_neg (by decide), hhotel]
  simp [hfind]

/-- The recheck of the offer with taxes is answered about the one without. -/
theorem recheck_of_other_offer : ¬ ConfirmsOnlyShown ratePlatform rateProviders ratedSession
    (some "search-1") (.text "liteapi:hotel-7") taxedRate := by
  intro hconfirms
  have hresolve := (resolveBookingOffer_shown hexDigest_rates digestInjective_rates
    (.text "liteapi:hotel-7") List.mem_cons_self
    (show taxedRate ∈ ratedHotel.offers by simp [ratedHotel])).mpr ⟨foundOffer_taxedRate, rfl⟩
  have hecho := recheck_echo
    ⟨rateProviders, fun request => .ok (some ⟨"available", some request.offer, none⟩),
      fun _ => .ok ⟨"verify", 0, 0⟩⟩ (some "search-1") hresolve (by decide) (by decide)
    (fun _ => rfl) (fun _ => rfl)
  obtain ⟨hshown, -⟩ := hconfirms _ _ _ _ hecho
  obtain ⟨confirmedOffer, hresult, hagrees⟩ :=
    hshown ((createConfirmedResult_confirmed _ _ _ _ _ _ _ _ _).mpr rfl)
  cases hresult
  exact absurd hagrees (by decide +kernel)

theorem confirms_shown_offer_rates :
    ConfirmsOnlyShown ratePlatform rateProviders ratedSession (some "search-1")
        (.text "liteapi:hotel-7") taxedRate ↔
      FirstAgrees ratePlatform rateProviders ratedSession (.text "liteapi:hotel-7") taxedRate :=
  confirms_shown_offer rateProviders (some "search-1") (.text "liteapi:hotel-7")
    hexDigest_rates digestInjective_rates List.mem_cons_self
    (show taxedRate ∈ ratedHotel.offers by simp [ratedHotel])

end SmartStay.Booking
