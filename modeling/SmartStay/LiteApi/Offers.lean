import SmartStay.Lib.Distinct
import SmartStay.Lib.Grouping
import SmartStay.LiteApi.Instants
import SmartStay.LiteApi.Pricing

/-!
# The offers of a provider's record

`server/providers/liteApi/liteApiOfferMapper.js`: the rates of a record and the offer that is made
of each.

1. `getPublicPrice`, `getCheckoutPrice`, currencies and names.
2. `mergeRoomWithRate`, `getLiteApiOfferRecords`.
3. `createTaxSummary`.
4. `normalizeCancellationDeadline`.
5. `createCancellationSummary`.
6. `createLiteApiOffer`.
-/

namespace SmartStay.LiteApi

open JsValue JsSort Grouping

/-! ## 1. Prices, currencies and names -/

def getPublicPrice (rate : Value) : Option ℚ :=
  match getLiteApiPublicPriceFloor rate, getLiteApiRetailSellingPrice rate with
  | some publicPriceFloor, some retailSellingPrice => some (max publicPriceFloor retailSellingPrice)
  | publicPriceFloor, retailSellingPrice => publicPriceFloor.or retailSellingPrice

def getCheckoutPrice (rate : Value) : Option ℚ :=
  (getLiteApiRetailSellingPrice rate).or (getPublicPrice rate)

/-- `price !== null && price > 0`. -/
def isPriced (price : Option ℚ) : Bool := price.any (0 < ·)

variable (rt : LiteApiRuntime)

def getRateCurrency (rate : Value) (fallbackCurrency : JsString) : JsString :=
  textOr (pickString rt (some rate)
    [["offerRetailRate", "currency"], ["retailRate", "total", 0, "currency"],
      ["retailRate", "currency"], ["price", "currency"], ["currency"],
      ["suggestedSellingPrice", "currency"], ["suggestedSellingPrice", 0, "currency"]])
    (textOr fallbackCurrency (.ofString "EUR"))

def getCheckoutCurrency (rate : Value) (fallbackCurrency : JsString) : JsString :=
  textOr (pickString rt (some rate)
    [["offerRetailRate", "currency"], ["retailRate", "total", 0, "currency"],
      ["retailRate", "total", "currency"], ["retailRate", "currency"], ["price", "currency"],
      ["currency"], ["suggestedSellingPrice", "currency"], ["suggestedSellingPrice", 0, "currency"]])
    (textOr fallbackCurrency (.ofString "EUR"))

/-- `values.join(" + ")`. -/
def joinNames (values : List JsString) : JsString := (JsString.ofString " + ").intercalate values

/-- The different texts that are not empty, each where it comes first. -/
def differentTexts (texts : List JsString) : List JsString :=
  (texts.filter (· ≠ [])).eraseDups

def buildRoomName (rate : Value) : Option JsString :=
  let nestedRoomNames := ((getNestedRates rate).map fun nestedRate =>
    pickString rt (some nestedRate) roomNamePaths).filter (· ≠ [])
  match nestedRoomNames.eraseDups with
  | [name] => some (if 1 < nestedRoomNames.length then
      name ++ .ofString " × " ++ .ofString (toString nestedRoomNames.length) else name)
  | [] => text? (pickString rt (some rate)
      [["roomName"], ["roomType"], ["roomTypeName"], ["boardName"], ["name"]])
  | uniqueRoomNames => some (joinNames uniqueRoomNames)

/-- The nested rates, or the rate itself when there are none. -/
def ratesOf (rate : Value) : List Value :=
  if (getNestedRates rate).isEmpty then [rate] else getNestedRates rate

def boardPaths : List Path :=
  [["boardName"], ["boardDescription"], ["mealPlan"], ["mealPlanName"], ["boardType"]]

def buildMealPlan (rate : Value) : Option JsString :=
  match differentTexts ((ratesOf rate).map fun source => pickString rt (some source) boardPaths) with
  | [] => none
  | uniqueMealPlans => some (joinNames uniqueMealPlans)

/-! ## 2. The records of offers -/

def fieldsOf : Value → Fields
  | .obj fields => fields
  | _ => []

/-- `{ ...base, ...added }`, as far as properties are read. -/
def spread (base added : Fields) : Fields :=
  added ++ base.filter fun field => !added.any fun own => own.1 = field.1

/-- The properties that `mergeRoomWithRate` sets. -/
def mergedFields (room rate : Value) (index : Nat) : Fields :=
  [(.ofString "__liteApiSelectedNestedRate", .bool true),
    (.ofString "roomName", .str (textOr (pickString rt (some rate) roomNamePaths)
      (pickString rt (some room) roomNamePaths))),
    (.ofString "offerId", .str (textOr (pickString rt (some rate) [["offerId"]])
      (pickString rt (some room) [["offerId"]]))),
    (.ofString "rateId", .str (textOr (pickString rt (some rate) [["rateId"], ["id"], ["rateToken"]])
      (textOr (pickString rt (some room) [["offerId"], ["roomTypeId"], ["id"]])
        (.ofString ("rate_" ++ toString (index + 1))))))]

def mergeRoomWithRate (room rate : Value) (index : Nat) : Value :=
  .obj (spread (spread (fieldsOf room) (fieldsOf rate)) (mergedFields rt room rate index))

/-- The record of a room with a price of its own. -/
def pricedRoomRecord (room : Value) (index : Nat) : Value :=
  .obj (spread (fieldsOf room)
    [(.ofString "roomName", ((buildRoomName rt room).map JsonValue.str).getD .null),
      (.ofString "rateId", .str (textOr
        (pickString rt (some room) [["offerId"], ["roomTypeId"], ["rateId"], ["id"]])
        (.ofString ("rate_" ++ toString (index + 1)))))])

/-- A nested rate with a price becomes a record. -/
def addNestedRate (room : Value) (offers : List Value) (nestedRate : Value) : List Value :=
  if isPriced (getPublicPrice nestedRate) then
    offers ++ [mergeRoomWithRate rt room nestedRate offers.length] else offers

/-- A room with a price becomes a record; otherwise its nested rates do. -/
def addRoom (offers : List Value) (room : Value) : List Value :=
  if isPlainObject room = false then offers
  else if isPriced (getPublicPrice room) then offers ++ [pricedRoomRecord rt room offers.length]
  else (getNestedRates room).foldl (addNestedRate rt room) offers

/-- A direct rate with a price becomes a record. -/
def addDirectRate (offers : List Value) (rate : Value) : List Value :=
  if isPlainObject rate && isPriced (getPublicPrice rate) then
    offers ++ [mergeRoomWithRate rt (.obj []) rate offers.length] else offers

/-- What the properties of a record hold. -/
def itemsOf (record : Value) (names : List String) : List Value :=
  names.flatMap fun name => asArray (member (some record) name)

/-- `roomCandidates`, one after the other. -/
def roomsOf (record : Value) : List Value :=
  itemsOf record ["roomTypes", "rooms", "roomRates", "availableRooms", "offers"]

def getLiteApiOfferRecords (record : Value) : List Value :=
  if isPlainObject record = false then []
  else
    let offers := (itemsOf record ["rates", "rate", "availableRates"]).foldl (addDirectRate rt)
      ((roomsOf record).foldl (addRoom rt) [])
    if offers.isEmpty && isPriced (getPublicPrice record) then
      [mergeRoomWithRate rt (.obj []) record 0] else offers

/-! ## 3. Taxes -/

structure TaxItem where
  description : JsString
  amount : ℚ
  currency : JsString
  included : Option Bool

/-- The amount that a tax names. -/
def taxAmount (tax : Value) : Option ℚ := pickNumber (some tax) [["amount"], ["value"], ["total"]]

def taxIncluded (tax : Value) : Option Bool :=
  asBooleanOrNull rt (pickFirst (some tax) [["included"], ["includedInPrice"], ["taxIncluded"]])

/-- The taxes of a source that are objects. -/
def taxesOf (source : Value) : List Value :=
  (asArray (pickFirst (some source) [["taxesAndFees"], ["retailRate", "taxesAndFees"]])).filter
    isPlainObject

/-- The item of a tax whose amount is not negative. -/
def taxItem (rate source tax : Value) : Option TaxItem :=
  ((taxAmount tax).filter (0 ≤ ·)).map fun amount =>
    { description := textOr
        (pickString rt (some tax) [["description"], ["name"], ["type"], ["title"]])
        (.ofString "Tax or fee")
      amount := amount
      currency := textOr (pickString rt (some tax) [["currency"]])
        (getRateCurrency rt source (getRateCurrency rt rate (.ofString "EUR")))
      included := taxIncluded rt tax }

def taxItems (rate : Value) : List TaxItem :=
  (ratesOf rate).flatMap fun source => (taxesOf source).filterMap (taxItem rt rate source)

/-- What items are grouped by; the text of its JSON tells these apart. -/
def taxKey (item : TaxItem) : JsString × JsString × Option Bool :=
  (rt.toLowerCase item.description, item.currency, item.included)

def addTax (existing item : TaxItem) : TaxItem :=
  { existing with amount := roundMoney (existing.amount + item.amount) }

def taxBreakdown (rate : Value) : List TaxItem :=
  (groupInto (taxKey rt) (fun item => { item with amount := roundMoney item.amount }) addTax
    (taxItems rt rate)).map Prod.snd

def sumByIncluded (breakdown : List TaxItem) (included : Option Bool) : ℚ :=
  roundMoney ((breakdown.filter fun tax => tax.included = included).map TaxItem.amount).sum

structure TaxSummary where
  taxesIncluded : Option Bool
  includedTaxes : ℚ
  excludedTaxes : ℚ
  unknownTaxes : ℚ
  taxBreakdown : List TaxItem

def createTaxSummary (rate : Value) : TaxSummary :=
  let breakdown := taxBreakdown rt rate
  { taxesIncluded :=
      if breakdown.any fun tax => tax.included = some false then some false
      else if !breakdown.isEmpty && breakdown.all fun tax => tax.included = some true then some true
      else none
    includedTaxes := sumByIncluded breakdown (some true)
    excludedTaxes := sumByIncluded breakdown (some false)
    unknownTaxes := sumByIncluded breakdown none
    taxBreakdown := breakdown }

/-! ## 4. Deadlines -/

/-- `[+-]\d{2}` at the end of a text, of which the last code unit comes first. -/
def endsInHours : JsString → Bool
  | ones :: tens :: sign :: _ => JsNumeral.isDigit ones && JsNumeral.isDigit tens &&
      (sign.val = 43 || sign.val = 45)
  | _ => false

/-- `/(?:z|[+-]\d{2}:?\d{2})$/i.test(raw)`. -/
def hasExplicitOffset (raw : JsString) : Bool :=
  match raw.reverse with
  | ones :: tens :: rest => ones.val = 90 || ones.val = 122 ||
      JsNumeral.isDigit ones && JsNumeral.isDigit tens &&
        endsInHours (if rest.head?.any fun u => u.val = 58 then rest.tail else rest)
  | [u] => u.val = 90 || u.val = 122
  | [] => false

/-- A code unit against a character of a pattern: `d` is a digit, `t` the blank or a `t`. -/
def matchesChar (pattern : Char) (u : CodeUnit) : Bool :=
  if pattern = 'd' then JsNumeral.isDigit u
  else if pattern = 't' then u.val = 32 || u.val = 84 || u.val = 116
  else u.val = pattern.toNat

def matchesPattern : List Char → JsString → Bool
  | [], [] => true
  | pattern :: patterns, u :: text => matchesChar pattern u && matchesPattern patterns text
  | _, _ => false

/-- `/^(\d{4}-\d{2}-\d{2})[ t](\d{2}:\d{2})(?::(\d{2}))?$/i.test(raw)`. -/
def isLocalTime (raw : JsString) : Bool :=
  matchesPattern "dddd-dd-ddtdd:dd".toList raw || matchesPattern "dddd-dd-ddtdd:dd:dd".toList raw

/-- The local time with seconds as a time in UTC. -/
def asUtc (raw : JsString) : JsString :=
  raw.take 10 ++ JsString.ofString "T" ++ (raw.drop 11).take 5 ++ JsString.ofString ":" ++
    (if raw.length = 16 then JsString.ofString "00" else raw.drop 17) ++ JsString.ofString ".000Z"

def isUtc (timezone : JsString) : Bool :=
  ["GMT", "UTC", "ETC/UTC", "ETC/GMT"].any fun name =>
    rt.toUpperCase timezone = JsString.ofString name

/-- `normalizeCancellationDeadline` of texts without white space around them. -/
def normalizeCancellationDeadline (raw timezone : JsString) : Option JsString :=
  if raw = [] then none
  else if hasExplicitOffset raw then some (((rt.parseDate raw).map toISOString).getD raw)
  else if isLocalTime raw && isUtc rt timezone then some (asUtc raw)
  else some raw

/-! ## 5. Cancellation -/

inductive RefundableTag
  | rfn | nrfn
deriving DecidableEq

/-- A blank, an underscore or a hyphen. -/
def isFiller (u : CodeUnit) : Bool := JsString.isSpace u || u.val = 95 || u.val = 45

def normalizeRefundableTag (value : JsValue) : Option RefundableTag :=
  match value with
  | some (.bool b) => some (if b then .rfn else .nrfn)
  | value =>
    let normalized := (rt.toUpperCase (asString rt value)).filter fun u => !isFiller u
    if ["RFN", "REFUNDABLE", "TRUE"].any fun name => normalized = JsString.ofString name then some .rfn
    else if ["NRFN", "NONREFUNDABLE", "FALSE"].any fun name => normalized = JsString.ofString name then
      some .nrfn
    else none

/-- The tag of a room. -/
def refundableTagOf (source : Value) : Option RefundableTag :=
  normalizeRefundableTag rt (pickFirst (some source)
    [["refundableTag"], ["refundable"], ["cancellationPolicies", "refundableTag"]])

/-- The penalties of a source that are objects. -/
def penaltyObjects (source : Value) : List Value :=
  match pickFirst (some source) [["cancellationPolicies"], ["cancellationPolicy"]] with
  | some (.obj policies) => (asArray (penaltiesOf (some (.obj policies)))).filter isPlainObject
  | _ => []

structure CancellationItem where
  cancelTime : Option JsString
  amount : Option ℚ
  currency : JsString
  type : Option JsString
  timezone : Option JsString

def timezonePaths : List Path := [["timezone"], ["timeZone"]]

/-- The deadline of a penalty as it is written. -/
def rawDeadline (penalty : Value) : JsString := pickString rt (some penalty) deadlinePaths

def rawTimezone (penalty : Value) : JsString := pickString rt (some penalty) timezonePaths

def cancelTimeOf (penalty : Value) : Option JsString :=
  normalizeCancellationDeadline rt (rawDeadline rt penalty) (rawTimezone rt penalty)

def cancellationItem (rate source penalty : Value) : CancellationItem where
  cancelTime := cancelTimeOf rt penalty
  amount := pickNumber (some penalty) [["amount"], ["value"], ["price"]]
  currency := textOr (pickString rt (some penalty) [["currency"]])
    (getRateCurrency rt source (getRateCurrency rt rate (.ofString "EUR")))
  type := text? (pickString rt (some penalty) [["type"], ["penaltyType"]])
  timezone := text? (rawTimezone rt penalty)

def cancellationItems (rate : Value) : List CancellationItem :=
  (ratesOf rate).flatMap fun source =>
    (penaltyObjects source).map (cancellationItem rt rate source)

def penaltyKey (item : CancellationItem) :
    Option JsString × JsString × Option JsString × Option JsString :=
  (item.cancelTime, item.currency, item.type, item.timezone)

def addPenalty (existing item : CancellationItem) : CancellationItem :=
  { existing with amount := some (roundMoney (existing.amount.getD 0 + item.amount.getD 0)) }

def groupedPenalties (rate : Value) : List CancellationItem :=
  (groupInto penaltyKey (fun item => { item with amount := item.amount.map roundMoney })
    addPenalty (cancellationItems rt rate)).map Prod.snd

/-- `(first.cancelTime ?? "").localeCompare(second.cancelTime ?? "")`. -/
def compareDeadlines (first second : CancellationItem) : Ordering :=
  rt.localeCompare (first.cancelTime.getD []) (second.cancelTime.getD [])

structure CancellationSummary where
  refundableTag : Option RefundableTag
  refundable : Option Bool
  freeCancellationUntil : Option JsString
  cancellationPenalty : Option ℚ
  cancellationPenaltyCurrency : Option JsString
  cancellationPenaltyType : Option JsString
  cancellationTimezone : Option JsString
  cancellationPolicies : List CancellationItem
  cancellationPolicy : Option JsString

/-- A selection is refundable when all its rooms are known to be. -/
def selectionTag (sources : List Value) : Option RefundableTag :=
  let refundableTags := sources.filterMap (refundableTagOf rt)
  if refundableTags.contains .nrfn then some .nrfn
  else if refundableTags.length = sources.length ∧ 0 < refundableTags.length then some .rfn
  else none

/-- The text of a policy. -/
def cancellationText (tag : Option RefundableTag) (freeCancellationUntil timezone : Option JsString) :
    Option JsString :=
  match tag, freeCancellationUntil with
  | some .nrfn, _ => some (.ofString "Non-refundable")
  | some .rfn, some deadline =>
    some (.ofString "Refundable; cancellation fees apply from " ++ deadline ++
      (timezone.map fun timezone => .ofString " " ++ timezone).getD [] ++ .ofString ".")
  | some .rfn, none => some (.ofString "Refundable")
  | none, _ => none

def createCancellationSummary (rate : Value) : CancellationSummary :=
  let tag := selectionTag rt (ratesOf rate)
  let cancellationPolicies := sortBy (compareDeadlines rt) (groupedPenalties rt rate)
  let firstPenalty := cancellationPolicies.head?
  let freeCancellationUntil :=
    if tag = some .rfn then firstPenalty.bind CancellationItem.cancelTime else none
  { refundableTag := tag
    refundable := tag.map fun tag => tag = .rfn
    freeCancellationUntil := freeCancellationUntil
    cancellationPenalty := firstPenalty.bind CancellationItem.amount
    cancellationPenaltyCurrency := firstPenalty.map CancellationItem.currency
    cancellationPenaltyType := firstPenalty.bind CancellationItem.type
    cancellationTimezone := firstPenalty.bind CancellationItem.timezone
    cancellationPolicies := cancellationPolicies
    cancellationPolicy := cancellationText tag freeCancellationUntil
      (firstPenalty.bind CancellationItem.timezone) }

/-! ## 6. Offers -/

def calculateSavingPercent (price basePrice : ℚ) : ℚ :=
  let saving := (basePrice - price) / basePrice * 100
  if price = 0 ∨ basePrice = 0 ∨ basePrice ≤ price ∨ saving ≤ 0 ∨ 80 < saving then 0
  else JsNumber.fixed 2 saving

def getRateBasePrice (rate : Value) (price : ℚ) : ℚ :=
  ((pickNumber (some rate)
    [["originalRetailRate", "total", 0, "amount"], ["originalRetailRate", "amount"],
      ["strikethroughPrice", "amount"], ["strikethroughPrice"], ["priceBeforeDiscount", "amount"],
      ["priceBeforeDiscount"], ["basePrice", "amount"], ["basePrice"]]).filter (price < ·)).getD price

def getDeepLink (rate : Value) : Option JsString :=
  text? (pickString rt (some rate)
    [["deepLink"], ["deeplink"], ["bookingUrl"], ["bookingURL"], ["checkoutUrl"], ["url"]])

/-- What an offer is made with besides its rate. -/
structure OfferContext where
  hotelId : JsString
  index : Nat
  fallbackCurrency : JsString
  sourceProvider : JsString
  providerName : JsString
  isCheckout : Bool
  commercialPricingPolicy : JsValue
  requestedSellerCommissionPercent : JsValue

structure LiteApiOffer extends TaxSummary, CancellationSummary where
  id : JsString
  provider : JsString
  sourceProvider : JsString
  providerOfferReference : Option JsString
  selectionFingerprint : Option JsString
  selectionRoomCount : Nat
  commercialPricing : PricingControl
  price : ℚ
  basePrice : ℚ
  saving : ℚ
  currency : JsString
  totalKnownCost : ℚ
  roomName : Option JsString
  mealPlan : Option JsString
  deepLink : Option JsString

def pricingOf (context : OfferContext) (rate : Value) : CommercialPricing :=
  createLiteApiCommercialPricing rate context.commercialPricingPolicy
    context.requestedSellerCommissionPercent

/-- The price of an offer, when there is one. -/
def offerPrice (context : OfferContext) (rate : Value) : Option ℚ :=
  if context.isCheckout then getCheckoutPrice rate
  else if (pricingOf context rate).pricingControl.state = .unverified then none
  else (pricingOf context rate).sellingPrice.or (getPublicPrice rate)

def offerCurrency (context : OfferContext) (rate : Value) : JsString :=
  if context.isCheckout then getCheckoutCurrency rt rate context.fallbackCurrency
  else getRateCurrency rt rate context.fallbackCurrency

/-- The offer of a rate at a price. -/
def offerAt (context : OfferContext) (rate : Value) (price : ℚ) : LiteApiOffer :=
  { createTaxSummary rt rate, createCancellationSummary rt rate with
    id := context.sourceProvider ++ .ofString ":" ++ context.hotelId ++ .ofString ":" ++
      textOr (pickString rt (some rate)
        [["offerId"], ["rateId"], ["id"], ["roomId"], ["rateToken"]])
        (.ofString ("rate_" ++ toString (context.index + 1)))
    provider := context.providerName
    sourceProvider := context.sourceProvider
    providerOfferReference := text? (pickString rt (some rate)
      [["offerId"], ["rateId"], ["rateToken"]])
    selectionFingerprint := createLiteApiSelectionFingerprint rt rate
    selectionRoomCount := getLiteApiSelectionRoomCount rate
    commercialPricing := (pricingOf context rate).pricingControl
    price := price
    basePrice := getRateBasePrice rate price
    saving := calculateSavingPercent price (getRateBasePrice rate price)
    currency := offerCurrency rt context rate
    totalKnownCost := roundMoney (price + (createTaxSummary rt rate).excludedTaxes)
    roomName := buildRoomName rt rate
    mealPlan := buildMealPlan rt rate
    deepLink := getDeepLink rt rate }

/-- `createLiteApiOffer`: there is an offer for a price above zero only. -/
def createLiteApiOffer (context : OfferContext) (rate : Value) : Option LiteApiOffer :=
  ((offerPrice context rate).filter (0 < ·)).map (offerAt rt context rate)

end SmartStay.LiteApi
