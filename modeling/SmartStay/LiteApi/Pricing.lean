import SmartStay.LiteApi.Values

/-!
# The prices and the selection of a rate

`server/providers/liteApi/liteApiCommercialPricing.js`: what a rate sells for, whether its commission
is known, and a fingerprint of the rooms that it selects.

1. `getLiteApiRetailSellingPrice`, `getLiteApiPublicPriceFloor`, `getLiteApiCommissionAmount`.
2. `createLiteApiCommercialPricing`.
3. `getSelectionSources`, `getLiteApiSelectionRoomCount`.
4. `createLiteApiSelectionFingerprint`.
-/

namespace SmartStay.LiteApi

open JsValue JsSort

/-! ## 1. Prices -/

def getLiteApiRetailSellingPrice (rate : Value) : Option ℚ :=
  pickFirstNumber (some rate)
    [["offerRetailRate", "amount"], ["offerRetailRate"], ["retailRate", "total", 0, "amount"],
      ["retailRate", "total", "amount"], ["retailRate", "amount"], ["price", "amount"], ["price"],
      ["amount"], ["total"], ["totalPrice"], ["sellingPrice"]]

def getLiteApiPublicPriceFloor (rate : Value) : Option ℚ :=
  pickFirstNumber (some rate)
    [["suggestedSellingPrice", "amount"], ["suggestedSellingPrice", 0, "amount"],
      ["suggestedSellingPrice"], ["retailRate", "suggestedSellingPrice", 0, "amount"],
      ["retailRate", "suggestedSellingPrice", "amount"], ["retailRate", "suggestedSellingPrice"]]

def getCommissionFromSource (source : Value) : Option ℚ :=
  pickFirstNumber (some source)
    [["retailRate", "commission", 0, "amount"], ["retailRate", "commission", 0],
      ["retailRate", "commission", "amount"], ["retailRate", "commission"],
      ["commission", 0, "amount"], ["commission", 0], ["commission", "amount"], ["commission"]]

/-- The commission of the rate itself, or else the sum of those of all its nested rates. -/
def getLiteApiCommissionAmount (rate : Value) : Option ℚ :=
  match (getCommissionFromSource rate).filter (0 ≤ ·) with
  | some commission => some (roundMoney commission)
  | none =>
    let nestedCommissions := (getNestedRates rate).map getCommissionFromSource
    if nestedCommissions.length = 0 ∨
        nestedCommissions.any fun commission => !commission.any (0 ≤ ·) then none
    else some (roundMoney (nestedCommissions.map (·.getD 0)).sum)

/-! ## 2. Commercial pricing -/

/-- `LITEAPI_PRICING_STATES`, as far as a rate is given them. -/
inductive PricingState
  | materialized | unverified | unmanaged
deriving DecidableEq

/-- The policy that a managed price is shown with. -/
structure PricingPolicy where
  schemaVersion : JsValue
  minimumSellerCommissionPercent : ℚ
  publicPriceFloorMode : String
  providerPriceMode : String

/-- `pricingControl`. -/
structure PricingControl where
  schemaVersion : Nat
  policy : Option PricingPolicy
  state : PricingState
  targetSellingPrice : Option ℚ
  requiredSellerCommissionPercent : Option ℚ
  providerPriceMode : String
  suggestedSellingPriceDiagnostic : Option ℚ

structure CommercialPricing where
  sellingPrice : Option ℚ
  pricingControl : PricingControl

def getMinimumCommissionPercent (commercialPricingPolicy : JsValue) : Option ℚ :=
  ((member commercialPricingPolicy "minimumSellerCommissionPercent").bind (readNumber false)).filter
    (0 < ·)

/-- The price of a rate without a policy. -/
def unmanagedPricing (rate : Value) : CommercialPricing :=
  let unmanagedSellingPrice :=
    (getLiteApiRetailSellingPrice rate).or (getLiteApiPublicPriceFloor rate)
  { sellingPrice := unmanagedSellingPrice
    pricingControl :=
      { schemaVersion := 2
        policy := none
        state := .unmanaged
        targetSellingPrice := unmanagedSellingPrice.map roundMoney
        requiredSellerCommissionPercent := none
        providerPriceMode := if (getLiteApiRetailSellingPrice rate).isSome then "offer-retail-rate"
          else "legacy-reference-fallback"
        suggestedSellingPriceDiagnostic := (getLiteApiPublicPriceFloor rate).map roundMoney } }

/-- The commission is positive and below the price. -/
def commissionVerified (rate : Value) : Bool :=
  (getLiteApiCommissionAmount rate).any fun commissionAmount => 0 < commissionAmount &&
    (getLiteApiRetailSellingPrice rate).any (commissionAmount < ·)

/-- The price of a rate under a policy with a minimum commission. -/
def managedPricing (rate : Value) (commercialPricingPolicy requestedSellerCommissionPercent : JsValue)
    (minimumCommissionPercent : ℚ) : CommercialPricing :=
  let targetSellingPrice := (getLiteApiRetailSellingPrice rate).getD 0
  let state : PricingState :=
    if getLiteApiRetailSellingPrice rate = none ∨ targetSellingPrice ≤ 0 ∨
        commissionVerified rate = false then .unverified else .materialized
  { sellingPrice := if state = .materialized then some (roundMoney targetSellingPrice) else none
    pricingControl :=
      { schemaVersion := 2
        policy := some
          { schemaVersion := nullish (member commercialPricingPolicy "schemaVersion")
              (some (.num (.finite 1)))
            minimumSellerCommissionPercent := minimumCommissionPercent
            publicPriceFloorMode := "reference-only"
            providerPriceMode := "offer-retail-rate" }
        state := state
        targetSellingPrice := some (roundMoney targetSellingPrice)
        requiredSellerCommissionPercent := if state = .materialized then
          some (JsNumber.fixed 6 ((requestedSellerCommissionPercent.bind (readNumber false)).getD
            minimumCommissionPercent)) else none
        providerPriceMode := "offer-retail-rate"
        suggestedSellingPriceDiagnostic := (getLiteApiPublicPriceFloor rate).map roundMoney } }

def createLiteApiCommercialPricing (rate : Value)
    (commercialPricingPolicy requestedSellerCommissionPercent : JsValue) : CommercialPricing :=
  match getMinimumCommissionPercent commercialPricingPolicy with
  | none => unmanagedPricing rate
  | some minimumCommissionPercent =>
    managedPricing rate commercialPricingPolicy requestedSellerCommissionPercent
      minimumCommissionPercent

/-! ## 3. The selected rooms -/

/-- A rate that was taken out of a room is marked. -/
def isSelectedNestedRate (rate : Value) : Bool :=
  member (some rate) "__liteApiSelectedNestedRate" matches some (.bool true)

def getSelectionSources (rate : Value) : List Value :=
  if isSelectedNestedRate rate then [rate]
  else if (getNestedRates rate).isEmpty then [rate] else getNestedRates rate

def getLiteApiSelectionRoomCount (rate : Value) : Nat :=
  if isPlainObject rate then (getSelectionSources rate).length else 0

/-! ## 4. The fingerprint of a selection -/

/-- `createSelectionDescriptor`. -/
structure SelectionDescriptor where
  roomTypeId : JsString
  roomName : JsString
  board : JsString
  refundable : JsString
  adults : Option ℚ
  childCount : Option ℚ
  occupancyNumber : Option ℚ
  maxOccupancy : Option ℚ
  children : List (Option ℚ)
  cancellationDeadlines : List JsString

def numberOrNull : Option ℚ → JsonValue ℚ
  | none => .null
  | some x => .num x

def SelectionDescriptor.toJson (d : SelectionDescriptor) : JsonValue ℚ :=
  .obj [(.ofString "roomTypeId", .str d.roomTypeId), (.ofString "roomName", .str d.roomName),
    (.ofString "board", .str d.board), (.ofString "refundable", .str d.refundable),
    (.ofString "adults", numberOrNull d.adults), (.ofString "childCount", numberOrNull d.childCount),
    (.ofString "occupancyNumber", numberOrNull d.occupancyNumber),
    (.ofString "maxOccupancy", numberOrNull d.maxOccupancy),
    (.ofString "children", .arr (d.children.map numberOrNull)),
    (.ofString "cancellationDeadlines", .arr (d.cancellationDeadlines.map .str))]

/-- The ages in ascending order, the unknown ones last. -/
def compareAges : Option ℚ → Option ℚ → Ordering
  | none, none => .eq
  | none, some _ => .gt
  | some _, none => .lt
  | some first, some second => compare first second

/-- `policy?.cancelPolicyInfos ?? policy?.cancelPenalties ?? policy?.penalties`. -/
def penaltiesOf (policy : JsValue) : JsValue :=
  nullish (nullish (member policy "cancelPolicyInfos") (member policy "cancelPenalties"))
    (member policy "penalties")

/-- `asNumber(child?.age ?? child)`. -/
def childAge (child : Value) : Option ℚ :=
  (nullish (member (some child) "age") (some child)).bind (readNumber false)

section

variable (rt : LiteApiRuntime)

def roomNamePaths : List Path := [["roomName"], ["roomType"], ["roomTypeName"], ["name"]]

def deadlinePaths : List Path := [["cancelTime"], ["cancellationTime"], ["from"], ["deadline"]]

def createSelectionDescriptor (source : Value) : SelectionDescriptor :=
  let read := member (some source)
  let penalties :=
    asArray (penaltiesOf (nullish (read "cancellationPolicies") (read "cancellationPolicy")))
  { roomTypeId := pickFirstText rt (some source) [["mappedRoomId"], ["roomTypeId"], ["roomId"]]
    roomName := pickFirstText rt (some source) roomNamePaths
    board := pickFirstText rt (some source)
      [["boardType"], ["boardName"], ["boardDescription"], ["mealPlan"]]
    refundable := pickFirstText rt (some source)
      [["refundableTag"], ["cancellationPolicies", "refundableTag"], ["refundable"]]
    adults := pickFirstNumber (some source) [["adults"], ["adultCount"], ["occupancy", "adults"]]
    childCount := pickFirstNumber (some source) [["childCount"], ["occupancy", "childCount"]]
    occupancyNumber := pickFirstNumber (some source) [["occupancyNumber"]]
    maxOccupancy := pickFirstNumber (some source) [["maxOccupancy"]]
    children := sortBy compareAges ((asArray (nullish (nullish (read "children")
      (read "childAges")) (member (read "occupancy") "children"))).map childAge)
    cancellationDeadlines := sortBy compare
      ((penalties.map fun penalty => pickFirstText rt (some penalty) deadlinePaths).filter
        (· ≠ [])) }

/-- The text that the comparison of two descriptors reads. -/
def descriptorText (descriptor : SelectionDescriptor) : List Char :=
  JsonText.text rt.numerals descriptor.toJson

/-- The descriptors of the selected rooms, those without a name under that of the rate. -/
def selectionDescriptors (rate : Value) : List SelectionDescriptor :=
  let fallbackRoomName := pickFirstText rt (some rate) roomNamePaths
  let named := ((getSelectionSources rate).map (createSelectionDescriptor rt)).map
    fun descriptor => { descriptor with
      roomName := textOr descriptor.roomName fallbackRoomName }
  sortBy (fun first second => rt.localeCompare
    (.ofString (String.ofList (descriptorText rt first)))
    (.ofString (String.ofList (descriptorText rt second)))) named

/-- The first 32 digits of the digest of the rooms. -/
def createLiteApiSelectionFingerprint (rate : Value) : Option JsString :=
  if isPlainObject rate then
    let descriptors := selectionDescriptors rt rate
    some ((rt.sha256 (JsonText.text rt.numerals
      (.obj [(.ofString "roomCount", .num descriptors.length),
        (.ofString "rates", .arr (descriptors.map SelectionDescriptor.toJson))]))).take 32)
  else none

end

end SmartStay.LiteApi
