import SmartStay.Contextual.Model

/-!
# How a candidate is evaluated

The evaluations of `engine-v3/contextual/contextualStayValueV3.ts`.

1. `evaluateLocation`: the weighted travel times.
2. `evaluateRoomUpgrade`: the best room of a higher tier.
3. `evaluateFlexibility`: what a cancellation protects and a deferred payment is worth.
4. `evaluateContextInteractions`: the needs of the party.
5. `evaluateConvenience`: the friction of the stay.
6. `candidateFindings`: one candidate.
-/

namespace SmartStay.Contextual

open Contract JsSort Policy

variable (rt : Runtime) (context : StayContext)

/-- The destination, when its evidence is usable. -/
def usableDestination : Option Destination :=
  context.destination.filter fun destination => hasUsableEvidence destination.toEvidence

/-- A weight of the destination, from a half to two; one where there is none. -/
def weightWithin (override : Option ℚ) : ℚ :=
  (override.filter fun weight => 1 / 2 ≤ weight && weight ≤ 2).getD 1

theorem weightWithin_pos (override : Option ℚ) : 0 < weightWithin override := by
  unfold weightWithin
  cases hfilter : override.filter fun weight => 1 / 2 ≤ weight && weight ≤ 2 with
  | none => exact one_pos
  | some weight =>
    have hbounds := (Option.filter_eq_some_iff.mp hfilter).2
    rw [Bool.and_eq_true, decide_eq_true_eq] at hbounds
    exact lt_of_lt_of_le (by norm_num) hbounds.1

/-! ## 1. Location -/

def isUsableTravelPoint (point : TravelPoint) : Bool :=
  0 < (JsText.trim point.pointId).length && point.source ∈ directTravelSources &&
    hasUsableEvidence point.toEvidence && point.travelTimeMinutes.any (0 ≤ ·) &&
    0 < point.importance && point.importance ≤ 1

/-- `usable`. -/
def usableTravelPoints (candidate : CandidateInput) : List TravelPoint :=
  sortBy (byText rt TravelPoint.pointId) (candidate.travelPoints.filter isUsableTravelPoint)

def destinationWeight (category : TravelPointCategory) : ℚ :=
  weightWithin ((usableDestination context).bind fun destination =>
    destination.travelCategoryWeightOverrides.bind fun overrides => overrides category)

def travelPointWeight (point : TravelPoint) : ℚ :=
  point.importance * tripPointWeights context.tripType point.category *
    destinationWeight context point.category

/-- `point.travelTimeMinutes as number`, for a usable point. -/
def travelMinutes (point : TravelPoint) : ℚ := point.travelTimeMinutes.getD 0

/-- `pointScore`. -/
def travelPointScore (point : TravelPoint) : JsFloat :=
  JsFloat.div (.finite 100) (1 + travelMinutes point / 20)

/-- The sums over the points of the loop. -/
def totalWeight (points : List TravelPoint) : ℚ := (points.map (travelPointWeight context)).sum

def weightedMinutes (points : List TravelPoint) : ℚ :=
  (points.map fun point => travelMinutes point * travelPointWeight context point).sum

def weightedScore (points : List TravelPoint) : JsFloat :=
  points.foldl (fun total point =>
    total.add ((travelPointScore point).times (travelPointWeight context point))) (.finite 0)

def excludedPointIds (candidate : CandidateInput) : List String :=
  uniqueSortedIds ((candidate.travelPoints.map TravelPoint.pointId).filter fun id =>
    id ∉ (usableTravelPoints rt candidate).map TravelPoint.pointId)

def straightLineDistance (candidate : CandidateInput) : Option ℚ :=
  (candidate.straightLineDistanceKm.filter (0 ≤ ·)).map fun distance => round distance 4

def evaluateLocation (candidate : CandidateInput) : TripSpecificLocation :=
  match usableTravelPoints rt candidate with
  | [] =>
    { status := .unavailable
      weightedTravelTimeMinutes := none
      locationScore := none
      usedPointIds := []
      excludedPointIds := excludedPointIds rt candidate
      straightLineDistanceKm := straightLineDistance candidate
      destinationAdjusted := false
      evidenceIds := uniqueSortedIds candidate.straightLineEvidenceIds
      reasonCodes := uniqueSorted (["location:travel-time-unavailable"] ++
        (if straightLineDistance candidate = none then []
          else ["location:straight-line-fallback-only"]) ++ ["context:unknown-not-penalty"]) }
  | first :: rest =>
    let usable := first :: rest
    { status := .usable
      weightedTravelTimeMinutes :=
        some ((JsFloat.div (.finite (weightedMinutes context usable))
          (totalWeight context usable)).map (round · 2))
      locationScore :=
        some ((JsFloat.div (weightedScore context usable) (totalWeight context usable)).map
          (round · 2))
      usedPointIds := usable.map TravelPoint.pointId
      excludedPointIds := excludedPointIds rt candidate
      straightLineDistanceKm := straightLineDistance candidate
      destinationAdjusted := usable.any fun point => destinationWeight context point.category ≠ 1
      evidenceIds := uniqueSortedIds (usable.flatMap (fun point => point.evidenceIds) ++
        (usableDestination context).toList.flatMap fun destination => destination.evidenceIds)
      reasonCodes := uniqueSorted (["location:travel-time-evaluated", "location:trip-specific"] ++
        (if (usableDestination context).isSome then ["location:destination-aware"] else []) ++
        ["context:shadow-only"]) }

/-! ## 2. Room upgrades -/

/-- The tier that a provider reports. -/
def usableRoomTier (room : RoomOption) : Option ℤ :=
  if room.tierSource = .providerStructured then
    (room.tierRank.filter fun rank => rank.den = 1 && 0 < rank).map Rat.num
  else none

/-- The gain of attributes, with the evidence for it. Of several attributes of one code the
    selected room has the last. -/
def roomAttributeGain (selected alternative : RoomOption) : ℤ × List String :=
  let usable := fun room : RoomOption =>
    room.attributes.filter fun item => hasUsableEvidence item.toEvidence
  let baseline := fun code =>
    ((usable selected).filter fun item => item.code = code).getLast?
  let gain := (usable alternative).foldl (fun gain item =>
    match item.state, (baseline item.code).bind RoomAttribute.state with
    | some true, some false => gain + 1
    | some false, some true => gain - 1
    | _, _ => gain) 0
  let evidenceIds := (usable alternative).flatMap fun item =>
    match baseline item.code with
    | some found =>
      if item.state.isSome && found.state.isSome then item.evidenceIds ++ found.evidenceIds else []
    | none => []
  (gain, uniqueSortedIds evidenceIds)

/-- A selected room that alternatives are measured against. Premiums are divided by its cost. -/
structure UpgradeBaseline where
  room : RoomOption
  tier : ℤ
  cost : ℚ
  currency : String
  cost_ne_zero : cost ≠ 0

def upgradeBaseline (candidate : CandidateInput) : Option UpgradeBaseline := do
  let room ← candidate.selectedRoom
  let tier ← usableRoomTier room
  let cost ← room.totalCost.filter (0 ≤ ·)
  let currency ← normalizeCurrency rt room.currency
  if h : cost = 0 then none
  else if (JsText.trim room.comparisonScopeFingerprint).length = 0 then none
  else some ⟨room, tier, cost, currency, h⟩

structure UpgradeAlternative where
  room : RoomOption
  tierGain : ℤ
  premiumAmount : ℚ
  premiumRatio : ℚ
  attributeGain : ℤ
  attributeEvidenceIds : List String
  maximumPremiumRatio : ℚ
  worthwhile : Bool

/-- A bookable room of the same scope in a higher tier. -/
def upgradeAlternative (baseline : UpgradeBaseline) (room : RoomOption) :
    Option UpgradeAlternative := do
  let cost ← room.totalCost.filter (0 ≤ ·)
  let tier ← usableRoomTier room
  if room.bookable && room.offerId ≠ baseline.room.offerId &&
      room.comparisonScopeFingerprint = baseline.room.comparisonScopeFingerprint &&
      normalizeCurrency rt room.currency = some baseline.currency && baseline.tier < tier then
    let tierGain := tier - baseline.tier
    let premiumRatio := (cost - baseline.cost) / baseline.cost
    let attributes := roomAttributeGain baseline.room room
    let maximumPremiumRatio := roomPremiumLimits context.preferenceId * min tierGain 2
    some
      { room := room
        tierGain := tierGain
        premiumAmount := cost - baseline.cost
        premiumRatio := premiumRatio
        attributeGain := attributes.1
        attributeEvidenceIds := attributes.2
        maximumPremiumRatio := maximumPremiumRatio
        worthwhile := premiumRatio ≤ maximumPremiumRatio && -1 ≤ attributes.1 }
  else none

/-- The alternatives worth their price first, then the larger gains, then the smaller premium. -/
def compareAlternatives : UpgradeAlternative → UpgradeAlternative → Ordering :=
  compareLex (fun first second => compare second.worthwhile first.worthwhile) <|
    compareLex (fun first second => compare second.tierGain first.tierGain) <|
      compareLex (fun first second => compare second.attributeGain first.attributeGain)
        fun first second => compare first.premiumRatio second.premiumRatio

def alternativeProjection (alternative : UpgradeAlternative) : Json :=
  .obj [("worthwhile", .bool alternative.worthwhile), ("tierGain", .num alternative.tierGain),
    ("attributeGain", .num alternative.attributeGain),
    ("premiumAmount", .num alternative.premiumAmount),
    ("premiumRatio", .num alternative.premiumRatio),
    ("maximumPremiumRatio", .num alternative.maximumPremiumRatio),
    ("room", .obj [("totalCost", .num? alternative.room.totalCost),
      ("currency", .text? alternative.room.currency),
      ("tierRank", .num? alternative.room.tierRank),
      ("tierSource", .str alternative.room.tierSource.text),
      ("attributes", .arr (alternative.room.attributes.map fun item =>
        .obj [("code", .str item.code.text), ("state", boolOrNull item.state),
          ("source", .str item.source.text), ("confidence", .num item.confidence)])),
      ("bookable", .bool alternative.room.bookable)])]

def unavailableUpgrade (selected : Option RoomOption) : RoomUpgrade where
  status := .unavailable
  selectedOfferId := selected.map RoomOption.offerId
  alternativeOfferId := none
  premiumAmount := none
  premiumRatio := none
  tierGain := none
  attributeGain := none
  maximumPremiumRatio := none
  evidenceIds := uniqueSortedIds (selected.toList.flatMap RoomOption.evidenceIds)
  reasonCodes := ["room:upgrade-unavailable"]

def evaluateRoomUpgrade (candidate : CandidateInput) : RoomUpgrade :=
  match upgradeBaseline rt candidate with
  | none => unavailableUpgrade candidate.selectedRoom
  | some baseline =>
    let alternatives :=
      candidate.roomAlternatives.filterMap (upgradeAlternative rt context baseline)
    let resolution := resolveDecisionTie rt alternatives compareAlternatives alternativeProjection
    match resolution.presentationRepresentative.or
        (if resolution.classification = .decisionallyDistinct then resolution.leaders.head?
          else none) with
    | none => unavailableUpgrade (some baseline.room)
    | some best =>
      { status := if best.worthwhile then .worthwhile else .notWorthwhile
        selectedOfferId := some baseline.room.offerId
        alternativeOfferId := some best.room.offerId
        premiumAmount := some (round best.premiumAmount 2)
        premiumRatio := some (round best.premiumRatio 4)
        tierGain := some best.tierGain
        attributeGain := some best.attributeGain
        maximumPremiumRatio := some (round best.maximumPremiumRatio 4)
        evidenceIds := uniqueSortedIds (baseline.room.evidenceIds ++ best.room.evidenceIds ++
          best.attributeEvidenceIds)
        reasonCodes := [if best.worthwhile then "room:upgrade-worthwhile"
          else "room:upgrade-not-worthwhile", "context:shadow-only"] }

/-! ## 3. Flexibility -/

/-- `validProbability` and `validAnnualValueRate`. -/
def isValidRate (rate : DeclaredRate) : Bool :=
  0 ≤ rate.value && rate.value ≤ 1 && minimumEvidenceConfidence ≤ rate.confidence &&
    rate.confidence ≤ 1 && 0 < rate.evidenceIds.length

/-- `isNonNegative(candidate.totalCost) ? candidate.totalCost : null`. -/
def usableTotalCost (candidate : CandidateInput) : Option ℚ := candidate.totalCost.filter (0 ≤ ·)

/-- The cancellation policy, when it is known and its evidence is usable. -/
def usableCancellation (candidate : CandidateInput) : Option Cancellation :=
  candidate.cancellation.filter fun cancellation =>
    cancellation.policyKnown && hasUsableEvidence cancellation.toEvidence

def usablePayment (candidate : CandidateInput) : Option Payment :=
  candidate.payment.filter fun payment =>
    payment.timing ≠ .unknown && hasUsableEvidence payment.toEvidence

def hasFreeWindow (cancellation : Cancellation) : Bool :=
  cancellation.freeCancellationUntil.any fun until' => 0 < (JsText.trim until').length

/-- What a refundable cancellation saves of a cost. -/
def refundableAmount (cancellation : Cancellation) (totalCost : ℚ) (currency : String) : Option ℚ :=
  if hasFreeWindow cancellation then some totalCost
  else (cancellation.penaltyAmount.filter fun penalty =>
    0 ≤ penalty && normalizeCurrency rt cancellation.penaltyCurrency = some currency).map
      fun penalty => max 0 (totalCost - penalty)

/-- `protectedAmount` and `protectionScore`. -/
def cancellationProtection (candidate : CandidateInput) : Option (ℚ × JsFloat) := do
  let cancellation ← usableCancellation candidate
  let totalCost ← usableTotalCost candidate
  match cancellation.refundable with
  | some false => some (0, .finite 0)
  | some true => do
    let currency ← normalizeCurrency rt candidate.currency
    let amount ← refundableAmount rt cancellation totalCost currency
    some (amount, (((JsFloat.div (.finite amount) totalCost).clamp 0 1).times 100).map (round · 2))
  | none => none

/-- The probability that a change of plans is valued with. -/
def usableChangeProbability (candidate : CandidateInput) : Option DeclaredRate := do
  let cancellation ← usableCancellation candidate
  let _ ← cancellationProtection rt candidate
  cancellation.changeProbability.filter isValidRate

/-- The value of a later payment, with the evidence for its rate. -/
def deferredPaymentValue (candidate : CandidateInput) : Option (ℚ × List String) := do
  let payment ← usablePayment candidate
  let totalCost ← usableTotalCost candidate
  let deferralDays ← payment.deferralDays.filter (0 ≤ ·)
  let rate ← payment.annualValueRate.filter isValidRate
  if payment.timing = .payLater ∨ payment.timing = .payAtProperty then
    some (round (totalCost * rate.value * deferralDays / 365) 2, rate.evidenceIds)
  else none

def flexibilityReasons (candidate : CandidateInput) : List String :=
  (if (usableCancellation candidate).isSome then
    [if (usableChangeProbability rt candidate).isSome then "flexibility:monetary-value-available"
      else "flexibility:monetary-value-unavailable",
      "flexibility:cancellation-protection-evaluated"] else []) ++
  (if (usablePayment candidate).isSome then
    if (deferredPaymentValue candidate).isSome then ["flexibility:pay-later-value-available"]
    else []
  else ["flexibility:payment-timing-unknown"])

def evaluateFlexibility (candidate : CandidateInput) : FlexibilityValue :=
  let protection := cancellationProtection rt candidate
  let cancellation := usableCancellation candidate
  let payment := usablePayment candidate
  let probability := usableChangeProbability rt candidate
  let deferred := deferredPaymentValue candidate
  let usableParts := cancellation.isSome.toNat + payment.isSome.toNat
  { status := if usableParts = 2 then .usable else if usableParts = 1 then .partly else .unavailable
    cancellationProtectionAmount := protection.map fun found => round found.1 2
    cancellationProtectionScore := protection.map Prod.snd
    expectedCancellationValue := protection.bind fun found =>
      probability.map fun rate => round (found.1 * rate.value) 2
    paymentTiming := (payment.map Payment.timing).getD .unknown
    paymentTimingValue := deferred.map Prod.fst
    currency := normalizeCurrency rt candidate.currency
    evidenceIds := uniqueSortedIds (cancellation.toList.flatMap (fun c => c.evidenceIds) ++
      probability.toList.flatMap DeclaredRate.evidenceIds ++
      payment.toList.flatMap (fun p => p.evidenceIds) ++ deferred.toList.flatMap Prod.snd)
    reasonCodes := uniqueSorted (flexibilityReasons rt candidate ++
      [if usableParts = 0 then "flexibility:context-unavailable" else "context:shadow-only",
        "context:unknown-not-penalty"]) }

/-! ## 4. Interactions -/

def isLongStay : Bool := context.tripType = .longStay || context.nights.any (7 ≤ ·)

def isFamily : Bool := context.tripType = .family || context.children.any (0 < ·)

def isGroup : Bool :=
  context.tripType = .group || context.adults.any (3 ≤ ·) || context.rooms.any (2 ≤ ·)

def capabilityMultiplier (code : CapabilityCode) : ℚ :=
  weightWithin ((usableDestination context).bind fun destination =>
    destination.capabilityWeightMultipliers.bind fun multipliers => multipliers code)

/-- `usable` capabilities. -/
def usableCapabilities (candidate : CandidateInput) : List Capability :=
  candidate.capabilities.filter fun capability => hasUsableEvidence capability.toEvidence

/-- The interaction of one capability with a need. -/
def capabilityInteraction (code : InteractionCode) (deltas : CapabilityCode → Option ℚ)
    (capability : Capability) : Option ContextInteraction := do
  let base ← deltas capability.code
  let state ← capability.state
  let multiplier := capabilityMultiplier context capability.code
  some
    { code := code
      capabilityCode := capability.code
      state := state
      utilityDelta := round ((if state then base else -base) * multiplier) 2
      destinationAdjusted := multiplier ≠ 1
      evidenceIds := uniqueSortedIds (capability.evidenceIds ++ if multiplier ≠ 1 then
        context.destination.toList.flatMap fun destination => destination.evidenceIds else []) }

/-- `addInteractions`. -/
def addedInteractions (code : InteractionCode) (enabled : Bool)
    (deltas : CapabilityCode → Option ℚ) (capabilities : List Capability) :
    List ContextInteraction :=
  if enabled then capabilities.filterMap (capabilityInteraction context code deltas) else []

def contextInteractions (capabilities : List Capability) : List ContextInteraction :=
  sortBy (compareLex (byText rt fun item => item.code.text)
      (byText rt fun item => item.capabilityCode.text))
    (addedInteractions context .longStayUtility (isLongStay context) longStayCapabilityDeltas
        capabilities ++
      addedInteractions context .familyUtility (isFamily context) familyCapabilityDeltas
        capabilities ++
      addedInteractions context .groupUtility (isGroup context && !isFamily context)
        groupCapabilityDeltas capabilities)

def interactionReasons (interactions : List ContextInteraction) : List String :=
  (if interactions.any fun item => item.code = .longStayUtility then ["interaction:long-stay"]
    else []) ++
  (if interactions.any fun item => item.code = .groupUtility ∨ item.code = .familyUtility then
    ["interaction:group"] else []) ++
  (if interactions.any ContextInteraction.destinationAdjusted then
    ["interaction:destination-aware"] else [])

def evaluateContextInteractions (candidate : CandidateInput) : InteractionEvaluation :=
  match contextInteractions rt context (usableCapabilities candidate) with
  | [] =>
    { status := .unavailable
      utilityDelta := none
      interactions := []
      evidenceIds := []
      reasonCodes :=
        uniqueSorted ["interaction:context-unavailable", "context:unknown-not-penalty"] }
  | first :: rest =>
    let interactions := first :: rest
    { status := .usable
      utilityDelta := some
        (round (JsNumber.clamp (interactions.map ContextInteraction.utilityDelta).sum (-20) 20) 2)
      interactions := interactions
      evidenceIds := uniqueSortedIds (interactions.flatMap ContextInteraction.evidenceIds)
      reasonCodes := uniqueSorted (interactionReasons interactions ++ ["context:shadow-only"]) }

/-! ## 5. Convenience -/

/-- `MINIMUM_CONVENIENCE_SIGNALS`. -/
def minimumConvenienceSignals : Nat := 2

def isUsableSignal (signal : FrictionSignal) : Bool :=
  hasUsableEvidence signal.toEvidence && -1 ≤ signal.convenienceImpact &&
    signal.convenienceImpact ≤ 1 && 0 < signal.weight && signal.weight ≤ 1

def usableSignals (candidate : CandidateInput) : List FrictionSignal :=
  sortBy (byText rt fun signal => signal.code.text)
    (candidate.frictionSignals.filter isUsableSignal)

def weightedImpact (signals : List FrictionSignal) : JsFloat :=
  JsFloat.div (.finite (signals.map fun signal => signal.convenienceImpact * signal.weight).sum)
    (signals.map FrictionSignal.weight).sum

/-- `round(50 + weightedImpact * 50, 2)`. -/
def convenienceIndex (signals : List FrictionSignal) : JsFloat :=
  (JsFloat.add (.finite 50) ((weightedImpact signals).times 50)).map (round · 2)

def evaluateConvenience (candidate : CandidateInput) : ConvenienceEvaluation :=
  let usable := usableSignals rt candidate
  let evidenceIds := uniqueSortedIds (usable.flatMap fun signal => signal.evidenceIds)
  if usable.length < minimumConvenienceSignals then
    { status := if usable.length = 0 then .unavailable else .partly
      convenienceIndex := none
      decisionFrictionScore := none
      usableSignalCount := usable.length
      suppliedSignalCount := candidate.frictionSignals.length
      evidenceIds := evidenceIds
      reasonCodes := uniqueSorted ["convenience:insufficient-coverage",
        "context:unknown-not-penalty"] }
  else
    { status := .usable
      convenienceIndex := some (convenienceIndex usable)
      decisionFrictionScore :=
        some ((JsFloat.sub (.finite 100) (convenienceIndex usable)).map (round · 2))
      usableSignalCount := usable.length
      suppliedSignalCount := candidate.frictionSignals.length
      evidenceIds := evidenceIds
      reasonCodes := uniqueSorted ["convenience:evaluated", "friction:evaluated",
        "context:shadow-only", "context:unknown-not-penalty"] }

/-! ## 6. One candidate -/

/-- The signals that an evaluation of a candidate rests on. -/
def isActive (location : TripSpecificLocation) (roomUpgrade : RoomUpgrade)
    (flexibility : FlexibilityValue) (interactions : InteractionEvaluation)
    (convenience : ConvenienceEvaluation) : SignalId → Bool
  | .travelTimeLocation => location.status = .usable
  | .roomUpgrade => roomUpgrade.status ≠ .unavailable
  | .cancellationValue => flexibility.cancellationProtectionScore.isSome
  | .paymentTimingValue => flexibility.paymentTiming ≠ .unknown
  | .groupLongStayUtility => interactions.status = .usable
  | .decisionFriction => convenience.status = .usable

def allSignals : List SignalId :=
  [.travelTimeLocation, .roomUpgrade, .cancellationValue, .paymentTimingValue,
    .groupLongStayUtility, .decisionFriction]

def candidateFindings (candidate : CandidateInput) : CandidateFindings :=
  let location := evaluateLocation rt context candidate
  let roomUpgrade := evaluateRoomUpgrade rt context candidate
  let flexibility := evaluateFlexibility rt candidate
  let interactions := evaluateContextInteractions rt context candidate
  let convenience := evaluateConvenience rt candidate
  let active := isActive location roomUpgrade flexibility interactions convenience
  let activeSignals := (allSignals.filter active).insertionSort fun first second =>
    JsText.Le first.text second.text
  let status : SignalStatus :=
    if 2 ≤ activeSignals.length then .usable
    else if activeSignals.length = 1 then .partly
    else .unavailable
  { hotelId := candidate.hotelId
    status := status
    location := location
    roomUpgrade := roomUpgrade
    flexibility := flexibility
    contextInteractions := interactions
    convenience := convenience
    activeSignals := activeSignals
    inactiveSignals := allSignals.filter fun signal => signal ∉ activeSignals
    reasonCodes := uniqueSorted [match status with
      | .usable => "context:evaluated"
      | .partly => "context:partial"
      | .unavailable => "context:unavailable",
      "context:shadow-only", "context:golden-gate-pending", "context:unknown-not-penalty"] }

end SmartStay.Contextual
