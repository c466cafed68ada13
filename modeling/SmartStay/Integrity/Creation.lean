import SmartStay.Integrity.Calendar

/-!
# How a snapshot is made

`createStayOfferIntegritySnapshotV3` of `engine-v3/integrity/stayOfferIntegrityV3.ts`: what a provider
reports of an offer, with the statuses that are derived from it.

1. `normalizeText`, `normalizePositiveInteger`, `normalizeOptionalCurrency`.
2. `enumerateStayNights`, `createScope`.
3. `stateForTotal`, `stateForTaxes`, `createCost`.
4. `normalizeNight`, `createTemporalEvidence`.
5. `createStayOfferIntegritySnapshot`.

Of an input of unknown type only a text, or only a finite number, has a value here.
-/

namespace SmartStay.Integrity

open Contract

/-! ## 1. Normal forms -/

/-- `MONEY_TOLERANCE`. -/
def moneyTolerance : ℚ := 1 / 100

/-- `uniqueSorted` of the texts that are not blank. -/
def uniqueTrimmed (values : List String) : List String :=
  uniqueSorted ((values.map JsText.trim).filter (· ≠ ""))

def normalizeText (value : Option String) : Option String :=
  (value.map JsText.trim).filter (· ≠ "")

/-- `normalizeCurrency` of a value that may be no text. -/
def normalizeOptionalCurrency (rt : Runtime) (value : Option String) : Option String :=
  (normalizeText value).bind (normalizeCurrency rt)

def normalizePositiveNumber (value : Option ℚ) : Option ℚ := value.filter (0 < ·)

def normalizeNonNegativeNumber (value : Option ℚ) : Option ℚ := value.filter (0 ≤ ·)

def normalizePositiveInteger (value : Option ℚ) : Option ℤ :=
  (value.filter fun n => n.den = 1 && 0 < n).map Rat.num

def normalizeNonNegativeInteger (value : Option ℚ) : Option ℤ :=
  (value.filter fun n => n.den = 1 && 0 ≤ n).map Rat.num

/-! ## 2. The scope -/

structure ScopeInput where
  checkIn : Option String
  checkOut : Option String
  nights : Option ℚ
  adults : Option ℚ
  children : Option ℚ
  rooms : Option ℚ

/-- The dates from a day on, one for each of the days. -/
def datesFrom (start : ℤ) (days : Nat) : List String :=
  (List.range days).map fun i => formatIsoDate (start.toNat + i)

def enumerateStayNights (checkIn checkOut : Option String) : List String :=
  match checkIn.bind parseIsoDate, checkOut.bind parseIsoDate with
  | some start, some finish => if finish ≤ start then [] else datesFrom start (finish - start).toNat
  | _, _ => []

/-- `parseIsoDateV3(value)?.value ?? null`. -/
def isoDate? (value : Option String) : Option String :=
  value.filter fun text => (parseIsoDate text).isSome

def createScope (input : ScopeInput) : StayScope :=
  let checkIn := isoDate? input.checkIn
  let checkOut := isoDate? input.checkOut
  let nights := normalizePositiveInteger input.nights
  let adults := normalizePositiveInteger input.adults
  let children := normalizeNonNegativeInteger input.children
  let rooms := normalizePositiveInteger input.rooms
  let expectedDates := enumerateStayNights checkIn checkOut
  let hasDatePair := checkIn.isSome && checkOut.isSome
  let dateConflict := hasDatePair && expectedDates.length = 0
  let nightConflict := hasDatePair && nights.any fun n : ℤ => n ≠ expectedDates.length
  { checkIn
    checkOut
    nights
    adults
    children
    rooms
    status :=
      if dateConflict || nightConflict then .conflicting
      else if hasDatePair && nights.isSome && adults.isSome && children.isSome && rooms.isSome then
        .exact
      else .incomplete }

/-! ## 3. The cost -/

structure CostInput where
  amount : Option ℚ
  currency : Option String
  completeness : CostCompleteness
  taxesIncluded : Option Bool
  includedTaxes : Option ℚ
  excludedTaxes : Option ℚ
  unknownTaxes : Option ℚ
  feeAmount : Option ℚ
  feeState : Option EvidenceState

def stateForTotal (completeness : CostCompleteness) (amount : Option ℚ) (currency : Option String) :
    EvidenceState :=
  if amount.isNone || currency.isNone then .unknown
  else
    match completeness with
    | .reportedComplete => .known
    | .reportedTaxStatusUnknown | .partialCost => .estimated
    | .unknown => .unknown

def stateForTaxes (input : CostInput) : EvidenceState :=
  match normalizeNonNegativeNumber input.includedTaxes,
    normalizeNonNegativeNumber input.excludedTaxes,
    normalizeNonNegativeNumber input.unknownTaxes with
  | some _, some excluded, some unknown =>
    if 0 < unknown || input.completeness = .partialCost then .estimated
    else if input.taxesIncluded = some true || input.taxesIncluded = some false && 0 < excluded then
      .known
    else .unknown
  | _, _, _ => .conflicting

def createCost (rt : Runtime) (input : CostInput) (scope : StayScope) (evidenceIds : List String) :
    CanonicalCost :=
  let amount := normalizePositiveNumber input.amount
  let currency := normalizeOptionalCurrency rt input.currency
  let totalState := stateForTotal input.completeness amount currency
  let taxState := stateForTaxes input
  let feeAmount := normalizeNonNegativeNumber input.feeAmount
  let feeState := input.feeState.getD .unknown
  let feeConflict := feeAmount.any fun fee => amount.any fun total => total + moneyTolerance < fee
  let hasConflict := scope.status = .conflicting || taxState = .conflicting ||
    totalState = .conflicting || feeState = .conflicting || feeConflict
  let complete := scope.status = .exact && totalState = .known && taxState = .known &&
    (feeState = .known || feeState = .notApplicable)
  let provisional := amount.isSome && currency.isSome && scope.status ≠ .conflicting
  { priceScope :=
      if scope.checkIn.isSome && scope.checkOut.isSome then "reported-stay-total" else "unknown"
    total := ⟨amount, currency, totalState, evidenceIds⟩
    taxes :=
      { taxesIncluded := input.taxesIncluded
        includedAmount := (normalizeNonNegativeNumber input.includedTaxes).getD 0
        excludedAmount := (normalizeNonNegativeNumber input.excludedTaxes).getD 0
        unknownAmount := (normalizeNonNegativeNumber input.unknownTaxes).getD 0
        currency
        state := taxState
        evidenceIds }
    fees := ⟨feeAmount, if feeAmount.isNone then none else currency, feeState, evidenceIds⟩
    sourceCompleteness := input.completeness
    integrityStatus :=
      if hasConflict then .conflicting
      else if complete then .complete
      else if provisional then .provisional
      else .incomplete }

/-! ## 4. The nights -/

/-- `StayNightEvidenceInputV3`. -/
structure NightInput where
  date : Option String
  amount : Option ℚ
  currency : Option String
  amountState : Option EvidenceState
  available : Option Bool
  evidenceIds : List String

def normalizeNight (rt : Runtime) (input : NightInput) : Option NightEvidence :=
  (isoDate? input.date).map fun date =>
    let amount := normalizePositiveNumber input.amount
    let currency := normalizeOptionalCurrency rt input.currency
    { date
      amount
      currency
      amountState := input.amountState.getD
        (if amount.isSome && currency.isSome then .known else .unknown)
      availability :=
        match input.available with
        | some true => "available"
        | some false => "unavailable"
        | none => "unknown"
      evidenceIds := uniqueTrimmed input.evidenceIds }

/-- The nights with a date, in the order of their dates. -/
def sortedNights (rt : Runtime) (input : List NightInput) : List NightEvidence :=
  JsSort.sortBy (fun first second => rt.localeCompare first.date second.date)
    (input.filterMap (normalizeNight rt))

def NightEvidence.amountKnown (night : NightEvidence) : Bool :=
  night.amount.isSome && night.currency.isSome && night.amountState = .known

/-- `amountSum`. -/
def amountSum (nights : List NightEvidence) : ℚ :=
  nights.foldl (fun sum night => sum + night.amount.getD 0) 0

/-- The nights are those of the scope, one for each date. -/
def fullDateCoverage (expectedDates : List String) (nights : List NightEvidence) : Bool :=
  0 < expectedDates.length && expectedDates.length = nights.length &&
    (List.range expectedDates.length).all fun i =>
      (nights[i]?).map (·.date) = expectedDates[i]?

/-- `totalsReconcile`. -/
def totalsReconcile (expectedDates : List String) (nights : List NightEvidence)
    (total : MoneyEvidence) : Option Bool :=
  if 0 < nights.length && nights.all (·.amountKnown) && fullDateCoverage expectedDates nights then
    total.amount.map fun amount => |amountSum nights - amount| ≤ moneyTolerance
  else none

/-- `currencyConflict`. -/
def currencyConflict (nights : List NightEvidence) (total : MoneyEvidence) : Bool :=
  nights.any fun night =>
    night.currency.any fun currency => total.currency.any (currency ≠ ·)

/-- `invalid`. -/
def nightsInvalid (rt : Runtime) (input : List NightInput) (expectedDates : List String)
    (total : MoneyEvidence) : Bool :=
  let nights := sortedNights rt input
  let dates := nights.map (·.date)
  let invalidDate := input.any fun night => (normalizeNight rt night).isNone
  let duplicateDate := decide (dates.dedup.length ≠ dates.length)
  let unexpectedDate := dates.any (· ∉ expectedDates)
  invalidDate || duplicateDate || unexpectedDate || currencyConflict nights total ||
    totalsReconcile expectedDates nights total = some false

/-- `complete` of nights that are not invalid. -/
def nightsComplete (scope : StayScope) (expectedDates : List String) (nights : List NightEvidence)
    (total : MoneyEvidence) : Bool :=
  scope.status = .exact && fullDateCoverage expectedDates nights &&
    (0 < nights.length && nights.all (·.amountKnown)) &&
    nights.all (·.availability = "available") &&
    totalsReconcile expectedDates nights total = some true

/-- `createTemporalEvidence` of nights that are given. -/
def evidenceOfNights (rt : Runtime) (input : List NightInput) (scope : StayScope)
    (total : MoneyEvidence) : TemporalPriceEvidence :=
  let expectedDates := enumerateStayNights scope.checkIn scope.checkOut
  let nights := sortedNights rt input
  let invalid := nightsInvalid rt input expectedDates total
  let complete := !invalid && nightsComplete scope expectedDates nights total
  { status := if invalid then .invalid else if complete then .complete else .partialNights
    expectedNightCount := scope.nights
    coveredNightCount := (nights.map (·.date)).dedup.length
    nights
    totalsReconcile := totalsReconcile expectedDates nights total
    reasonCodes :=
      if invalid then ["nightly-prices-invalid"]
      else if complete then ["nightly-prices-complete"]
      else ["nightly-prices-partial"] }

def createTemporalEvidence (rt : Runtime) (input : Option (List NightInput)) (scope : StayScope)
    (total : MoneyEvidence) : TemporalPriceEvidence :=
  match input with
  | some (first :: rest) => evidenceOfNights rt (first :: rest) scope total
  | _ =>
    { status := .notProvided
      expectedNightCount := scope.nights
      coveredNightCount := 0
      nights := []
      totalsReconcile := none
      reasonCodes := ["nightly-prices-not-provided"] }

/-! ## 5. The snapshot -/

structure CancellationInput where
  refundable : Option Bool
  freeCancellationUntil : Option String
  penaltyAmount : Option ℚ
  penaltyCurrency : Option String
  policyKnown : Bool

def createCancellation (rt : Runtime) (input : CancellationInput) : CanonicalCancellation :=
  let freeCancellationUntil := normalizeText input.freeCancellationUntil
  { status :=
      match input.refundable with
      | some true => if freeCancellationUntil.isNone then "refundable" else "conditional"
      | some false => "non-refundable"
      | none => if freeCancellationUntil.isSome then "conditional" else "unknown"
    freeCancellationUntil
    penaltyAmount := normalizeNonNegativeNumber input.penaltyAmount
    penaltyCurrency := normalizeOptionalCurrency rt input.penaltyCurrency
    state :=
      if input.refundable.isSome || input.policyKnown || freeCancellationUntil.isSome then .known
      else .unknown }

structure PaymentInput where
  timing : Option String
  state : Option EvidenceState

/-- `CreateStayOfferIntegritySnapshotInputV3`. -/
structure SnapshotInput where
  hotelId : Option String
  offerId : Option String
  scope : ScopeInput
  roomName : Option String
  mealPlan : Option String
  cancellation : CancellationInput
  payment : Option PaymentInput
  cost : CostInput
  bookable : Option Bool
  recheckRequired : Bool
  observedAt : Option String
  freshness : Option String
  nightlyPrices : Option (List NightInput)
  evidenceIds : List String

def createBookability (input : SnapshotInput) (evidenceIds : List String) : BookabilityEvidence where
  status :=
    match input.bookable with
    | some false => .soldOut
    | some true => if input.recheckRequired then .recheckRequired else .bookable
    | none => .unknown
  searchBookable := input.bookable
  observedAt := normalizeText input.observedAt
  freshness := input.freshness.getD "unknown"
  recheckRequired := input.recheckRequired
  evidenceIds := evidenceIds

/-- A name that is known when it is given. -/
def createNamed (name : Option String) : NamedEvidence where
  name := normalizeText name
  state := if (normalizeText name).isNone then .unknown else .known

def createPayment (input : Option PaymentInput) : CanonicalPayment :=
  let timing := (input.bind (·.timing)).getD "unknown"
  { timing
    state := (input.bind (·.state)).getD (if timing = "unknown" then .unknown else .known) }

/-- `withoutKeys` of `createStayOfferIntegritySnapshotV3`. -/
def snapshotContent (rt : Runtime) (input : SnapshotInput) : SnapshotContent :=
  let evidenceIds := uniqueTrimmed input.evidenceIds
  let scope := createScope input.scope
  let cost := createCost rt input.cost scope evidenceIds
  { hotelId := (normalizeText input.hotelId).getD ""
    offerId := (normalizeText input.offerId).getD ""
    scope
    room := createNamed input.roomName
    mealPlan := createNamed input.mealPlan
    cancellation := createCancellation rt input.cancellation
    payment := createPayment input.payment
    cost
    bookability := createBookability input evidenceIds
    temporalPriceEvidence := createTemporalEvidence rt input.nightlyPrices scope cost.total
    evidenceIds }

def createStayOfferIntegritySnapshot (rt : Runtime) (input : SnapshotInput) :
    StayOfferIntegritySnapshot :=
  let content := snapshotContent rt input
  let canonicalOfferKey := createCanonicalOfferKey rt content
  { content with
    canonicalOfferKey
    snapshotId := createStayOfferSnapshotFingerprint rt canonicalOfferKey content }

end SmartStay.Integrity
