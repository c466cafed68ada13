import SmartStay.Lib.JsValue

/-!
# Merge keys

The keys under which `server/providers/common/hotelMergeService.js` recognizes hotels and offers. A
value that cannot be converted to a number or to text makes the merge throw; such a merge has no
result, and what the conversions give there plays no part.

1. `MergeRuntime`, `numberOf`, `textOf`.
2. `normalizeText`, `createHotelMergeKey`.
3. `normalizeCurrency`, `createOfferMergeKey`.
4. `asciiMergeRuntime`: the tables for ASCII text.
-/

namespace SmartStay.Merge

open JsValue

/-! ## 1. Conversions -/

/-- A letter of `[A-Z]`. -/
def isUpperLetter (u : CodeUnit) : Bool := 65 ≤ u.val && u.val ≤ 90

/-- The spelling of numbers and the tables of Unicode. `replaceSymbols` puts a blank for every
character that is no letter, number or white space. -/
structure MergeRuntime where
  numberText : JsFloat → JsString
  normalizeNfkd : JsString → JsString
  toLowerCase : JsString → JsString
  toUpperCase : JsString → JsString
  replaceSymbols : JsString → JsString
  upper_fixed : ∀ text, text.all isUpperLetter = true → toUpperCase text = text

/-- `Number(value)`. -/
def numberOf (value : JsValue) : JsFloat :=
  match toNumber value with
  | .ok x => x
  | .error _ => .nan

variable (rt : MergeRuntime)

/-- `String(value)`. -/
def textOf (value : JsValue) : JsString :=
  match toText rt.numberText value with
  | .ok text => text
  | .error _ => []

/-- `String(value ?? "")`. -/
def textOrEmpty (value : JsValue) : JsString := textOf rt (nullish value (some (.str [])))

/-- `replace(/\s+/g, " ")`. -/
def collapseSpaces : JsString → JsString
  | [] => []
  | u :: rest =>
    if JsString.isSpace u = false then u :: collapseSpaces rest
    else if rest.head?.any JsString.isSpace then collapseSpaces rest
    else 32 :: collapseSpaces rest

/-- A character of `[\u0300-\u036f]`. -/
def isMark (u : CodeUnit) : Bool := 0x300 ≤ u.val && u.val ≤ 0x36F

/-- `parts.join("|")`. -/
def joinParts (parts : List JsString) : JsString := (JsString.ofString "|").intercalate parts

/-! ## 2. Hotels -/

def normalizeText (value : JsValue) : JsString :=
  match value with
  | none | some .null => []
  | value =>
    let folded := rt.toLowerCase ((rt.normalizeNfkd (textOf rt value)).filter fun u => !isMark u)
    collapseSpaces (rt.replaceSymbols folded.trim)

def roundCoordinate (value : JsValue) : JsString :=
  if isMissing value then []
  else
    match numberOf value with
    | .finite x => if x < -180 ∨ 180 < x then [] else .ofString (JsNumber.toFixed 4 x)
    | _ => []

/-- The key of the provider and its id, when a hotel has both. -/
def sourceKey (hotel : JsValue) : Option JsString :=
  let sourceProvider := normalizeText rt (member hotel "sourceProvider")
  let sourceHotelId := normalizeText rt (member hotel "sourceHotelId")
  if sourceProvider ≠ [] ∧ sourceHotelId ≠ [] then
    some (joinParts [.ofString "source", sourceProvider, sourceHotelId])
  else none

/-- The key of a hotel without such an id. -/
def descriptiveKey (hotel : JsValue) : Option JsString :=
  let internalId := normalizeText rt (member hotel "id")
  let name := normalizeText rt (member hotel "name")
  let city := normalizeText rt (member hotel "city")
  let country := normalizeText rt (member hotel "country")
  let address := normalizeText rt (member hotel "address")
  let latitude := roundCoordinate (member hotel "latitude")
  let longitude := roundCoordinate (member hotel "longitude")
  if internalId ≠ [] then some (joinParts [.ofString "internal", internalId])
  else if name ≠ [] ∧ address ≠ [] ∧ city ≠ [] ∧ country ≠ [] then
    some (joinParts [.ofString "address", name, address, city, country])
  else if name ≠ [] ∧ latitude ≠ [] ∧ longitude ≠ [] then
    some (joinParts [.ofString "coordinates", name, latitude, longitude])
  else none

def createHotelMergeKey (hotel : JsValue) : Option JsString :=
  (sourceKey rt hotel).orElse fun _ => descriptiveKey rt hotel

/-! ## 3. Offers -/

/-- `/^[A-Z]{3}$/` -/
def isCurrency (text : JsString) : Bool := text.length = 3 && text.all isUpperLetter

def normalizeCurrency (value : JsValue) : JsString :=
  let currency := rt.toUpperCase (textOrEmpty rt value).trim
  if isCurrency currency then currency else []

/-- A normalized currency is a currency or empty. -/
theorem normalizeCurrency_cases (value : JsValue) :
    normalizeCurrency rt value = [] ∨ isCurrency (normalizeCurrency rt value) = true := by
  unfold normalizeCurrency
  dsimp only
  split
  next h => exact .inr h
  next => exact .inl rfl

theorem textOrEmpty_str (text : JsString) : textOrEmpty rt (some (.str text)) = text := rfl

theorem isSpace_of_upper {u : CodeUnit} (h : isUpperLetter u = true) : JsString.isSpace u = false := by
  simp only [isUpperLetter, Bool.and_eq_true, decide_eq_true_eq] at h
  simp only [JsString.isSpace, Bool.or_eq_false_iff, Bool.and_eq_false_iff, decide_eq_false_iff_not]
  omega

theorem normalizeCurrency_empty : normalizeCurrency rt (some (.str [])) = [] := by
  have hempty : rt.toUpperCase (JsString.trim []) = [] := rt.upper_fixed _ rfl
  rw [normalizeCurrency, textOrEmpty_str, hempty]
  rfl

/-- A normalized currency is normalized to itself. -/
theorem normalizeCurrency_idem (value : JsValue) :
    normalizeCurrency rt (some (.str (normalizeCurrency rt value))) = normalizeCurrency rt value := by
  have hupper : (normalizeCurrency rt value).all isUpperLetter = true := by
    rcases normalizeCurrency_cases rt value with h | h
    · rw [h]
      rfl
    · exact (Bool.and_eq_true_iff.mp h).2
  have htrim : (normalizeCurrency rt value).trim = normalizeCurrency rt value :=
    JsString.trim_of_no_space fun u hu => isSpace_of_upper (List.all_eq_true.mp hupper u hu)
  conv_lhs => rw [normalizeCurrency, textOrEmpty_str, htrim, rt.upper_fixed _ hupper]
  rcases normalizeCurrency_cases rt value with h | h
  · rw [h]
    rfl
  · exact if_pos h

/-- `Number.isFinite(number) ? number.toFixed(2) : ""`. -/
def amountText (value : JsValue) : JsString :=
  match numberOf value with
  | .finite x => .ofString (JsNumber.toFixed 2 x)
  | _ => []

def createOfferMergeKey (offer : JsValue) : JsString :=
  let sourceProvider := normalizeText rt (member offer "sourceProvider")
  let provider := normalizeText rt (member offer "provider")
  let offerId := (textOrEmpty rt (member offer "id")).trim
  let currency := normalizeCurrency rt (member offer "currency")
  if offerId ≠ [] then joinParts [.ofString "id", sourceProvider, provider, offerId, currency]
  else
    let refundable : JsString :=
      match member offer "refundable" with
      | some (.bool true) => .ofString "true"
      | some (.bool false) => .ofString "false"
      | _ => []
    joinParts
      [.ofString "fingerprint", sourceProvider, provider,
        normalizeText rt (member offer "roomName"), amountText (member offer "price"), currency,
        refundable, normalizeText rt (member offer "refundableTag"),
        normalizeText rt (member offer "cancellationPolicy"),
        amountText (member offer "totalKnownCost"), amountText (member offer "excludedTaxes"),
        amountText (member offer "cancellationPenalty")]

/-! ## 4. ASCII text -/

def asciiLower (u : CodeUnit) : CodeUnit := if isUpperLetter u then u + 32 else u

def asciiUpper (u : CodeUnit) : CodeUnit := if 97 ≤ u.val && u.val ≤ 122 then u - 32 else u

/-- An ASCII character that is no letter, digit or white space. -/
def isAsciiSymbol (u : CodeUnit) : Bool :=
  u.val < 128 && !JsString.isSpace u && !isUpperLetter (asciiUpper u) && !(48 ≤ u.val && u.val ≤ 57)

theorem map_asciiUpper {text : JsString} (h : text.all isUpperLetter = true) :
    text.map asciiUpper = text := by
  conv_rhs => rw [← List.map_id text]
  refine List.map_congr_left fun u hu => ?_
  have hupper := List.all_eq_true.mp h u hu
  simp only [isUpperLetter, Bool.and_eq_true, decide_eq_true_eq] at hupper
  rw [asciiUpper, if_neg]
  · rfl
  · simp only [Bool.and_eq_true, decide_eq_true_eq]
    omega

/-- The tables restricted to ASCII, and the numbers that are fractions or whole. -/
def asciiMergeRuntime : MergeRuntime where
  numberText
    | .finite x => .ofString (toString x)
    | _ => .ofString "NaN"
  normalizeNfkd := id
  toLowerCase := List.map asciiLower
  toUpperCase := List.map asciiUpper
  replaceSymbols := List.map fun u => if isAsciiSymbol u then 32 else u
  upper_fixed _ h := map_asciiUpper h

end SmartStay.Merge
