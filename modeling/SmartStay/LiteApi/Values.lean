import SmartStay.Contract.JsonData
import SmartStay.Merge.Keys

/-!
# Reading a provider's records

The helpers of `server/providers/liteApi/liteApiOfferMapper.js` and
`server/providers/liteApi/liteApiCommercialPricing.js` that read values of any shape.

1. `LiteApiRuntime`: what the two files take from the JavaScript runtime without defining it.
2. `getValueByPath`, `pickFirst`: the properties along a path.
3. `readNumber`, `asString`, `asText`, `asBooleanOrNull`.
4. `getNestedRates`: the rates of a room, in the first of five containers that has any.
5. `getValueByPath_cons`: a path is read step by step.
6. `plainLiteApi`: a runtime for runs on fixed inputs.

Amounts are exact rationals. Both files hold a copy of most helpers; where two copies do the same,
one stands here.
-/

namespace SmartStay.LiteApi

open JsValue
open Merge (collapseSpaces)

/-! ## 1. The runtime -/

/-- The spelling of numbers, the tables of Unicode, the collation, `Date.parse` in milliseconds
    (`none` for `NaN`) and the hexadecimal SHA-256 digest. -/
structure LiteApiRuntime where
  numberText : JsFloat → JsString
  numerals : JsonText.Numerals ℚ
  toLowerCase : JsString → JsString
  toUpperCase : JsString → JsString
  localeCompare : JsString → JsString → Ordering
  parseDate : JsString → Option ℤ
  sha256 : List Char → JsString

/-- A value of a record. -/
abbrev Value := JsonValue JsFloat

/-- The properties of an object. -/
abbrev Fields := List (JsString × Value)

/-! ## 2. Paths -/

/-- A step of a path: the name of a property or the index of an item. -/
inductive Step
  | name (s : String)
  | index (n : Nat)
deriving DecidableEq

instance : Coe String Step := ⟨.name⟩

instance (n : Nat) : OfNat Step n := ⟨.index n⟩

abbrev Path := List Step

/-- `value[step]`: a text has its code units as items. -/
def property (value : Value) : Step → JsValue
  | .name s => member (some value) s
  | .index n =>
    match value with
    | .arr items => items[n]?
    | .str s => s[n]?.map fun u => .str [u]
    | .obj _ => member (some value) (toString n)
    | _ => none

/-- One step, which stays at `undefined` from `null` and `undefined` on. -/
def follow (current : JsValue) (step : Step) : JsValue :=
  match current with
  | none | some .null => none
  | some value => property value step

def getValueByPath (source : JsValue) (path : Path) : JsValue := path.foldl follow source

/-- The first value that is there and not empty, or `null`. -/
def pickFirst (source : JsValue) (paths : List Path) : JsValue :=
  ((paths.map (getValueByPath source)).find? fun value => !isMissing value).getD (some .null)

/-! ## 3. Conversions -/

def isPlainObject : Value → Bool
  | .obj _ => true
  | _ => false

def asArray : JsValue → List Value
  | none | some .null => []
  | some (.arr items) => items
  | some value => [value]

/-- `replace(",", ".")`. -/
def replaceComma : JsString → JsString
  | [] => []
  | u :: rest => if u.val = 44 then 46 :: rest else u :: replaceComma rest

/-- A finite number. -/
def finite? : JsFloat → Option ℚ
  | .finite x => some x
  | _ => none

section

variable (inArrays : Bool)

mutual

/-- `asNumber` of the mapper, which reads the first number of an array, and of the pricing, which
    does not. White space around a numeral is skipped by `Number` itself. -/
def readNumber : Value → Option ℚ
  | .num x => finite? x
  | .str s => finite? (JsNumeral.toNumber (replaceComma s))
  | .arr items => if inArrays then firstNumber items else none
  | .obj fields =>
    ((((fieldNumber "amount" fields).or (fieldNumber "value" fields)).or
      (fieldNumber "total" fields)).or (fieldNumber "price" fields)).getD none
  | _ => none

def firstNumber : List Value → Option ℚ
  | [] => none
  | item :: rest => (readNumber item).or (firstNumber rest)

/-- The number of a property that is neither `null` nor `undefined`. -/
def fieldNumber (name : String) : Fields → Option (Option ℚ)
  | [] => none
  | (key, value) :: rest =>
    if key = JsString.ofString name then
      match value with
      | .null => none
      | value => some (readNumber value)
    else fieldNumber name rest

end

end

/-- `asNumber` of the mapper. -/
def asNumber (value : JsValue) : Option ℚ := value.bind (readNumber true)

def pickNumber (source : JsValue) (paths : List Path) : Option ℚ :=
  asNumber (pickFirst source paths)

/-- The first number of the pricing's `asNumber` along the paths. -/
def pickFirstNumber (source : JsValue) (paths : List Path) : Option ℚ :=
  paths.findSome? fun path => (getValueByPath source path).bind (readNumber false)

/-- `Number(value.toFixed(2))`. -/
def roundMoney (value : ℚ) : ℚ := JsNumber.fixed 2 value

section

variable (rt : LiteApiRuntime)

/-- `String(value)` of a text, a number or a truth value. -/
def primitiveText : JsValue → Option JsString
  | some (.str s) => some s
  | some (.num x) => some (rt.numberText x)
  | some (.bool b) => some (.ofString (if b then "true" else "false"))
  | _ => none

/-- `asString` of the mapper. -/
def asString (value : JsValue) : JsString :=
  match value with
  | some (.str s) => s.trim
  | value => (primitiveText rt value).getD []

/-- `asText` of the pricing. -/
def asText (value : JsValue) : JsString :=
  ((primitiveText rt value).map fun text => collapseSpaces (rt.toLowerCase text.trim)).getD []

def asBooleanOrNull : JsValue → Option Bool
  | some (.bool b) => some b
  | some (.str s) =>
    if rt.toLowerCase s.trim = .ofString "true" then some true
    else if rt.toLowerCase s.trim = .ofString "false" then some false else none
  | _ => none

def pickString (source : JsValue) (paths : List Path) : JsString :=
  asString rt (pickFirst source paths)

/-- The first text of the pricing's `asText` along the paths that is not empty. -/
def pickFirstText (source : JsValue) (paths : List Path) : JsString :=
  ((paths.map fun path => asText rt (getValueByPath source path)).find? (· ≠ [])).getD []

end

/-- `first || second` of texts. -/
def textOr (first second : JsString) : JsString := if first = [] then second else first

/-- `text || null`. -/
def text? (text : JsString) : Option JsString := if text = [] then none else some text

/-! ## 4. Nested rates -/

def rateContainers : List String := ["rates", "rate", "offers", "availableRates", "roomRates"]

/-- The objects in a property. -/
def objectsIn (container : Value) (name : String) : List Value :=
  (asArray (member (some container) name)).filter isPlainObject

def getNestedRates (container : Value) : List Value :=
  ((rateContainers.map (objectsIn container)).find? fun rates => !rates.isEmpty).getD []

/-! ## 5. What a path reads -/

@[simp] theorem getValueByPath_none (path : Path) : getValueByPath none path = none := by
  induction path with
  | nil => rfl
  | cons step path ih => exact ih

@[simp] theorem getValueByPath_cons (value : Value) (step : Step) (path : Path) :
    getValueByPath (some value) (step :: path) = getValueByPath (follow (some value) step) path :=
  rfl

/-! ## 6. A runtime for fixed inputs -/

/-- Letters of ASCII, texts in the order of their code units, no legacy dates, and the text itself as
    its digest. -/
def plainLiteApi : LiteApiRuntime where
  numberText
    | .finite x => .ofString (Contract.decimalText x)
    | .posInfinity => .ofString "Infinity"
    | .negInfinity => .ofString "-Infinity"
    | .nan => .ofString "NaN"
  numerals := Contract.plainNumerals
  toLowerCase text := text.map fun u => if 65 ≤ u.val ∧ u.val ≤ 90 then u + 32 else u
  toUpperCase text := text.map fun u => if 97 ≤ u.val ∧ u.val ≤ 122 then u - 32 else u
  localeCompare := compare
  parseDate _ := none
  sha256 text := .ofString (String.ofList text)

end SmartStay.LiteApi
