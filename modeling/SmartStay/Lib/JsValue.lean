import SmartStay.Lib.StringToNumber

/-!
# Values that may be undefined

A property that an object does not have is `undefined`, here `none`. Reading properties of values,
and their conversions to numbers and text.

1. `member`, `nullish`, `isMissing`.
2. `toNumber`, `toText`: the conversions, which fail for an object with a `toString` of its own.
-/

abbrev JsValue := Option (JsonValue JsFloat)

namespace JsValue

open JsonValue

/-! ## 1. Properties -/

/-- `value?.name`. -/
def member (value : JsValue) (name : String) : JsValue :=
  match value with
  | some (.obj fields) => get fields (.ofString name)
  | _ => none

/-- `first ?? second`. -/
def nullish (first second : JsValue) : JsValue :=
  match first with
  | none | some .null => second
  | some value => some value

/-- `null`, `undefined` and the empty text stand for no value. -/
def isMissing : JsValue → Bool
  | none | some .null | some (.str []) => true
  | _ => false

/-- `Boolean(value)`. -/
def truthy : JsValue → Bool
  | none | some .null | some (.bool false) | some (.str []) => false
  | some (.num x) => x ≠ .finite 0 && x ≠ .nan
  | _ => true

/-! ## 2. Conversions -/

mutual

/-- Arrays become text in which commas separate the items, objects become `[object Object]`. An
object with a `toString` of its own cannot be converted. -/
def converts : JsonValue JsFloat → Bool
  | .arr items => convertsAll items
  | .obj fields => (get fields (.ofString "toString")).isNone
  | _ => true

def convertsAll : List (JsonValue JsFloat) → Bool
  | [] => true
  | item :: rest => converts item && convertsAll rest

end

mutual

/-- The number in the text of an array. -/
def itemsNumber : List (JsonValue JsFloat) → JsFloat
  | [] => .finite 0
  | [item] => itemNumber item
  | _ => .nan

/-- The number in the text of the only item of an array. -/
def itemNumber : JsonValue JsFloat → JsFloat
  | .null => .finite 0
  | .num x => x
  | .str s => JsNumeral.toNumber s
  | .arr items => itemsNumber items
  | _ => .nan

end

/-- `Number(value)`, or the type error of a value that cannot be converted. -/
def toNumber : JsValue → Except String JsFloat
  | none => .ok .nan
  | some value =>
    if converts value = false then .error "Cannot convert object to primitive value"
    else
      match value with
      | .bool b => .ok (.finite (if b then 1 else 0))
      | value => .ok (itemNumber value)

section
variable (numberText : JsFloat → JsString)

mutual

/-- The text of an item of an array. -/
def itemText : JsonValue JsFloat → JsString
  | .null => []
  | .bool b => .ofString (if b then "true" else "false")
  | .num x => numberText x
  | .str s => s
  | .arr items => itemsText true items
  | .obj _ => .ofString "[object Object]"

def itemsText (first : Bool) : List (JsonValue JsFloat) → JsString
  | [] => []
  | item :: rest => (if first then [] else JsString.ofString ",") ++ (itemText item ++ itemsText false rest)

end

/-- `String(value)`, where `numberText` spells numbers. -/
def toText : JsValue → Except String JsString
  | none => .ok (.ofString "undefined")
  | some value =>
    if converts value = false then .error "Cannot convert object to primitive value"
    else
      match value with
      | .null => .ok (.ofString "null")
      | value => .ok (itemText numberText value)

end

end JsValue
