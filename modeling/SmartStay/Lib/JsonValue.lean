import SmartStay.Lib.Text
import Mathlib.Algebra.GroupWithZero.Nat
import Mathlib.Data.Fin.Basic

/-!
# JSON values

Values as `JSON.parse` makes them, over any type of numbers, with strings of UTF-16 code units.

1. `JsString`, `JsonValue`, `Proper`: every object has a key once.
2. `Same`: equality up to the order of the keys of objects.
-/

/-! ## 1. Values -/

/-- A UTF-16 code unit. -/
abbrev CodeUnit := Fin 65536

instance codeUnit_neZero : NeZero 65536 := ⟨by decide⟩

/-- A JavaScript string: any list of code units, surrogates that are not paired included. -/
abbrev JsString := List CodeUnit

namespace JsString

/-- The code units of a character. -/
def ofChar (c : Char) : JsString := (JsText.codeUnits c.toNat).map (Fin.ofNat 65536)

/-- A string of characters. -/
def ofString (text : String) : JsString := text.toList.flatMap ofChar

end JsString

inductive JsonValue (ν : Type)
  | null
  | bool (b : Bool)
  | num (x : ν)
  | str (s : JsString)
  | arr (items : List (JsonValue ν))
  | obj (fields : List (JsString × JsonValue ν))

namespace JsonValue

variable {ν : Type}

/-- `value[key]` of an object; `none` is `undefined`. -/
def get (fields : List (JsString × JsonValue ν)) (key : JsString) : Option (JsonValue ν) :=
  (fields.find? fun field => field.1 = key).map Prod.snd

theorem get_eq_none {fields : List (JsString × JsonValue ν)} {key : JsString}
    (h : ∀ field ∈ fields, field.1 ≠ key) : get fields key = none := by
  rw [get, Option.map_eq_none_iff, List.find?_eq_none]
  simpa using h

mutual

/-- Every object in the value has each of its keys once. -/
def Proper : JsonValue ν → Prop
  | .arr items => ProperAll items
  | .obj fields => (fields.map Prod.fst).Nodup ∧ ProperFields fields
  | _ => True

def ProperAll : List (JsonValue ν) → Prop
  | [] => True
  | item :: rest => item.Proper ∧ ProperAll rest

def ProperFields : List (JsString × JsonValue ν) → Prop
  | [] => True
  | (_, value) :: rest => value.Proper ∧ ProperFields rest

end

theorem properFields_iff {fields : List (JsString × JsonValue ν)} :
    ProperFields fields ↔ ∀ field ∈ fields, field.2.Proper := by
  induction fields with
  | nil => simp [ProperFields]
  | cons field rest ih => rw [ProperFields, List.forall_mem_cons, ih]

/-! ## 2. Equality up to the order of keys -/

mutual

/-- The same data, where `unsigned` tells which numbers are the same. -/
def Same (unsigned : ν → ν) : JsonValue ν → JsonValue ν → Prop
  | .null, .null => True
  | .bool a, .bool b => a = b
  | .num x, .num y => unsigned x = unsigned y
  | .str s, .str t => s = t
  | .arr items, .arr items' => SameAll unsigned items items'
  | .obj fields, .obj fields' =>
    fields.length = fields'.length ∧ SameFields unsigned fields fields'
  | _, _ => False

def SameAll (unsigned : ν → ν) : List (JsonValue ν) → List (JsonValue ν) → Prop
  | [], [] => True
  | item :: rest, item' :: rest' => item.Same unsigned item' ∧ SameAll unsigned rest rest'
  | _, _ => False

/-- Every field has its like among the others. -/
def SameFields (unsigned : ν → ν) :
    List (JsString × JsonValue ν) → List (JsString × JsonValue ν) → Prop
  | [], _ => True
  | (key, value) :: rest, fields' =>
    (∃ value', (key, value') ∈ fields' ∧ value.Same unsigned value') ∧
      SameFields unsigned rest fields'

end

theorem sameFields_iff {unsigned : ν → ν} {fields fields' : List (JsString × JsonValue ν)} :
    SameFields unsigned fields fields' ↔ ∀ field ∈ fields, ∃ value',
      (field.1, value') ∈ fields' ∧ field.2.Same unsigned value' := by
  induction fields with
  | nil => simp [SameFields]
  | cons field rest ih => rw [SameFields, List.forall_mem_cons, ih]

end JsonValue
