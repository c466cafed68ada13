/-!
# Decoded JSON fields

What JavaScript and a Lua script make of one field of a JSON object. The two differ
on `null`: JavaScript treats it like an absent field, while `cjson.decode` yields a
value that is neither `nil` nor `false`, so that `field or default` keeps it.
-/

/-- A field of a JSON object. -/
inductive JsonField (α : Type)
  | absent
  | null
  | value (a : α)
deriving DecidableEq, Repr

namespace JsonField

variable {α : Type}

/-- The field for JavaScript: `undefined` and `null` alike. -/
def get? : JsonField α → Option α
  | .value a => some a
  | .absent | .null => none

/-- The field that holds `null` or a value. -/
def ofOption : Option α → JsonField α
  | some a => .value a
  | none => .null

@[simp] theorem get?_ofOption (a : Option α) : (ofOption a).get? = a := by cases a <;> rfl

/-- `tonumber(field or '0')`: `tonumber` answers `nil` for the null value. -/
def tonumber : JsonField Nat → Option Nat
  | .value n => some n
  | .absent => some 0
  | .null => none

/-- `tostring(field or '')`, where `nullText` is the text of the null value. -/
def tostring (nullText : String) : JsonField String → String
  | .value text => text
  | .absent => ""
  | .null => nullText

/-- Off the null value, a script reads a text that is not empty as JavaScript does. -/
theorem tostring_eq_iff {nullText text : String} (hne : text ≠ "") {field : JsonField String}
    (hnull : field = .null → text ≠ nullText) :
    field.tostring nullText = text ↔ field.get? = some text := by
  cases field with
  | absent => simp [tostring, get?, hne.symm]
  | null => simp [tostring, get?, (hnull rfl).symm]
  | value a => simp [tostring, get?]

/-- A script reads a positive number as JavaScript does. -/
theorem tonumber_eq_iff {n : Nat} (hpos : 0 < n) {field : JsonField Nat} :
    field.tonumber = some n ↔ field.get? = some n := by
  cases field with
  | absent => simpa [tonumber, get?] using Nat.ne_of_lt hpos
  | null => simp [tonumber, get?]
  | value a => simp [tonumber, get?]

end JsonField
