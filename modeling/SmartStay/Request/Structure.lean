import SmartStay.Lib.Fallible
import SmartStay.Lib.JsonValue

/-!
# The structure of a request body

`assertSafeStructure` of `server/validation/requestValidation.js` walks through a JSON body before
anything else reads it. A parsed body is a tree, so the search for circular values never finds
one and is left out.

1. `RequestError`, `assertSafeStructure`.
2. `NoReservedKeys`, `assertSafeStructure_keys`: no object of an accepted body has a reserved key.
-/

namespace SmartStay.Request

variable {ν : Type}

/-! ## 1. The check -/

/-- An error of `createRequestValidationError`. -/
structure RequestError where
  code : String := "INVALID_REQUEST"
  message : String
  status : Nat := 400
  field : JsString
deriving DecidableEq

def maxRequestDepth : Nat := 8

def maxObjectKeys : Nat := 64

def maxArrayItems : Nat := 32

def maxGenericStringLength : Nat := 512

/-- `RESERVED_OBJECT_KEYS`. -/
def reservedObjectKeys : List JsString :=
  [.ofString "__proto__", .ofString "prototype", .ofString "constructor"]

/-- A character of `CONTROL_CHARACTER_PATTERN`. -/
def isControl (u : CodeUnit) : Bool := u.val ≤ 0x1F || u.val = 0x7F

/-- `${path}.${key}`. -/
def keyPath (path key : JsString) : JsString := path ++ .ofString "." ++ key

/-- `${path}[${index}]`. -/
def indexPath (path : JsString) (index : Nat) : JsString :=
  path ++ .ofString ("[" ++ toString index ++ "]")

mutual

def assertSafeStructure (path : JsString) (depth : Nat) : JsonValue ν → Except RequestError Unit
  | .null | .bool _ | .num _ => .ok ()
  | .str s =>
    if maxGenericStringLength < s.length then
      .error { message := "A request value is too long.", field := path }
    else if s.any isControl then
      .error { message := "A request value contains unsupported characters.", field := path }
    else .ok ()
  | .arr items =>
    if maxRequestDepth ≤ depth then
      .error { message := "The request payload is nested too deeply.", field := path }
    else if maxArrayItems < items.length then
      .error { message := "A request list contains too many items.", field := path }
    else assertSafeItems path depth 0 items
  | .obj fields =>
    if maxRequestDepth ≤ depth then
      .error { message := "The request payload is nested too deeply.", field := path }
    else if maxObjectKeys < fields.length then
      .error { message := "The request payload contains too many fields.", field := path }
    else assertSafeFields path depth fields

def assertSafeItems (path : JsString) (depth index : Nat) :
    List (JsonValue ν) → Except RequestError Unit
  | [] => .ok ()
  | item :: rest => do
    assertSafeStructure (indexPath path index) (depth + 1) item
    assertSafeItems path depth (index + 1) rest

def assertSafeFields (path : JsString) (depth : Nat) :
    List (JsString × JsonValue ν) → Except RequestError Unit
  | [] => .ok ()
  | (key, value) :: rest =>
    if reservedObjectKeys.contains key then
      .error { message := "The request payload contains a reserved field.",
               field := keyPath path key }
    else do
      assertSafeStructure (keyPath path key) (depth + 1) value
      assertSafeFields path depth rest

end

/-! ## 2. Reserved keys -/

mutual

/-- No object in the value has a reserved key. -/
def NoReservedKeys : JsonValue ν → Prop
  | .arr items => NoReservedItems items
  | .obj fields => NoReservedFields fields
  | _ => True

def NoReservedItems : List (JsonValue ν) → Prop
  | [] => True
  | item :: rest => NoReservedKeys item ∧ NoReservedItems rest

def NoReservedFields : List (JsString × JsonValue ν) → Prop
  | [] => True
  | (key, value) :: rest =>
    key ∉ reservedObjectKeys ∧ NoReservedKeys value ∧ NoReservedFields rest

end

theorem noReservedFields_iff {fields : List (JsString × JsonValue ν)} : NoReservedFields fields ↔
    ∀ field ∈ fields, field.1 ∉ reservedObjectKeys ∧ NoReservedKeys field.2 := by
  induction fields with
  | nil => simp [NoReservedFields]
  | cons field rest ih => rw [NoReservedFields, List.forall_mem_cons, ih, and_assoc]

mutual

theorem assertSafeStructure_keys : (v : JsonValue ν) → (path : JsString) → (depth : Nat) →
    assertSafeStructure path depth v = .ok () → NoReservedKeys v
  | .null, _, _, _ => trivial
  | .bool _, _, _, _ => trivial
  | .num _, _, _, _ => trivial
  | .str _, _, _, _ => trivial
  | .arr items, path, depth, h => by
    rw [assertSafeStructure, Fallible.errorIf_ok, Fallible.errorIf_ok] at h
    exact assertSafeItems_keys items path depth 0 h.2.2
  | .obj fields, path, depth, h => by
    rw [assertSafeStructure, Fallible.errorIf_ok, Fallible.errorIf_ok] at h
    exact assertSafeFields_keys fields path depth h.2.2

theorem assertSafeItems_keys : (items : List (JsonValue ν)) → (path : JsString) →
    (depth index : Nat) → assertSafeItems path depth index items = .ok () → NoReservedItems items
  | [], _, _, _, _ => trivial
  | item :: rest, path, depth, index, h => by
    obtain ⟨_, hitem, hrest⟩ := Fallible.bind_ok.mp h
    exact ⟨assertSafeStructure_keys item _ _ hitem, assertSafeItems_keys rest path depth _ hrest⟩

theorem assertSafeFields_keys : (fields : List (JsString × JsonValue ν)) → (path : JsString) →
    (depth : Nat) → assertSafeFields path depth fields = .ok () → NoReservedFields fields
  | [], _, _, _ => trivial
  | (key, value) :: rest, path, depth, h => by
    rw [assertSafeFields, Fallible.errorIf_ok] at h
    obtain ⟨hkey, h⟩ := h
    obtain ⟨_, hvalue, hrest⟩ := Fallible.bind_ok.mp h
    exact ⟨by simpa using hkey, assertSafeStructure_keys value _ _ hvalue,
      assertSafeFields_keys rest path depth hrest⟩

end

end SmartStay.Request
