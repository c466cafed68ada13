import SmartStay.Request.Fields

/-!
# Hotel search requests

`validateHotelSearchRequest` of `server/validation/requestValidation.js`.

1. `validateRoom`, `validateRooms`.
2. `validateHotelSearchRequest`.
3. `AcceptedRoom`, `validateRooms_ok`: what the accepted rooms are.
4. `validateStay_ok`, `validateDestination_ok`, `validateHotelSearchRequest_ok`.
-/

namespace SmartStay.Request

open JsonValue JsValue

/-! ## 1. Rooms -/

def maxRooms : Nat := 8

def maxAdultsPerRoom : Nat := 8

def maxChildrenPerRoom : Nat := 8

def maxSmartStayChildAge : Nat := 12

def maxTotalOccupants : Nat := 32

def maxStayNights : Nat := 90

def roomKeys : List String := ["adults", "children", "childAges"]

/-- A number of persons in a room, or an age. -/
def countOptions (path : JsString) (minimum maximum : Nat) : NumberOptions :=
  { field := path, minimum := .finite minimum, maximum := .finite maximum, integer := true }

def childAgeOptions (path : JsString) : NumberOptions :=
  { countOptions path 0 maxSmartStayChildAge with
    code := "INVALID_SEARCH_REQUEST"
    message := s!"Children must be between 0 and {maxSmartStayChildAge} years old. Guests aged {maxSmartStayChildAge + 1} or older must be counted as adults." }

/-- `childAges` of a room: a missing list is empty, and `none` stands for what is no list. -/
def roomChildAges (room : Fields) : Option (List (JsonValue JsFloat)) :=
  match field room "childAges" with
  | none | some .null => some []
  | some (.arr ages) => some ages
  | some _ => none

def validateChildAges (path : JsString) (index : Nat) :
    List (JsonValue JsFloat) → Except RequestError Unit
  | [] => .ok ()
  | age :: rest => do
    let _ ← normalizeOptionalNumber (some age) (childAgeOptions (indexPath path index))
    validateChildAges path (index + 1) rest

/-- `field` of the room at `path`. -/
def roomPath (path : JsString) (name : String) : JsString := keyPath path (.ofString name)

/-- The check of one room, with the number of its occupants. -/
def validateRoom (path : JsString) : JsonValue JsFloat → Except RequestError ℚ
  | .obj room => do
    assertAllowedKeys room roomKeys path
    match ← normalizeOptionalNumber (field room "adults")
        (countOptions (roomPath path "adults") 1 maxAdultsPerRoom) with
    | none =>
      .error { code := "INVALID_SEARCH_REQUEST", message := "Each room needs at least one adult.",
               field := roomPath path "adults" }
    | some adults =>
      match (roomChildAges room).filter fun ages => ages.length ≤ maxChildrenPerRoom with
      | none =>
        .error { code := "INVALID_SEARCH_REQUEST"
                 message := s!"A room can contain at most {maxChildrenPerRoom} children."
                 field := roomPath path "childAges" }
      | some childAges => do
        validateChildAges (roomPath path "childAges") 0 childAges
        let declaredChildren ← normalizeOptionalNumber (field room "children")
          (countOptions (roomPath path "children") 0 maxChildrenPerRoom)
        throwWhen (∃ n ∈ declaredChildren, n ≠ (childAges.length : ℚ))
          { code := "INVALID_SEARCH_REQUEST",
            message := "children must match the number of child ages.",
            field := roomPath path "children" }
        return adults + childAges.length
  | _ =>
    .error { code := "INVALID_SEARCH_REQUEST", message := "Each room must be an object.",
             field := path }

/-- The loop over the rooms, with the number of all occupants. -/
def validateRoomList (index : Nat) (totalOccupants : ℚ) :
    List (JsonValue JsFloat) → Except RequestError ℚ
  | [] => .ok totalOccupants
  | room :: rest => do
    let occupants ← validateRoom (indexPath (.ofString "body.rooms") index) room
    validateRoomList (index + 1) (totalOccupants + occupants) rest

def validateRooms (rooms : FieldValue) : Except RequestError Unit :=
  let invalidRooms : RequestError :=
    { code := "INVALID_SEARCH_REQUEST"
      message := s!"rooms must contain between 1 and {maxRooms} rooms."
      field := .ofString "body.rooms" }
  match rooms with
  | some (.arr rooms) => do
    throwWhen (rooms.length < 1 ∨ maxRooms < rooms.length) invalidRooms
    let totalOccupants ← validateRoomList 0 0 rooms
    throwWhen (maxTotalOccupants < totalOccupants)
      { code := "INVALID_SEARCH_REQUEST"
        message := s!"A search can contain at most {maxTotalOccupants} guests."
        field := .ofString "body.rooms" }
  | _ => .error invalidRooms

/-! ## 2. The request -/

def hotelSearchKeys : List String :=
  ["destinationId", "destinationType", "destinationName", "cityName", "countryCode", "lat", "long",
    "radiusMeters", "checkIn", "checkOut", "currency", "rooms"]

def maxDestinationTextLength : Nat := 200

def minRadiusMeters : Nat := 100

def maxRadiusMeters : Nat := 100000

def bodyPath (name : String) : JsString := keyPath (.ofString "body") (.ofString name)

/-- An optional text of the body. -/
def bodyText (body : Fields) (name : String) (maxLength : Nat)
    (pattern : JsString → Bool := fun _ => true) : Except RequestError (Option JsString) :=
  normalizeOptionalString (field body name)
    { field := bodyPath name, maxLength := maxLength, pattern := pattern }

/-- The destination: texts, coordinates and a radius. -/
def validateDestination (body : Fields) : Except RequestError Unit := do
  let destinationId ← bodyText body "destinationId" maxDestinationTextLength
  let _ ← bodyText body "destinationType" 64
  let destinationName ← bodyText body "destinationName" maxDestinationTextLength
  let cityName ← bodyText body "cityName" maxDestinationTextLength
  let _ ← bodyText body "countryCode" 2 fun text => text.length = 2 && text.all isLetter
  let latitude ← normalizeOptionalNumber (field body "lat")
    { field := bodyPath "lat", minimum := .finite (-90), maximum := .finite 90 }
  let longitude ← normalizeOptionalNumber (field body "long")
    { field := bodyPath "long", minimum := .finite (-180), maximum := .finite 180 }
  throwWhen (latitude.isNone ≠ longitude.isNone)
    { code := "INVALID_SEARCH_REQUEST"
      message := "Latitude and longitude must be provided together."
      field := if latitude.isNone then bodyPath "lat" else bodyPath "long" }
  throwWhen (destinationId.isNone ∧ destinationName.isNone ∧ cityName.isNone ∧ latitude.isNone)
    { code := "INVALID_SEARCH_REQUEST"
      message := "A destination id, destination name, or coordinates are required."
      field := bodyPath "destinationId" }
  let _ ← normalizeOptionalNumber (field body "radiusMeters")
    { field := bodyPath "radiusMeters", minimum := .finite minRadiusMeters,
      maximum := .finite maxRadiusMeters, integer := true }

/-- The nights between two dates. -/
def stayNights (checkIn checkOut : DateOnly) : ℤ :=
  JsNumber.round (((checkOut.timestamp - checkIn.timestamp : ℤ) : ℚ) / msPerDay)

def validateStay (body : Fields) : Except RequestError Unit := do
  let checkIn ← parseDateOnly (field body "checkIn") (bodyPath "checkIn")
  let checkOut ← parseDateOnly (field body "checkOut") (bodyPath "checkOut")
  throwWhen (stayNights checkIn checkOut < 1 ∨ maxStayNights < stayNights checkIn checkOut)
    { code := "INVALID_SEARCH_REQUEST"
      message := s!"The stay must contain between 1 and {maxStayNights} nights."
      field := bodyPath "checkOut" }

def validateHotelSearchRequest (req : JsonRequest) : Except RequestError Fields := do
  let body ← validateJsonRequest req
  assertAllowedKeys body hotelSearchKeys (.ofString "body")
  validateDestination body
  validateStay body
  let _ ← bodyText body "currency" 3 fun text => text.length = 3 && text.all isLetter
  validateRooms (field body "rooms")
  return body

/-! ## 3. Accepted rooms -/

theorem assertAllowedKeys_ok {fields : Fields} {allowedKeys : List String} {path : JsString}
    {u : Unit} (h : assertAllowedKeys fields allowedKeys path = .ok u) :
    ∀ f ∈ fields, f.1 ∈ allowedKeys.map JsString.ofString := by
  intro f hf
  exact not_not.mp (throwWhen_ok.mp (Fallible.forM_ok.mp h f hf))

/-- An accepted count is missing or a natural number within its bounds. -/
theorem countOptions_ok {value : FieldValue} {path : JsString} {minimum maximum : Nat}
    {r : Option ℚ} (h : normalizeOptionalNumber value (countOptions path minimum maximum) = .ok r) :
    r = statedNumber value ∧ ∀ x, r = some x → ∃ n : ℕ, x = n ∧ minimum ≤ n ∧ n ≤ maximum := by
  obtain ⟨hr, -, hbounds⟩ := normalizeOptionalNumber_ok h
  refine ⟨hr, fun x hx => ?_⟩
  obtain ⟨hint, hmin, hmax⟩ := hbounds x hx
  exact exists_nat_of_bounds (hint rfl) hmin hmax

theorem validateChildAges_ok {path : JsString} {index : Nat} {ages : List (JsonValue JsFloat)}
    {u : Unit} (h : validateChildAges path index ages = .ok u) : ∀ age ∈ ages,
      isMissing (some age) = true ∨
        ∃ n : ℕ, statedNumber (some age) = some (n : ℚ) ∧ n ≤ maxSmartStayChildAge := by
  induction ages generalizing index with
  | nil => nofun
  | cons age rest ih =>
    obtain ⟨r, hr, hrest⟩ := Fallible.bind_ok.mp h
    refine List.forall_mem_cons.mpr ⟨?_, ih hrest⟩
    obtain ⟨hstated, hmissing, hbounds⟩ := normalizeOptionalNumber_ok hr
    cases r with
    | none => exact .inl (hmissing.mpr rfl)
    | some x =>
      obtain ⟨hint, hmin, hmax⟩ := hbounds x rfl
      obtain ⟨n, rfl, -, hn⟩ := exists_nat_of_bounds (hint rfl) hmin hmax
      exact .inr ⟨n, hstated.symm, hn⟩

/-- What the check of a room tells of its fields and its list of ages. -/
structure AcceptedRoom (room : Fields) (ages : List (JsonValue JsFloat)) : Prop where
  keys : ∀ f ∈ room, f.1 ∈ roomKeys.map JsString.ofString
  adults : ∃ n : ℕ, statedNumber (field room "adults") = some (n : ℚ) ∧ 1 ≤ n ∧ n ≤ maxAdultsPerRoom
  list : roomChildAges room = some ages
  age : ∀ age ∈ ages, isMissing (some age) = true ∨
    ∃ n : ℕ, statedNumber (some age) = some (n : ℚ) ∧ n ≤ maxSmartStayChildAge
  children : isMissing (field room "children") = true ∨
    statedNumber (field room "children") = some (ages.length : ℚ)

/-- The adults and children of a room. -/
def occupants : JsonValue JsFloat → ℚ
  | .obj room =>
    (statedNumber (field room "adults")).getD 0 + ((roomChildAges room).getD []).length
  | _ => 0

theorem validateRoom_ok {path : JsString} {value : JsonValue JsFloat} {n : ℚ}
    (h : validateRoom path value = .ok n) :
    n = occupants value ∧ ∃ room ages, value = .obj room ∧ AcceptedRoom room ages := by
  rcases value with _ | _ | _ | _ | _ | room <;> try (simp [validateRoom] at h; done)
  obtain ⟨_, hkeys, h⟩ := Fallible.bind_ok.mp h
  obtain ⟨adults, hadults, h⟩ := Fallible.bind_ok.mp h
  cases adults with
  | none => simp at h
  | some adults =>
    cases hages : (roomChildAges room).filter fun ages => ages.length ≤ maxChildrenPerRoom with
    | none => simp [hages] at h
    | some ages =>
      rw [hages] at h
      obtain ⟨_, hchildAges, h⟩ := Fallible.bind_ok.mp h
      obtain ⟨declared, hdeclared, h⟩ := Fallible.bind_ok.mp h
      obtain ⟨_, hmatch, h⟩ := Fallible.bind_ok.mp h
      obtain rfl := Except.ok.inj h
      obtain ⟨hstated, hcount⟩ := countOptions_ok hadults
      obtain ⟨n, rfl, hn⟩ := hcount adults rfl
      have hlist : roomChildAges room = some ages := (Option.filter_eq_some_iff.mp hages).1
      refine ⟨?_, room, ages, rfl, assertAllowedKeys_ok hkeys, ⟨n, hstated.symm, hn⟩, hlist,
        validateChildAges_ok hchildAges, ?_⟩
      · rw [occupants, ← hstated, hlist]
        rfl
      · obtain ⟨hr, hmissing, -⟩ := normalizeOptionalNumber_ok hdeclared
        cases declared with
        | none => exact .inl (hmissing.mpr rfl)
        | some m =>
          have hequal : m = ages.length := by simpa using throwWhen_ok.mp hmatch
          exact .inr (by rw [← hr, hequal])

theorem validateRoomList_ok {index : Nat} {total n : ℚ} {rooms : List (JsonValue JsFloat)}
    (h : validateRoomList index total rooms = .ok n) : n = total + (rooms.map occupants).sum ∧
      ∀ value ∈ rooms, ∃ room ages, value = .obj room ∧ AcceptedRoom room ages := by
  induction rooms generalizing index total with
  | nil =>
    obtain rfl := Except.ok.inj h
    exact ⟨by simp, nofun⟩
  | cons value rest ih =>
    obtain ⟨m, hvalue, hrest⟩ := Fallible.bind_ok.mp h
    obtain ⟨rfl, hroom⟩ := validateRoom_ok hvalue
    obtain ⟨hsum, hrooms⟩ := ih hrest
    refine ⟨?_, List.forall_mem_cons.mpr ⟨hroom, hrooms⟩⟩
    rw [hsum, List.map_cons, List.sum_cons, add_assoc]

/-- What the check of the rooms tells. -/
structure AcceptedRooms (rooms : List (JsonValue JsFloat)) : Prop where
  count : 1 ≤ rooms.length ∧ rooms.length ≤ maxRooms
  room : ∀ value ∈ rooms, ∃ room ages, value = .obj room ∧ AcceptedRoom room ages
  total : (rooms.map occupants).sum ≤ maxTotalOccupants

theorem validateRooms_ok {value : FieldValue} {u : Unit} (h : validateRooms value = .ok u) :
    ∃ rooms, value = some (.arr rooms) ∧ AcceptedRooms rooms := by
  rcases value with _ | _ | _ | _ | _ | rooms | _ <;> try (simp [validateRooms] at h; done)
  obtain ⟨_, hcount, h⟩ := Fallible.bind_ok.mp h
  obtain ⟨n, hlist, h⟩ := Fallible.bind_ok.mp h
  obtain ⟨rfl, hrooms⟩ := validateRoomList_ok hlist
  have hlength := throwWhen_ok.mp hcount
  have htotal := throwWhen_ok.mp h
  rw [zero_add, not_lt] at htotal
  exact ⟨rooms, rfl, by omega, hrooms, htotal⟩

/-! ## 4. Accepted bodies -/

/-- The stay of an accepted body. -/
theorem validateStay_ok {body : Fields} {u : Unit} (h : validateStay body = .ok u) :
    ∃ checkIn checkOut, parseDateOnly (field body "checkIn") (bodyPath "checkIn") = .ok checkIn ∧
      parseDateOnly (field body "checkOut") (bodyPath "checkOut") = .ok checkOut ∧
      ∃ nights : ℤ, checkOut.timestamp - checkIn.timestamp = msPerDay * nights ∧
        1 ≤ nights ∧ nights ≤ maxStayNights := by
  obtain ⟨checkIn, hin, h⟩ := Fallible.bind_ok.mp h
  obtain ⟨checkOut, hout, h⟩ := Fallible.bind_ok.mp h
  obtain ⟨a, ha⟩ := parseDateOnly_timestamp hin
  obtain ⟨b, hb⟩ := parseDateOnly_timestamp hout
  have hnights : stayNights checkIn checkOut = b - a := by
    have hquot : ((checkOut.timestamp - checkIn.timestamp : ℤ) : ℚ) / msPerDay = ((b - a : ℤ) : ℚ) := by
      rw [ha, hb, ← mul_sub, Int.cast_mul]
      exact mul_div_cancel_left₀ _ (by norm_num [msPerDay])
    rw [stayNights, hquot, JsNumber.round, Int.floor_eq_iff]
    constructor <;> linarith
  have hbounds := throwWhen_ok.mp h
  rw [hnights] at hbounds
  exact ⟨checkIn, checkOut, hin, hout, b - a, by rw [ha, hb, mul_sub], by omega⟩

/-- Coordinates come in pairs. -/
theorem validateDestination_ok {body : Fields} {u : Unit} (h : validateDestination body = .ok u) :
    isMissing (field body "lat") = isMissing (field body "long") := by
  obtain ⟨_, -, h⟩ := Fallible.bind_ok.mp h
  obtain ⟨_, -, h⟩ := Fallible.bind_ok.mp h
  obtain ⟨_, -, h⟩ := Fallible.bind_ok.mp h
  obtain ⟨_, -, h⟩ := Fallible.bind_ok.mp h
  obtain ⟨_, -, h⟩ := Fallible.bind_ok.mp h
  obtain ⟨latitude, hlat, h⟩ := Fallible.bind_ok.mp h
  obtain ⟨longitude, hlong, h⟩ := Fallible.bind_ok.mp h
  obtain ⟨_, hboth, -⟩ := Fallible.bind_ok.mp h
  have heq : latitude.isNone = longitude.isNone := not_not.mp (throwWhen_ok.mp hboth)
  obtain ⟨-, hmissing, -⟩ := normalizeOptionalNumber_ok hlat
  obtain ⟨-, hmissing', -⟩ := normalizeOptionalNumber_ok hlong
  rw [Bool.eq_iff_iff, hmissing, hmissing', ← Option.isNone_iff_eq_none, heq,
    Option.isNone_iff_eq_none]

/-- An accepted body has passed the checks of its destination, its stay and its rooms. -/
theorem validateHotelSearchRequest_ok {req : JsonRequest} {body : Fields}
    (h : validateHotelSearchRequest req = .ok body) :
    validateDestination body = .ok () ∧ validateStay body = .ok () ∧
      validateRooms (field body "rooms") = .ok () := by
  obtain ⟨_, -, h⟩ := Fallible.bind_ok.mp h
  obtain ⟨_, -, h⟩ := Fallible.bind_ok.mp h
  obtain ⟨_, hdestination, h⟩ := Fallible.bind_ok.mp h
  obtain ⟨_, hstay, h⟩ := Fallible.bind_ok.mp h
  obtain ⟨_, -, h⟩ := Fallible.bind_ok.mp h
  obtain ⟨_, hrooms, h⟩ := Fallible.bind_ok.mp h
  obtain rfl := Except.ok.inj h
  exact ⟨hdestination, hstay, hrooms⟩

end SmartStay.Request
