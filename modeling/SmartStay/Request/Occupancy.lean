import SmartStay.Request.HotelSearch

/-!
# The occupancy of a search

`normalizeRooms` of `server/providers/common/accommodationSearchRequest.js` reads the rooms of a
body once more, with conversions of its own.

1. `pickFirstValue`, `normalizeChildAges`, `normalizeAdults`, `normalizeRooms`.
2. `normalizeChildAges_stated`: ages that are stated are kept.
3. `SoundRequest`, `validateHotelSearchRequest_sound_iff`: a body that is accepted is sound unless
   an age is `null` or empty. Such an entry passes as an age that was left out, and is read as the
   age 0.
-/

namespace SmartStay.Request

open JsonValue JsValue

/-! ## 1. The rooms -/

/-- A key of a path: a name or an index. -/
inductive PathKey
  | name (name : String)
  | index (index : Nat)

/-- `value[key]`. -/
def property : FieldValue → PathKey → FieldValue
  | some (.obj fields), .name name => field fields name
  | some (.obj fields), .index index => field fields (toString index)
  | some (.arr items), .index index => items[index]?
  | some (.str text), .index index => text[index]?.map fun u => .str [u]
  | _, _ => none

def getNestedValue (source : FieldValue) (path : List PathKey) : FieldValue :=
  path.foldl property source

/-- The first value of a path that is not missing. -/
def pickFirstValue (source : FieldValue) (paths : List (List PathKey)) : FieldValue :=
  paths.findSome? fun path =>
    if isMissing (getNestedValue source path) then none else getNestedValue source path

/-- `text.replace(",", ".")`. -/
def replaceComma (text : JsString) : JsString :=
  match text.dropWhile (· ≠ 44) with
  | [] => text
  | _ :: rest => text.takeWhile (· ≠ 44) ++ 46 :: rest

def pickNumberValue (source : FieldValue) (paths : List (List PathKey)) : Option ℚ :=
  match pickFirstValue source paths with
  | some (.num (.finite x)) => some x
  | some (.str text) =>
    match JsNumeral.toNumber (replaceComma text) with
    | .finite x => some x
    | _ => none
  | _ => none

/-- The age of a child that is given as a number, a text or an object. -/
def rawAge : JsonValue JsFloat → FieldValue
  | .obj child => field child "age"
  | .arr _ => none
  | child => some child

def normalizeChildAge (child : JsonValue JsFloat) : Except String (Option ℤ) := do
  match ← toNumber (rawAge child) with
  | .finite x => return if x < 0 then none else some (JsNumber.round x)
  | _ => return none

def normalizeChildAges : FieldValue → Except String (List ℤ)
  | some (.arr children) => do return (← children.mapM normalizeChildAge).filterMap id
  | _ => .ok []

def normalizeAdults (value : FieldValue) (fallbackValue : ℤ) : Except String ℤ := do
  match ← toNumber value with
  | .finite x => return if x ≤ 0 then fallbackValue else max 1 (JsNumber.round x)
  | _ => return fallbackValue

def extractDefaultAdults (searchData : FieldValue) : Except String ℤ :=
  normalizeAdults
    (some (match pickNumberValue searchData
        [[.name "adults"], [.name "guests", .name "adults"], [.name "occupancy", .name "adults"],
          [.name "rooms", .index 0, .name "adults"]] with
      | some adults => .num (.finite adults)
      | none => .null)) 2

def extractDefaultChildAges (searchData : FieldValue) : Except String (List ℤ) :=
  normalizeChildAges (pickFirstValue searchData
    [[.name "children"], [.name "childAges"], [.name "childrenAges"],
      [.name "guests", .name "children"], [.name "guests", .name "childAges"],
      [.name "guests", .name "childrenAges"], [.name "occupancy", .name "children"],
      [.name "rooms", .index 0, .name "children"], [.name "rooms", .index 0, .name "childAges"],
      [.name "rooms", .index 0, .name "childrenAges"]])

structure Room where
  adults : ℤ
  childAges : List ℤ
deriving DecidableEq

def normalizeRoom (room : JsonValue JsFloat) : Except String Room := do
  let rawChildren := nullish (property (some room) (.name "childAges"))
    (nullish (property (some room) (.name "childrenAges"))
      (nullish (property (some room) (.name "children")) (some (.arr []))))
  let adults ← normalizeAdults (property (some room) (.name "adults")) 1
  return { adults := adults, childAges := ← normalizeChildAges rawChildren }

def normalizeRooms (searchData : FieldValue) : Except String (List Room) :=
  let rawRooms := match property searchData (.name "rooms") with
    | some (.arr rooms) => rooms
    | _ => []
  if rawRooms = [] then do
    let adults ← extractDefaultAdults searchData
    return [{ adults := adults, childAges := ← extractDefaultChildAges searchData }]
  else rawRooms.mapM normalizeRoom

/-! ## 2. Stated ages -/

/-- A number that is stated is the number that a conversion finds. -/
theorem toNumber_of_stated {value : FieldValue} {x : ℚ} (h : statedNumber value = some x) :
    toNumber value = .ok (.finite x) ∧ ∀ child, value = some child → rawAge child = value := by
  have hparsed : parseNumber value = .finite x := by
    unfold statedNumber at h
    split at h
    next hx => rw [hx, Option.some.inj h]
    next => cases h
  rcases value with _ | _ | _ | y | text | _ | _ <;>
    try (cases hparsed; done)
  · obtain rfl : y = .finite x := hparsed
    exact ⟨rfl, fun child hchild => by cases hchild; rfl⟩
  · rw [parseNumber] at hparsed
    split at hparsed
    · cases hparsed
    · rw [JsNumeral.toNumber_trim] at hparsed
      exact ⟨by rw [← hparsed]; rfl, fun child hchild => by cases hchild; rfl⟩

theorem round_natCast (n : ℕ) : JsNumber.round (n : ℚ) = n := by
  rw [JsNumber.round, Int.floor_eq_iff]
  constructor <;> push_cast <;> linarith

/-- A stated age is kept. -/
theorem normalizeChildAge_stated {child : JsonValue JsFloat} {n : ℕ}
    (h : statedNumber (some child) = some (n : ℚ)) : normalizeChildAge child = .ok (some n) := by
  obtain ⟨hnumber, hraw⟩ := toNumber_of_stated h
  rw [normalizeChildAge, hraw child rfl, hnumber]
  show Except.ok (if (n : ℚ) < 0 then none else some (JsNumber.round n)) = _
  rw [if_neg (not_lt.mpr (Nat.cast_nonneg n)), round_natCast]

/-- The ages that a list states. -/
def statedAges (ages : List (JsonValue JsFloat)) : List ℤ :=
  ages.filterMap fun age => (statedNumber (some age)).map JsNumber.round

theorem normalizeChildAges_stated {ages : List (JsonValue JsFloat)}
    (h : ∀ age ∈ ages, ∃ n : ℕ, statedNumber (some age) = some (n : ℚ)) :
    normalizeChildAges (some (.arr ages)) = .ok (statedAges ages) := by
  have hmap : ages.mapM normalizeChildAge =
      .ok (ages.map fun age => (statedNumber (some age)).map JsNumber.round) := by
    refine Fallible.mapM_eq_ok fun age hage => ?_
    obtain ⟨n, hn⟩ := h age hage
    rw [normalizeChildAge_stated hn, hn, Option.map_some, round_natCast]
  rw [normalizeChildAges, hmap]
  show Except.ok ((ages.map _).filterMap id) = _
  rw [List.filterMap_map]
  rfl

/-- A number of children is no list of ages. -/
theorem normalizeChildAges_of_children {value : FieldValue} {n : ℕ}
    (h : isMissing value = true ∨ statedNumber value = some (n : ℚ)) :
    normalizeChildAges (nullish value (some (.arr []))) = .ok [] := by
  rcases value with _ | _ | _ | _ | _ | items | _ <;> try rfl
  rcases h with h | h <;> exact nomatch h

/-- The children of a room that passed its check are those of its list of ages. -/
theorem normalizeRoom_of_accepted {room : Fields} {ages : List (JsonValue JsFloat)}
    (h : AcceptedRoom room ages)
    (hages : ∀ age ∈ ages, ∃ n : ℕ, statedNumber (some age) = some (n : ℚ)) :
    ∃ adults, normalizeRoom (.obj room) = .ok { adults := adults, childAges := statedAges ages } := by
  have hother : field room "childrenAges" = none := by
    refine get_eq_none fun f hf heq => ?_
    have hkey := h.keys f hf
    rw [heq] at hkey
    exact absurd hkey (by decide +kernel)
  have hlist : normalizeChildAges (nullish (field room "childAges")
      (nullish (field room "childrenAges") (nullish (field room "children") (some (.arr []))))) =
      .ok (statedAges ages) := by
    have hages' := h.list
    have hchildren := normalizeChildAges_of_children h.children
    rw [hother]
    unfold roomChildAges at hages'
    split at hages'
    next hnone =>
      obtain rfl := Option.some.inj hages'
      rw [hnone]
      exact hchildren
    next hnull =>
      obtain rfl := Option.some.inj hages'
      rw [hnull]
      exact hchildren
    next hsome =>
      obtain rfl := Option.some.inj hages'
      rw [hsome]
      exact normalizeChildAges_stated hages
    next => exact nomatch hages'
  obtain ⟨n, hadults, hn, -⟩ := h.adults
  refine ⟨max 1 n, ?_⟩
  have hadults' : normalizeAdults (field room "adults") 1 = .ok (max 1 (n : ℤ)) := by
    rw [normalizeAdults, (toNumber_of_stated hadults).1]
    show Except.ok (if (n : ℚ) ≤ 0 then (1 : ℤ) else max 1 (JsNumber.round n)) = _
    rw [if_neg (by push Not; exact_mod_cast hn), round_natCast]
  exact Fallible.bind_ok.mpr ⟨_, hadults', Fallible.bind_ok.mpr ⟨_, hlist, rfl⟩⟩

/-! ## 3. Soundness -/

/-- What a room should be. -/
structure SoundRoom (room : Fields) (ages : List (JsonValue JsFloat)) : Prop where
  adults : ∃ n : ℕ, statedNumber (field room "adults") = some (n : ℚ) ∧ 1 ≤ n ∧ n ≤ maxAdultsPerRoom
  list : roomChildAges room = some ages
  age : ∀ age ∈ ages, ∃ n : ℕ, statedNumber (some age) = some (n : ℚ) ∧ n ≤ maxSmartStayChildAge
  children : ∀ n, statedNumber (field room "children") = some n → n = ages.length

/-- The list of ages of a room. -/
def listedAges : JsonValue JsFloat → List (JsonValue JsFloat)
  | .obj room => (roomChildAges room).getD []
  | _ => []

/-- What the body of a search should say about occupancy, stay and place, and that the occupancy
read from it has the same ages. -/
structure SoundRequest (body : Fields) : Prop where
  rooms : ∃ rooms, field body "rooms" = some (.arr rooms) ∧
    1 ≤ rooms.length ∧ rooms.length ≤ maxRooms ∧ (rooms.map occupants).sum ≤ maxTotalOccupants ∧
    (∀ value ∈ rooms, ∃ room ages, value = .obj room ∧ SoundRoom room ages) ∧
    ∃ occupancy, normalizeRooms (some (.obj body)) = .ok occupancy ∧
      occupancy.map Room.childAges = rooms.map fun value => statedAges (listedAges value)
  stay : ∃ checkIn checkOut,
    parseDateOnly (field body "checkIn") (bodyPath "checkIn") = .ok checkIn ∧
    parseDateOnly (field body "checkOut") (bodyPath "checkOut") = .ok checkOut ∧
    ∃ nights : ℤ, checkOut.timestamp - checkIn.timestamp = msPerDay * nights ∧
      1 ≤ nights ∧ nights ≤ maxStayNights
  coordinates : isMissing (field body "lat") = isMissing (field body "long")

/-- The entries of the lists of ages. -/
def childAgeEntries (body : Fields) : List (JsonValue JsFloat) :=
  match field body "rooms" with
  | some (.arr rooms) => rooms.flatMap listedAges
  | _ => []

/-- A sound body has no entry that is missing. -/
theorem SoundRequest.present {body : Fields} (h : SoundRequest body) :
    ∀ age ∈ childAgeEntries body, isMissing (some age) = false := by
  obtain ⟨rooms, hrooms, -, -, -, hsound, -⟩ := h.rooms
  intro age hage
  rw [childAgeEntries, hrooms] at hage
  obtain ⟨value, hvalue, hage⟩ := List.mem_flatMap.mp hage
  obtain ⟨room, ages, rfl, hroom⟩ := hsound value hvalue
  rw [listedAges, hroom.list] at hage
  obtain ⟨n, hn, -⟩ := hroom.age age hage
  by_contra hmissing
  rw [Bool.not_eq_false] at hmissing
  rw [statedNumber_of_missing hmissing] at hn
  exact nomatch hn

/-- The rooms of a body are read one by one. -/
theorem normalizeRooms_of_rooms {body : Fields} {rooms : List (JsonValue JsFloat)}
    (h : field body "rooms" = some (.arr rooms)) (hne : rooms ≠ []) :
    normalizeRooms (some (.obj body)) = rooms.mapM normalizeRoom := by
  have hproperty : property (some (.obj body)) (.name "rooms") = some (.arr rooms) := h
  rw [normalizeRooms, hproperty]
  exact if_neg hne

/-- An accepted body is sound exactly when no age in its lists of ages is `null` or empty. -/
theorem validateHotelSearchRequest_sound_iff (req : JsonRequest) (body : Fields)
    (h : validateHotelSearchRequest req = .ok body) :
    SoundRequest body ↔ ∀ age ∈ childAgeEntries body, isMissing (some age) = false := by
  refine ⟨SoundRequest.present, fun hpresent => ?_⟩
  obtain ⟨hdestination, hstay, hchecked⟩ := validateHotelSearchRequest_ok h
  obtain ⟨rooms, hrooms, ⟨hmin, hmax⟩, hroom, htotal⟩ := validateRooms_ok hchecked
  have hstated : ∀ value ∈ rooms, ∀ age ∈ listedAges value, isMissing (some age) = false := by
    intro value hvalue age hage
    refine hpresent age ?_
    rw [childAgeEntries, hrooms]
    exact List.mem_flatMap_of_mem hvalue hage
  have hsound : ∀ value ∈ rooms, (∃ room ages, value = .obj room ∧ SoundRoom room ages) ∧
      ∃ adults, normalizeRoom value =
        .ok { adults := adults, childAges := statedAges (listedAges value) } := by
    intro value hvalue
    obtain ⟨room, ages, rfl, haccepted⟩ := hroom value hvalue
    have hlisted : listedAges (.obj room) = ages := by rw [listedAges, haccepted.list]; rfl
    have hages : ∀ age ∈ ages,
        ∃ n : ℕ, statedNumber (some age) = some (n : ℚ) ∧ n ≤ maxSmartStayChildAge := by
      intro age hage
      rcases haccepted.age age hage with hmissing | hstates
      · rw [hstated _ hvalue age (hlisted ▸ hage)] at hmissing
        exact nomatch hmissing
      · exact hstates
    refine ⟨⟨room, ages, rfl, haccepted.adults, haccepted.list, hages, fun n hn => ?_⟩, ?_⟩
    · rcases haccepted.children with hmissing | hchildren
      · rw [statedNumber_of_missing hmissing] at hn
        exact nomatch hn
      · exact Option.some.inj (hn.symm.trans hchildren)
    · rw [hlisted]
      exact normalizeRoom_of_accepted haccepted fun age hage =>
        (hages age hage).imp fun n hn => hn.1
  refine ⟨⟨rooms, hrooms, hmin, hmax, htotal, fun value hvalue => (hsound value hvalue).1, ?_⟩,
    validateStay_ok hstay, validateDestination_ok hdestination⟩
  have hne : rooms ≠ [] := List.ne_nil_of_length_pos hmin
  choose! adults hadults using fun value hvalue => (hsound value hvalue).2
  refine ⟨_, (normalizeRooms_of_rooms hrooms hne).trans (Fallible.mapM_eq_ok hadults), ?_⟩
  rw [List.map_map]
  rfl

/-- A search for two adults, one night and a child of the given age. -/
def sampleBody (age : JsonValue JsFloat) : Fields :=
  [(.ofString "cityName", .str (.ofString "Rome")),
    (.ofString "checkIn", .str (.ofString "2026-08-01")),
    (.ofString "checkOut", .str (.ofString "2026-08-02")),
    (.ofString "rooms", .arr [.obj [(.ofString "adults", .num (.finite 2)),
      (.ofString "childAges", .arr [age])]])]

def sampleRequest (age : JsonValue JsFloat) : JsonRequest :=
  { isJson := true, body := some (.obj (sampleBody age)) }

/-- The age "7". -/
theorem validateHotelSearchRequest_sound_iff_seven :
    ∃ body, validateHotelSearchRequest (sampleRequest (.str (.ofString "7"))) = .ok body ∧
      (SoundRequest body ↔ ∀ age ∈ childAgeEntries body, isMissing (some age) = false) := by
  obtain ⟨body, hbody, -⟩ : ∃ body, validateHotelSearchRequest
      (sampleRequest (.str (.ofString "7"))) = .ok body ∧ true = true :=
    Fallible.exists_ok (p := fun _ => true) (by decide +kernel)
  exact ⟨body, hbody, validateHotelSearchRequest_sound_iff _ body hbody⟩

/-- The age `null`: the body is accepted, and a child of age 0 is made up. -/
theorem null_age_invented :
    ∃ req body, validateHotelSearchRequest req = .ok body ∧ ¬ SoundRequest body ∧
      ((normalizeRooms (some (.obj body))).toOption.map fun rooms => rooms.map Room.childAges) =
        some [[0]] := by
  obtain ⟨body, hbody, htest⟩ := Fallible.exists_ok
    (x := validateHotelSearchRequest (sampleRequest .null))
    (p := fun body => (childAgeEntries body).any (fun age => isMissing (some age)) &&
      ((normalizeRooms (some (.obj body))).toOption.map fun rooms => rooms.map Room.childAges) =
        some [[0]]) (by decide +kernel)
  obtain ⟨hmissing, hages⟩ := Bool.and_eq_true_iff.mp htest
  refine ⟨sampleRequest .null, body, hbody, fun hsound => ?_, of_decide_eq_true hages⟩
  obtain ⟨age, hage, hnull⟩ := List.any_eq_true.mp hmissing
  rw [hsound.present age hage] at hnull
  exact nomatch hnull

end SmartStay.Request
