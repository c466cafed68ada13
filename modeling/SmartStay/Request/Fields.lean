import SmartStay.Lib.JsValue
import SmartStay.Request.Structure

/-!
# The fields of a request body

The checks of `server/validation/requestValidation.js` on single fields. A field that the body does
not have is `undefined`, here `none`.

1. `JsonRequest`, `validateJsonRequest`, `assertAllowedKeys`.
2. Texts: `normalizeRequiredString`, `normalizeOptionalString`.
3. Numbers: `normalizeOptionalNumber`, `normalizeOptionalNumber_ok`.
4. Dates: `parseDateOnly`, `parseDateOnly_timestamp`.
-/

namespace SmartStay.Request

open JsonValue JsValue

/-- The value of an optional field. -/
abbrev FieldValue := JsValue

abbrev Fields := List (JsString × JsonValue JsFloat)

/-- `object.name`. -/
def field (fields : Fields) (name : String) : FieldValue := get fields (.ofString name)

/-- Throw when a test holds. -/
def throwWhen (c : Prop) [Decidable c] (e : RequestError) : Except RequestError Unit :=
  if c then .error e else .ok ()

theorem throwWhen_ok {c : Prop} [Decidable c] {e : RequestError} {u : Unit} :
    throwWhen c e = .ok u ↔ ¬ c := by
  unfold throwWhen
  split <;> simp [*]

/-! ## 1. Bodies -/

/-- What the server was sent: whether the content type is JSON, and the parsed body. -/
structure JsonRequest where
  isJson : Bool
  body : FieldValue

def validateJsonRequest (req : JsonRequest) : Except RequestError Fields :=
  if req.isJson = false then
    .error { code := "UNSUPPORTED_MEDIA_TYPE", message := "Content-Type must be application/json.",
             status := 415, field := .ofString "headers.content-type" }
  else
    match req.body with
    | some (.obj fields) => do
      assertSafeStructure (.ofString "body") 0 (.obj fields)
      return fields
    | _ => .error { message := "The request body must be a JSON object.", field := .ofString "body" }

def assertAllowedKeys (fields : Fields) (allowedKeys : List String) (path : JsString) :
    Except RequestError Unit :=
  fields.forM fun field =>
    throwWhen (field.1 ∉ allowedKeys.map JsString.ofString)
      { message := "The request contains an unsupported field.", field := keyPath path field.1 }

/-! ## 2. Texts -/

structure StringOptions where
  field : JsString
  code : String := "INVALID_REQUEST"
  message : String := "A required value is missing."
  minLength : Nat := 1
  maxLength : Nat := maxGenericStringLength
  pattern : JsString → Bool := fun _ => true

def normalizeRequiredString (value : FieldValue) (options : StringOptions) :
    Except RequestError JsString :=
  let normalized := match value with
    | some (.str text) => text.trim
    | _ => []
  if normalized.length < options.minLength ∨ options.maxLength < normalized.length ∨
      options.pattern normalized = false then
    .error { code := options.code, message := options.message, field := options.field }
  else .ok normalized

def normalizeOptionalString (value : FieldValue) (options : StringOptions) :
    Except RequestError (Option JsString) :=
  if isMissing value then .ok none
  else do
    return some (← normalizeRequiredString value
      { options with code := "INVALID_REQUEST", message := "A request value is invalid.",
                     minLength := 1 })

/-! ## 3. Numbers -/

structure NumberOptions where
  field : JsString
  minimum : JsFloat := .negInfinity
  maximum : JsFloat := .posInfinity
  integer : Bool := false
  code : String := "INVALID_REQUEST"
  message : String := "A numeric request value is invalid."

/-- `parsed` of `normalizeOptionalNumber`. -/
def parseNumber : FieldValue → JsFloat
  | some (.num x) => x
  | some (.str text) => if text.trim = [] then .nan else JsNumeral.toNumber text.trim
  | _ => .nan

def normalizeOptionalNumber (value : FieldValue) (options : NumberOptions) :
    Except RequestError (Option ℚ) :=
  if isMissing value then .ok none
  else
    match parseNumber value with
    | .finite x =>
      if (options.integer ∧ x.den ≠ 1) ∨ (JsFloat.finite x).lt options.minimum ∨
          options.maximum.lt (.finite x) then
        .error { code := options.code, message := options.message, field := options.field }
      else .ok (some x)
    | _ => .error { code := options.code, message := options.message, field := options.field }

/-- The number that a value states. -/
def statedNumber (value : FieldValue) : Option ℚ :=
  match parseNumber value with
  | .finite x => some x
  | _ => none

theorem statedNumber_of_missing {value : FieldValue} (h : isMissing value = true) :
    statedNumber value = none := by
  rcases value with _ | _ | _ | _ | ⟨_ | _⟩ | _ | _ <;>
    first | rfl | exact absurd h (by simp [isMissing])

/-- An accepted value is missing, or states an acceptable number. -/
theorem normalizeOptionalNumber_ok {value : FieldValue} {options : NumberOptions} {r : Option ℚ}
    (h : normalizeOptionalNumber value options = .ok r) :
    r = statedNumber value ∧ (isMissing value = true ↔ r = none) ∧
    ∀ x, r = some x → (options.integer = true → x.den = 1) ∧
      (JsFloat.finite x).lt options.minimum = false ∧ options.maximum.lt (.finite x) = false := by
  unfold normalizeOptionalNumber at h
  by_cases hmissing : isMissing value = true
  · rw [if_pos hmissing] at h
    obtain rfl := Except.ok.inj h
    exact ⟨(statedNumber_of_missing hmissing).symm, iff_of_true hmissing rfl, nofun⟩
  · rw [if_neg hmissing] at h
    cases hparsed : parseNumber value with
    | finite x =>
      rw [hparsed] at h
      obtain ⟨hbounds, h⟩ := Fallible.errorIf_ok.mp h
      obtain rfl := Except.ok.inj h
      push Not at hbounds
      refine ⟨by rw [statedNumber, hparsed], iff_of_false hmissing nofun, ?_⟩
      rintro _ ⟨⟩
      exact ⟨hbounds.1, by simpa using hbounds.2.1, by simpa using hbounds.2.2⟩
    | posInfinity => simp [hparsed] at h
    | negInfinity => simp [hparsed] at h
    | nan => simp [hparsed] at h

/-- A whole number between two natural numbers. -/
theorem exists_nat_of_bounds {x : ℚ} {a b : ℕ} (hint : x.den = 1)
    (hmin : (JsFloat.finite x).lt (.finite a) = false)
    (hmax : (JsFloat.finite b).lt (.finite x) = false) : ∃ n : ℕ, x = n ∧ a ≤ n ∧ n ≤ b := by
  simp only [JsFloat.lt, decide_eq_false_iff_not, not_lt] at hmin hmax
  have hx : x = (x.num : ℚ) := ((Rat.den_eq_one_iff x).mp hint).symm
  have hnonneg : 0 ≤ x.num := Rat.num_nonneg.mpr ((Nat.cast_nonneg a).trans hmin)
  obtain ⟨n, hn⟩ := Int.eq_ofNat_of_zero_le hnonneg
  have hxn : x = (n : ℚ) := by rw [hx, hn, Int.cast_natCast]
  rw [hxn] at hmin hmax
  exact ⟨n, hxn, by exact_mod_cast hmin, by exact_mod_cast hmax⟩

/-! ## 4. Dates -/

/-- A character of `[A-Za-z]`. -/
def isLetter (u : CodeUnit) : Bool := (65 ≤ u.val && u.val ≤ 90) || (97 ≤ u.val && u.val ≤ 122)

/-- `DATE_ONLY_PATTERN`. -/
def datePattern (text : JsString) : Bool :=
  text.length = 10 && (text.take 4).all JsNumeral.isDigit && text[4]? = some 45 &&
    ((text.drop 5).take 2).all JsNumeral.isDigit && text[7]? = some 45 &&
    (text.drop 8).all JsNumeral.isDigit

/-- The day of a date, counted from 1970: months and days past the end go on in the next year or
month. -/
def dayFromDate (year month date : ℤ) : ℤ :=
  let y := (if (month - 1) % 12 < 2 then year - 1 else year) + (month - 1) / 12
  let m := ((month - 1) % 12 + 10) % 12
  y * 365 + y / 4 - y / 100 + y / 400 + (153 * m + 2) / 5 + date - 1 - 719468

/-- `getUTCFullYear()`, `getUTCMonth() + 1` and `getUTCDate()` of a day. -/
def dateFromDay (day : ℤ) : ℤ × ℤ × ℤ :=
  let z := day + 719468
  let era := z / 146097
  let dayOfEra := z % 146097
  let yearOfEra :=
    (dayOfEra - dayOfEra / 1460 + dayOfEra / 36524 - dayOfEra / 146096) / 365
  let dayOfYear := dayOfEra - (365 * yearOfEra + yearOfEra / 4 - yearOfEra / 100)
  let m := (5 * dayOfYear + 2) / 153
  let month := if m < 10 then m + 3 else m - 9
  ((if month ≤ 2 then 1 else 0) + yearOfEra + era * 400, month, dayOfYear - (153 * m + 2) / 5 + 1)

def msPerDay : ℤ := 86400000

/-- `Date.UTC(year, month - 1, day)`: years before 100 are of the twentieth century. -/
def dateUTC (year month day : ℤ) : ℤ :=
  msPerDay * dayFromDate (if 0 ≤ year ∧ year ≤ 99 then 1900 + year else year) month day

structure DateOnly where
  value : JsString
  timestamp : ℤ
deriving DecidableEq

def parseDateOnly (value : FieldValue) (field : JsString) : Except RequestError DateOnly := do
  let normalized ← normalizeRequiredString value
    { field := field, maxLength := 10, pattern := datePattern, code := "INVALID_SEARCH_REQUEST",
      message := "Dates must use YYYY-MM-DD format." }
  let year : ℤ := JsNumeral.digitsValue 10 (normalized.take 4)
  let month : ℤ := JsNumeral.digitsValue 10 ((normalized.drop 5).take 2)
  let day : ℤ := JsNumeral.digitsValue 10 (normalized.drop 8)
  let timestamp := dateUTC year month day
  throwWhen (dateFromDay (timestamp / msPerDay) ≠ (year, month, day))
    { code := "INVALID_SEARCH_REQUEST", message := "A search date is not valid.", field := field }
  return { value := normalized, timestamp := timestamp }

example : (parseDateOnly (some (.str (.ofString "2024-02-29"))) []).toOption.isSome = true := by
  decide +kernel

example : (parseDateOnly (some (.str (.ofString "2023-02-29"))) []).toOption.isSome = false := by
  decide +kernel

/-- Dates are whole days apart. -/
theorem parseDateOnly_timestamp {value : FieldValue} {field : JsString} {date : DateOnly}
    (h : parseDateOnly value field = .ok date) : ∃ day : ℤ, date.timestamp = msPerDay * day := by
  obtain ⟨_, -, h⟩ := Fallible.bind_ok.mp h
  obtain ⟨_, -, h⟩ := Fallible.bind_ok.mp h
  cases h
  exact ⟨_, rfl⟩

end SmartStay.Request
