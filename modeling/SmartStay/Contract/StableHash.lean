import SmartStay.Lib.Number
import SmartStay.Lib.Sort
import SmartStay.Lib.Text

/-!
# The stable hash

`engine-v3/contract/stableHashV3.ts`: records are spelled as JSON with sorted keys and the
text is hashed with 32-bit FNV-1a.

1. `Runtime`: what the engines take from the JavaScript runtime without defining it.
2. `Json`, `stableSerialize`.
3. `createStableHash`.
4. `plainRuntime`: a runtime for runs on fixed inputs.
-/

namespace SmartStay.Contract

/-! ## 1. The runtime -/

/-- The spelling of numbers, the collation of texts, the capital letters and the powers. -/
structure Runtime where
  numberText : ℚ → String
  localeCompare : String → String → Ordering
  toUpperCase : String → String
  power : ℚ → ℚ → ℚ

/-- `[...new Set(values)].sort()`. -/
def uniqueSorted (values : List String) : List String :=
  values.dedup.insertionSort JsText.Le

@[simp] theorem mem_uniqueSorted {values : List String} {x : String} :
    x ∈ uniqueSorted values ↔ x ∈ values := by
  simp [uniqueSorted]

theorem nodup_uniqueSorted (values : List String) : (uniqueSorted values).Nodup :=
  (List.perm_insertionSort _ _).nodup_iff.mpr (List.nodup_dedup values)

/-- The texts of a list decide what it is sorted to. -/
theorem uniqueSorted_congr {values values' : List String} (h : ∀ x, x ∈ values ↔ x ∈ values') :
    uniqueSorted values = uniqueSorted values' :=
  JsText.insertionSort_eq_of_perm ((List.perm_ext_iff_of_nodup (List.nodup_dedup _)
    (List.nodup_dedup _)).mpr fun x => by rw [List.mem_dedup, List.mem_dedup, h])

theorem uniqueSorted_eq_nil {values : List String} : uniqueSorted values = [] ↔ values = [] := by
  simp only [List.eq_nil_iff_forall_not_mem, mem_uniqueSorted]

/-- `Math.round((value + Number.EPSILON) * 10 ** digits) / 10 ** digits`. -/
def round (value : ℚ) (digits : Nat) : ℚ :=
  JsNumber.round ((value + 1 / 2 ^ 52) * 10 ^ digits) / 10 ^ digits

theorem round_mono {x y : ℚ} (h : x ≤ y) (digits : Nat) : round x digits ≤ round y digits := by
  have hle : JsNumber.round ((x + 1 / 2 ^ 52) * 10 ^ digits) ≤
      JsNumber.round ((y + 1 / 2 ^ 52) * 10 ^ digits) := by
    refine Int.floor_le_floor ?_
    gcongr
  unfold round
  gcongr

theorem round_nonneg {x : ℚ} (h : 0 ≤ x) (digits : Nat) : 0 ≤ round x digits := by
  have hfloor : 0 ≤ JsNumber.round ((x + 1 / 2 ^ 52) * 10 ^ digits) :=
    Int.floor_nonneg.mpr (by positivity)
  unfold round
  positivity

/-- A rounded number is at most half a unit and the machine epsilon away. -/
theorem round_near (x : ℚ) (digits : Nat) :
    |round x digits - x| ≤ 1 / 2 / 10 ^ digits + 1 / 2 ^ 52 := by
  have hpos : (0 : ℚ) < 10 ^ digits := by positivity
  have hle := Int.floor_le ((x + 1 / 2 ^ 52) * 10 ^ digits + 1 / 2)
  have hlt := Int.lt_floor_add_one ((x + 1 / 2 ^ 52) * 10 ^ digits + 1 / 2)
  have heq : round x digits * 10 ^ digits = ⌊(x + 1 / 2 ^ 52) * 10 ^ digits + 1 / 2⌋ := by
    unfold round JsNumber.round
    exact div_mul_cancel₀ _ hpos.ne'
  have hscale : (1 / 2 / 10 ^ digits + 1 / 2 ^ 52 : ℚ) * 10 ^ digits =
      1 / 2 + 1 / 2 ^ 52 * 10 ^ digits := by field_simp
  have hslack : (0 : ℚ) < 1 / 2 ^ 52 * 10 ^ digits := by positivity
  rw [abs_le]
  constructor <;> refine le_of_mul_le_mul_right ?_ hpos
  · rw [sub_mul, heq, neg_mul, hscale]
    linarith
  · rw [sub_mul, heq, hscale]
    linarith

/-- A number of few enough decimals is not changed. -/
theorem round_of_decimal {n : Int} {digits : Nat} (h : digits ≤ 15) :
    round (n / 10 ^ digits) digits = n / 10 ^ digits := by
  have hpos : (0 : ℚ) < 10 ^ digits := by positivity
  have hslack : (10 : ℚ) ^ digits ≤ 10 ^ 15 := by gcongr; norm_num
  have hfloor : JsNumber.round ((n / 10 ^ digits + 1 / 2 ^ 52) * 10 ^ digits) = n := by
    unfold JsNumber.round
    rw [add_mul, div_mul_cancel₀ _ hpos.ne', Int.floor_eq_iff]
    constructor
    · have : (0 : ℚ) ≤ 1 / 2 ^ 52 * 10 ^ digits := by positivity
      linarith
    · have : (1 : ℚ) / 2 ^ 52 * 10 ^ digits ≤ 1 / 2 ^ 52 * 10 ^ 15 := by gcongr
      norm_num at this ⊢
      linarith
  unfold round
  rw [hfloor]

/-! ## 2. Serialization -/

/-- The values that `stableSerializeV3` accepts. -/
inductive Json
  | null
  | bool (b : Bool)
  | num (x : ℚ)
  | str (s : String)
  | arr (values : List Json)
  | obj (fields : List (String × Json))

namespace Json

/-- A string or `null`. -/
def text? : Option String → Json
  | none => .null
  | some s => .str s

/-- A number or `null`. -/
def num? : Option ℚ → Json
  | none => .null
  | some x => .num x

def texts (values : List String) : Json := .arr (values.map .str)

end Json

def hexDigit (n : Nat) : Char := "0123456789abcdef".toList.getD n '0'

/-- The escape of a character in `JSON.stringify` of a string. -/
def escape (c : Char) : List Char :=
  if c = '"' then ['\\', '"']
  else if c = '\\' then ['\\', '\\']
  else if c.toNat = 8 then ['\\', 'b']
  else if c.toNat = 9 then ['\\', 't']
  else if c.toNat = 10 then ['\\', 'n']
  else if c.toNat = 12 then ['\\', 'f']
  else if c.toNat = 13 then ['\\', 'r']
  else if c.toNat < 32 then
    ['\\', 'u', '0', '0', hexDigit (c.toNat / 16), hexDigit (c.toNat % 16)]
  else [c]

/-- `JSON.stringify` of a string. -/
def quote (s : String) : String :=
  "\"" ++ String.ofList (s.toList.flatMap escape) ++ "\""

mutual

/-- `stableSerializeV3`. -/
def stableSerialize (rt : Runtime) : Json → String
  | .null => "null"
  | .bool b => if b then "true" else "false"
  | .num x => rt.numberText x
  | .str s => quote s
  | .arr values => "[" ++ ",".intercalate (serializeValues rt values) ++ "]"
  | .obj fields =>
    "\x7b" ++ ",".intercalate (((serializeFields rt fields).insertionSort fun first second =>
      JsText.Le first.1 second.1).map fun field => quote field.1 ++ ":" ++ field.2) ++ "\x7d"

/-- The values of an array. -/
def serializeValues (rt : Runtime) : List Json → List String
  | [] => []
  | value :: rest => stableSerialize rt value :: serializeValues rt rest

/-- The keys of a record with their values. -/
def serializeFields (rt : Runtime) : List (String × Json) → List (String × String)
  | [] => []
  | (key, value) :: rest => (key, stableSerialize rt value) :: serializeFields rt rest

end

theorem intercalate_cons (separator first : String) (rest : List String) :
    ∃ more, separator.intercalate (first :: rest) = first ++ more := by
  cases rest with
  | nil => exact ⟨"", by simp⟩
  | cons next rest =>
    exact ⟨separator ++ separator.intercalate (next :: rest), by
      rw [String.intercalate_cons_cons, String.append_assoc]⟩

theorem serializeFields_eq (rt : Runtime) (fields : List (String × Json)) :
    serializeFields rt fields = fields.map fun field => (field.1, stableSerialize rt field.2) := by
  induction fields with
  | nil => rfl
  | cons field rest ih => rw [serializeFields, ih, List.map_cons]

/-- A record is spelled from its smallest key on. -/
theorem stableSerialize_first (rt : Runtime) {fields : List (String × Json)} {key : String}
    {value : Json} (hmem : (key, value) ∈ fields) (hkeys : (fields.map Prod.fst).Nodup)
    (hleast : ∀ k ∈ fields.map Prod.fst, JsText.Le key k) : ∃ rest,
      stableSerialize rt (.obj fields) =
        "\x7b" ++ (quote key ++ ":" ++ stableSerialize rt value) ++ rest := by
  obtain ⟨sorted, hsorted⟩ : ∃ sorted, (serializeFields rt fields).insertionSort
      (fun first second => JsText.Le first.1 second.1) = sorted := ⟨_, rfl⟩
  have hperm : sorted.Perm (serializeFields rt fields) := hsorted ▸ List.perm_insertionSort _ _
  have hin : (key, stableSerialize rt value) ∈ sorted := by
    rw [hperm.mem_iff, serializeFields_eq]
    exact List.mem_map_of_mem (f := fun field => (field.1, stableSerialize rt field.2)) hmem
  have hpairwise : sorted.Pairwise fun first second => JsText.Le first.1 second.1 := by
    have : Std.Total fun first second : String × String => JsText.Le first.1 second.1 :=
      ⟨fun first second => Std.Total.total (r := JsText.Le) first.1 second.1⟩
    have : IsTrans (String × String) fun first second => JsText.Le first.1 second.1 :=
      ⟨fun first second third => IsTrans.trans (r := JsText.Le) first.1 second.1 third.1⟩
    exact hsorted ▸ List.pairwise_insertionSort _ _
  rw [stableSerialize, hsorted]
  cases sorted with
  | nil => cases hin
  | cons first tail =>
    have hfirst : first = (key, stableSerialize rt value) := by
      rcases List.mem_cons.mp hin with heq | htail
      · exact heq.symm
      · have hle := (List.pairwise_cons.mp hpairwise).1 _ htail
        have hfirst := hperm.mem_iff.mp (List.mem_cons_self (a := first) (l := tail))
        rw [serializeFields_eq] at hfirst
        obtain ⟨field, hfield, rfl⟩ := List.mem_map.mp hfirst
        have hkey : field.1 = key := JsText.utf16_injective
          (le_antisymm hle (hleast _ (List.mem_map_of_mem hfield)))
        have heq : field = (key, value) := List.inj_on_of_nodup_map hkeys hfield hmem hkey
        rw [heq]
    obtain ⟨rest, hrest⟩ := intercalate_cons "," (quote key ++ ":" ++ stableSerialize rt value)
      (tail.map fun field => quote field.1 ++ ":" ++ field.2)
    refine ⟨rest ++ "\x7d", ?_⟩
    rw [List.map_cons, hfirst, hrest]
    simp only [String.append_assoc]

/-! ## 3. The hash -/

/-- One round of FNV-1a: `hash ^= unit; hash = Math.imul(hash, 0x01000193) >>> 0`. -/
def fnvRound (hash unit : Nat) : Nat := (hash ^^^ unit) * 0x01000193 % 2 ^ 32

/-- `hash.toString(16).padStart(8, "0")`. -/
def hex8 (hash : Nat) : String :=
  String.ofList ((List.range 8).map fun i => hexDigit (hash / 16 ^ (7 - i) % 16))

def createFnv1a32 (value : String) : String :=
  hex8 ((JsText.utf16 value).foldl fnvRound 0x811c9dc5)

def createStableHash (rt : Runtime) (value : Json) (namespaceName : String) : String :=
  "fnv1a32-" ++ createFnv1a32 (namespaceName ++ "\n" ++ stableSerialize rt value)

/-- `/^fnv1a32-[0-9a-f]{8}$/`. -/
def isStableHash (value : String) : Bool :=
  value.toList.take 8 = "fnv1a32-".toList && (value.toList.drop 8).length = 8 &&
    (value.toList.drop 8).all JsText.isLowerHex

theorem isStableHash_hex8 (hash : Nat) : isStableHash ("fnv1a32-" ++ hex8 hash) = true := by
  have hdigit : ∀ n < 16, JsText.isLowerHex (hexDigit n) = true := by decide
  have hhex : (hex8 hash).toList.length = 8 ∧ (hex8 hash).toList.all JsText.isLowerHex = true := by
    rw [hex8, String.toList_ofList]
    refine ⟨by simp, List.all_eq_true.mpr fun c hc => ?_⟩
    obtain ⟨i, -, rfl⟩ := List.mem_map.mp hc
    exact hdigit _ (Nat.mod_lt _ (by decide))
  have htext : ("fnv1a32-" ++ hex8 hash).toList = "fnv1a32-".toList ++ (hex8 hash).toList :=
    String.toList_append
  unfold isStableHash
  rw [htext, List.take_left' (by rfl), List.drop_left' (by rfl), hhex.1, hhex.2]
  rfl

theorem isStableHash_createStableHash (rt : Runtime) (value : Json) (namespaceName : String) :
    isStableHash (createStableHash rt value namespaceName) = true :=
  isStableHash_hex8 _

/-- Eight digits tell 32-bit numbers apart. -/
theorem hex8_inj {m n : Nat} (hm : m < 2 ^ 32) (hn : n < 2 ^ 32) (h : hex8 m = hex8 n) : m = n := by
  have hdigits : ∀ a < 16, ∀ b < 16, hexDigit a = hexDigit b → a = b := by decide
  have hlist := congrArg String.toList h
  rw [hex8, hex8, String.toList_ofList, String.toList_ofList, List.map_inj_left] at hlist
  have hplace : ∀ i < 8, m / 16 ^ (7 - i) % 16 = n / 16 ^ (7 - i) % 16 := fun i hi =>
    hdigits _ (Nat.mod_lt _ (by decide)) _ (Nat.mod_lt _ (by decide))
      (hlist i (List.mem_range.mpr hi))
  have h0 := hplace 0 (by decide)
  have h1 := hplace 1 (by decide)
  have h2 := hplace 2 (by decide)
  have h3 := hplace 3 (by decide)
  have h4 := hplace 4 (by decide)
  have h5 := hplace 5 (by decide)
  have h6 := hplace 6 (by decide)
  have h7 := hplace 7 (by decide)
  norm_num at h0 h1 h2 h3 h4 h5 h6 h7
  omega

/-! ## 4. A runtime for examples -/

/-- The spelling of a number with at most six decimals. -/
def decimalText (x : ℚ) : String :=
  let n := (JsNumber.round (|x| * 1000000)).toNat
  let decimals := (List.range 6).map fun i => hexDigit (n / 10 ^ (5 - i) % 10)
  let significant := (decimals.reverse.dropWhile (· = '0')).reverse
  (if x < 0 then "-" else "") ++ toString (n / 1000000) ++
    if significant = [] then "" else "." ++ String.ofList significant

/-- The runtime on numbers with at most six decimals, lower-case ASCII ids and capital
    currencies, for evaluations without a budget, which take no powers. -/
def plainRuntime : Runtime where
  numberText := decimalText
  localeCompare first second := compare (JsText.utf16 first) (JsText.utf16 second)
  toUpperCase text := text
  power base _ := base

example : createStableHash plainRuntime (.obj [("b", .num (1 / 4)), ("a", .str "x")]) "" =
    "fnv1a32-a746feb3" := by decide +kernel

end SmartStay.Contract
