import SmartStay.Lib.JsFloat
import SmartStay.Lib.JsonValue
import SmartStay.Lib.Number
import Mathlib.Data.Int.Log

/-!
# Numbers from text

`Number(text)`: white space around a numeral is skipped, the empty text is zero, and the value of
a numeral is rounded to the nearest double.

1. `JsString.trim`.
2. `roundToDouble`: the nearest double, halves to the even one.
3. `toNumber` and its grammar, `toNumber_trim`.
-/

namespace JsString

/-! ## 1. White space -/

/-- A white space or a line terminator. -/
def isSpace (u : CodeUnit) : Bool :=
  (9 ≤ u.val && u.val ≤ 13) || u.val = 0x20 || u.val = 0xA0 || u.val = 0x1680 ||
  (0x2000 ≤ u.val && u.val ≤ 0x200A) || u.val = 0x2028 || u.val = 0x2029 ||
  u.val = 0x202F || u.val = 0x205F || u.val = 0x3000 || u.val = 0xFEFF

/-- `text.trim()`. -/
def trim (text : JsString) : JsString := JsText.trimList isSpace text

theorem trim_trim (text : JsString) : text.trim.trim = text.trim :=
  JsText.trimList_trimList isSpace text

theorem trim_of_no_space {text : JsString} (h : ∀ u ∈ text, isSpace u = false) :
    text.trim = text := by
  have hfront : text.dropWhile isSpace = text :=
    List.dropWhile_eq_self_iff.mpr fun hl => by simp [h _ (List.getElem_mem hl)]
  rw [trim, JsText.trimList, hfront]
  exact List.rdropWhile_eq_self_iff.mpr fun hl => by simp [h _ (List.getLast_mem hl)]

end JsString

namespace JsNumeral

/-! ## 2. Doubles -/

/-- The nearest integer, halves to the even one. -/
def roundEven (x : ℚ) : ℤ :=
  let floor := ⌊x⌋
  if x - floor < 1 / 2 then floor
  else if 1 / 2 < x - floor then floor + 1
  else floor + floor % 2

/-- The nearest double, with 52 bits of fraction and exponents from -1022 to 1023. -/
def roundToDouble (x : ℚ) : JsFloat :=
  let unit : ℚ := 2 ^ (max (-1022) (Int.log 2 |x|) - 52)
  if |x| < (2 ^ 53 - 1 / 2) * 2 ^ 971 then .finite (roundEven (x / unit) * unit)
  else if 0 < x then .posInfinity
  else .negInfinity

/-! ## 3. Numerals -/

def isDigit (u : CodeUnit) : Bool := 48 ≤ u.val && u.val ≤ 57

/-- The value of a digit in any base up to 36. -/
def digitValue (u : CodeUnit) : Nat :=
  if u.val < 58 then u.val - 48 else if u.val < 91 then u.val - 55 else u.val - 87

def isDigitOf (base : Nat) (u : CodeUnit) : Bool :=
  (isDigit u || (65 ≤ u.val && u.val ≤ 90) || (97 ≤ u.val && u.val ≤ 122)) &&
    digitValue u < base

def digitsValue (base : Nat) (digits : JsString) : Nat :=
  digits.foldl (fun n u => base * n + digitValue u) 0

/-- A sign that may be left out, and what follows it. -/
def readSign : JsString → ℤ × JsString
  | [] => (1, [])
  | u :: rest => if u.val = 43 then (1, rest) else if u.val = 45 then (-1, rest) else (1, u :: rest)

/-- `ExponentPart`, which may be left out. -/
def readExponent : JsString → Option ℤ
  | [] => some 0
  | u :: rest =>
    if u.val = 101 ∨ u.val = 69 then
      let (sign, digits) := readSign rest
      if digits ≠ [] ∧ digits.all isDigit then some (sign * digitsValue 10 digits) else none
    else none

/-- The digits after a decimal point, and what follows them. -/
def readFraction : JsString → JsString × JsString
  | [] => ([], [])
  | u :: rest => if u.val = 46 then rest.span isDigit else ([], u :: rest)

/-- `StrUnsignedDecimalLiteral`, without `Infinity`. -/
def readDecimal (text : JsString) : Option ℚ :=
  let (whole, rest) := text.span isDigit
  let (fraction, rest) := readFraction rest
  if whole = [] ∧ fraction = [] then none
  else (readExponent rest).map fun exponent : ℤ =>
    (digitsValue 10 (whole ++ fraction) : ℚ) * 10 ^ (exponent - (fraction.length : ℤ))

/-- `NonDecimalIntegerLiteral`. -/
def readNonDecimal : JsString → Option ℚ
  | zero :: letter :: digits =>
    let base := if letter.val = 98 ∨ letter.val = 66 then 2
      else if letter.val = 111 ∨ letter.val = 79 then 8
      else if letter.val = 120 ∨ letter.val = 88 then 16 else 0
    if zero.val = 48 ∧ digits ≠ [] ∧ digits.all (isDigitOf base) then some (digitsValue base digits)
    else none
  | _ => none

/-- `Number(text)`. -/
def toNumber (text : JsString) : JsFloat :=
  let text := text.trim
  if text = [] then .finite 0
  else
    match readNonDecimal text with
    | some x => roundToDouble x
    | none =>
      let (sign, unsigned) := readSign text
      if unsigned = .ofString "Infinity" then (if sign = 1 then .posInfinity else .negInfinity)
      else
        match readDecimal unsigned with
        | some x => roundToDouble (sign * x)
        | none => .nan

@[simp] theorem toNumber_nil : toNumber [] = .finite 0 := rfl

/-- White space around a numeral is skipped twice for once. -/
theorem toNumber_trim (text : JsString) : toNumber text.trim = toNumber text := by
  unfold toNumber
  rw [JsString.trim_trim]

example : toNumber (.ofString " +1.5e1 ") = .finite 15 := by decide +kernel

example : toNumber (.ofString "0x1F") = .finite 31 := by decide +kernel

example : toNumber (.ofString "9007199254740993") = .finite 9007199254740992 := by decide +kernel

end JsNumeral
