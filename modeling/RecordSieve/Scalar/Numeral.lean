import RecordSieve.Numeric.Digits
import RecordSieve.Scalar.Basic
import RecordSieve.Scalar.SizeUnit

/-!
# Numerals

Bare numbers as conditions and text fields write them: ASCII digits, perhaps a point and more
digits, perhaps a size unit (`2`, `3.14`, `15K`, `1.5Gi`).

## Main definitions

* `Numeral.ofText?`: the numeral that a text writes;
* `Numeral.mantissa`: the value before the unit, an integer if it fits 64 bits;
* `Numeral.value`: the value with the unit, which makes it a float.
-/

namespace RecordSieve

/-- The parts of a bare number. -/
structure Numeral where
  /-- The digits before the point, at least one. -/
  whole : List Char
  /-- The digits after the point, at least one if there is a point. -/
  fraction : Option (List Char)
  /-- The unit behind the digits. -/
  unit : Option SizeUnit
deriving DecidableEq

namespace Numeral

/-- The unit at the end of a numeral, which may be missing. -/
def unitOfText? : List Char → Option (Option SizeUnit)
  | [] => some none
  | text => (SizeUnit.ofSuffix? text).map some

/-- The numeral that a text writes from its first character to its last. -/
def ofText? (text : List Char) : Option Numeral :=
  let whole := text.takeWhile Char.isDigit
  if whole = [] then none
  else
    match text.dropWhile Char.isDigit with
    | '.' :: rest =>
        let fraction := rest.takeWhile Char.isDigit
        if fraction = [] then none
        else (unitOfText? (rest.dropWhile Char.isDigit)).map (⟨whole, some fraction, ·⟩)
    | rest => (unitOfText? rest).map (⟨whole, none, ·⟩)

/-- The text of a numeral. -/
def toText (n : Numeral) : List Char :=
  n.whole ++
    (match n.fraction with
      | some fraction => '.' :: fraction
      | none => []) ++
    match n.unit with
    | some unit => unit.suffix
    | none => []

/-- The value before the unit: an integer if there is no point and it fits 64 bits, otherwise
the nearest float. -/
def mantissa (n : Numeral) : Scalar :=
  match n.fraction with
  | some fraction =>
      .float (Binary64.round false (digitsValue (n.whole ++ fraction)) (Nat.pow 10 fraction.length))
  | none =>
      let value := digitsValue n.whole
      if value < 0x8000000000000000 then .int (Int64.ofNat value) else .float (Binary64.ofNat value)

/-- The value of a numeral. A unit multiplies the nearest float of the mantissa. -/
def value (n : Numeral) : Scalar :=
  match n.unit, n.mantissa with
  | some unit, .int m => .float ((Binary64.ofInt m.toInt).mul unit.multiplier)
  | some unit, .float x => .float (x.mul unit.multiplier)
  | _, mantissa => mantissa

end Numeral

end RecordSieve
