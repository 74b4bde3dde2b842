import RecordSieve.Json.Fault

/-!
# Numbers of Documents

The number grammar of JSON as a machine that takes one byte at a time.

A number without point and exponent stays whole if it fits 64 bits. Any other number becomes a
float in two roundings: its digits are gathered into a 64-bit significand for as long as they
fit, later whole digits only raise the decimal exponent and later fraction digits are dropped,
and the significand is then multiplied or divided by the power of ten.

## Main definitions

* `NumberReader`, `NumberReader.step`: the machine;
* `NumberReader.finish`: the number that was read, when nothing is missing;
* `Scaled.toBinary64?`: the float of a significand and a decimal exponent.
-/

namespace RecordSieve.Json

/-- A significand with a decimal exponent and a sign. -/
structure Scaled where
  negative : Bool
  significand : Nat
  exponent : Int
deriving DecidableEq

namespace Scaled

/-- The bound that a significand stays below. -/
def significandBound : Nat := 0x10000000000000000

/-- The greatest power of ten that a float is scaled by at once. -/
def maxPower : Nat := 308

/-- The float nearest to a power of ten. -/
def powerOfTen (n : Nat) : Binary64 := Binary64.ofNat (Nat.pow 10 n)

/-- A float times `10 ^ exponent`, one rounding per step: `none` when it leaves the range. A
negative exponent beyond the greatest power takes several divisions, until nothing is left. -/
def scale? (x : Binary64) (exponent : Int) : Option Binary64 :=
  if exponent.natAbs ≤ maxPower then
    if 0 ≤ exponent then
      let product := x.mul (powerOfTen exponent.natAbs)
      if product.isFinite then some product else none
    else some (x.div (powerOfTen exponent.natAbs))
  else if x = .zero false then some x
  else if 0 ≤ exponent then none
  else scale? (x.div (powerOfTen maxPower)) (exponent + maxPower)
termination_by (-exponent).toNat
decreasing_by
  unfold maxPower at *
  omega

/-- The float of a significand and an exponent, `none` when it leaves the range. -/
def toBinary64? (parts : Scaled) : Option Binary64 :=
  (scale? (Binary64.ofNat parts.significand) parts.exponent).map fun x =>
    if parts.negative then x.neg else x

/-- One more whole digit, if the significand has room for it. -/
def push? (parts : Scaled) (digit : Nat) : Option Scaled :=
  let significand := 10 * parts.significand + digit
  if significand < significandBound then some { parts with significand } else none

end Scaled

/-- What has been read of a number. -/
inductive NumberReader where
  /-- A minus, which needs a digit. -/
  | minus
  /-- A leading zero, after which no digit may come. -/
  | zero (negative : Bool)
  /-- Whole digits that fit the significand. -/
  | whole (negative : Bool) (significand : Nat)
  /-- Whole digits beyond the significand. -/
  | longWhole (parts : Scaled)
  /-- A point, which needs a digit. -/
  | point (parts : Scaled)
  /-- Digits behind the point that fit the significand. -/
  | fraction (parts : Scaled)
  /-- Digits behind the point that are dropped. -/
  | longFraction (parts : Scaled)
  /-- The mark of an exponent, which needs a sign or a digit. -/
  | mark (parts : Scaled)
  /-- The sign of an exponent, which needs a digit. -/
  | sign (parts : Scaled) (below : Bool)
  /-- Digits of an exponent. -/
  | exponent (parts : Scaled) (below : Bool) (value : Nat)
  /-- An exponent that makes any significand vanish. -/
  | vanishing (negative : Bool)
deriving DecidableEq

/-- What one byte does to a number. -/
inductive NumberStep where
  /-- The byte belongs to the number. -/
  | more (reader : NumberReader)
  /-- The number ends in front of the byte. -/
  | ended
  /-- The byte makes the number wrong. -/
  | wrong (cause : Cause)

namespace NumberReader

/-- The bound on the absolute value of an exponent. -/
def exponentBound : Nat := 0x80000000

/-- The value of a byte that is a decimal digit. -/
def digit? (b : UInt8) : Option Nat :=
  if 0x30 ≤ b ∧ b ≤ 0x39 then some (b.toNat - 0x30) else none

/-- A byte behind digits: a point where one is allowed, the mark of an exponent, or the end. -/
def behindDigits (parts : Scaled) (pointAllowed : Bool) (b : UInt8) : NumberStep :=
  if b = 0x2e ∧ pointAllowed then .more (.point parts)
  else if b = 0x65 ∨ b = 0x45 then .more (.mark parts)
  else .ended

/-- A digit behind the point. -/
def fractionDigit (parts : Scaled) (digit : Nat) : NumberReader :=
  match parts.push? digit with
  | some longer => .fraction { longer with exponent := longer.exponent - 1 }
  | none => .longFraction parts

/-- The start of a number, if the byte starts one. -/
def start? (b : UInt8) : Option NumberReader :=
  if b = 0x2d then some .minus
  else
    match digit? b with
    | some 0 => some (.zero false)
    | some digit => some (.whole false digit)
    | none => none

/-- The step of one byte. -/
def step : NumberReader → UInt8 → NumberStep
  | minus, b =>
      match digit? b with
      | some 0 => .more (zero true)
      | some digit => .more (whole true digit)
      | none => .wrong .invalidNumber
  | zero negative, b =>
      match digit? b with
      | some _ => .wrong .invalidNumber
      | none => behindDigits ⟨negative, 0, 0⟩ true b
  | whole negative significand, b =>
      let parts : Scaled := ⟨negative, significand, 0⟩
      match digit? b with
      | some digit =>
          match parts.push? digit with
          | some longer => .more (whole negative longer.significand)
          | none => .more (longWhole { parts with exponent := 1 })
      | none => behindDigits parts true b
  | longWhole parts, b =>
      match digit? b with
      | some _ => .more (longWhole { parts with exponent := parts.exponent + 1 })
      | none => behindDigits parts true b
  | point parts, b =>
      match digit? b with
      | some digit => .more (fractionDigit parts digit)
      | none => .wrong .invalidNumber
  | fraction parts, b =>
      match digit? b with
      | some digit => .more (fractionDigit parts digit)
      | none => behindDigits parts false b
  | longFraction parts, b =>
      match digit? b with
      | some _ => .more (longFraction parts)
      | none => behindDigits parts false b
  | mark parts, b =>
      if b = 0x2b then .more (sign parts false)
      else if b = 0x2d then .more (sign parts true)
      else
        match digit? b with
        | some digit => .more (exponent parts false digit)
        | none => .wrong .invalidNumber
  | sign parts below, b =>
      match digit? b with
      | some digit => .more (exponent parts below digit)
      | none => .wrong .invalidNumber
  | exponent parts below value, b =>
      match digit? b with
      | some digit =>
          let value := 10 * value + digit
          if value < exponentBound then .more (exponent parts below value)
          -- Too great an exponent is refused at once, unless the number is zero all the same.
          else if parts.significand ≠ 0 ∧ ¬ below then .wrong .numberOutOfRange
          else .more (vanishing parts.negative)
      | none => .ended
  | vanishing negative, b =>
      match digit? b with
      | some _ => .more (vanishing negative)
      | none => .ended

/-- A float, unless it leaves the range. -/
def float (parts : Scaled) : Except Cause JsonNumber :=
  match parts.toBinary64? with
  | some x => .ok (.float x)
  | none => .error .numberOutOfRange

/-- A whole number: it stays one if it fits 64 bits, as a natural number or as a negative
one. Negative zero is a float. -/
def wholeNumber (negative : Bool) (significand : Nat) : JsonNumber :=
  if negative then
    if significand = 0 ∨ 0x8000000000000000 < significand then
      .float (Binary64.round true significand 1)
    else .integer (-significand)
  else .integer significand

/-- The number that was read, when nothing is missing. -/
def finish : NumberReader → Except Cause JsonNumber
  | minus => .error .endInValue
  | zero negative => .ok (wholeNumber negative 0)
  | whole negative significand => .ok (wholeNumber negative significand)
  | longWhole parts => float parts
  | point _ => .error .endInValue
  | fraction parts => float parts
  | longFraction parts => float parts
  | mark _ => .error .endInValue
  | sign _ _ => .error .endInValue
  | exponent parts below value =>
      float { parts with
        exponent := if below then parts.exponent - value else parts.exponent + value }
  | vanishing negative => .ok (.float (.zero negative))

end NumberReader

end RecordSieve.Json
