import RecordSieve.Numeric.Digits
import RecordSieve.Toml.Basic

/-!
# Numbers of TOML

Integers in four bases and floats. Single underscores may stand between digits, a decimal number
has no leading zeros, and an integer has to fit 64 bits. A float may be too small for binary64,
and a negative one too large; a positive one that is too large is refused.

## Main definitions

* `Toml.number?`: the number at the start of a text, and the text behind it.
-/

namespace RecordSieve.Toml

/-- Digits with single underscores between them, and the text behind them. -/
def digits? (isDigit : Char → Bool) : List Char → Option (List Char × List Char)
  | [] => none
  | c :: rest =>
      if isDigit c then
        match rest with
        | '_' :: rest => (digits? isDigit rest).map fun (others, rest) => (c :: others, rest)
        | d :: behind =>
            if isDigit d then
              (digits? isDigit (d :: behind)).map fun (others, rest) => (c :: others, rest)
            else some ([c], d :: behind)
        | [] => some ([c], [])
      else none

/-- The digits of a whole decimal number. A zero stands alone. -/
def wholeDigits? : List Char → Option (List Char × List Char)
  | '0' :: rest => some (['0'], rest)
  | text => digits? Char.isDigit text

/-- The sign in front of a number and the text behind it. -/
def sign : List Char → Bool × List Char
  | '-' :: rest => (true, rest)
  | '+' :: rest => (false, rest)
  | text => (false, text)

/-- The integer of a size and a sign, if it fits 64 bits. -/
def integerOf? (negative : Bool) (size : Nat) : Option Toml :=
  if negative then if size ≤ 0x8000000000000000 then some (.integer (-size)) else none
  else if size < 0x8000000000000000 then some (.integer size) else none

/-- An integer in a base other than ten, behind its mark. -/
def integerInBase? (base : Nat) (text : List Char) : Option (Toml × List Char) := do
  let isDigit := fun c : Char => isHexDigit c && decide (hexDigitValue c < base)
  let (digits, rest) ← digits? isDigit text
  let value ← integerOf? false (valueInBase base digits)
  some (value, rest)

/-- The float of digits with a decimal exponent. Exponents beyond every binary64 number are
settled without the power of ten. -/
def floatOf? (negative : Bool) (digits : List Char) (exponent : Int) : Option Toml :=
  let significand := digitsValue digits
  let value :=
    if significand = 0 ∨ exponent + digits.length < -400 then .zero negative
    else if 400 < exponent then .infinite negative
    else if 0 ≤ exponent then Binary64.round negative (significand * Nat.pow 10 exponent.toNat) 1
    else Binary64.round negative significand (Nat.pow 10 exponent.natAbs)
  if value = .infinite false then none else some (.float value)

/-- The exponent at the start of a text, if there is one. -/
def exponent? : List Char → Option (Int × List Char)
  | c :: rest => do
      if c = 'e' ∨ c = 'E' then
        let (negative, rest) := sign rest
        let (digits, rest) ← digits? Char.isDigit rest
        let size : Int := digitsValue digits
        some (if negative then -size else size, rest)
      else some (0, c :: rest)
  | [] => some (0, [])

/-- The number that starts with the given whole digits. -/
def decimal? (negative : Bool) (whole : List Char) : List Char → Option (Toml × List Char)
  | '.' :: rest => do
      let (fraction, rest) ← digits? Char.isDigit rest
      let (exponent, rest) ← exponent? rest
      let value ← floatOf? negative (whole ++ fraction) (exponent - fraction.length)
      some (value, rest)
  | c :: rest => do
      if c = 'e' ∨ c = 'E' then
        let (exponent, rest) ← exponent? (c :: rest)
        let value ← floatOf? negative whole exponent
        some (value, rest)
      else
        let value ← integerOf? negative (digitsValue whole)
        some (value, c :: rest)
  | [] => (integerOf? negative (digitsValue whole)).map (·, [])

/-- The number at the start of a text. -/
def number? (text : List Char) : Option (Toml × List Char) :=
  match text with
  | '0' :: 'x' :: rest => integerInBase? 16 rest
  | '0' :: 'o' :: rest => integerInBase? 8 rest
  | '0' :: 'b' :: rest => integerInBase? 2 rest
  | text =>
      let (negative, rest) := sign text
      match rest with
      | 'i' :: 'n' :: 'f' :: rest => some (.float (.infinite negative), rest)
      | 'n' :: 'a' :: 'n' :: rest => some (.float .nan, rest)
      | rest => do
          let (whole, rest) ← wholeDigits? rest
          decimal? negative whole rest

end RecordSieve.Toml
