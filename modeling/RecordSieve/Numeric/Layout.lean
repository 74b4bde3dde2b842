import RecordSieve.Numeric.Shortest

/-!
# Layout of Numbers

How the selected digits of a binary64 number are written. `NumberLayout` holds the decisions of
one output format, and `NumberLayout.render` applies them.
-/

namespace RecordSieve

/-- The decisions of an output format for numbers. -/
structure NumberLayout where
  /-- Which of two equally short and equally near decimals is written. -/
  tie : Tie
  /-- The exponents of the leading digit that are written positionally, the upper bound
  excluded; `none` writes every number positionally. -/
  positional : Option (Int × Int)
  /-- Whether a whole number written positionally ends in `.0`. -/
  pointZero : Bool

namespace NumberLayout

/-- Text of a natural number. -/
def natText (n : Nat) : String := String.ofList (Nat.toDigits 10 n)

/-- Text of an integer: digits after an optional minus. -/
def intText (n : Int) : String :=
  if n < 0 then "-" ++ natText n.natAbs else natText n.natAbs

/-- `n` zeros. -/
def zeros (n : Nat) : List Char := List.replicate n '0'

/-- The digits with the point inside, before or after them. -/
def positionalText (layout : NumberLayout) (d : Decimal) : List Char :=
  let digits := Nat.toDigits 10 d.digits
  if 0 ≤ d.exponent then
    digits ++ zeros d.exponent.toNat ++ if layout.pointZero then ['.', '0'] else []
  else
    let places := (-d.exponent).toNat
    if digits.length ≤ places then
      '0' :: '.' :: zeros (places - digits.length) ++ digits
    else
      let whole := digits.length - places
      digits.take whole ++ '.' :: digits.drop whole

/-- The digits with the point after the first one, and a signed exponent. -/
def scientificText (d : Decimal) : List Char :=
  let digits := Nat.toDigits 10 d.digits
  let leading := d.exponent + digits.length - 1
  let mantissa :=
    match digits with
    | first :: second :: rest => first :: '.' :: second :: rest
    | short => short
  let sign := if leading < 0 then '-' else '+'
  mantissa ++ 'e' :: sign :: Nat.toDigits 10 leading.natAbs

/-- Text of a magnitude. -/
def magnitudeText (layout : NumberLayout) (x : Magnitude) : List Char :=
  if x.units = 0 then layout.positionalText ⟨0, 0⟩
  else
    let d := x.shortest layout.tie
    let leading := d.exponent + digitCount d.digits - 1
    match layout.positional with
    | some (lowest, bound) =>
        if lowest ≤ leading ∧ leading < bound then layout.positionalText d
        else scientificText d
    | none => layout.positionalText d

/-- Text of a number. -/
def render (layout : NumberLayout) : Binary64 → String
  | .nan => "NaN"
  | .infinite negative => if negative then "-inf" else "inf"
  | .finite negative x =>
      let text := layout.magnitudeText x
      String.ofList (if negative then '-' :: text else text)

/-- Values are shown positionally, whole numbers without a point, and a tie goes up. -/
def plain : NumberLayout where
  tie := .up
  positional := none
  pointZero := false

/-- Documents hold numbers of magnitude `10 ^ -5` and above, below `10 ^ 16`, positionally with
at least one digit after the point, and the others with a signed exponent. -/
def document : NumberLayout where
  tie := .even
  positional := some (-5, 16)
  pointZero := true

end NumberLayout

end RecordSieve
