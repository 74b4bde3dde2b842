import RecordSieve.Numeric.Binary64

/-!
# Shortest Decimals

The decimal with the fewest digits that reads back to a given magnitude, selected by exact
arithmetic. The values that round to a magnitude form an interval, which holds its ends when
the significand is even. The first decimal grid with a point in that interval wins; of two
such points the nearer one is taken, and an exact tie is left to the caller.

## Main definitions

* `Magnitude.ReadsBack`: a decimal lies in the interval of the values that round to a magnitude;
* `Magnitude.shortest`: the selected decimal.
-/

namespace RecordSieve

/-- The decimal `digits * 10 ^ exponent`. -/
structure Decimal where
  digits : Nat
  exponent : Int
deriving DecidableEq

/-- Which of two equally near decimals is taken. -/
inductive Tie where
  /-- The one with an even last digit. -/
  | even
  /-- The greater one. -/
  | up
deriving DecidableEq

/-- How many decimal digits a natural number has; zero has one. -/
def digitCount (n : Nat) : Nat := (Nat.toDigits 10 n).length

namespace Decimal

/-- The comparison of a decimal with the quotient `num / den`. -/
def compareQuotient (d : Decimal) (num den : Nat) : Ordering :=
  compare (d.digits * Nat.pow 10 d.exponent.toNat * den)
    (num * Nat.pow 10 (-d.exponent).toNat)

/-- Moves trailing zeros of the digits into the exponent, as often as `places` allows. -/
def stripZeros (d : Decimal) : Nat → Decimal
  | 0 => d
  | places + 1 =>
      if d.digits ≠ 0 ∧ d.digits % 10 = 0 then
        stripZeros ⟨d.digits / 10, d.exponent + 1⟩ places
      else d

end Decimal

namespace Magnitude

/-- Whether the gap to the next smaller magnitude is half the gap to the next greater one. -/
def narrowBelow (x : Magnitude) : Bool := x.significand = 0x10000000000000 && x.shift ≠ 0

/-- The lower end of the interval of values that round to the magnitude, in quarters of its
last place. -/
def lowerEnd (x : Magnitude) : Nat :=
  if x.narrowBelow then 4 * x.significand - 1 else 4 * x.significand - 2

/-- The upper end of that interval. -/
def upperEnd (x : Magnitude) : Nat := 4 * x.significand + 2

/-- The decimal is among the values that round to the magnitude. The ends of the interval
belong to it when the significand is even. -/
def ReadsBack (x : Magnitude) (d : Decimal) : Prop :=
  let lower := d.compareQuotient (x.lowerEnd * Nat.pow 2 x.shift) (4 * unitsPerOne)
  let upper := d.compareQuotient (x.upperEnd * Nat.pow 2 x.shift) (4 * unitsPerOne)
  if x.significand % 2 = 0 then lower ≠ .lt ∧ upper ≠ .gt else lower = .gt ∧ upper = .lt

instance (x : Magnitude) (d : Decimal) : Decidable (x.ReadsBack d) := by
  unfold ReadsBack
  infer_instance

/-- The least `k` with the magnitude below `10 ^ k`; the magnitude is not zero. -/
def decimalScale (x : Magnitude) : Int :=
  let estimate : Int := (digitCount x.units : Int) - digitCount unitsPerOne
  if Decimal.compareQuotient ⟨1, estimate⟩ x.units unitsPerOne = .gt then estimate
  else estimate + 1

/-- The two neighbours of the magnitude on the grid of multiples of `10 ^ exponent`. -/
def neighbours (x : Magnitude) (exponent : Int) : Decimal × Decimal :=
  let below := x.units * Nat.pow 10 (-exponent).toNat / (unitsPerOne * Nat.pow 10 exponent.toNat)
  (⟨below, exponent⟩, ⟨below + 1, exponent⟩)

/-- The neighbour on a grid that reads back, and the nearer one when both do. -/
def onGrid? (x : Magnitude) (tie : Tie) (exponent : Int) : Option Decimal :=
  let (below, above) := x.neighbours exponent
  if x.ReadsBack below then
    if x.ReadsBack above then
      -- The midpoint of the two decides which is nearer.
      match Decimal.compareQuotient ⟨2 * below.digits + 1, exponent⟩ (2 * x.units) unitsPerOne with
      | .lt => some above
      | .gt => some below
      | .eq =>
          match tie with
          | .up => some above
          | .even => some (if below.digits % 2 = 0 then below else above)
    else some below
  else if x.ReadsBack above then some above
  else none

/-- The exact value of the magnitude as a decimal. -/
def exactDecimal (x : Magnitude) : Decimal := ⟨x.units * Nat.pow 5 1074, -1074⟩

/-- The decimal with the fewest digits that reads back to the magnitude, without trailing
zeros. Seventeen digits always suffice; were none found, the exact value would be given. -/
def shortest (x : Magnitude) (tie : Tie) : Decimal :=
  let scale := x.decimalScale
  let onGridOf (length : Nat) := x.onGrid? tie (scale - length)
  let selected := ((List.range' 1 17).findSome? onGridOf).getD x.exactDecimal
  selected.stripZeros (digitCount selected.digits)

end Magnitude

end RecordSieve
