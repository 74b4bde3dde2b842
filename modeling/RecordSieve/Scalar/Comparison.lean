import RecordSieve.Scalar.Basic

/-!
# Comparison of Scalars

Equality and order of scalars. Numbers compare by their exact value whichever of the two
numeric kinds they have, texts by their characters, and no other pair of kinds has an order.

## Main definitions

* `Scalar.compareIntFloat?`: an integer against a binary64 number, without rounding either;
* `Scalar.numericCompare?`: the order of two numbers;
* `Scalar.agrees`: the equality that `==` decides;
* `Scalar.compare?`: the order that `<`, `<=`, `>` and `>=` decide.
-/

namespace RecordSieve

namespace Binary64

/-- The number `2 ^ 63`, the first beyond the 64-bit integers. -/
def twoPow63 : Binary64 := ofNat 0x8000000000000000

end Binary64

namespace Scalar

/-- The order of a 64-bit integer and a binary64 number, with no answer for NaN. The number is
first placed outside or inside the range of the integers; inside, its whole part is an integer
of 64 bits and decides, and at equal whole parts the fraction does. -/
def compareIntFloat? (n : Int64) (x : Binary64) : Option Ordering :=
  match Binary64.compare? x .twoPow63, Binary64.compare? x Binary64.twoPow63.neg with
  | none, _ => none
  | _, none => none
  | some .gt, _ => some .lt
  | some .eq, _ => some .lt
  | some .lt, some .lt => some .gt
  | some .lt, _ =>
      match x.truncate? with
      | none => none
      | some whole =>
          match compare n.toInt (Int64.ofInt whole).toInt with
          | .eq => Binary64.compare? (Binary64.ofInt whole) x
          | decided => some decided

/-- The exact order of two numbers, `none` when one of them is no number. -/
def numericCompare? : Scalar → Scalar → Option Ordering
  | int a, int b => some (compare a.toInt b.toInt)
  | float a, float b => Binary64.compare? a b
  | int a, float b => compareIntFloat? a b
  | float a, int b => (compareIntFloat? b a).map Ordering.swap
  | _, _ => none

/-- Whether two scalars are equal: numbers by value, the others within their kind. -/
def agrees : Scalar → Scalar → Bool
  | string a, string b => a = b
  | bool a, bool b => a = b
  | int a, int b => a = b
  | a, b => numericCompare? a b = some .eq

/-- The order of two scalars whose kinds have one: `some none` is the answer for NaN. -/
def compare? (a b : Scalar) : Option (Option Ordering) :=
  match a, b with
  | string a, string b => some (some (compare a b))
  | int a, int b => some (numericCompare? (int a) (int b))
  | int a, float b => some (numericCompare? (int a) (float b))
  | float a, int b => some (numericCompare? (float a) (int b))
  | float a, float b => some (numericCompare? (float a) (float b))
  | _, _ => none

end Scalar

end RecordSieve
