/-!
# Binary64 Numbers

The binary64 numbers as exact values: a finite number is a sign and a whole number of units
of `2 ^ -1074`. Every operation is computed exactly and rounded once, to the nearest number,
a tie going to the even significand.

## Main definitions

* `Binary64.round`: the number nearest to a quotient of naturals, infinite on overflow;
* `Binary64.mul`, `Binary64.div`: the rounded product and quotient;
* `Binary64.compare?`: the order of two numbers, which NaN does not take part in;
* `Binary64.truncate?`: the whole part of a finite number;
* `Binary64.bits`, `Binary64.ofBits`: the interchange encoding.
-/

namespace RecordSieve

/-- `num / den` rounded to a whole number, a half going to the even neighbour. -/
def roundHalfEven (num den : Nat) : Nat :=
  let quotient := num / den
  let remainder := num % den
  if 2 * remainder < den then quotient
  else if den < 2 * remainder then quotient + 1
  else if quotient % 2 = 0 then quotient
  else quotient + 1

/-- Rounding does not go below the quotient. -/
theorem le_roundHalfEven (num den : Nat) : num / den ≤ roundHalfEven num den := by
  unfold roundHalfEven
  grind

/-- Rounding goes up by one at most. -/
theorem roundHalfEven_le (num den : Nat) : roundHalfEven num den ≤ num / den + 1 := by
  unfold roundHalfEven
  grind

/-- The magnitude of a finite number: `significand * 2 ^ shift` units of `2 ^ -1074`. The
significand fills its 53 bits unless the shift is zero, so each magnitude has one form. -/
structure Magnitude where
  /-- The leading digits in binary. -/
  significand : Nat
  /-- How many binary places the significand stands above the least unit. -/
  shift : Nat
  /-- There are at most 53 binary digits. -/
  significand_lt : significand < 0x20000000000000
  shift_le : shift ≤ 2045
  /-- There are 53 binary digits unless the shift is zero. -/
  normalized : shift = 0 ∨ 0x10000000000000 ≤ significand
deriving DecidableEq

namespace Magnitude

/-- The magnitude zero. -/
def zero : Magnitude := ⟨0, 0, by decide, by decide, .inl rfl⟩

/-- The magnitude counted in units of `2 ^ -1074`. -/
def units (x : Magnitude) : Nat := x.significand * Nat.pow 2 x.shift

/-- How many units of `2 ^ -1074` make one. -/
def unitsPerOne : Nat := Nat.pow 2 1074

/-- The binary places by which a whole number of units exceeds a 53-bit significand. -/
def excess (units : Nat) : Nat := units.log2 - 52

/-- Without the excess digits at most 53 binary digits are left. -/
theorem div_two_pow_excess_lt (units : Nat) :
    units / Nat.pow 2 (excess units) < 0x20000000000000 := by
  rw [Nat.pow_eq, Nat.div_lt_iff_lt_mul (Nat.two_pow_pos _),
    show (0x20000000000000 : Nat) = Nat.pow 2 53 from rfl, Nat.pow_eq, ← Nat.pow_add]
  exact Nat.lt_of_lt_of_le Nat.lt_log2_self
    (Nat.pow_le_pow_right (by decide) (by unfold excess; omega))

/-- If there are excess digits, the 53 in front of them are all filled. -/
theorem le_div_two_pow_excess {units : Nat} (h : excess units ≠ 0) :
    0x10000000000000 ≤ units / Nat.pow 2 (excess units) := by
  have hunits : units ≠ 0 := by
    rintro rfl
    exact h (by decide)
  rw [Nat.pow_eq, Nat.le_div_iff_mul_le (Nat.two_pow_pos _),
    show (0x10000000000000 : Nat) = Nat.pow 2 52 from rfl, Nat.pow_eq, ← Nat.pow_add]
  have hexcess : 52 + excess units = units.log2 := by
    unfold excess at h ⊢
    omega
  rw [hexcess]
  exact Nat.log2_self_le hunits

/-- The significand of `num / den` after rounding: one that came out as `2 ^ 53` still has to
move up one place. -/
def roundedSignificand (num den : Nat) : Nat :=
  let scaled := num * unitsPerOne
  roundHalfEven scaled (den * Nat.pow 2 (excess (scaled / den)))

/-- A rounded significand has at most 53 binary digits, or it is the least number with one more. -/
theorem roundedSignificand_le (num den : Nat) :
    roundedSignificand num den ≤ 0x20000000000000 := by
  unfold roundedSignificand
  refine Nat.le_trans (roundHalfEven_le _ _) ?_
  rw [← Nat.div_div_eq_div_mul]
  exact div_two_pow_excess_lt _

/-- If digits are rounded off, the significand fills its digits. -/
theorem le_roundedSignificand {num den : Nat} (h : excess (num * unitsPerOne / den) ≠ 0) :
    0x10000000000000 ≤ roundedSignificand num den := by
  unfold roundedSignificand
  refine Nat.le_trans ?_ (le_roundHalfEven _ _)
  rw [← Nat.div_div_eq_div_mul]
  exact le_div_two_pow_excess h

/-- The magnitude nearest to `num / den`, a tie going to the even significand, or `none` when
the result is beyond the greatest magnitude. -/
def round? (num den : Nat) : Option Magnitude :=
  let shift := excess (num * unitsPerOne / den)
  if hcarry : roundedSignificand num den = 0x20000000000000 then
    if hshift : shift + 1 ≤ 2045 then
      some ⟨0x10000000000000, shift + 1, by decide, hshift, .inr (Nat.le_refl _)⟩
    else none
  else if hshift : shift ≤ 2045 then
    some ⟨roundedSignificand num den, shift,
      Nat.lt_of_le_of_ne (roundedSignificand_le num den) hcarry, hshift,
      (Nat.eq_zero_or_pos shift).imp id
        fun hpos => le_roundedSignificand (Nat.pos_iff_ne_zero.mp hpos)⟩
  else none

end Magnitude

/-- A binary64 number. All the encodings of NaN are one value. -/
inductive Binary64 where
  | nan
  | infinite (negative : Bool)
  | finite (negative : Bool) (magnitude : Magnitude)
deriving DecidableEq

namespace Binary64

/-- The zero of a sign. -/
def zero (negative : Bool) : Binary64 := .finite negative .zero

/-- The number of a sign and a magnitude, infinite without one. -/
def ofMagnitude? (negative : Bool) : Option Magnitude → Binary64
  | some magnitude => .finite negative magnitude
  | none => .infinite negative

/-- The number nearest to `num / den` with the given sign, infinite on overflow. -/
def round (negative : Bool) (num den : Nat) : Binary64 :=
  ofMagnitude? negative (Magnitude.round? num den)

/-- The number nearest to a natural number. -/
def ofNat (n : Nat) : Binary64 := round false n 1

/-- The number nearest to an integer; zero is positive. -/
def ofInt (n : Int) : Binary64 := round (decide (n < 0)) n.natAbs 1

/-- The number of the opposite sign. -/
def neg : Binary64 → Binary64
  | .nan => .nan
  | .infinite negative => .infinite !negative
  | .finite negative magnitude => .finite (!negative) magnitude

/-- The rounded product. Zero times an infinity is NaN. -/
def mul : Binary64 → Binary64 → Binary64
  | .finite s x, .finite t y =>
      -- Each factor is counted in units, so the product counts them twice.
      round (s != t) (x.units * y.units) (Magnitude.unitsPerOne * Magnitude.unitsPerOne)
  | .infinite s, .infinite t => .infinite (s != t)
  | .infinite s, .finite t y => if y.units = 0 then .nan else .infinite (s != t)
  | .finite s x, .infinite t => if x.units = 0 then .nan else .infinite (s != t)
  | .nan, _ => .nan
  | _, .nan => .nan

/-- The rounded quotient. A nonzero number over zero is infinite; zero over zero and an
infinity over an infinity are NaN. -/
def div : Binary64 → Binary64 → Binary64
  | .finite s x, .finite t y =>
      if y.units = 0 then
        if x.units = 0 then .nan else .infinite (s != t)
      else round (s != t) x.units y.units
  | .infinite s, .finite t _ => .infinite (s != t)
  | .finite s _, .infinite t => zero (s != t)
  | .infinite _, .infinite _ => .nan
  | .nan, _ => .nan
  | _, .nan => .nan

/-- Whether the number is neither NaN nor infinite. -/
def isFinite : Binary64 → Bool
  | .finite _ _ => true
  | _ => false

/-- A finite number counted in units of `2 ^ -1074`. -/
def signedUnits (negative : Bool) (magnitude : Magnitude) : Int :=
  if negative then -(magnitude.units : Int) else magnitude.units

/-- The order of two numbers: exact between finite numbers, with the infinities at the ends,
the two zeros equal, and no answer for NaN. -/
def compare? : Binary64 → Binary64 → Option Ordering
  | .finite s x, .finite t y => some (compare (signedUnits s x) (signedUnits t y))
  | .infinite s, .infinite t => some (compare t s)
  | .infinite s, .finite _ _ => some (if s then .lt else .gt)
  | .finite _ _, .infinite t => some (if t then .gt else .lt)
  | .nan, _ => none
  | _, .nan => none

/-- The whole part of a finite number, dropping the fraction toward zero. -/
def truncate? : Binary64 → Option Int
  | .finite negative x =>
      let whole : Int := (x.units / Magnitude.unitsPerOne : Nat)
      some (if negative then -whole else whole)
  | _ => none

/-- The 64 bits of the interchange encoding; NaN is the quiet one with an empty payload. -/
def bits : Binary64 → UInt64
  | .nan => 0x7ff8000000000000
  | .infinite negative => signBit negative ||| 0x7ff0000000000000
  | .finite negative x =>
      signBit negative ||| (x.shift * 0x10000000000000 + x.significand).toUInt64
where
  /-- The sign is the leading bit. -/
  signBit (negative : Bool) : UInt64 := if negative then 0x8000000000000000 else 0

/-- The number that 64 bits encode. -/
def ofBits (word : UInt64) : Binary64 :=
  let negative := decide (0x8000000000000000 ≤ word.toNat)
  let exponent := word.toNat / 0x10000000000000 % 0x800
  let fraction := word.toNat % 0x10000000000000
  have hfraction : fraction < 0x10000000000000 := Nat.mod_lt _ (by decide)
  have hexponent : exponent < 0x800 := Nat.mod_lt _ (by decide)
  if hzero : exponent = 0 then
    .finite negative ⟨fraction, 0, by omega, by decide, .inl rfl⟩
  else if htop : exponent = 2047 then
    if fraction = 0 then .infinite negative else .nan
  else
    .finite negative
      ⟨0x10000000000000 + fraction, exponent - 1, by omega, by omega, .inr (by omega)⟩

end Binary64

end RecordSieve
