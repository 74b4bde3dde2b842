import Mathlib.Data.Rat.Floor
import RecordSieve.Proofs.Numeric.Rank

/-!
# Exact Values of Floats

A finite float is a rational number. Integers are compared with that number, whatever its size and
its fraction, and neither of the two is rounded. On the way the whole part of the float becomes an
integer of 64 bits, and it is one.

## Main definitions

* `Binary64.toRat?`: the exact value of a finite float;
* `towardZero`: a rational number without its fraction;
* `ComparedExactly`: an integer and a float are compared by their values.

## Main statements

* `Binary64.toRat?_finite`: the exact value is the number of units over the units of one;
* `Binary64.truncate?_eq_towardZero`: the whole part of a float is that of its exact value;
* `comparedExactly`: every integer and every float are compared by their values.
-/

namespace RecordSieve

/-! ### Fractions -/

/-- A rational number without its fraction. -/
def towardZero (value : ℚ) : ℤ := if value < 0 then ⌈value⌉ else ⌊value⌋

/-- Towards zero is down for values that are not negative. -/
theorem towardZero_of_nonneg {value : ℚ} (h : 0 ≤ value) : towardZero value = ⌊value⌋ :=
  if_neg (not_lt.2 h)

/-- Towards zero is up for the others. -/
theorem towardZero_neg {value : ℚ} (h : 0 ≤ value) : towardZero (-value) = -⌊value⌋ := by
  rcases h.eq_or_lt with rfl | hpos
  · -- Zero has no sign.
    simp [towardZero]
  · rw [towardZero, if_pos (neg_lt_zero.2 hpos), Int.ceil_neg]

/-! ### Floats -/

namespace Binary64

/-- The exact value of a finite number. -/
def toRat? : Binary64 → Option ℚ
  | finite negative x =>
      some ((if negative then -1 else 1 : ℚ) * x.significand * 2 ^ ((x.shift : ℤ) - 1074))
  | _ => none

/-- One is some number of units. -/
theorem unitsPerOne_pos_rat : (0 : ℚ) < Magnitude.unitsPerOne :=
  Nat.cast_pos.2 Magnitude.unitsPerOne_pos

/-- The exact value of a finite number, taken from its units. -/
theorem toRat?_finite (negative : Bool) (x : Magnitude) :
    toRat? (.finite negative x) =
      some ((signedUnits negative x : ℚ) / Magnitude.unitsPerOne) := by
  have hunits : (x.units : ℚ) = x.significand * 2 ^ (x.shift : ℤ) := by
    rw [Magnitude.units, Nat.pow_eq, Nat.cast_mul, Nat.cast_pow, Nat.cast_ofNat, zpow_natCast]
  have hone : (Magnitude.unitsPerOne : ℚ) = 2 ^ (1074 : ℤ) := by
    rw [Magnitude.unitsPerOne_eq, Nat.pow_eq, Nat.cast_pow, Nat.cast_ofNat, ← zpow_natCast,
      Magnitude.unitPlaces_eq, Nat.cast_ofNat]
  have hshift : (2 : ℚ) ^ ((x.shift : ℤ) - 1074) = 2 ^ (x.shift : ℤ) / 2 ^ (1074 : ℤ) :=
    zpow_sub₀ (by decide) _ _
  rw [toRat?, hshift, ← hone, signedUnits, mul_assoc, ← mul_div_assoc, ← hunits]
  cases negative with
  | false => simp only [Bool.false_eq_true, if_false, one_mul, Int.cast_natCast]
  | true => simp only [if_true, neg_one_mul, Int.cast_neg, Int.cast_natCast, neg_div]

/-- The whole part of a float is that of its exact value. -/
theorem truncate?_eq_towardZero {x : Binary64} {value : ℚ} (h : x.toRat? = some value) :
    x.truncate? = some (towardZero value) := by
  cases x with
  | nan => cases h
  | infinite negative => cases h
  | finite negative x =>
    have hnonneg : 0 ≤ (x.units : ℚ) / Magnitude.unitsPerOne := by positivity
    have hfloor : ((x.units / Magnitude.unitsPerOne : ℕ) : ℤ) =
        ⌊(x.units : ℚ) / Magnitude.unitsPerOne⌋ := by
      rw [Rat.floor_natCast_div_natCast, Int.natCast_ediv]
    rw [toRat?_finite, Option.some.injEq] at h
    simp only [truncate?, hfloor, Option.some.injEq]
    rw [← h, signedUnits]
    cases negative with
    | false => exact (towardZero_of_nonneg hnonneg).symm
    | true =>
      rw [if_pos rfl, if_pos rfl, Int.cast_neg, Int.cast_natCast, neg_div, towardZero_neg hnonneg]

/-- The floats between the bounds of the 64-bit integers. -/
theorem exists_of_inside {x : Binary64} (habove : x.compare? twoPow63 = some .lt)
    (hbelow : x.compare? twoPow63.neg ≠ some .lt) :
    ∃ negative magnitude, x = .finite negative magnitude ∧
      -(0x8000000000000000 * Magnitude.unitsPerOne) ≤ signedUnits negative magnitude ∧
      signedUnits negative magnitude < 0x8000000000000000 * Magnitude.unitsPerOne := by
  obtain ⟨htop, hbottom⟩ := rank?_twoPow63
  rw [compare?_eq, htop] at habove
  rw [compare?_eq, hbottom] at hbelow
  -- Each of the infinities is outside of one of the bounds.
  cases x with
  | nan => cases habove
  | infinite negative =>
    cases negative with
    | false => cases habove
    | true => exact absurd rfl hbelow
  | finite negative magnitude =>
    refine ⟨negative, magnitude, rfl, ?_, ?_⟩
    · refine Int.not_lt.1 ?_
      intro hlt
      exact hbelow (congrArg some (Int.compare_eq_lt.2 hlt))
    · exact Int.compare_eq_lt.1 (Option.some.inj habove)

end Binary64

/-! ### Integers and floats -/

/-- Numbers of units are in the order of the values that they make. -/
theorem compare_units_eq_cmp (n count : ℤ) :
    compare (n * Magnitude.unitsPerOne) count = cmp (n : ℚ) (count / Magnitude.unitsPerOne) := by
  have hpos := Binary64.unitsPerOne_pos_rat
  have hmono : StrictMono fun k : ℤ => (k : ℚ) / Magnitude.unitsPerOne := by
    intro j k hlt
    exact div_lt_div_of_pos_right (Int.cast_lt.2 hlt) hpos
  have hn : (n : ℚ) = ((n * Magnitude.unitsPerOne : ℤ) : ℚ) / Magnitude.unitsPerOne := by
    rw [Int.cast_mul, Int.cast_natCast, mul_div_cancel_right₀ _ hpos.ne']
  rw [hn, ← cmp_eq_compare]
  exact (hmono.cmp_map_eq _ _).symm

open Scalar in
/-- An integer and a float are compared by their values. -/
structure ComparedExactly (n : Int64) (x : Binary64) : Prop where
  /-- NaN is the only float without an order. -/
  eq_none_iff : numericCompare? (.int n) (.float x) = none ↔ x = .nan
  /-- A finite float is compared as the rational number that it is. -/
  finite : ∀ value, x.toRat? = some value →
    numericCompare? (.int n) (.float x) = some (cmp (n.toInt : ℚ) value)
  /-- The infinities are in front of all integers and behind them. -/
  infinite : ∀ negative, x = .infinite negative →
    numericCompare? (.int n) (.float x) = some (if negative then .gt else .lt)
  /-- The order of the float and the integer is the reverse. -/
  swapped : numericCompare? (.float x) (.int n) =
    (numericCompare? (.int n) (.float x)).map Ordering.swap
  /-- A float between the bounds of the 64-bit integers has a value there, and without its fraction
  that value is such an integer. -/
  inside : x.compare? .twoPow63 = some .lt → x.compare? Binary64.twoPow63.neg ≠ some .lt →
    ∃ value, x.toRat? = some value ∧ -0x8000000000000000 ≤ value ∧ value < 0x8000000000000000 ∧
      x.truncate? = some (towardZero value) ∧
      (Int64.ofInt (towardZero value)).toInt = towardZero value

/-- Every integer and every float are compared by their values. -/
theorem comparedExactly (n : Int64) (x : Binary64) : ComparedExactly n x := by
  have hcompare : Scalar.numericCompare? (.int n) (.float x) =
      x.rank?.map (Rank.units (n.toInt * Magnitude.unitsPerOne)).compare :=
    Scalar.compareIntFloat?_eq n x
  constructor
  case eq_none_iff => rw [hcompare, Option.map_eq_none_iff, Binary64.rank?_eq_none_iff]
  case finite =>
    intro value hvalue
    cases x with
    | nan => cases hvalue
    | infinite negative => cases hvalue
    | finite negative magnitude =>
      rw [Binary64.toRat?_finite, Option.some.injEq] at hvalue
      rw [hcompare, ← hvalue, ← compare_units_eq_cmp]
      rfl
  case infinite =>
    rintro negative rfl
    rw [hcompare]
    cases negative <;> rfl
  case swapped => rfl
  case inside =>
    intro habove hbelow
    obtain ⟨negative, magnitude, rfl, hlow, hhigh⟩ := Binary64.exists_of_inside habove hbelow
    have hvalue := Binary64.toRat?_finite negative magnitude
    have hpos := Binary64.unitsPerOne_pos_rat
    obtain ⟨whole, hwhole, -, hpart⟩ := Binary64.exists_truncate?_eq negative magnitude
    have htruncate := Binary64.truncate?_eq_towardZero hvalue
    obtain rfl : whole = towardZero _ := Option.some.inj (hwhole.symm.trans htruncate)
    -- The bounds hold in units, and of the value once it is divided by them.
    refine ⟨_, hvalue, ?_, ?_, htruncate, hpart.toInt_ofInt hlow hhigh⟩
    · rw [le_div_iff₀ hpos, neg_mul]
      exact_mod_cast hlow
    · rw [div_lt_iff₀ hpos]
      exact_mod_cast hhigh

end RecordSieve
