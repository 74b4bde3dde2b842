import Mathlib.Data.Rat.Floor
import RecordSieve.Proofs.NumberAgreement
import RecordSieve.Proofs.Numeric.Rank

/-!
# Expansions of Numerals

A numeral with a unit is rounded twice: first its digits are, and then what a factor makes of them.
Nothing is lost if the digits make a float, for then the product is rounded from its exact value.
With a binary unit they do whenever the value is a whole number of at most 53 binary digits, since
such a fraction has few binary places. With a decimal unit they do if the fraction is zero. So the
numeral is equal to the whole number that it stands for.

## Main definitions

* `Numeral.exactValue`: the number that a numeral stands for;
* `Numeral.HasFloatDigits`: the numerals whose digits are a float;
* `spellings`, `Expands`: a text and a whole number are equal whichever way they enter.

## Main statements

* `SizeUnit.exists_multiplier`: the factors of the units are floats;
* `Numeral.value_eq_ofNat_of_unit`: the value of a numeral with a unit is rounded once if its digits
  are a float;
* `Numeral.hasFloatDigits_of_isBinary`, `Numeral.hasFloatDigits_of_zeros`: when they are;
* `expands_of_exactValue`: such numerals are equal to their expansion.
-/

namespace RecordSieve

/-! ### Whole numbers as floats -/

namespace Binary64

/-- Whole numbers up to `2 ^ 53` are floats. -/
theorem rank?_ofNat {n : Nat} (hn : n ≤ 0x20000000000000) :
    (ofNat n).rank? = some (.units (n * Magnitude.unitsPerOne)) := by
  obtain ⟨x, hx⟩ := Magnitude.exists_units_eq_mul_unitsPerOne hn
  rw [← ofInt_natCast]
  exact rank?_ofInt hx

/-- A product that is a whole number is rounded as the whole number is. -/
theorem mul_eq_ofNat {x y : Magnitude} {n : Nat}
    (h : x.units * y.units = n * (Magnitude.unitsPerOne * Magnitude.unitsPerOne)) :
    mul (.finite false x) (.finite false y) = ofNat n := by
  have hpos : 0 < Magnitude.unitsPerOne * Magnitude.unitsPerOne :=
    Nat.mul_pos Magnitude.unitsPerOne_pos Magnitude.unitsPerOne_pos
  rw [ofNat, ← round_mul_right false n 1 hpos, Nat.one_mul, ← h]
  rfl

end Binary64

/-! ### Units -/

namespace SizeUnit

/-- The units that are powers of 1024. -/
def isBinary : SizeUnit → Bool
  | kibi | mebi | gibi | tebi | pebi | exbi => true
  | _ => false

/-- The binary units are powers of two. -/
theorem exists_factor_eq_of_isBinary {unit : SizeUnit} (h : unit.isBinary = true) :
    ∃ k ≤ 60, unit.factor = Nat.pow 2 k := by
  cases unit with
  | kibi => exact ⟨10, by decide, rfl⟩
  | mebi => exact ⟨20, by decide, rfl⟩
  | gibi => exact ⟨30, by decide, rfl⟩
  | tebi => exact ⟨40, by decide, rfl⟩
  | pebi => exact ⟨50, by decide, rfl⟩
  | exbi => exact ⟨60, by decide, rfl⟩
  | _ => cases h

/-- A factor without the zeros at its end is short. -/
theorem exists_factor_eq (unit : SizeUnit) :
    ∃ significand places, significand < 0x20000000000000 ∧ places ≤ 971 ∧
      unit.factor = significand * Nat.pow 2 places := by
  cases hbinary : unit.isBinary with
  | true =>
    obtain ⟨k, hk, hfactor⟩ := exists_factor_eq_of_isBinary hbinary
    exact ⟨1, k, by decide, by omega, by rw [hfactor, Nat.one_mul]⟩
  | false =>
    cases unit with
    | kilo => exact ⟨Nat.pow 5 3, 3, by decide, by decide, rfl⟩
    | mega => exact ⟨Nat.pow 5 6, 6, by decide, by decide, rfl⟩
    | giga => exact ⟨Nat.pow 5 9, 9, by decide, by decide, rfl⟩
    | tera => exact ⟨Nat.pow 5 12, 12, by decide, by decide, rfl⟩
    | peta => exact ⟨Nat.pow 5 15, 15, by decide, by decide, rfl⟩
    | exa => exact ⟨Nat.pow 5 18, 18, by decide, by decide, rfl⟩
    | _ => cases hbinary

theorem factor_pos (unit : SizeUnit) : 0 < unit.factor := by
  cases unit <;> decide

/-- The factor of a unit is a float. -/
theorem exists_multiplier (unit : SizeUnit) :
    ∃ y : Magnitude, unit.multiplier = .finite false y ∧
      y.units = unit.factor * Magnitude.unitsPerOne := by
  obtain ⟨significand, places, hsignificand, hplaces, hfactor⟩ := unit.exists_factor_eq
  rw [multiplier, hfactor]
  exact Binary64.ofNat_eq_finite hsignificand hplaces

end SizeUnit

/-! ### Numerals -/

namespace Numeral

variable {n : Numeral} {N : Nat}

/-- How many ones the unit of a numeral stands for. -/
def factor (n : Numeral) : Nat := (n.unit.map SizeUnit.factor).getD 1

/-- The factor of a numeral is that of its unit. -/
theorem factor_of_unit {unit : SizeUnit} (hunit : n.unit = some unit) : n.factor = unit.factor := by
  rw [factor, hunit, Option.map_some, Option.getD_some]

/-- The number that a numeral stands for. -/
def exactValue (n : Numeral) : ℚ := n.digitsNumber / 10 ^ n.places * n.factor

/-- A whole number that a numeral stands for, without a quotient. -/
theorem exactValue_eq_iff :
    n.exactValue = N ↔ n.digitsNumber * n.factor = N * Nat.pow 10 n.places := by
  have hpos : (0 : ℚ) < 10 ^ n.places := by positivity
  rw [exactValue, div_mul_eq_mul_div, div_eq_iff hpos.ne', Nat.pow_eq]
  exact_mod_cast Iff.rfl

/-- The digits of a numeral without its unit are a float. -/
def HasFloatDigits (n : Numeral) : Prop :=
  ∃ x : Magnitude, n.digitsNumber * Magnitude.unitsPerOne = x.units * Nat.pow 10 n.places

theorem pow_places_pos (n : Numeral) : 0 < Nat.pow 10 n.places := Nat.pow_pos (by decide)

/-- A unit multiplies the nearest float, also of digits that are an integer of 64 bits. -/
theorem value_of_unit {unit : SizeUnit} (hunit : n.unit = some unit) :
    n.value = .float (n.nearest.mul unit.multiplier) := by
  obtain ⟨whole, fraction, _⟩ := n
  cases hunit
  cases fraction with
  | some fraction => rfl
  | none =>
    rw [nearest_of_fraction_eq_none rfl, value, mantissa]
    by_cases hlt : digitsValue whole < 0x8000000000000000
    · simp only [if_pos hlt, Int64.toInt_ofNat_of_lt hlt, Binary64.ofInt_natCast]
    · simp only [if_neg hlt]

/-- The value of a numeral with a unit is rounded once if its digits are a float. -/
theorem value_eq_ofNat_of_unit {unit : SizeUnit} (hunit : n.unit = some unit)
    (hfloat : n.HasFloatDigits) (hexact : n.exactValue = N) :
    n.value = .float (Binary64.ofNat N) := by
  obtain ⟨x, hx⟩ := hfloat
  obtain ⟨y, hmultiplier, hy⟩ := unit.exists_multiplier
  rw [exactValue_eq_iff, factor_of_unit hunit] at hexact
  -- The product counts units twice and has the places of the digits, which cancel.
  have hunits : x.units * y.units = N * (Magnitude.unitsPerOne * Magnitude.unitsPerOne) := by
    apply Nat.eq_of_mul_eq_mul_right n.pow_places_pos
    calc x.units * y.units * Nat.pow 10 n.places
        = x.units * Nat.pow 10 n.places * y.units := Nat.mul_right_comm _ _ _
      _ = n.digitsNumber * Magnitude.unitsPerOne * (unit.factor * Magnitude.unitsPerOne) := by
          rw [hx, hy]
      _ = n.digitsNumber * unit.factor * (Magnitude.unitsPerOne * Magnitude.unitsPerOne) :=
          Nat.mul_mul_mul_comm _ _ _ _
      _ = N * (Magnitude.unitsPerOne * Magnitude.unitsPerOne) * Nat.pow 10 n.places := by
          rw [hexact, Nat.mul_right_comm]
  rw [value_of_unit hunit, nearest, Binary64.round_eq_finite false n.pow_places_pos hx, hmultiplier,
    Binary64.mul_eq_ofNat hunits]

/-- A fraction that a binary unit makes whole has few binary places. -/
theorem hasFloatDigits_of_isBinary {unit : SizeUnit} (hunit : n.unit = some unit)
    (hbinary : unit.isBinary = true) (hexact : n.exactValue = N) (hN : N ≤ 0x20000000000000) :
    n.HasFloatDigits := by
  obtain ⟨k, hk, hpow⟩ := SizeUnit.exists_factor_eq_of_isBinary hbinary
  rw [exactValue_eq_iff, factor_of_unit hunit, hpow] at hexact
  -- The value moved back by the places of the unit is still above the least unit.
  have hplaces := Magnitude.unitPlaces_eq
  have hone : Magnitude.unitsPerOne = Nat.pow 2 k * Nat.pow 2 (Magnitude.unitPlaces - k) := by
    rw [← two_pow_add, Nat.add_sub_cancel' (by omega), Magnitude.unitsPerOne_eq]
  obtain ⟨x, hx⟩ :=
    Magnitude.exists_units_eq_of_le hN (show Magnitude.unitPlaces - k < 2045 by omega)
  refine ⟨x, ?_⟩
  rw [hone, ← Nat.mul_assoc, hexact, hx, Nat.mul_right_comm]

/-- Zeros behind a value move it up and add nothing. -/
theorem valueFrom_zeros {digits : List Char} (h : ∀ c ∈ digits, c = '0') (start : Nat) :
    valueFrom start (digits.map digitValue) = start * Nat.pow 10 digits.length := by
  induction digits generalizing start with
  | nil => exact (Nat.mul_one start).symm
  | cons c rest ih =>
    rw [List.forall_mem_cons] at h
    obtain ⟨rfl, hrest⟩ := h
    have hzero : digitValue '0' = 0 := rfl
    rw [List.map_cons, valueFrom_cons, ih hrest, hzero, Nat.add_zero, List.length_cons, Nat.pow_eq,
      Nat.pow_eq, Nat.pow_succ', ← Nat.mul_assoc, Nat.mul_comm 10]

theorem factor_pos (n : Numeral) : 0 < n.factor := by
  rw [factor]
  cases n.unit with
  | none => exact Nat.one_pos
  | some unit => exact unit.factor_pos

/-- Without a fraction the digits are those in front of the point, and the factor of a unit makes
them no smaller. -/
theorem hasFloatDigits_of_zeros (hzeros : ∀ c ∈ n.fraction.getD [], c = '0')
    (hexact : n.exactValue = N) (hN : N ≤ 0x20000000000000) : n.HasFloatDigits := by
  -- The zeros behind the point add places to the number in front of it, and nothing else.
  have hdigits := n.digitsNumber_eq
  rw [valueFrom_zeros hzeros, ← places] at hdigits
  generalize valueFrom 0 (n.whole.map digitValue) = whole at hdigits
  have hproduct : whole * n.factor = N := by
    rw [exactValue_eq_iff, hdigits, Nat.mul_right_comm] at hexact
    exact Nat.eq_of_mul_eq_mul_right n.pow_places_pos hexact
  have hle : whole ≤ N := hproduct ▸ Nat.le_mul_of_pos_right whole n.factor_pos
  obtain ⟨x, hx⟩ := Magnitude.exists_units_eq_mul_unitsPerOne (Nat.le_trans hle hN)
  exact ⟨x, by rw [hdigits, hx, Nat.mul_right_comm]⟩

/-- A whole number without a unit is the integer, or the float if it is written with a fraction. -/
theorem rank?_value_of_unit_eq_none (hunit : n.unit = none) (hexact : n.exactValue = N)
    (hN : N ≤ 0x20000000000000) :
    n.value.rank? = some (.units (N * Magnitude.unitsPerOne)) := by
  have hfactor : n.factor = 1 := by rw [factor, hunit, Option.map_none, Option.getD_none]
  rw [exactValue_eq_iff, hfactor, Nat.mul_one] at hexact
  rw [value_eq hunit]
  split
  next hsmall =>
    obtain ⟨hfraction, hlt⟩ := hsmall
    have hwhole : digitsValue n.whole = N := by
      simpa [digitsNumber, places, hfraction] using hexact
    rw [Scalar.rank?, Int64.toInt_ofNat_of_lt hlt, hwhole]
  next =>
    -- Digits and places are an expansion of the whole number, so they are rounded as it is.
    have hnearest : n.nearest = Binary64.ofNat N := by
      rw [nearest, hexact, Binary64.ofNat, ← Binary64.round_mul_right false N 1 n.pow_places_pos,
        Nat.one_mul]
    rw [hnearest]
    exact Binary64.rank?_ofNat hN

/-- The value of a numeral is the whole number that it stands for, if its digits are a float
where it has a unit. -/
theorem rank?_value (hexact : n.exactValue = N) (hN : N ≤ 0x20000000000000)
    (hfloat : n.unit.isSome → n.HasFloatDigits) :
    n.value.rank? = some (.units (N * Magnitude.unitsPerOne)) := by
  cases hunit : n.unit with
  | none => exact rank?_value_of_unit_eq_none hunit hexact hN
  | some unit =>
    rw [value_eq_ofNat_of_unit hunit (hfloat (by rw [hunit]; rfl)) hexact]
    exact Binary64.rank?_ofNat hN

end Numeral

/-! ### Texts and whole numbers -/

/-- A whole number in a record is an integer. -/
theorem Scalar.rank?_ofJson_natCast {N : Nat} (hN : N ≤ 0x20000000000000) :
    (ofJson (.number (.integer N))).rank? = some (.units (N * Magnitude.unitsPerOne)) := by
  rw [ofJson, ofNumber, if_pos ⟨by omega, by omega⟩, rank?,
    Int64.toInt_ofInt_of_le (by omega) (by omega)]

/-- What is compared of a text and of a whole number: the text as a literal, the text in a record
and the number in a record. -/
def spellings (text : String) (N : Nat) : List Scalar :=
  [.ofText text, .ofJson (.string text), .ofJson (.number (.integer N))]

/-- A text and a whole number are equal to each other and to themselves, whichever way they enter.
-/
def Expands (text : String) (N : Nat) : Prop :=
  ∀ a ∈ spellings text N, ∀ b ∈ spellings text N, a.agrees b = true

/-- A numeral that stands for a whole number of at most 53 binary digits is equal to it, if it has
no unit, a binary unit, or a decimal unit behind a fraction of zeros. -/
theorem expands_of_exactValue {text : String} {n : Numeral} {N : Nat} (hn : n.WellFormed)
    (htext : text.toList = n.toText) (hexact : n.exactValue = N) (hN : N ≤ 0x20000000000000)
    (hunit : ∀ unit, n.unit = some unit →
      unit.isBinary = true ∨ ∀ c ∈ n.fraction.getD [], c = '0') :
    Expands text N := by
  have hfloat : n.unit.isSome → n.HasFloatDigits := by
    intro hsome
    obtain ⟨unit, heq⟩ := Option.isSome_iff_exists.1 hsome
    rcases hunit unit heq with hbinary | hzeros
    · exact Numeral.hasFloatDigits_of_isBinary heq hbinary hexact hN
    · exact Numeral.hasFloatDigits_of_zeros hzeros hexact hN
  have hread : Numeral.ofText? text.toList = some n := by
    rw [htext, Numeral.ofText?_toText hn]
  have hvalue : (Scalar.ofText text).rank? = some (.units (N * Magnitude.unitsPerOne)) := by
    rw [Scalar.ofText, Scalar.ofChars_of_numeral hread, Numeral.rank?_value hexact hN hfloat]
  have hnumber := Scalar.rank?_ofJson_natCast hN
  -- So all three have the rank of the whole number, and numbers of one rank are equal.
  have hrank : ∀ a ∈ spellings text N,
      a.rank? = some (.units (N * Magnitude.unitsPerOne)) := by
    simpa only [spellings, List.forall_mem_cons, Scalar.ofJson] using
      ⟨hvalue, hvalue, hnumber, List.forall_mem_nil _⟩
  intro a ha b hb
  rw [Scalar.agrees_eq_of_rank? (hrank a ha), hrank b hb, decide_eq_true rfl]

/-- Ten digits behind the point are ten binary places, which a unit of `2 ^ 10` takes away. -/
theorem expands_kibi :
    let n : Numeral := ⟨"007".toList, some "0009765625".toList, some .kibi⟩
    n.WellFormed ∧ "007.0009765625Ki".toList = n.toText ∧ n.exactValue = (7169 : ℕ) ∧
      Expands "007.0009765625Ki" 7169 := by
  intro n
  have hn : n.WellFormed :=
    ⟨by decide, List.all_eq_true.1 (by decide), by decide, List.all_eq_true.1 (by decide)⟩
  have htext : "007.0009765625Ki".toList = n.toText := by decide
  have hexact : n.exactValue = (7169 : ℕ) := Numeral.exactValue_eq_iff.2 (by decide)
  refine ⟨hn, htext, hexact, expands_of_exactValue hn htext hexact (by decide) ?_⟩
  rintro unit ⟨⟩
  exact .inl rfl

end RecordSieve
