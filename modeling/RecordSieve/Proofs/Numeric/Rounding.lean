import RecordSieve.Scalar.Comparison

/-!
# Rounding

What the rounding of a quotient to a binary64 number keeps.

## Main statements

* `Magnitude.round?_mul_right`: a quotient may be expanded before it is rounded;
* `Magnitude.round?_eq_some_of_units_eq`: a quotient that is a magnitude is rounded to it;
* `Magnitude.le_units_of_round?`: a quotient is not rounded beyond a magnitude in front of it;
* `Magnitude.exists_units_eq`: at most 53 binary digits above the least unit make a magnitude;
* `Binary64.ofNat_eq_finite`: natural numbers of that sort are not rounded;
* `Binary64.compare?_eq_some_eq_iff`: numbers without a sign that compare as equal are equal.
-/

namespace RecordSieve

/-- A quotient in other terms is rounded alike. -/
theorem roundHalfEven_mul_right (num den : Nat) {c : Nat} (hc : 0 < c) :
    roundHalfEven (num * c) (den * c) = roundHalfEven num den := by
  unfold roundHalfEven
  simp only [Nat.mul_div_mul_right _ _ hc, Nat.mul_mod_mul_right, ← Nat.mul_assoc,
    Nat.mul_lt_mul_right hc]

/-- A whole quotient is not changed by rounding. -/
theorem roundHalfEven_mul_self (quotient : Nat) {den : Nat} (hden : 0 < den) :
    roundHalfEven (quotient * den) den = quotient := by
  simp [roundHalfEven, Nat.mul_div_cancel _ hden, hden]

/-- Powers of two with a sum as exponent. -/
theorem two_pow_add (a b : Nat) : Nat.pow 2 (a + b) = Nat.pow 2 a * Nat.pow 2 b :=
  Nat.pow_add 2 a b

/-- Places behind a number are added to its logarithm. -/
theorem log2_mul_two_pow {n : Nat} (hn : n ≠ 0) (places : Nat) :
    (n * Nat.pow 2 places).log2 = n.log2 + places := by
  rw [Nat.pow_eq, Nat.log2_eq_iff (Nat.mul_ne_zero hn (Nat.ne_of_gt (Nat.two_pow_pos _))),
    Nat.pow_add, Nat.add_right_comm, Nat.pow_add]
  exact ⟨Nat.mul_le_mul_right _ (Nat.log2_self_le hn),
    Nat.mul_lt_mul_of_pos_right Nat.lt_log2_self (Nat.two_pow_pos _)⟩

namespace Magnitude

variable {x y : Magnitude}

/-! ### One in units -/

/-- How many binary places one stands above the least unit. The power of two is too great to be
computed, and behind this name its exponent is not seen. -/
@[irreducible]
def unitPlaces : Nat := 1074

/-- Units are counted in 1074 binary places. -/
theorem unitPlaces_eq : unitPlaces = 1074 := by
  unfold unitPlaces
  rfl

/-- The units of one, with the number of places as a constant of its own. -/
theorem unitsPerOne_eq : unitsPerOne = Nat.pow 2 unitPlaces := by
  delta unitsPerOne unitPlaces
  generalize 1074 = places
  rfl

/-- There is more than nothing in one. -/
theorem unitsPerOne_pos : 0 < unitsPerOne := by
  rw [unitsPerOne_eq]
  exact Nat.two_pow_pos _

/-- A power of two in units. -/
theorem two_pow_add_unitPlaces (places : Nat) :
    Nat.pow 2 (places + unitPlaces) = Nat.pow 2 places * unitsPerOne := by
  rw [unitsPerOne_eq, two_pow_add]

/-- A whole number in units exceeds a significand by its own binary places. -/
theorem excess_mul_unitsPerOne {n : Nat} (hn : n ≠ 0) :
    excess (n * unitsPerOne) = n.log2 + 1022 := by
  rw [excess, unitsPerOne_eq, log2_mul_two_pow hn, unitPlaces_eq]
  omega

/-! ### Rounding a quotient -/

/-- Expanding a quotient does not change what it rounds to. -/
theorem round?_mul_right (num den : Nat) {c : Nat} (hc : 0 < c) :
    round? (num * c) (den * c) = round? num den := by
  have hscaled : num * c * unitsPerOne = num * unitsPerOne * c := by
    rw [Nat.mul_right_comm]
  have hden (k : Nat) : den * c * Nat.pow 2 k = den * Nat.pow 2 k * c := by
    rw [Nat.mul_right_comm]
  have hsignificand : roundedSignificand (num * c) (den * c) = roundedSignificand num den := by
    simp only [roundedSignificand, hscaled, hden, Nat.mul_div_mul_right _ _ hc,
      roundHalfEven_mul_right _ _ hc]
  simp only [round?, hsignificand, hscaled, Nat.mul_div_mul_right _ _ hc]

/-- The shift of a magnitude can be read off its units. -/
theorem excess_units (x : Magnitude) : excess x.units = x.shift := by
  rcases Nat.eq_zero_or_pos x.significand with hzero | hpos
  · -- Zero has no leading digit, and its shift is zero by normalization.
    have hshift := x.normalized
    rw [hzero] at hshift
    simp only [units, hzero, Nat.zero_mul, excess, Nat.log2_zero]
    omega
  have hne : x.significand ≠ 0 := Nat.ne_of_gt hpos
  have hlog : x.units.log2 = x.significand.log2 + x.shift := by
    rw [units, log2_mul_two_pow hne]
  have hlt : x.significand.log2 < 53 :=
    (Nat.log2_lt hne).2 x.significand_lt
  rw [excess, hlog]
  rcases x.normalized with hshift | hle
  · omega
  · have hge : 52 ≤ x.significand.log2 := (Nat.le_log2 hne).2 hle
    omega

/-- A magnitude is determined by its units. -/
theorem eq_of_units_eq (h : x.units = y.units) : x = y := by
  have hshift : x.shift = y.shift := by
    rw [← excess_units x, ← excess_units y, h]
  have hsignificand : x.significand = y.significand := by
    rw [units, units, hshift] at h
    exact Nat.eq_of_mul_eq_mul_right (Nat.pow_pos (by decide)) h
  cases x
  cases y
  simp_all

/-- A quotient that is a magnitude is rounded to it. -/
theorem round?_eq_some_of_units_eq {num den : Nat} (hden : 0 < den)
    (h : num * unitsPerOne = x.units * den) : round? num den = some x := by
  have hquotient : num * unitsPerOne / den = x.units := by
    rw [h, Nat.mul_div_cancel _ hden]
  have hsignificand : roundedSignificand num den = x.significand := by
    have hpos : 0 < den * Nat.pow 2 x.shift := Nat.mul_pos hden (Nat.pow_pos (by decide))
    rw [roundedSignificand, hquotient, excess_units, h, units, Nat.mul_assoc,
      Nat.mul_comm (Nat.pow _ _), roundHalfEven_mul_self _ hpos]
  have hcarry : x.significand ≠ 0x20000000000000 := Nat.ne_of_lt x.significand_lt
  simp only [round?, hsignificand, hquotient, excess_units, hcarry, x.shift_le, dite_true,
    dite_false]

/-- The units of a rounded quotient, whether or not its significand had to move up. -/
theorem units_of_round? {num den : Nat} (h : round? num den = some x) :
    x.units = roundedSignificand num den * Nat.pow 2 (excess (num * unitsPerOne / den)) := by
  simp only [round?] at h
  split at h
  next hcarry =>
    split at h
    · cases h
      simp only [units, hcarry, two_pow_add, ← Nat.mul_assoc, Nat.mul_right_comm _ _ (Nat.pow 2 1)]
    · cases h
  next =>
    split at h
    · cases h
      rfl
    · cases h

/-- A quotient is not rounded beyond a magnitude in front of it. -/
theorem le_units_of_round? {num den : Nat} (hden : 0 < den) (h : round? num den = some x)
    (hle : y.units * den ≤ num * unitsPerOne) : y.units ≤ x.units := by
  have hquotient : y.units ≤ num * unitsPerOne / den := (Nat.le_div_iff_mul_le hden).2 hle
  have hrounded : num * unitsPerOne / den / Nat.pow 2 (excess (num * unitsPerOne / den)) ≤
      roundedSignificand num den := by
    rw [Nat.div_div_eq_div_mul]
    exact le_roundHalfEven _ _
  rw [units_of_round? h]
  refine Nat.le_trans ?_ (Nat.mul_le_mul_right _ hrounded)
  generalize num * unitsPerOne / den = quotient at hquotient
  rcases Nat.lt_or_ge y.shift (excess quotient) with hlt | hge
  · -- The significand of the quotient stands higher, and it fills its places.
    have hfull := le_div_two_pow_excess (Nat.ne_of_gt (Nat.lt_of_le_of_lt (Nat.zero_le _) hlt))
    refine Nat.le_trans ?_ (Nat.mul_le_mul_right _ hfull)
    have hpow : Nat.pow 2 (y.shift + 1) ≤ Nat.pow 2 (excess quotient) :=
      Nat.pow_le_pow_right (by decide) hlt
    have hone : Nat.pow 2 (y.shift + 1) = 2 * Nat.pow 2 y.shift := Nat.pow_succ'
    have hsignificand := Nat.mul_le_mul_right (Nat.pow 2 y.shift) (Nat.le_of_lt y.significand_lt)
    rw [units]
    omega
  · -- What is cut off from the quotient is less than the last place of the other significand.
    obtain ⟨places, hplaces⟩ := Nat.exists_eq_add_of_le hge
    have hunits : y.units = y.significand * Nat.pow 2 places * Nat.pow 2 (excess quotient) := by
      rw [units, hplaces, Nat.add_comm, two_pow_add, ← Nat.mul_assoc]
    rw [hunits] at hquotient ⊢
    exact Nat.mul_le_mul_right _ ((Nat.le_div_iff_mul_le (Nat.pow_pos (by decide))).2 hquotient)

/-- A number of units with at most 53 binary digits in front of its zeros makes a magnitude. -/
theorem exists_units_eq {significand places : Nat} (hsignificand : significand < 0x20000000000000)
    (hplaces : places ≤ 2045) : ∃ x : Magnitude, x.units = significand * Nat.pow 2 places := by
  generalize hunits : significand * Nat.pow 2 places = units
  have hexcess : excess units ≤ places := by
    rcases Nat.eq_zero_or_pos significand with rfl | hpos
    · simp [← hunits, excess]
    have hne : significand ≠ 0 := Nat.ne_of_gt hpos
    have hlt : significand.log2 < 53 := (Nat.log2_lt hne).2 hsignificand
    rw [← hunits, excess, log2_mul_two_pow hne]
    omega
  -- What is cut off at the excess are zeros.
  have hdvd : Nat.pow 2 (excess units) ∣ units := by
    rw [← hunits]
    exact Nat.dvd_mul_left_of_dvd (Nat.pow_dvd_pow 2 (hunits ▸ hexcess)) _
  refine ⟨⟨units / Nat.pow 2 (excess units), excess units, div_two_pow_excess_lt units,
    Nat.le_trans hexcess hplaces, ?_⟩, Nat.div_mul_cancel hdvd⟩
  rcases Nat.eq_zero_or_pos (excess units) with hzero | hpos
  · exact .inl hzero
  · exact .inr (le_div_two_pow_excess (Nat.ne_of_gt hpos))

/-- A significand may have one digit more if all of them but the first are zeros. -/
theorem exists_units_eq_of_le {significand places : Nat}
    (hsignificand : significand ≤ 0x20000000000000) (hplaces : places < 2045) :
    ∃ x : Magnitude, x.units = significand * Nat.pow 2 places := by
  rcases Nat.lt_or_eq_of_le hsignificand with hlt | rfl
  · exact exists_units_eq hlt (Nat.le_of_lt hplaces)
  · obtain ⟨x, hx⟩ := @exists_units_eq 0x10000000000000 (places + 1) (by decide) hplaces
    refine ⟨x, ?_⟩
    rw [hx, two_pow_add, Nat.mul_comm (Nat.pow 2 places), ← Nat.mul_assoc]

/-- Whole numbers up to `2 ^ 53` make magnitudes. -/
theorem exists_units_eq_mul_unitsPerOne {n : Nat} (hn : n ≤ 0x20000000000000) :
    ∃ x : Magnitude, x.units = n * unitsPerOne := by
  rw [unitsPerOne_eq]
  exact exists_units_eq_of_le hn (by rw [unitPlaces_eq]; decide)

end Magnitude

namespace Binary64

/-- Whether the sign of a number is a minus. NaN has no sign. -/
def isNegative : Binary64 → Bool
  | .nan => false
  | .infinite negative => negative
  | .finite negative _ => negative

/-- Rounding keeps the sign. -/
@[simp]
theorem isNegative_round (negative : Bool) (num den : Nat) :
    (round negative num den).isNegative = negative := by
  rw [round]
  cases Magnitude.round? num den <;> rfl

/-- A quotient in other terms is rounded to the same float. -/
theorem round_mul_right (negative : Bool) (num den : Nat) {c : Nat} (hc : 0 < c) :
    round negative (num * c) (den * c) = round negative num den := by
  rw [round, Magnitude.round?_mul_right num den hc, ← round]

/-- A quotient that is a magnitude keeps its value. -/
theorem round_eq_finite (negative : Bool) {num den : Nat} {x : Magnitude} (hden : 0 < den)
    (h : num * Magnitude.unitsPerOne = x.units * den) :
    round negative num den = .finite negative x := by
  rw [round, Magnitude.round?_eq_some_of_units_eq hden h, ofMagnitude?]

/-- Rounding does not make NaN. -/
theorem round_ne_nan (negative : Bool) (num den : Nat) : round negative num den ≠ .nan := by
  rw [round]
  cases Magnitude.round? num den <;> simp [ofMagnitude?]

/-- The rules of signs, where NaN counts as positive. -/
theorem isNegative_mul {x y : Binary64} (hx : x.isNegative = false) (hy : y.isNegative = false) :
    (x.mul y).isNegative = false := by
  cases x <;> cases y <;> cases hx <;> cases hy <;> simp only [mul]
  case finite.finite.refl.refl => exact isNegative_round _ _ _
  case finite.infinite.refl.refl => split <;> rfl
  case infinite.finite.refl.refl => split <;> rfl
  all_goals rfl

/-- A quotient of floats without a sign has none. -/
theorem isNegative_div {x y : Binary64} (hx : x.isNegative = false) (hy : y.isNegative = false) :
    (x.div y).isNegative = false := by
  cases x <;> cases y <;> cases hx <;> cases hy <;> simp only [div]
  case finite.finite.refl.refl =>
    split
    · split <;> rfl
    · exact isNegative_round _ _ _
  all_goals rfl

/-- The quotient of finite floats is that of their units, rounded. -/
theorem div_finite {negative negative' : Bool} {x y : Magnitude} (hy : y.units ≠ 0) :
    div (.finite negative x) (.finite negative' y) =
      round (negative != negative') x.units y.units := by
  simp only [div, if_neg hy]

/-- Numbers without a minus are equal if they compare as equal: there is one zero, and each
number has one form. -/
theorem compare?_eq_some_eq_iff {x y : Binary64} (hx : x.isNegative = false)
    (hy : y.isNegative = false) (hnan : y ≠ .nan) : compare? x y = some .eq ↔ x = y := by
  cases x <;> cases y <;> cases hx <;> cases hy <;> simp only [compare?]
  case finite.finite.refl.refl x y =>
    simp only [signedUnits, Bool.false_eq_true, if_false, Option.some.injEq, Int.compare_eq_eq,
      Int.natCast_inj, finite.injEq, true_and]
    exact ⟨Magnitude.eq_of_units_eq, congrArg _⟩
  -- Numbers of different forms are different, and compare as such.
  all_goals simp at hnan ⊢

/-- A natural number has no sign. -/
theorem ofInt_natCast (n : Nat) : ofInt n = ofNat n := by
  have hsign : decide ((n : Int) < 0) = false :=
    decide_eq_false (Int.not_lt.2 (Int.natCast_nonneg n))
  rw [ofInt, hsign, Int.natAbs_natCast, ofNat]

/-- A natural number that is a magnitude keeps its value. -/
theorem ofNat_eq_of_units {n : Nat} {x : Magnitude} (h : x.units = n * Magnitude.unitsPerOne) :
    ofNat n = .finite false x :=
  round_eq_finite false Nat.one_pos (by rw [h, Nat.mul_one])

/-- A natural number with at most 53 binary digits in front of its zeros is not rounded. -/
theorem ofNat_eq_finite {significand places : Nat} (hsignificand : significand < 0x20000000000000)
    (hplaces : places ≤ 971) :
    ∃ x : Magnitude, ofNat (significand * Nat.pow 2 places) = .finite false x ∧
      x.units = significand * Nat.pow 2 places * Magnitude.unitsPerOne := by
  -- In units of the least magnitude the number has more zeros.
  have hshift : places + Magnitude.unitPlaces ≤ 2045 := by
    rw [Magnitude.unitPlaces_eq]
    omega
  obtain ⟨x, hx⟩ := Magnitude.exists_units_eq hsignificand hshift
  have hunits : x.units = significand * Nat.pow 2 places * Magnitude.unitsPerOne := by
    rw [hx, Magnitude.two_pow_add_unitPlaces, Nat.mul_assoc]
  exact ⟨x, ofNat_eq_of_units hunits, hunits⟩

end Binary64

end RecordSieve
