import RecordSieve.Proofs.Numeric.ExactValue

/-!
# Nearest Floats

A quotient is rounded by its binary digits: 53 of them are kept, and what is cut off decides whether
the last one moves up. What comes out is said here without digits. No other float is closer to the
quotient, and of two that are as close it is the one with the even significand. From the middle
behind the greatest float on, there is an infinity instead.

## Main definitions

* `WithinHalf`: a deviation of at most half a place, where an exact half needs an even digit;
* `Magnitude.IsNearest`, `Binary64.IsNearest`: the float that is nearest to a number.

## Main statements

* `roundHalfEven_eq_iff`: the whole number that a quotient is rounded to;
* `Magnitude.round?_eq_some_iff`: the quotients that are rounded to a magnitude;
* `Magnitude.round?_eq_none_iff`: the quotients that are too great for a magnitude;
* `Magnitude.IsNearest.eq`: at most one magnitude is nearest to a number;
* `Binary64.isNearest_iff`: rounding gives the nearest float and nothing else.
-/

namespace RecordSieve

/-! ### Half a place -/

/-- A deviation is less than half a place, or it is half a place and the last digit is even. -/
def WithinHalf (deviation place : ℤ) (digit : ℕ) : Prop :=
  2 * |deviation| < place ∨ 2 * |deviation| = place ∧ digit % 2 = 0

/-- A quotient is rounded to the whole number that is within half a place of it. -/
theorem roundHalfEven_eq_iff (num : ℕ) {den : ℕ} (hden : 0 < den) (k : ℕ) :
    roundHalfEven num den = k ↔ WithinHalf (num - k * den) den k := by
  obtain ⟨quotient, hquotient⟩ : ∃ quotient, quotient = num / den := ⟨_, rfl⟩
  obtain ⟨rest, hrest⟩ : ∃ rest, rest = num % den := ⟨_, rfl⟩
  have hlt : rest < den := hrest ▸ Nat.mod_lt num hden
  have hnum : (num : ℤ) = quotient * den + rest := by
    have hcut := Nat.div_add_mod num den
    rw [← hquotient, ← hrest, Nat.mul_comm] at hcut
    exact_mod_cast hcut.symm
  unfold roundHalfEven WithinHalf
  simp only [← hquotient, ← hrest]
  -- Only the quotient that was cut off and its successor come into question. The products with the
  -- divisor are put side by side for the arithmetic, which does not look into them.
  rcases Nat.lt_trichotomy k quotient with hk | rfl | hk
  · have hmul : ((k : ℤ) + 1) * den ≤ quotient * den := by
      exact_mod_cast Nat.mul_le_mul_right den hk
    rw [add_mul, one_mul] at hmul
    rw [hnum, abs_of_nonneg (by omega)]
    split_ifs <;> omega
  · rw [hnum, add_sub_cancel_left, Nat.abs_cast]
    split_ifs <;> omega
  · have hmul : ((quotient : ℤ) + 1) * den ≤ k * den := by
      exact_mod_cast Nat.mul_le_mul_right den hk
    rw [hnum, abs_of_nonpos (by rw [add_mul, one_mul] at hmul; omega)]
    rcases Nat.lt_or_eq_of_le hk with hk' | rfl
    · -- Two steps away is too far, whatever the rest is.
      have hmul' : ((quotient : ℤ) + 1 + 1) * den ≤ k * den := by
        exact_mod_cast Nat.mul_le_mul_right den hk'
      rw [add_mul, add_mul, one_mul] at hmul'
      split_ifs <;> omega
    · rw [Nat.cast_succ, add_mul, one_mul]
      split_ifs <;> omega

namespace WithinHalf

variable {value place : ℤ} {n k : ℕ}

/-- Within half of a place, twice the deviation is at most a place. -/
theorem two_mul_abs_le {deviation : ℤ} (h : WithinHalf deviation place n) :
    2 * |deviation| ≤ place := by
  rcases h with hlt | ⟨heq, -⟩
  · exact hlt.le
  · exact heq.le

/-- The deviation and the place may be counted in smaller parts. -/
theorem mul_right_iff {deviation c : ℤ} (hc : 0 < c) :
    WithinHalf (deviation * c) (place * c) n ↔ WithinHalf deviation place n := by
  rw [WithinHalf, WithinHalf, abs_mul, abs_of_pos hc, ← mul_assoc, mul_lt_mul_iff_left₀ hc,
    mul_left_inj' hc.ne']

/-- Two whole numbers of places are at least one place apart. -/
theorem place_le_add_abs (value : ℤ) (hplace : 0 < place) (hk : k ≠ n) :
    place ≤ |value - n * place| + |value - k * place| := by
  have hone : (1 : ℤ) ≤ |(k : ℤ) - n| := Int.one_le_abs (by omega)
  calc place = 1 * place := (one_mul place).symm
    _ ≤ |(k : ℤ) - n| * place := mul_le_mul_of_nonneg_right hone hplace.le
    _ = |(value - n * place) - (value - k * place)| := by
        rw [sub_sub_sub_cancel_left, ← sub_mul, abs_mul, abs_of_pos hplace]
    _ ≤ |value - n * place| + |value - k * place| := abs_sub _ _

/-- What is within half a place of a value is as close to it as any whole number of places. -/
theorem abs_le (h : WithinHalf (value - n * place) place n) (hplace : 0 < place) (k : ℕ) :
    |value - n * place| ≤ |value - k * place| := by
  rcases eq_or_ne k n with rfl | hk
  · exact le_rfl
  · have hle := h.two_mul_abs_le
    have hapart := place_le_add_abs value hplace hk
    omega

/-- Of two whole numbers of places that are as close, the even one is within half a place. -/
theorem even_of_abs_eq (h : WithinHalf (value - n * place) place n) (hplace : 0 < place)
    (hk : k ≠ n) (heq : |value - k * place| = |value - n * place|) : n % 2 = 0 := by
  rcases h with hlt | ⟨-, heven⟩
  · have hapart := place_le_add_abs value hplace hk
    omega
  · exact heven

end WithinHalf

/-! ### Magnitudes -/

namespace Magnitude

variable {x y : Magnitude} {num den : ℕ}

/-- The exact value of a magnitude. -/
def toRat (x : Magnitude) : ℚ := x.units / unitsPerOne

/-- A magnitude is nearest to a number: no other one is closer, and if another one is as close, its
own last binary digit is zero. -/
structure IsNearest (x : Magnitude) (value : ℚ) : Prop where
  abs_le : ∀ y : Magnitude, |value - x.toRat| ≤ |value - y.toRat|
  even : ∀ y : Magnitude, y ≠ x → |value - y.toRat| = |value - x.toRat| → x.significand % 2 = 0

/-- Magnitudes are ordered as their units are. -/
theorem toRat_lt_toRat_iff : x.toRat < y.toRat ↔ x.units < y.units := by
  rw [toRat, toRat, div_lt_div_iff_of_pos_right Binary64.unitsPerOne_pos_rat, Nat.cast_lt]

/-- The distance of a magnitude from a quotient, counted in parts of a unit. -/
theorem abs_sub_toRat (hden : 0 < den) (x : Magnitude) :
    |(num / den : ℚ) - x.toRat| =
      ((|(num * unitsPerOne : ℤ) - x.units * den| : ℤ) : ℚ) / (den * unitsPerOne) := by
  have hden' : (0 : ℚ) < den := Nat.cast_pos.2 hden
  have hone : (0 : ℚ) < unitsPerOne := Binary64.unitsPerOne_pos_rat
  have hsub : (num / den : ℚ) - x.toRat =
      ((num * unitsPerOne : ℤ) - x.units * den : ℤ) / (den * unitsPerOne) := by
    rw [toRat, div_sub_div _ _ hden'.ne' hone.ne']
    push_cast
    rw [mul_comm (den : ℚ) x.units]
  rw [hsub, abs_div, abs_of_pos (mul_pos hden' hone), Int.cast_abs]

/-- Distances from a quotient are compared without the quotient. -/
theorem isNearest_div_iff (hden : 0 < den) :
    x.IsNearest (num / den) ↔ ∀ y : Magnitude,
      |(num * unitsPerOne : ℤ) - x.units * den| ≤ |(num * unitsPerOne : ℤ) - y.units * den| ∧
        (y ≠ x → |(num * unitsPerOne : ℤ) - y.units * den| =
          |(num * unitsPerOne : ℤ) - x.units * den| → x.significand % 2 = 0) := by
  have hpos : (0 : ℚ) < den * unitsPerOne :=
    mul_pos (Nat.cast_pos.2 hden) Binary64.unitsPerOne_pos_rat
  have hle (y : Magnitude) : |(num / den : ℚ) - x.toRat| ≤ |(num / den : ℚ) - y.toRat| ↔
      |(num * unitsPerOne : ℤ) - x.units * den| ≤ |(num * unitsPerOne : ℤ) - y.units * den| := by
    rw [abs_sub_toRat hden, abs_sub_toRat hden, div_le_div_iff_of_pos_right hpos, Int.cast_le]
  have heq (y : Magnitude) : |(num / den : ℚ) - y.toRat| = |(num / den : ℚ) - x.toRat| ↔
      |(num * unitsPerOne : ℤ) - y.units * den| = |(num * unitsPerOne : ℤ) - x.units * den| := by
    rw [abs_sub_toRat hden, abs_sub_toRat hden, div_left_inj' hpos.ne', Int.cast_inj]
  constructor
  · rintro ⟨hclosest, heven⟩ y
    exact ⟨(hle y).1 (hclosest y), fun hne hdistance => heven y hne ((heq y).2 hdistance)⟩
  · intro h
    exact ⟨fun y => (hle y).2 (h y).1, fun y hne hdistance => (h y).2 hne ((heq y).1 hdistance)⟩

/-- A magnitude is a whole number of the places of every lower shift. -/
theorem exists_units_eq_mul {places : ℕ} (x : Magnitude) (h : places ≤ x.shift) :
    ∃ k : ℕ, x.units = k * Nat.pow 2 places := by
  obtain ⟨rest, hrest⟩ := Nat.exists_eq_add_of_le h
  refine ⟨x.significand * Nat.pow 2 rest, ?_⟩
  rw [units, hrest, Nat.add_comm, two_pow_add, Nat.mul_assoc]

/-- A magnitude with a lower shift is in front of the significands that fill their places. -/
theorem units_lt_of_shift_lt {places : ℕ} (h : x.shift < places) :
    x.units < 0x10000000000000 * Nat.pow 2 places := by
  have hpow : Nat.pow 2 (x.shift + 1) ≤ Nat.pow 2 places := Nat.pow_le_pow_right (by decide) h
  have hsucc : Nat.pow 2 (x.shift + 1) = 2 * Nat.pow 2 x.shift := Nat.pow_succ'
  have hlt := Nat.mul_lt_mul_of_pos_right x.significand_lt
    (Nat.pow_pos (n := x.shift) (show 0 < 2 by decide))
  rw [units]
  rw [Nat.pow_eq] at *
  omega

/-- A magnitude with an even significand is followed by one with an odd significand, and there is
none in between. -/
theorem exists_next (heven : x.significand % 2 = 0) (h : x.units < y.units) :
    ∃ z : Magnitude, z.significand % 2 = 1 ∧ x.units < z.units ∧ z.units ≤ y.units := by
  have hlt := x.significand_lt
  have hpow : 0 < Nat.pow 2 x.shift := Nat.pow_pos (by decide)
  let z : Magnitude := ⟨x.significand + 1, x.shift, by omega, x.shift_le,
    x.normalized.imp_right fun hle => Nat.le_succ_of_le hle⟩
  have hunits : z.units = x.units + Nat.pow 2 x.shift := Nat.succ_mul _ _
  refine ⟨z, by simp only [z]; omega, by omega, ?_⟩
  -- The other magnitude is counted in the same places, since with a lower shift it would be in
  -- front.
  have hshift : x.shift ≤ y.shift := by
    by_contra hlow
    have hfull : 0x10000000000000 ≤ x.significand := x.normalized.resolve_left (by omega)
    have hbehind := units_lt_of_shift_lt (Nat.lt_of_not_le hlow)
    have hfront := Nat.mul_le_mul_right (Nat.pow 2 x.shift) hfull
    rw [← units] at hfront
    omega
  obtain ⟨k, hk⟩ := y.exists_units_eq_mul hshift
  rw [hk, units] at h
  rw [hk]
  exact Nat.mul_le_mul_right _ (Nat.lt_of_mul_lt_mul_right h)

/-- At most one magnitude is nearest to a number. -/
theorem IsNearest.eq {value : ℚ} (hx : x.IsNearest value) (hy : y.IsNearest value) : x = y := by
  by_contra hne
  wlog hlt : x.units < y.units generalizing x y
  · have hunits : x.units ≠ y.units := mt eq_of_units_eq hne
    exact this hy hx (Ne.symm hne) (by omega)
  have hdistance : |value - x.toRat| = |value - y.toRat| := le_antisymm (hx.abs_le y) (hy.abs_le x)
  -- Both significands are even, so there is a magnitude in between, and it is closer.
  obtain ⟨z, hodd, hxz, hzy⟩ := exists_next (hx.even y (Ne.symm hne) hdistance.symm) hlt
  have hzy' : z.units ≠ y.units := by
    intro hunits
    have heven := hy.even x hne hdistance
    rw [← eq_of_units_eq hunits, hodd] at heven
    cases heven
  have hfront := toRat_lt_toRat_iff.2 hxz
  have hbehind := toRat_lt_toRat_iff.2 (Nat.lt_of_le_of_ne hzy hzy')
  have hmiddle : value - x.toRat = -(value - y.toRat) := by
    refine (abs_eq_abs.1 hdistance).resolve_left ?_
    intro heq
    linarith
  have hcloser : |value - z.toRat| < value - x.toRat := abs_lt.2 ⟨by linarith, by linarith⟩
  exact absurd (hx.abs_le z) (not_le.2 (hcloser.trans_le (le_abs_self _)))

/-! ### Rounded quotients -/

/-- The last place of a quotient that is rounded, in parts of a unit. -/
def roundingPlace (num den : ℕ) : ℕ := den * Nat.pow 2 (excess (num * unitsPerOne / den))

/-- The place that is rounded to is positive. -/
theorem roundingPlace_pos (num : ℕ) (hden : 0 < den) : 0 < roundingPlace num den :=
  Nat.mul_pos hden (Nat.pow_pos (by decide))

/-- A quotient has at most 53 binary digits in front of its last place. -/
theorem lt_mul_roundingPlace (num : ℕ) (hden : 0 < den) :
    num * unitsPerOne < 0x20000000000000 * roundingPlace num den := by
  rw [← Nat.div_lt_iff_lt_mul (roundingPlace_pos num hden), roundingPlace,
    ← Nat.div_div_eq_div_mul]
  exact div_two_pow_excess_lt _

/-- A quotient with a shift has 53 binary digits in front of its last place. -/
theorem mul_roundingPlace_le (num : ℕ) (hden : 0 < den) (h : excess (num * unitsPerOne / den) ≠ 0) :
    0x10000000000000 * roundingPlace num den ≤ num * unitsPerOne := by
  rw [← Nat.le_div_iff_mul_le (roundingPlace_pos num hden), roundingPlace,
    ← Nat.div_div_eq_div_mul]
  exact le_div_two_pow_excess h

/-- The significand of a quotient is the whole number of places that is within half of one. -/
theorem roundedSignificand_eq_iff (num : ℕ) (hden : 0 < den) (k : ℕ) :
    roundedSignificand num den = k ↔
      WithinHalf (num * unitsPerOne - k * roundingPlace num den) (roundingPlace num den) k := by
  have hwithin := roundHalfEven_eq_iff (num * unitsPerOne) (roundingPlace_pos num hden) k
  rwa [Nat.cast_mul] at hwithin

/-- The last digit of a rounded significand stays even if the significand has to move up. -/
theorem significand_mod_two_of_round? (h : round? num den = some x)
    (heven : roundedSignificand num den % 2 = 0) : x.significand % 2 = 0 := by
  simp only [round?] at h
  split at h
  · split at h
    · cases h
      show 0x10000000000000 % 2 = 0
      decide
    · cases h
  · split at h
    · cases h
      exact heven
    · cases h

/-- A rounded quotient is the nearest magnitude. -/
theorem isNearest_of_round? (hden : 0 < den) (h : round? num den = some x) :
    x.IsNearest (num / den) := by
  rw [isNearest_div_iff hden]
  intro y
  have hpos : (0 : ℤ) < roundingPlace num den := Nat.cast_pos.2 (roundingPlace_pos num hden)
  have hrounded := (roundedSignificand_eq_iff num hden _).1 rfl
  have hx : x.units * den = roundedSignificand num den * roundingPlace num den := by
    rw [roundingPlace, units_of_round? h, Nat.mul_assoc, Nat.mul_comm den]
  have hx' : (x.units * den : ℤ) = roundedSignificand num den * roundingPlace num den := by
    exact_mod_cast hx
  rw [hx']
  rcases Nat.lt_or_ge y.shift (excess (num * unitsPerOne / den)) with hlt | hge
  · -- The other magnitude is in front of the least significand that fills its places.
    have hfront : (0x10000000000000 * roundingPlace num den : ℤ) ≤ num * unitsPerOne := by
      exact_mod_cast mul_roundingPlace_le num hden
        (Nat.ne_of_gt (Nat.lt_of_le_of_lt (Nat.zero_le _) hlt))
    have hbehind : (y.units * den : ℤ) < 0x10000000000000 * roundingPlace num den := by
      have hunits := Nat.mul_lt_mul_of_pos_right (units_lt_of_shift_lt hlt) hden
      have hplace : 0x10000000000000 * Nat.pow 2 (excess (num * unitsPerOne / den)) * den =
          0x10000000000000 * roundingPlace num den := by
        rw [roundingPlace, Nat.mul_assoc, Nat.mul_comm den]
      rw [hplace] at hunits
      exact_mod_cast hunits
    have hfurther : |(num * unitsPerOne : ℤ) - roundedSignificand num den * roundingPlace num den| <
        |(num * unitsPerOne : ℤ) - y.units * den| := by
      calc |(num * unitsPerOne : ℤ) - roundedSignificand num den * roundingPlace num den|
          ≤ |(num * unitsPerOne : ℤ) - (0x10000000000000 : ℕ) * roundingPlace num den| :=
            hrounded.abs_le hpos _
        _ = num * unitsPerOne - 0x10000000000000 * roundingPlace num den :=
            abs_of_nonneg (sub_nonneg.2 hfront)
        _ < num * unitsPerOne - y.units * den := sub_lt_sub_left hbehind _
        _ ≤ |(num * unitsPerOne : ℤ) - y.units * den| := le_abs_self _
    exact ⟨hfurther.le, fun _ heq => absurd heq hfurther.ne'⟩
  · -- The other magnitude is a whole number of places.
    obtain ⟨k, hk⟩ : ∃ k : ℕ, y.units * den = k * roundingPlace num den := by
      obtain ⟨k, hk⟩ := y.exists_units_eq_mul hge
      exact ⟨k, by rw [hk, roundingPlace, Nat.mul_assoc, Nat.mul_comm den]⟩
    have hk' : (y.units * den : ℤ) = k * roundingPlace num den := by exact_mod_cast hk
    rw [hk']
    refine ⟨hrounded.abs_le hpos k, ?_⟩
    intro hne heq
    refine significand_mod_two_of_round? h (hrounded.even_of_abs_eq hpos ?_ heq)
    rintro rfl
    exact hne (eq_of_units_eq (Nat.eq_of_mul_eq_mul_right hden (hk.trans hx.symm)))

/-- A quotient has no magnitude if its shift is too great, at the latest when its significand has
moved up. -/
theorem round?_eq_none_iff_excess :
    round? num den = none ↔ 2045 < excess (num * unitsPerOne / den) ∨
      excess (num * unitsPerOne / den) = 2045 ∧ roundedSignificand num den = 0x20000000000000 := by
  simp only [round?]
  split
  next hcarry =>
    split
    next hshift => exact iff_of_false (by simp) (by omega)
    next hshift => exact iff_of_true rfl (by omega)
  next hcarry =>
    split
    next hshift => exact iff_of_false (by simp) (by omega)
    next hshift => exact iff_of_true rfl (by omega)

/-- The quotients without a magnitude are those from the middle between the greatest magnitude and
the number that would follow it. The exponent is a variable, lest the power be computed. -/
theorem round?_eq_none_iff {places : ℕ} (hplaces : places = 970) (hden : 0 < den) :
    round? num den = none ↔
      0x3fffffffffffff * (den * (Nat.pow 2 places * unitsPerOne)) ≤ num * unitsPerOne := by
  rw [← two_pow_add_unitPlaces]
  have htop : places + unitPlaces = 2044 := by rw [hplaces, unitPlaces_eq]
  generalize places + unitPlaces = top at htop ⊢
  have hlt := lt_mul_roundingPlace num hden
  have hle := mul_roundingPlace_le num hden
  have hcarry := roundedSignificand_eq_iff num hden 0x20000000000000
  have hplace : roundingPlace num den = den * Nat.pow 2 (excess (num * unitsPerOne / den)) := rfl
  have hstep (places : ℕ) : den * Nat.pow 2 (places + 1) = 2 * (den * Nat.pow 2 places) := by
    rw [two_pow_add, ← Nat.mul_assoc, Nat.mul_comm]
  have hmono {few many : ℕ} (h : few ≤ many) : den * Nat.pow 2 few ≤ den * Nat.pow 2 many :=
    Nat.mul_le_mul_left den (Nat.pow_le_pow_right (by decide) h)
  rw [round?_eq_none_iff_excess]
  generalize excess (num * unitsPerOne / den) = shift at *
  rcases Nat.lt_trichotomy shift (top + 1) with hshift | rfl | hshift
  · -- Even a significand that moves up has a place.
    have hsmall : roundingPlace num den ≤ den * Nat.pow 2 top :=
      hplace.trans_le (hmono (Nat.le_of_lt_succ hshift))
    generalize den * Nat.pow 2 top = half at hsmall ⊢
    exact iff_of_false (by omega) (by omega)
  · -- The significand moves up from the middle on.
    have hdouble : roundingPlace num den = 2 * (den * Nat.pow 2 top) := by
      rw [hplace, hstep]
    generalize den * Nat.pow 2 top = half at hdouble ⊢
    rw [hcarry, WithinHalf, abs_of_nonpos (by omega)]
    omega
  · have hlarge : den * Nat.pow 2 (top + 1 + 1) ≤ roundingPlace num den :=
      (hmono hshift).trans_eq hplace.symm
    rw [hstep, hstep] at hlarge
    generalize den * Nat.pow 2 top = half at hlarge ⊢
    have hfull := hle (by omega)
    exact iff_of_true (by omega) (by omega)

/-- The shift of a number of units can be read off its bounds. -/
theorem excess_eq {count shift : ℕ} (hlt : count < 0x20000000000000 * Nat.pow 2 shift)
    (hle : shift = 0 ∨ 0x10000000000000 * Nat.pow 2 shift ≤ count) : excess count = shift := by
  rw [excess]
  rcases hle with rfl | hle
  · rcases Nat.eq_zero_or_pos count with rfl | hpos
    · rfl
    · have hlog : count.log2 < 53 := (Nat.log2_lt hpos.ne').2 (hlt.trans_eq (Nat.mul_one _))
      omega
  · have hpos : 0 < count :=
      Nat.lt_of_lt_of_le (Nat.mul_pos (by decide) (Nat.pow_pos (by decide))) hle
    have hlog : count.log2 = 52 + shift := by
      refine (Nat.log2_eq_iff hpos.ne').2 ⟨?_, ?_⟩
      · exact (two_pow_add 52 shift).trans_le hle
      · rw [Nat.add_right_comm]
        exact hlt.trans_eq (two_pow_add 53 shift).symm
    omega

/-- The shift of a quotient grows with the powers of two that it is multiplied by. -/
theorem excess_mul_two_pow (hden : 0 < den) (h : excess (num * unitsPerOne / den) ≠ 0) (k : ℕ) :
    excess (num * Nat.pow 2 k * unitsPerOne / den) = excess (num * unitsPerOne / den) + k := by
  have hlt := lt_mul_roundingPlace num hden
  have hle := mul_roundingPlace_le num hden h
  rw [roundingPlace] at hlt hle
  generalize excess (num * unitsPerOne / den) = places at hlt hle ⊢
  have hpow : 0 < Nat.pow 2 k := Nat.pow_pos (by decide)
  have hscaled (c : ℕ) : c * Nat.pow 2 (places + k) * den =
      c * (den * Nat.pow 2 places) * Nat.pow 2 k := by
    rw [two_pow_add]
    ring
  refine excess_eq ?_ (.inr ?_)
  · rw [Nat.div_lt_iff_lt_mul hden, hscaled, Nat.mul_right_comm]
    exact Nat.mul_lt_mul_of_pos_right hlt hpow
  · rw [Nat.le_div_iff_mul_le hden, hscaled, Nat.mul_right_comm num]
    exact Nat.mul_le_mul_right _ hle

/-- A quotient that is multiplied by a power of two is rounded to that multiple, if it is neither
small nor too great. -/
theorem exists_round?_mul_two_pow (hden : 0 < den) (h : round? num den = some x) {k : ℕ}
    (hlow : excess (num * unitsPerOne / den) ≠ 0)
    (hhigh : excess (num * unitsPerOne / den) + k < 2045) :
    ∃ y, round? (num * Nat.pow 2 k) den = some y ∧ y.units = x.units * Nat.pow 2 k := by
  have hexcess := excess_mul_two_pow hden hlow k
  have hsignificand : roundedSignificand (num * Nat.pow 2 k) den = roundedSignificand num den := by
    have hpow : 0 < Nat.pow 2 k := Nat.pow_pos (by decide)
    simp only [roundedSignificand, hexcess, two_pow_add]
    rw [← Nat.mul_assoc, Nat.mul_right_comm num, roundHalfEven_mul_right _ _ hpow]
  cases hround : round? (num * Nat.pow 2 k) den with
  | none =>
    rw [round?_eq_none_iff_excess, hexcess] at hround
    omega
  | some y =>
    refine ⟨y, rfl, ?_⟩
    rw [units_of_round? hround, units_of_round? h, hsignificand, hexcess, two_pow_add,
      ← Nat.mul_assoc]

/-- A quotient that is within half a place of a magnitude has its shift, unless the magnitude begins
that shift. -/
theorem excess_eq_of_withinHalf (hden : 0 < den)
    (hx : x.shift = 0 ∨ x.significand ≠ 0x10000000000000)
    (h : WithinHalf (num * unitsPerOne - x.significand * (den * Nat.pow 2 x.shift : ℕ))
      (den * Nat.pow 2 x.shift : ℕ) x.significand) :
    excess (num * unitsPerOne / den) = x.shift := by
  have hle := h.two_mul_abs_le
  have hupper := le_abs_self (num * unitsPerOne - x.significand * (den * Nat.pow 2 x.shift : ℕ) : ℤ)
  have hlower := neg_le_abs (num * unitsPerOne - x.significand * (den * Nat.pow 2 x.shift : ℕ) : ℤ)
  have hmul (k : ℕ) : k * Nat.pow 2 x.shift * den = k * (den * Nat.pow 2 x.shift) := by
    rw [Nat.mul_assoc, Nat.mul_comm den]
  have hpos : 0 < den * Nat.pow 2 x.shift := Nat.mul_pos hden (Nat.pow_pos (by decide))
  -- The quotient is within half a place of the significand, so both fill the same places.
  refine excess_eq ?_ ?_
  · have htop := Nat.mul_le_mul_right (den * Nat.pow 2 x.shift)
      (Nat.le_of_lt_succ x.significand_lt)
    rw [Nat.div_lt_iff_lt_mul hden, hmul]
    generalize den * Nat.pow 2 x.shift = place at *
    omega
  · rcases hx with hzero | hne
    · exact .inl hzero
    refine x.normalized.imp_right ?_
    intro hfull
    have hbottom := Nat.mul_le_mul_right (den * Nat.pow 2 x.shift)
      (Nat.lt_of_le_of_ne hfull (Ne.symm hne))
    rw [Nat.le_div_iff_mul_le hden, hmul]
    generalize den * Nat.pow 2 x.shift = place at *
    push_cast at *
    omega

/-- A quotient is rounded to a magnitude that does not begin a new shift if it is within half a
place of it. -/
theorem round?_eq_some_iff (num : ℕ) (hden : 0 < den)
    (hx : x.shift = 0 ∨ x.significand ≠ 0x10000000000000) :
    round? num den = some x ↔ WithinHalf (num * unitsPerOne - x.units * den)
      (den * Nat.pow 2 x.shift : ℕ) x.significand := by
  have hunits : x.units * den = x.significand * (den * Nat.pow 2 x.shift) := by
    rw [units, Nat.mul_assoc, Nat.mul_comm den]
  have hunits' : (x.units * den : ℤ) = x.significand * (den * Nat.pow 2 x.shift : ℕ) := by
    exact_mod_cast hunits
  rw [hunits']
  constructor
  · intro h
    have hrounded := (roundedSignificand_eq_iff num hden _).1 rfl
    simp only [round?] at h
    split at h
    · -- A significand that moves up begins the next shift.
      split at h
      · cases h
        exact (hx.resolve_left (Nat.succ_ne_zero _) rfl).elim
      · cases h
    · split at h
      · cases h
        exact hrounded
      · cases h
  · intro h
    -- With the shift of the magnitude the deviation says which significand it is, and that one does
    -- not move up.
    have hexcess := excess_eq_of_withinHalf hden hx h
    have hplace : roundingPlace num den = den * Nat.pow 2 x.shift := by rw [roundingPlace, hexcess]
    rw [← hplace] at h
    have hsignificand := (roundedSignificand_eq_iff num hden _).2 h
    have hcarry : x.significand ≠ 0x20000000000000 := Nat.ne_of_lt x.significand_lt
    simp only [round?, hsignificand, hexcess, hcarry, x.shift_le, dite_true, dite_false]

end Magnitude

/-! ### Floats -/

namespace Binary64

variable {num den : ℕ}

/-- The middle between the greatest float and the number that would follow it. -/
def overflowBound : ℚ := (2 ^ 54 - 1) * 2 ^ 970

/-- A float is nearest to a number that is not negative. From the middle behind the greatest float
on, that is an infinity. -/
inductive IsNearest (value : ℚ) : Binary64 → Prop
  | finite {x : Magnitude} : value < overflowBound → x.IsNearest value →
      IsNearest value (.finite false x)
  | infinite : overflowBound ≤ value → IsNearest value (.infinite false)

/-- The bound of overflows, with its power of two behind a variable. -/
theorem overflowBound_eq {places : ℕ} (h : places = 970) :
    overflowBound = (2 ^ 54 - 1) * (Nat.pow 2 places : ℕ) := by
  rw [overflowBound, Nat.pow_eq, Nat.cast_pow, Nat.cast_ofNat, h]

/-- A quotient is rounded to an infinity from the bound on. -/
theorem round?_eq_none_iff_le (num : ℕ) (hden : 0 < den) :
    Magnitude.round? num den = none ↔ overflowBound ≤ num / den := by
  obtain ⟨places, hplaces⟩ : ∃ places, places = 970 := ⟨_, rfl⟩
  -- Both sides are multiplied by the number of units.
  have hone := unitsPerOne_pos_rat
  rw [Magnitude.round?_eq_none_iff hplaces hden, overflowBound_eq hplaces,
    le_div_iff₀ (Nat.cast_pos.2 hden), ← mul_le_mul_iff_left₀ hone, ← @Nat.cast_le ℚ]
  generalize Nat.pow 2 places = last
  generalize Magnitude.unitsPerOne = one
  push_cast
  ring_nf

/-- A rounded quotient has the rank of a magnitude if it is that magnitude. -/
theorem rank?_round_iff {x : Magnitude} :
    (round false num den).rank? = some (.units x.units) ↔ Magnitude.round? num den = some x := by
  rw [round]
  cases Magnitude.round? num den with
  | none => simp [ofMagnitude?, rank?]
  | some y =>
    have hunits : y.units = x.units ↔ y = x := ⟨Magnitude.eq_of_units_eq, congrArg _⟩
    simp [ofMagnitude?, rank?, signedUnits, hunits]

/-- Rounding gives the nearest float, and there is no other one. -/
theorem isNearest_iff (hden : 0 < den) {x : Binary64} :
    IsNearest (num / den) x ↔ x = round false num den := by
  have hnone := round?_eq_none_iff_le num hden
  rw [round]
  cases hround : Magnitude.round? num den with
  | none =>
    -- From the bound on only infinity is the nearest, and below it infinity is not.
    have hle := hnone.1 hround
    constructor
    · rintro (⟨hlt, -⟩ | -)
      · exact absurd hle (not_le.2 hlt)
      · rfl
    · rintro rfl
      exact .infinite hle
  | some y =>
    have hlt : (num / den : ℚ) < overflowBound := by
      rw [← not_le, ← hnone, hround]
      simp
    have hnearest := Magnitude.isNearest_of_round? hden hround
    constructor
    · rintro (⟨-, hx⟩ | hle)
      · exact congrArg _ (hx.eq hnearest)
      · exact absurd hle (not_le.2 hlt)
    · rintro rfl
      exact .finite hlt hnearest

/-- A product is the float that is nearest to the product of the exact values. -/
theorem isNearest_mul_iff {x y : Magnitude} {z : Binary64} :
    IsNearest (x.toRat * y.toRat) z ↔ z = mul (.finite false x) (.finite false y) := by
  have hvalue : x.toRat * y.toRat = ((x.units * y.units : ℕ) : ℚ) /
      (Magnitude.unitsPerOne * Magnitude.unitsPerOne : ℕ) := by
    rw [Magnitude.toRat, Magnitude.toRat, div_mul_div_comm, Nat.cast_mul, Nat.cast_mul]
  rw [hvalue, isNearest_iff (Nat.mul_pos Magnitude.unitsPerOne_pos Magnitude.unitsPerOne_pos), mul,
    bne_self_eq_false]

end Binary64

end RecordSieve
