import RecordSieve.Proofs.Numeric.Rounding

/-!
# The Order of Numbers

Every two numbers but NaN have an order, and NaN is only ever made of NaN or of zeros and
infinities.

## Main definitions

* `Binary64.isFactor`: the numbers that are safe to multiply with and to divide by.

## Main statements

* `Binary64.mul_ne_nan`, `Binary64.div_ne_nan`: a product or quotient with a safe number is no NaN
  unless the other number is;
* `Scalar.compare?_ne_some_none`: scalars that may be ordered are ordered, unless one is NaN.
-/

namespace RecordSieve

namespace Binary64

variable {x y : Binary64}

/-- Whether a number is neither zero, nor infinite, nor NaN. -/
def isFactor : Binary64 → Bool
  | .finite _ magnitude => magnitude.units ≠ 0
  | _ => false

/-- A factor is finite and not zero. -/
theorem exists_of_isFactor (h : x.isFactor = true) :
    ∃ negative magnitude, x = .finite negative magnitude ∧ magnitude.units ≠ 0 := by
  cases x with
  | nan => cases h
  | infinite negative => cases h
  | finite negative magnitude => exact ⟨negative, magnitude, rfl, of_decide_eq_true h⟩

/-- The greatest float, which is a whole number and too great to be computed. -/
@[irreducible]
def greatest : Nat := 0x1fffffffffffff * Nat.pow 2 971

/-- The greatest magnitude, with its power of two behind a variable. -/
theorem greatest_eq {places : Nat} (h : places = 971) :
    greatest = 0x1fffffffffffff * Nat.pow 2 places := by
  rw [h]
  delta greatest
  generalize 971 = places
  rfl

/-- A natural number below the greatest float is neither rounded to zero nor to infinity. -/
theorem isFactor_ofNat {n : Nat} (hpos : 0 < n) (h : n < greatest) :
    (ofNat n).isFactor = true := by
  have hne : n ≠ 0 := Nat.ne_of_gt hpos
  obtain ⟨places, hplaces⟩ : ∃ places, places = 971 := ⟨_, rfl⟩
  rw [greatest_eq hplaces] at h
  -- The powers are too great to be computed, and only their sums of exponents matter.
  have hsum := two_pow_add 53 places
  have hden := Magnitude.two_pow_add_unitPlaces places
  generalize Nat.pow 2 places = last at h hsum hden
  have hlast : 0 < last := by
    apply Nat.pos_of_ne_zero
    rintro rfl
    exact Nat.not_lt_zero n h
  have hlog : n.log2 < 53 + places := by
    refine (Nat.log2_lt hne).2 (Nat.lt_of_lt_of_le h ?_)
    rw [← Nat.pow_eq, hsum]
    exact Nat.mul_le_mul_right _ (by decide)
  have hshift : Magnitude.excess (n * Magnitude.unitsPerOne / 1) = n.log2 + 1022 := by
    rw [Nat.div_one, Magnitude.excess_mul_unitsPerOne hne]
  -- With the greatest shift the significand is not rounded up to the next power of two.
  have hcarry : n.log2 = 1023 → Magnitude.roundedSignificand n 1 < 0x20000000000000 := by
    intro htop
    have hexponent : n.log2 + 1022 = places + Magnitude.unitPlaces := by
      rw [htop, hplaces, Magnitude.unitPlaces_eq]
    rw [Magnitude.roundedSignificand, hshift, hexponent, Nat.one_mul, hden]
    refine Nat.lt_of_le_of_lt (roundHalfEven_le _ _) ?_
    rw [Nat.mul_div_mul_right _ _ Magnitude.unitsPerOne_pos]
    exact Nat.succ_lt_succ ((Nat.div_lt_iff_lt_mul hlast).2 h)
  obtain ⟨x, hx, hxshift⟩ : ∃ x, Magnitude.round? n 1 = some x ∧ x.shift ≠ 0 := by
    rw [Magnitude.round?]
    simp only [hshift]
    split
    next hmax =>
      rw [dif_pos (by omega)]
      exact ⟨_, rfl, Nat.succ_ne_zero _⟩
    next =>
      rw [dif_pos (by omega)]
      exact ⟨_, rfl, by simp only; omega⟩
  have hsignificand : x.significand ≠ 0 := by
    have := x.normalized
    omega
  rw [ofNat, round, hx]
  exact decide_eq_true (Nat.mul_ne_zero hsignificand (Nat.ne_of_gt (Nat.pow_pos (by decide))))

/-- The sign does not make a float NaN. -/
theorem neg_ne_nan (h : x ≠ .nan) : x.neg ≠ .nan := by
  cases x with
  | nan => exact absurd rfl h
  | infinite negative => simp [neg]
  | finite negative magnitude => simp [neg]

/-- A multiple by a factor is not NaN. -/
theorem mul_ne_nan (hx : x ≠ .nan) (hy : y.isFactor = true) : x.mul y ≠ .nan := by
  obtain ⟨negative, magnitude, rfl, hunits⟩ := exists_of_isFactor hy
  cases x with
  | nan => exact absurd rfl hx
  | infinite negative' =>
    -- An infinity has no product with zero only.
    simp [mul, hunits]
  | finite negative' magnitude' => exact round_ne_nan _ _ _

/-- A quotient by a factor is not NaN. -/
theorem div_ne_nan (hx : x ≠ .nan) (hy : y.isFactor = true) : x.div y ≠ .nan := by
  obtain ⟨negative, magnitude, rfl, hunits⟩ := exists_of_isFactor hy
  cases x with
  | nan => exact absurd rfl hx
  | infinite negative' => simp [div]
  | finite negative' magnitude' =>
    rw [div_finite hunits]
    exact round_ne_nan _ _ _

/-- Only NaN has no order. -/
theorem exists_compare?_eq_some (hx : x ≠ .nan) (hy : y ≠ .nan) :
    ∃ ordering, compare? x y = some ordering := by
  cases x <;> cases y
  case finite.finite => exact ⟨_, rfl⟩
  case finite.infinite => exact ⟨_, rfl⟩
  case infinite.finite => exact ⟨_, rfl⟩
  case infinite.infinite => exact ⟨_, rfl⟩
  -- One of the numbers is NaN in the cases that are left.
  all_goals contradiction

end Binary64

namespace Scalar

/-- A float is NaN as a scalar exactly if it is NaN. -/
theorem float_ne_nan {x : Binary64} : float x ≠ float .nan ↔ x ≠ .nan := by
  rw [ne_eq, float.injEq]

/-- Every integer has an order with every number but NaN. -/
theorem exists_compareIntFloat?_eq_some (n : Int64) {x : Binary64} (hx : x ≠ .nan) :
    ∃ ordering, compareIntFloat? n x = some ordering := by
  have hsmall : 0x8000000000000000 < Binary64.greatest := by decide +kernel
  obtain ⟨sign, bound, htwoPow63, -⟩ := Binary64.exists_of_isFactor
    (Binary64.isFactor_ofNat (by decide) hsmall)
  -- The bound of the integers is a float, so that every float but NaN is on one side of it.
  rw [← Binary64.twoPow63] at htwoPow63
  rw [compareIntFloat?, htwoPow63]
  cases x with
  | nan => exact absurd rfl hx
  | infinite negative => cases negative <;> exact ⟨_, rfl⟩
  | finite negative magnitude =>
    obtain ⟨above, habove⟩ := Binary64.exists_compare?_eq_some hx
      (y := .finite sign bound) (by simp)
    obtain ⟨below, hbelow⟩ := Binary64.exists_compare?_eq_some hx
      (y := Binary64.neg (.finite sign bound)) (by simp [Binary64.neg])
    obtain ⟨whole, hwhole⟩ : ∃ whole, Binary64.truncate? (.finite negative magnitude) =
        some whole := ⟨_, rfl⟩
    rw [habove, hbelow, hwhole]
    cases above with
    | lt =>
      cases below with
      | lt => exact ⟨_, rfl⟩
      | eq | gt =>
        -- Inside of the range of the integers the whole part decides, or else the fraction.
        dsimp only
        split
        · exact Binary64.exists_compare?_eq_some (Binary64.round_ne_nan _ _ _) hx
        · exact ⟨_, rfl⟩
    | eq => exact ⟨_, rfl⟩
    | gt => exact ⟨_, rfl⟩

/-- Scalars that may be ordered are ordered, unless one of them is NaN. -/
theorem compare?_ne_some_none {left right : Scalar} (hleft : left ≠ .float .nan)
    (hright : right ≠ .float .nan) : left.compare? right ≠ some none := by
  cases left <;> cases right <;> simp only [compare?, numericCompare?]
  case int.float n x =>
    obtain ⟨ordering, hordering⟩ := exists_compareIntFloat?_eq_some n (float_ne_nan.1 hright)
    simp [hordering]
  case float.int x n =>
    obtain ⟨ordering, hordering⟩ := exists_compareIntFloat?_eq_some n (float_ne_nan.1 hleft)
    simp [hordering]
  case float.float x y =>
    obtain ⟨ordering, hordering⟩ :=
      Binary64.exists_compare?_eq_some (float_ne_nan.1 hleft) (float_ne_nan.1 hright)
    simp [hordering]
  all_goals simp

end Scalar

end RecordSieve
