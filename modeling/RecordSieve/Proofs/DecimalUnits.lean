import RecordSieve.Proofs.Expansions
import RecordSieve.Proofs.Literals
import RecordSieve.Proofs.Numeric.Nearest
import RecordSieve.Proofs.WholeNumbers

/-!
# Decimal Units Behind Fractions

A fraction in front of a decimal unit is seldom a float. It is rounded, the unit multiplies what
comes out, and the product is rounded as well. If the literal stands for a whole number, the second
rounding has to take back what the first one did. Whether it does depends on the whole number and
the unit: the unit magnifies the first deviation, which then has to be within half a place of the
whole number.

## Main definitions

* `AcceptsExpansion`: a literal is equal to the whole number that it stands for;
* `Numeral.RoundsBack`: the magnified deviation is within half a place.

## Main statements

* `acceptsExpansion_iff_rank?`: the literal is accepted with that number if it has its exact value;
* `Numeral.nearest_eq_round`: the first rounding is that of the whole number over the factor;
* `Numeral.rank?_value_iff`: the second rounding takes back the first one;
* `Numeral.roundsBack_of_lt`: it does for whole numbers whose leading digits are smaller than those
  of the factor;
* `acceptsExpansion_iff`: the literals with a decimal unit that are equal to their expansion.
-/

namespace RecordSieve

/-! ### Literals and their expansions -/

/-- A literal is equal to the whole number that it stands for, and conditions that ask for equality
or for a bound accept the records with that number in the field. -/
structure AcceptsExpansion (text : String) (N : ℕ) : Prop where
  agrees : (Scalar.ofText text).agrees (Scalar.ofJson (.number (.integer N))) = true
  accepted : ∀ field, IsFieldName field → ∀ op ∈ [Operator.eq, .ge, .le],
    ∃ sieve, (Condition.parse (Condition.render ⟨field, op, text⟩) >>=
        fun condition => Sieve.ofConditions [condition] .all false) = .ok sieve ∧
      ∀ json number, WritesInteger json N →
        sieve.judge (fieldLine field.toList json) number = .ok true

/-- Scalars that stand for one integer are accepted as equal, and as bounds. -/
theorem Operator.evaluate_of_standsFor {op : Operator} (hop : op ∈ [Operator.eq, .ge, .le])
    {x y : Scalar} {N : ℕ} (hN : N ≤ 0x20000000000000) (hx : x.StandsFor N) (hy : y.StandsFor N) :
    op.evaluate x y = .ok true := by
  have horder := Scalar.inOrder_of_standsFor hx hy (.inl (by omega))
  rw [Int.compare_eq_eq.2 rfl] at horder
  simp only [List.mem_cons, List.not_mem_nil, or_false] at hop
  rcases hop with rfl | rfl | rfl <;> exact evaluate_of_inOrder (by decide) horder

/-- A literal is accepted with a whole number if it has the exact value of that number. -/
theorem acceptsExpansion_iff_rank? {text : String} {N : ℕ} (hliteral : IsLiteralText text.toList)
    (hN : N ≤ 0x20000000000000) : AcceptsExpansion text N ↔
      (Scalar.ofText text).rank? = some (.units (N * Magnitude.unitsPerOne)) := by
  have hagrees : (Scalar.ofText text).agrees (Scalar.ofJson (.number (.integer N))) = true ↔
      (Scalar.ofText text).rank? = some (.units (N * Magnitude.unitsPerOne)) := by
    rw [Scalar.agrees_comm, Scalar.agrees_eq_of_rank? (Scalar.rank?_ofJson_natCast hN),
      decide_eq_true_eq]
  constructor
  · intro h
    exact hagrees.1 h.agrees
  · intro h
    -- The rank is enough for the records as well, however the number is written there.
    have htext : (Scalar.ofText text).StandsFor N := .exact (by omega) h
    refine ⟨hagrees.2 h, ?_⟩
    intro field hfield op hop
    have hlike : op ≠ .like := by
      rintro rfl
      exact absurd hop (by decide)
    refine ⟨_, Sieve.ofConditions_render ⟨hfield.1, hfield.2, isLiteral_iff.2 hliteral⟩ hlike, ?_⟩
    intro json number hjson
    obtain ⟨value, hdecode, hvalue⟩ := exists_decodeObject_of_writesInteger hfield hjson
    have hread : readRecord (fieldLine field.toList json) number = .ok [(field, value)] := by
      rw [readRecord, hdecode]
    have hget : Fields.get? [(field, value)] field = some value := by simp [Fields.get?]
    rw [Sieve.judge_of_readRecord hread, Sieve.keeps_plain hget]
    exact Operator.evaluate_of_standsFor hop hN (Scalar.standsFor_ofJson hvalue) htext

/-! ### The two roundings -/

/-- The worth of the last binary place of a magnitude. -/
def Magnitude.lastPlace (x : Magnitude) : ℚ := Nat.pow 2 x.shift / unitsPerOne

namespace Numeral

variable {n : Numeral} {unit : SizeUnit} {N : ℕ}

/-- The float nearest to the digits, multiplied by the unit, is within half a place of a whole
number. If it is half a place away, the last digit of that number is zero. -/
def RoundsBack (n : Numeral) (N : ℕ) : Prop :=
  ∃ x y : Magnitude, n.nearest = .finite false x ∧ Binary64.ofNat N = .finite false y ∧
    (2 * |x.toRat * n.factor - N| < y.lastPlace ∨
      2 * |x.toRat * n.factor - N| = y.lastPlace ∧ y.significand % 2 = 0)

/-- The digits are rounded as the whole number over the factor. -/
theorem nearest_eq_round (hexact : n.exactValue = N) : n.nearest = .round false N n.factor := by
  rw [exactValue_eq_iff] at hexact
  rw [nearest, ← Binary64.round_mul_right false _ _ n.factor_pos, hexact, Nat.mul_comm _ n.factor,
    Binary64.round_mul_right false _ _ n.pow_places_pos]

/-- The digits are not too great for a float. -/
theorem exists_nearest (hexact : n.exactValue = N) (hN : N ≤ 0x20000000000000) :
    ∃ x : Magnitude, n.nearest = .finite false x ∧ Magnitude.round? N n.factor = some x := by
  rw [nearest_eq_round hexact, Binary64.round]
  cases hround : Magnitude.round? N n.factor with
  | some x => exact ⟨x, rfl, rfl⟩
  | none =>
    obtain ⟨places, hplaces⟩ : ∃ places, places = 970 := ⟨_, rfl⟩
    have hle := (Magnitude.round?_eq_none_iff hplaces n.factor_pos).1 hround
    have hone : Magnitude.unitsPerOne ≤ n.factor * (Nat.pow 2 places * Magnitude.unitsPerOne) :=
      (Nat.le_mul_of_pos_left _ (Nat.two_pow_pos places)).trans
        (Nat.le_mul_of_pos_left _ n.factor_pos)
    have hpos := Magnitude.unitsPerOne_pos
    have hsmall := Nat.mul_le_mul_right Magnitude.unitsPerOne hN
    generalize n.factor * (Nat.pow 2 places * Magnitude.unitsPerOne) = bound at *
    omega

/-- The deviation is the same in units. -/
theorem roundsBack_iff {x y : Magnitude} (hx : n.nearest = .finite false x)
    (hy : Binary64.ofNat N = .finite false y) : n.RoundsBack N ↔
      WithinHalf (x.units * n.factor - N * Magnitude.unitsPerOne) (Nat.pow 2 y.shift : ℕ)
        y.significand := by
  have hone := Binary64.unitsPerOne_pos_rat
  -- All three numbers are whole numbers of units, so the denominators cancel.
  have hdeviation : x.toRat * n.factor - N =
      ((x.units * n.factor - N * Magnitude.unitsPerOne : ℤ) : ℚ) / Magnitude.unitsPerOne := by
    push_cast
    rw [Magnitude.toRat, div_mul_eq_mul_div, sub_div, mul_div_cancel_right₀ _ hone.ne']
  have hdouble : 2 * |x.toRat * n.factor - N| =
      ((2 * |(x.units * n.factor - N * Magnitude.unitsPerOne : ℤ)| : ℤ) : ℚ) /
        Magnitude.unitsPerOne := by
    rw [hdeviation, abs_div, abs_of_pos hone, mul_div_assoc', Int.cast_mul, Int.cast_abs,
      Int.cast_ofNat]
  have hplace : y.lastPlace = (((Nat.pow 2 y.shift : ℕ) : ℤ) : ℚ) / Magnitude.unitsPerOne := by
    rw [Magnitude.lastPlace, Int.cast_natCast]
  have hwithin : WithinHalf (x.units * n.factor - N * Magnitude.unitsPerOne)
      (Nat.pow 2 y.shift : ℕ) y.significand ↔
      2 * |x.toRat * n.factor - N| < y.lastPlace ∨
        2 * |x.toRat * n.factor - N| = y.lastPlace ∧ y.significand % 2 = 0 := by
    rw [WithinHalf, hdouble, hplace, div_lt_div_iff_of_pos_right hone, div_left_inj' hone.ne',
      Int.cast_lt, Int.cast_inj]
  rw [hwithin]
  constructor
  · rintro ⟨x', y', hx', hy', h⟩
    cases hx.symm.trans hx'
    cases hy.symm.trans hy'
    exact h
  · intro h
    exact ⟨x, y, hx, hy, h⟩

/-- The unit makes a product of the digits, which is rounded in turn. -/
theorem value_eq_round (hunit : n.unit = some unit) {x : Magnitude}
    (hx : n.nearest = .finite false x) :
    n.value = .float (.round false (x.units * n.factor) Magnitude.unitsPerOne) := by
  obtain ⟨y, hmultiplier, hy⟩ := unit.exists_multiplier
  rw [value_of_unit hunit, hx, hmultiplier, Binary64.mul, hy, ← factor_of_unit hunit,
    ← Nat.mul_assoc, Binary64.round_mul_right _ _ _ Magnitude.unitsPerOne_pos, bne_self_eq_false]

/-- A whole number whose significand is the least one is a power of two. -/
theorem isPowerOfTwo_of_significand {y : Magnitude} (hy : y.units = N * Magnitude.unitsPerOne)
    (hsignificand : y.significand = 0x10000000000000) : N.isPowerOfTwo := by
  have hunits : N * Nat.pow 2 Magnitude.unitPlaces = Nat.pow 2 (52 + y.shift) := by
    rw [Magnitude.units, hsignificand, Magnitude.unitsPerOne_eq] at hy
    exact hy.symm.trans (two_pow_add 52 y.shift).symm
  have hne : N ≠ 0 := by
    rintro rfl
    rw [Nat.zero_mul] at hunits
    exact absurd hunits (Nat.ne_of_lt (Nat.pow_pos (by decide)))
  -- Counted in units the number is a power of two, and the logarithms give its own exponent.
  have hlog := congrArg Nat.log2 hunits
  rw [log2_mul_two_pow hne, Nat.pow_eq, Nat.log2_two_pow] at hlog
  refine ⟨N.log2, Nat.eq_of_mul_eq_mul_right (Nat.two_pow_pos Magnitude.unitPlaces) ?_⟩
  rw [← Nat.pow_eq, ← Nat.pow_eq, ← two_pow_add, hlog, ← hunits]

/-- The second rounding takes back the first one exactly if the deviation is within half a place. -/
theorem rank?_value_iff (hunit : n.unit = some unit) (hexact : n.exactValue = N)
    (hN : N ≤ 0x20000000000000) (hpower : ¬ N.isPowerOfTwo) :
    n.value.rank? = some (.units (N * Magnitude.unitsPerOne)) ↔ n.RoundsBack N := by
  obtain ⟨x, hx, -⟩ := exists_nearest hexact hN
  obtain ⟨y, hy⟩ := Magnitude.exists_units_eq_mul_unitsPerOne hN
  have hfloat := Binary64.ofNat_eq_of_units hy
  have hround := Magnitude.round?_eq_some_iff (x.units * n.factor) Magnitude.unitsPerOne_pos
    (.inr (mt (isPowerOfTwo_of_significand hy) hpower))
  have hunits : (N * Magnitude.unitsPerOne : ℤ) = y.units := by
    rw [hy, Nat.cast_mul]
  -- The product counts units twice, the float of the whole number once.
  have hdeviation : ((x.units * n.factor : ℕ) * Magnitude.unitsPerOne -
      y.units * Magnitude.unitsPerOne : ℤ) =
        (x.units * n.factor - N * Magnitude.unitsPerOne) * Magnitude.unitsPerOne := by
    rw [← sub_mul, Nat.cast_mul, hunits]
  rw [hdeviation, Nat.cast_mul, mul_comm (Magnitude.unitsPerOne : ℤ),
    WithinHalf.mul_right_iff (Nat.cast_pos.2 Magnitude.unitsPerOne_pos)] at hround
  rw [value_eq_round hunit hx, hunits, Scalar.rank?, Binary64.rank?_round_iff, hround,
    roundsBack_iff hx hfloat]

/-! ### Whole numbers that are accepted -/

/-- The digits are rounded at a place that the factor magnifies to less than a place of the whole
number. -/
theorem roundingPlace_lt (hlog : n.factor.log2 ≤ 60)
    (hlt : N * 2 ^ n.factor.log2 < n.factor * 2 ^ N.log2) :
    Magnitude.roundingPlace N n.factor < Nat.pow 2 (N.log2 + 1022) := by
  have hfull := Magnitude.mul_roundingPlace_le N n.factor_pos
  rw [Magnitude.roundingPlace] at hfull ⊢
  generalize Magnitude.excess (N * Magnitude.unitsPerOne / n.factor) = places at hfull ⊢
  have hfactor : n.factor < 2 ^ (n.factor.log2 + 1) := Nat.lt_log2_self
  have hplaces : places + n.factor.log2 + 1 ≤ N.log2 + 1022 := by
    rcases Nat.eq_zero_or_pos places with rfl | hpos
    · omega
    · -- The quotient fills its places, and it has fewer digits than the whole number and the factor
      -- suggest.
      have hpow : n.factor * 2 ^ (52 + places + n.factor.log2) <
          n.factor * 2 ^ (N.log2 + Magnitude.unitPlaces) := by
        calc n.factor * 2 ^ (52 + places + n.factor.log2)
            = 0x10000000000000 * (n.factor * 2 ^ places) * 2 ^ n.factor.log2 := by ring
          _ ≤ N * Magnitude.unitsPerOne * 2 ^ n.factor.log2 :=
              Nat.mul_le_mul_right _ (hfull hpos.ne')
          _ = N * 2 ^ n.factor.log2 * Magnitude.unitsPerOne := Nat.mul_right_comm _ _ _
          _ < n.factor * 2 ^ N.log2 * Magnitude.unitsPerOne :=
              Nat.mul_lt_mul_of_pos_right hlt Magnitude.unitsPerOne_pos
          _ = n.factor * 2 ^ (N.log2 + Magnitude.unitPlaces) := by
              rw [Nat.mul_assoc, ← Nat.pow_eq, ← Magnitude.two_pow_add_unitPlaces, Nat.pow_eq]
      have hexponent := (Nat.pow_lt_pow_iff_right (by decide)).1 (Nat.lt_of_mul_lt_mul_left hpow)
      rw [Magnitude.unitPlaces_eq] at hexponent
      omega
  calc n.factor * 2 ^ places
      < 2 ^ (n.factor.log2 + 1) * 2 ^ places :=
        Nat.mul_lt_mul_of_pos_right hfactor (Nat.two_pow_pos _)
    _ = 2 ^ (places + n.factor.log2 + 1) := by ring
    _ ≤ 2 ^ (N.log2 + 1022) := Nat.pow_le_pow_right (by decide) hplaces

/-- The first rounding is taken back if the leading digits of the whole number are smaller than
those of the factor. -/
theorem roundsBack_of_lt (hexact : n.exactValue = N) (hpos : 0 < N) (hN : N ≤ 0x20000000000000)
    (hlog : n.factor.log2 ≤ 60) (hlt : N * 2 ^ n.factor.log2 < n.factor * 2 ^ N.log2) :
    n.RoundsBack N := by
  obtain ⟨x, hx, hround⟩ := exists_nearest hexact hN
  obtain ⟨y, hy⟩ := Magnitude.exists_units_eq_mul_unitsPerOne hN
  have hfloat := Binary64.ofNat_eq_of_units hy
  have hshift : y.shift = N.log2 + 1022 := by
    rw [← y.excess_units, hy, Magnitude.excess_mul_unitsPerOne hpos.ne']
  have hplace := roundingPlace_lt hlog hlt
  rw [← hshift] at hplace
  -- The float of the digits is within half a place of its own.
  have hunits : (x.units * n.factor : ℤ) =
      Magnitude.roundedSignificand N n.factor * Magnitude.roundingPlace N n.factor := by
    rw [Magnitude.units_of_round? hround, Magnitude.roundingPlace]
    push_cast
    ring
  have hwithin := ((Magnitude.roundedSignificand_eq_iff N n.factor_pos _).1 rfl).two_mul_abs_le
  rw [← hunits, abs_sub_comm] at hwithin
  exact (roundsBack_iff hx hfloat).2 (.inl (hwithin.trans_lt (Nat.cast_lt.2 hplace)))

end Numeral

/-! ### Powers of two -/

/-- A quotient is far from the ends of the floats, also behind 53 more binary places. -/
def IsModerate (num den : ℕ) : Prop :=
  0 < Magnitude.excess (num * Magnitude.unitsPerOne / den) ∧
    Magnitude.excess (num * Magnitude.unitsPerOne / den) < 1992

instance (num den : ℕ) : Decidable (IsModerate num den) := inferInstanceAs (Decidable (_ ∧ _))

/-- A moderate quotient may be multiplied by a power of two before it is rounded, or afterwards. -/
theorem IsModerate.exists_round? {num den k : ℕ} (h : IsModerate num den) (hden : 0 < den)
    (hk : k ≤ 53) {x : Magnitude} (hx : Magnitude.round? num den = some x) :
    ∃ y, Magnitude.round? (num * Nat.pow 2 k) den = some y ∧ y.units = x.units * Nat.pow 2 k := by
  have hlow := h.1
  have hhigh := h.2
  exact Magnitude.exists_round?_mul_two_pow hden hx hlow.ne' (by omega)

/-- With a decimal unit the number one is rounded back. -/
theorem SizeUnit.exists_round?_one {unit : SizeUnit} (hdecimal : unit.isBinary = false) :
    ∃ x y : Magnitude, Magnitude.round? 1 unit.factor = some x ∧
      Magnitude.round? (x.units * unit.factor) Magnitude.unitsPerOne = some y ∧
      y.units = Magnitude.unitsPerOne ∧ IsModerate 1 unit.factor ∧
      IsModerate (x.units * unit.factor) Magnitude.unitsPerOne := by
  -- Nothing but the factors depends on the unit, so both roundings are evaluated for the six of
  -- them.
  have hall : ∀ unit ∈ [kilo, mega, giga, tera, peta, exa],
      (Magnitude.round? 1 unit.factor).any (fun x =>
        (Magnitude.round? (x.units * unit.factor) Magnitude.unitsPerOne).any fun y =>
          y.units = Magnitude.unitsPerOne ∧ IsModerate 1 unit.factor ∧
            IsModerate (x.units * unit.factor) Magnitude.unitsPerOne) = true := by
    decide +kernel
  have hmem : unit ∈ [kilo, mega, giga, tera, peta, exa] := by
    cases unit with
    | kilo | mega | giga | tera | peta | exa => decide
    | kibi | mebi | gibi | tebi | pebi | exbi => cases hdecimal
  obtain ⟨x, hx, hany⟩ := (Option.any_eq_true _ _).1 (hall unit hmem)
  obtain ⟨y, hy, hboth⟩ := (Option.any_eq_true _ _).1 hany
  exact ⟨x, y, hx, hy, of_decide_eq_true hboth⟩

/-- With a decimal unit the powers of two are rounded back, since both roundings keep to them. -/
theorem Numeral.rank?_value_two_pow {n : Numeral} {unit : SizeUnit} (hunit : n.unit = some unit)
    (hdecimal : unit.isBinary = false) {k : ℕ} (hk : k ≤ 53)
    (hexact : n.exactValue = (Nat.pow 2 k : ℕ)) :
    n.value.rank? = some (.units ((Nat.pow 2 k : ℕ) * Magnitude.unitsPerOne)) := by
  obtain ⟨x, y, hx, hy, hone, hfirst, hsecond⟩ := SizeUnit.exists_round?_one hdecimal
  rw [← factor_of_unit hunit] at hx hy hfirst hsecond
  obtain ⟨x', hx', hxunits⟩ := hfirst.exists_round? n.factor_pos hk hx
  obtain ⟨y', hy', hyunits⟩ := hsecond.exists_round? Magnitude.unitsPerOne_pos hk hy
  have hnearest : n.nearest = .finite false x' := by
    rw [nearest_eq_round hexact, Binary64.round, ← Nat.one_mul (Nat.pow 2 k), hx',
      Binary64.ofMagnitude?]
  rw [hone, Nat.mul_comm] at hyunits
  rw [value_eq_round hunit hnearest, Scalar.rank?, ← Nat.cast_mul, ← hyunits, hxunits,
    Nat.mul_right_comm, Binary64.rank?_round_iff, hy']

/-! ### Literals with a decimal unit -/

/-- A literal with a decimal unit that stands for a whole number of at most 53 binary digits is
equal to it exactly if the number is a power of two or the rounding of the product takes back the
rounding of the digits. That is so at least if its leading digits are smaller than those of the
unit. -/
theorem acceptsExpansion_iff {text : String} {n : Numeral} {unit : SizeUnit} {N : ℕ}
    (hn : n.WellFormed) (htext : text.toList = n.toText) (hunit : n.unit = some unit)
    (hdecimal : unit.isBinary = false) (hexact : n.exactValue = N) (hN : N ≤ 0x20000000000000) :
    (AcceptsExpansion text N ↔ N.isPowerOfTwo ∨ n.RoundsBack N) ∧
      (0 < N → N * 2 ^ unit.factor.log2 < unit.factor * 2 ^ N.log2 → AcceptsExpansion text N) := by
  have hread : Numeral.ofText? text.toList = some n := by
    rw [htext, Numeral.ofText?_toText hn]
  have hliteral : IsLiteralText text.toList :=
    isLiteralText_iff_cases.2 (.inr (.inr (.inr (by rw [hread]; rfl))))
  have hfactor := Numeral.factor_of_unit hunit
  have hiff : AcceptsExpansion text N ↔ N.isPowerOfTwo ∨ n.RoundsBack N := by
    rw [acceptsExpansion_iff_rank? hliteral hN, Scalar.ofText, Scalar.ofChars_of_numeral hread]
    -- The places in front of a power of two are smaller than those behind it, so half a place is
    -- not the same on both sides.
    by_cases hpower : N.isPowerOfTwo
    · obtain ⟨k, rfl⟩ := hpower
      have hk : k ≤ 53 := (Nat.pow_le_pow_iff_right (by decide)).1 hN
      exact iff_of_true (Numeral.rank?_value_two_pow hunit hdecimal hk hexact) (.inl ⟨k, rfl⟩)
    · rw [Numeral.rank?_value_iff hunit hexact hN hpower, or_iff_right hpower]
  refine ⟨hiff, ?_⟩
  intro hpos hlt
  have hlog : n.factor.log2 ≤ 60 := by
    rw [hfactor]
    cases unit <;> decide
  exact hiff.2 (.inr (Numeral.roundsBack_of_lt hexact hpos hN hlog (hfactor ▸ hlt)))

/-- The fraction is no float, but its deviation is too small to show in the product. -/
theorem acceptsExpansion_megabytes :
    let n : Numeral := ⟨"1".toList, some "3".toList, some .mega⟩
    n.WellFormed ∧ "1.3M".toList = n.toText ∧ SizeUnit.mega.isBinary = false ∧
      n.exactValue = (1300000 : ℕ) ∧ AcceptsExpansion "1.3M" 1300000 := by
  intro n
  have hn : n.WellFormed :=
    ⟨by decide, List.all_eq_true.1 (by decide), by decide, List.all_eq_true.1 (by decide)⟩
  have htext : "1.3M".toList = n.toText := by decide
  have hexact : n.exactValue = (1300000 : ℕ) := Numeral.exactValue_eq_iff.2 (by decide)
  exact ⟨hn, htext, rfl, hexact,
    (acceptsExpansion_iff hn htext rfl rfl hexact (by decide)).2 (by decide) (by decide)⟩

/-- A literal that is not equal to its expansion: the float behind its digits is too small, and a
thousand times that is still the float in front of the whole number. -/
theorem not_acceptsExpansion_kilobytes :
    let n : Numeral := ⟨"1".toList, some "001".toList, some .kilo⟩
    n.WellFormed ∧ "1.001K".toList = n.toText ∧ SizeUnit.kilo.isBinary = false ∧
      n.exactValue = (1001 : ℕ) ∧ ¬ AcceptsExpansion "1.001K" 1001 := by
  intro n
  have hn : n.WellFormed :=
    ⟨by decide, List.all_eq_true.1 (by decide), by decide, List.all_eq_true.1 (by decide)⟩
  have hagrees : (Scalar.ofText "1.001K").agrees (Scalar.ofJson (.number (.integer (1001 : ℕ)))) =
      false := by
    decide +kernel
  refine ⟨hn, by decide, rfl, Numeral.exactValue_eq_iff.2 (by decide), ?_⟩
  intro h
  rw [h.agrees] at hagrees
  cases hagrees

end RecordSieve
