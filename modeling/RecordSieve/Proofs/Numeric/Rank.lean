import RecordSieve.Proofs.Numeric.Order

/-!
# Ranks of Numbers

An integer is compared with a float in steps: the float is placed outside or inside the range of
the integers, then its whole part decides, and at equal whole parts its fraction. Here all
comparisons are put as one order, that of the exact values with the infinities at the ends. So
scalars that are equal to each other compare alike with every scalar.

## Main definitions

* `Rank`, `Rank.compare`: the exact values and their order;
* `Binary64.rank?`, `Scalar.rank?`: the rank of a number, which NaN does not have.

## Main statements

* `Scalar.compareIntFloat?_eq`: an integer and a float are compared by rank;
* `Scalar.numericCompare?_eq`: so are every two numbers;
* `Scalar.agrees_congr`, `Scalar.compare?_congr`: equal scalars compare alike.
-/

namespace RecordSieve

/-! ### Ranks -/

/-- The place of a number among all numbers. -/
inductive Rank where
  /-- In front of every finite number. -/
  | bottom
  /-- An exact value, counted in units of `2 ^ -1074`. -/
  | units (count : Int)
  /-- Behind every finite number. -/
  | top
deriving DecidableEq

namespace Rank

/-- The order of ranks. -/
def compare : Rank → Rank → Ordering
  | bottom, bottom => .eq
  | bottom, _ => .lt
  | units _, bottom => .gt
  | units a, units b => Ord.compare a b
  | units _, top => .lt
  | top, top => .eq
  | top, _ => .gt

/-- Ranks that are neither in front nor behind are one rank. -/
theorem compare_eq_eq_iff {r s : Rank} : r.compare s = .eq ↔ r = s := by
  cases r <;> cases s <;> simp [compare]

/-- The order of ranks seen from the other side is the reverse. -/
theorem swap_compare (r s : Rank) : (r.compare s).swap = s.compare r := by
  cases r <;> cases s <;> simp [compare, Int.compare_swap]

/-- The order is transitive, and the ends of it are in front and behind. -/
theorem isLE_compare_trans {r s t : Rank} (hrs : (r.compare s).isLE = true)
    (hst : (s.compare t).isLE = true) : (r.compare t).isLE = true := by
  cases r with
  | bottom => cases t <;> rfl
  | top =>
    cases s with
    | top => exact hst
    | _ => contradiction
  | units a =>
    cases t with
    | top => rfl
    | bottom => cases s <;> contradiction
    | units c =>
      cases s with
      | units b => exact Std.TransOrd.isLE_trans (α := Int) hrs hst
      | _ => contradiction

end Rank

/-! ### Floats -/

namespace Magnitude

/-- The whole part of a float is a float. -/
theorem exists_units_eq_div_mul (x : Magnitude) :
    ∃ y : Magnitude, y.units = x.units / unitsPerOne * unitsPerOne := by
  rcases Nat.lt_or_ge x.shift unitPlaces with hlt | hge
  · -- What is left of the significand is short enough.
    have hshift : Nat.pow 2 x.shift ≤ unitsPerOne := by
      rw [unitsPerOne_eq]
      exact Nat.pow_le_pow_right (by decide) (Nat.le_of_lt hlt)
    have hsmall : x.units / unitsPerOne < 0x20000000000000 := by
      rw [Nat.div_lt_iff_lt_mul unitsPerOne_pos]
      exact Nat.mul_lt_mul_of_lt_of_le x.significand_lt hshift unitsPerOne_pos
    exact exists_units_eq_mul_unitsPerOne (Nat.le_of_lt hsmall)
  · -- The significand stands above the point, so there is no fraction.
    obtain ⟨places, hplaces⟩ := Nat.exists_eq_add_of_le hge
    refine ⟨x, (Nat.div_mul_cancel ?_).symm⟩
    rw [units, hplaces, Nat.add_comm, two_pow_add_unitPlaces, ← Nat.mul_assoc]
    exact Nat.dvd_mul_left _ _

end Magnitude

namespace Binary64

/-- The rank of a float. -/
def rank? : Binary64 → Option Rank
  | nan => none
  | infinite true => some .bottom
  | infinite false => some .top
  | finite negative magnitude => some (.units (signedUnits negative magnitude))

/-- Only NaN has no rank. -/
theorem rank?_eq_none_iff {x : Binary64} : x.rank? = none ↔ x = .nan := by
  cases x with
  | nan => exact iff_of_true rfl rfl
  | infinite negative => cases negative <;> simp [rank?]
  | finite negative magnitude => simp [rank?]

/-- Floats are compared by rank. -/
theorem compare?_eq (x y : Binary64) :
    compare? x y = x.rank?.bind fun r => y.rank?.map r.compare := by
  cases x with
  | nan => rfl
  | infinite negative => cases negative <;> cases y with
    | infinite negative' => cases negative' <;> rfl
    | _ => rfl
  | finite negative magnitude => cases y with
    | infinite negative' => cases negative' <;> rfl
    | _ => rfl

/-- An integer that is a float has its own rank. -/
theorem rank?_ofInt {n : Int} {magnitude : Magnitude}
    (hunits : magnitude.units = n.natAbs * Magnitude.unitsPerOne) :
    (ofInt n).rank? = some (.units (n * Magnitude.unitsPerOne)) := by
  have hsigned : signedUnits (decide (n < 0)) magnitude = n * Magnitude.unitsPerOne := by
    rw [signedUnits, hunits]
    split
    next hneg =>
      rw [Int.natCast_mul, Int.ofNat_natAbs_of_nonpos (Int.le_of_lt (of_decide_eq_true hneg)),
        Int.neg_mul, Int.neg_neg]
    next hnonneg =>
      rw [Int.natCast_mul, Int.natAbs_of_nonneg (Int.not_lt.1 (mt decide_eq_true hnonneg))]
  rw [ofInt, round_eq_finite _ Nat.one_pos (by rw [hunits, Nat.mul_one]), rank?, hsigned]

/-- The bound of the 64-bit integers is not rounded. -/
theorem exists_twoPow63 : ∃ bound : Magnitude,
    twoPow63 = .finite false bound ∧ bound.units = 0x8000000000000000 * Magnitude.unitsPerOne := by
  have hfinite {n : Nat} (hn : n = 1 * Nat.pow 2 63) : ∃ bound : Magnitude,
      ofNat n = .finite false bound ∧ bound.units = n * Magnitude.unitsPerOne := by
    subst hn
    exact ofNat_eq_finite (by decide) (by decide)
  exact hfinite (by decide)

/-- The bounds of the 64-bit integers, as ranks. -/
theorem rank?_twoPow63 :
    twoPow63.rank? = some (.units (0x8000000000000000 * Magnitude.unitsPerOne)) ∧
      twoPow63.neg.rank? = some (.units (-(0x8000000000000000 * Magnitude.unitsPerOne))) := by
  obtain ⟨bound, hbound, hunits⟩ := exists_twoPow63
  rw [hbound, neg, rank?, rank?, signedUnits, signedUnits, hunits, Int.natCast_mul]
  exact ⟨rfl, rfl⟩

/-- An integer is the whole part of a number of units: going from zero, it is the last integer that
is not beyond the number. -/
structure IsWholePart (count whole : Int) : Prop where
  sub_one_lt : (whole - 1) * Magnitude.unitsPerOne < count
  lt_add_one : count < (whole + 1) * Magnitude.unitsPerOne
  nonpos_or_le : whole ≤ 0 ∨ whole * Magnitude.unitsPerOne ≤ count

namespace IsWholePart

variable {count whole : Int}

/-- A quotient and a remainder give the whole part of a value with either sign. -/
theorem of_nat {units quotient : Nat} (hle : quotient * Magnitude.unitsPerOne ≤ units)
    (hlt : units < quotient * Magnitude.unitsPerOne + Magnitude.unitsPerOne) (negative : Bool) :
    IsWholePart (if negative then -(units : Int) else units)
      (if negative then -(quotient : Int) else quotient) := by
  have hlow : (quotient : Int) * Magnitude.unitsPerOne ≤ units := by exact_mod_cast hle
  have hhigh : (units : Int) < quotient * Magnitude.unitsPerOne + Magnitude.unitsPerOne := by
    exact_mod_cast hlt
  have hpos := Magnitude.unitsPerOne_pos
  -- Without a sign the whole part is below the value, and with one above it.
  cases negative with
  | false =>
    refine ⟨?_, ?_, .inr hlow⟩
    · simp only [Bool.false_eq_true, if_false, Int.sub_mul, Int.one_mul]
      omega
    · simp only [Bool.false_eq_true, if_false, Int.add_mul, Int.one_mul]
      omega
  | true =>
    refine ⟨?_, ?_, .inl ?_⟩
    · simp only [if_true, Int.sub_mul, Int.neg_mul, Int.one_mul]
      omega
    · simp only [if_true, Int.add_mul, Int.neg_mul, Int.one_mul]
      omega
    · simp only [if_true]
      omega

/-- The whole part of a number of units decides how an integer compares with it, unless the two are
equal. -/
theorem compare_eq (h : IsWholePart count whole) (n : Int) :
    compare (n * Magnitude.unitsPerOne) count =
      (compare n whole).then (compare (whole * Magnitude.unitsPerOne) count) := by
  have hpos : (0 : Int) < Magnitude.unitsPerOne := Int.natCast_pos.2 Magnitude.unitsPerOne_pos
  rcases Int.lt_trichotomy n whole with hlt | rfl | hgt
  · have hle := Int.mul_le_mul_of_nonneg_right (Int.le_sub_one_of_lt hlt) (Int.le_of_lt hpos)
    rw [Int.compare_eq_lt.2 hlt, Int.compare_eq_lt.2 (Int.lt_of_le_of_lt hle h.sub_one_lt)]
    rfl
  · rw [Int.compare_eq_eq.2 rfl]
    rfl
  · have hle := Int.mul_le_mul_of_nonneg_right (Int.add_one_le_of_lt hgt) (Int.le_of_lt hpos)
    rw [Int.compare_eq_gt.2 hgt, Int.compare_eq_gt.2 (Int.lt_of_lt_of_le h.lt_add_one hle)]
    rfl

/-- Inside of the range of the 64-bit integers the whole part is one of them. -/
theorem toInt_ofInt (h : IsWholePart count whole)
    (hlow : -(0x8000000000000000 * Magnitude.unitsPerOne) ≤ count)
    (hhigh : count < 0x8000000000000000 * Magnitude.unitsPerOne) :
    (Int64.ofInt whole).toInt = whole := by
  have hpos : (0 : Int) < Magnitude.unitsPerOne := Int.natCast_pos.2 Magnitude.unitsPerOne_pos
  apply Int64.toInt_ofInt_of_le
  · rw [← Int.neg_mul] at hlow
    have := Int.lt_of_mul_lt_mul_right (Int.lt_of_le_of_lt hlow h.lt_add_one) (Int.le_of_lt hpos)
    omega
  · rcases h.nonpos_or_le with hnonpos | hle
    · omega
    · exact Int.lt_of_mul_lt_mul_right (Int.lt_of_le_of_lt hle hhigh) (Int.le_of_lt hpos)

end IsWholePart

/-- The whole part of a finite float is an integer that is a float. -/
theorem exists_truncate?_eq (negative : Bool) (x : Magnitude) :
    ∃ whole, truncate? (.finite negative x) = some whole ∧
      (ofInt whole).rank? = some (.units (whole * Magnitude.unitsPerOne)) ∧
      IsWholePart (signedUnits negative x) whole := by
  obtain ⟨y, hunits⟩ := x.exists_units_eq_div_mul
  have hle := Nat.div_mul_le_self x.units Magnitude.unitsPerOne
  have hlt := Nat.lt_div_mul_add Magnitude.unitsPerOne_pos (a := x.units)
  rw [truncate?]
  generalize x.units / Magnitude.unitsPerOne = quotient at hunits hle hlt ⊢
  have habs : (if negative = true then -(quotient : Int) else quotient).natAbs = quotient := by
    cases negative <;> simp
  exact ⟨_, rfl, rank?_ofInt (by rwa [habs]), .of_nat hle hlt negative⟩

end Binary64

/-! ### Scalars -/

namespace Scalar

/-- The rank of a scalar, if it is a number. -/
def rank? : Scalar → Option Rank
  | int value => some (.units (value.toInt * Magnitude.unitsPerOne))
  | float value => value.rank?
  | string _ => none
  | bool _ => none

/-- The ranks of the 64-bit integers are inside of their range. -/
theorem units_mem_range (n : Int64) :
    -(0x8000000000000000 * Magnitude.unitsPerOne) ≤ n.toInt * Magnitude.unitsPerOne ∧
      n.toInt * Magnitude.unitsPerOne < 0x8000000000000000 * Magnitude.unitsPerOne := by
  have hpos : (0 : Int) < Magnitude.unitsPerOne := Int.natCast_pos.2 Magnitude.unitsPerOne_pos
  have hlow : -0x8000000000000000 ≤ n.toInt := n.le_toInt
  have hhigh : n.toInt < 0x8000000000000000 := n.toInt_lt
  rw [← Int.neg_mul]
  exact ⟨Int.mul_le_mul_of_nonneg_right hlow (Int.le_of_lt hpos),
    Int.mul_lt_mul_of_pos_right hhigh hpos⟩

/-- An integer and a float are compared by rank. -/
theorem compareIntFloat?_eq (n : Int64) (x : Binary64) :
    compareIntFloat? n x =
      x.rank?.map (Rank.units (n.toInt * Magnitude.unitsPerOne)).compare := by
  obtain ⟨habove, hbelow⟩ := Binary64.rank?_twoPow63
  obtain ⟨hlow, hhigh⟩ := units_mem_range n
  rw [compareIntFloat?, Binary64.compare?_eq, Binary64.compare?_eq, habove, hbelow]
  cases x with
  | nan => rfl
  | infinite negative => cases negative <;> rfl
  | finite negative magnitude =>
    obtain ⟨whole, hwhole, hrank, hpart⟩ := Binary64.exists_truncate?_eq negative magnitude
    have hinside := hpart.toInt_ofInt
    have hfraction : Binary64.compare? (Binary64.ofInt whole) (.finite negative magnitude) =
        some (compare (whole * Magnitude.unitsPerOne)
          (Binary64.signedUnits negative magnitude)) := by
      rw [Binary64.compare?_eq, hrank]
      rfl
    simp only [hwhole, hfraction, Binary64.rank?, Option.bind_some, Option.map_some, Rank.compare]
    generalize Binary64.signedUnits negative magnitude = count at hpart hinside ⊢
    generalize (0x8000000000000000 : Int) * Magnitude.unitsPerOne = bound at hlow hhigh hinside ⊢
    -- The float is behind the range of the integers, in front of it, or inside.
    rcases Int.lt_or_le count bound with hlt | hge
    · rw [Int.compare_eq_lt.2 hlt]
      rcases Int.lt_or_le count (-bound) with hlt' | hge'
      · rw [Int.compare_eq_lt.2 hlt', Int.compare_eq_gt.2 (Int.lt_of_lt_of_le hlt' hlow)]
      · have hne : compare count (-bound) ≠ .lt := by
          rw [ne_eq, Int.compare_eq_lt]
          omega
        rw [hpart.compare_eq n.toInt, hinside hge' hlt]
        cases hcompare : compare count (-bound) with
        | lt => exact absurd hcompare hne
        | _ => cases compare n.toInt whole <;> rfl
    · rw [Int.compare_eq_lt.2 (Int.lt_of_lt_of_le hhigh hge)]
      cases hcompare : compare count bound with
      | lt => exact absurd (Int.compare_eq_lt.1 hcompare) (Int.not_lt.2 hge)
      | _ => rfl

/-- Integers are ordered as their units are. -/
theorem compare_mul_unitsPerOne (m n : Int) :
    compare (m * Magnitude.unitsPerOne) (n * Magnitude.unitsPerOne) = compare m n := by
  have hpos : (0 : Int) < Magnitude.unitsPerOne := Int.natCast_pos.2 Magnitude.unitsPerOne_pos
  rcases Int.lt_trichotomy m n with hlt | rfl | hgt
  · rw [Int.compare_eq_lt.2 hlt, Int.compare_eq_lt.2 (Int.mul_lt_mul_of_pos_right hlt hpos)]
  · rw [Int.compare_eq_eq.2 rfl, Int.compare_eq_eq.2 rfl]
  · rw [Int.compare_eq_gt.2 hgt, Int.compare_eq_gt.2 (Int.mul_lt_mul_of_pos_right hgt hpos)]

/-- All numbers are compared by rank. -/
theorem numericCompare?_eq (a b : Scalar) :
    numericCompare? a b = a.rank?.bind fun r => b.rank?.map r.compare := by
  cases a with
  | int m =>
    cases b with
    | int n => exact congrArg some (compare_mul_unitsPerOne m.toInt n.toInt).symm
    | float y => exact compareIntFloat?_eq m y
    | _ => rfl
  | float x =>
    cases b with
    | int n =>
      -- The integer is compared with the float, and the answer is turned around.
      rw [numericCompare?, compareIntFloat?_eq, rank?, rank?]
      cases x.rank? with
      | none => rfl
      | some r => exact congrArg some (Rank.swap_compare _ _)
    | float y => exact Binary64.compare?_eq x y
    | _ => cases hrank : x.rank? <;> simp [numericCompare?, rank?, hrank]
  | _ => rfl

variable {a b : Scalar}

/-- A number is equal to the numbers with the same rank. -/
theorem agrees_eq_of_rank? {r : Rank} (ha : a.rank? = some r) (c : Scalar) :
    a.agrees c = decide (c.rank? = some r) := by
  have hagrees : a.agrees c = decide (numericCompare? a c = some .eq) := by
    cases a with
    | int m =>
      -- Two integers agree if they are the same, which is what their order says too.
      cases c with
      | int n => simp [agrees, numericCompare?, Int64.toInt_inj]
      | _ => rfl
    | float x => cases c <;> rfl
    | _ => cases ha
  have hcompare : numericCompare? a c = some .eq ↔ c.rank? = some r := by
    rw [numericCompare?_eq, ha, Option.bind_some]
    cases c.rank? with
    | none => simp
    | some s =>
      rw [Option.map_some, Option.some.injEq, Option.some.injEq, Rank.compare_eq_eq_iff, eq_comm]
  rw [hagrees, decide_eq_decide]
  exact hcompare

/-- Scalars that are equal to each other are the same, or numbers with the same rank. -/
theorem eq_or_rank?_eq_of_agrees (h : a.agrees b = true) :
    a = b ∨ ∃ r, a.rank? = some r ∧ b.rank? = some r := by
  cases hrank : a.rank? with
  | some r =>
    rw [agrees_eq_of_rank? hrank, decide_eq_true_eq] at h
    exact .inr ⟨r, rfl, h⟩
  | none =>
    left
    cases a with
    | int m => cases hrank
    | float x =>
      -- A float without a rank is equal to nothing.
      have hagrees : (float x).agrees b = decide (numericCompare? (float x) b = some .eq) := by
        cases b <;> rfl
      rw [hagrees, numericCompare?_eq, hrank] at h
      cases h
    | string text =>
      cases b with
      | string other => exact congrArg string (of_decide_eq_true h)
      | _ => cases h
    | bool value =>
      cases b with
      | bool other => exact congrArg bool (of_decide_eq_true h)
      | _ => cases h

/-- Equal scalars are equal to the same scalars. -/
theorem agrees_congr (h : a.agrees b = true) (c : Scalar) : a.agrees c = b.agrees c := by
  rcases eq_or_rank?_eq_of_agrees h with rfl | ⟨r, ha, hb⟩
  · rfl
  · rw [agrees_eq_of_rank? ha, agrees_eq_of_rank? hb]

theorem agrees_symm (h : a.agrees b = true) : b.agrees a = true := by
  rcases eq_or_rank?_eq_of_agrees h with rfl | ⟨r, ha, hb⟩
  · exact h
  · rw [agrees_eq_of_rank? hb, ha, decide_eq_true rfl]

theorem agrees_comm (a b : Scalar) : a.agrees b = b.agrees a :=
  Bool.eq_iff_iff.2 ⟨agrees_symm, agrees_symm⟩

/-- A number has an order with the numbers only, and it is that of the ranks. -/
theorem compare?_eq_of_rank? {r : Rank} (ha : a.rank? = some r) (c : Scalar) :
    a.compare? c =
      match c with
      | int _ | float _ => some (c.rank?.map r.compare)
      | _ => none := by
  cases a with
  | int m | float x =>
    cases c with
    | int n | float y =>
      rw [compare?, numericCompare?_eq, ha]
      rfl
    | _ => rfl
  | _ => cases ha

/-- Equal scalars have the same order with every scalar. -/
theorem compare?_congr (h : a.agrees b = true) (c : Scalar) : a.compare? c = b.compare? c := by
  rcases eq_or_rank?_eq_of_agrees h with rfl | ⟨r, ha, hb⟩
  · rfl
  · rw [compare?_eq_of_rank? ha, compare?_eq_of_rank? hb]

/-- The order of two scalars the other way round is the reverse. -/
theorem compare?_swap (a b : Scalar) :
    (a.compare? b).map (Option.map Ordering.swap) = b.compare? a := by
  have hnumeric : (numericCompare? a b).map Ordering.swap = numericCompare? b a := by
    rw [numericCompare?_eq, numericCompare?_eq]
    cases a.rank? with
    | none => cases b.rank? <;> rfl
    | some r =>
      cases b.rank? with
      | none => rfl
      | some s => exact congrArg some (r.swap_compare s)
  cases a with
  | int | float =>
    cases b with
    | int | float => exact congrArg some hnumeric
    | _ => rfl
  | string text =>
    cases b with
    | string other => exact congrArg (some <| some ·) Std.OrientedOrd.eq_swap.symm
    | _ => rfl
  | bool => cases b <;> rfl

/-- Every scalar but NaN is equal to itself. -/
theorem agrees_self (h : a ≠ .float .nan) : a.agrees a = true := by
  cases hrank : a.rank? with
  | some r => rw [agrees_eq_of_rank? hrank, hrank, decide_eq_true rfl]
  | none =>
    cases a with
    | int m => cases hrank
    | float x => exact absurd (congrArg float (Binary64.rank?_eq_none_iff.1 hrank)) h
    | _ => exact decide_eq_true rfl

end Scalar

end RecordSieve
