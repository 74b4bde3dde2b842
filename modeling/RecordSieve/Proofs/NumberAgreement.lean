import RecordSieve.Proofs.Coercion
import RecordSieve.Proofs.Conditions
import RecordSieve.Proofs.Decisions
import RecordSieve.Proofs.Json.Numbers
import RecordSieve.Proofs.Numeric.Rounding

/-!
# Agreement of Numbers

A number may be the literal of a condition, a text in a record or a number of a record. The first
two are the same by definition. A number of a record is rounded twice, and it is the same number
only if that does not matter.

## Main definitions

* `Numeral.nearest`: the float nearest to a numeral;
* `Numeral.DecodesToNearest`: the numerals that documents round as texts do;
* `EntersAlike`: a number is equal to itself whichever way it enters.

## Main statements

* `Numeral.decodesToNearest_of_lt`: short numerals are rounded alike;
* `entersAlike_iff`: a number is equal to itself whichever way it enters exactly if documents round
  it as texts do.
-/

namespace RecordSieve

namespace Json.Scaled

/-- Scaling keeps a float without a minus. -/
theorem isNegative_of_scale? {x y : Binary64} {exponent : Int} (h : scale? x exponent = some y)
    (hx : x.isNegative = false) : y.isNegative = false := by
  -- Each step scales by a power of ten, and these are positive.
  have hpower (n : Nat) : (powerOfTen n).isNegative = false := Binary64.isNegative_round _ _ _
  fun_induction scale? x exponent with
  | case1 x exponent _ _ product hfinite =>
    rw [← Option.some.inj h]
    exact Binary64.isNegative_mul hx (hpower _)
  | case2 => cases h
  | case3 x exponent =>
    cases h
    exact Binary64.isNegative_div hx (hpower _)
  | case4 x exponent =>
    cases h
    exact hx
  | case5 => cases h
  | case6 x exponent _ _ _ ih => exact ih h (Binary64.isNegative_div hx (hpower _))

/-- A small negative exponent takes one division. -/
theorem toBinary64?_eq_div {significand places : Nat} (hpos : 0 < places)
    (hplaces : places ≤ maxPower) :
    toBinary64? ⟨false, significand, -places⟩ =
      some ((Binary64.ofNat significand).div (powerOfTen places)) := by
  have hsmall : (-(places : Int)).natAbs ≤ maxPower := by
    rw [Int.natAbs_neg, Int.natAbs_natCast]
    exact hplaces
  have hbelow : ¬ (0 : Int) ≤ -(places : Int) := by omega
  rw [toBinary64?, scale?, if_pos hsmall, if_neg hbelow, Int.natAbs_neg, Int.natAbs_natCast,
    Option.map_some, if_neg Bool.false_ne_true]

/-- Decimal parts without a sign make a float without one. -/
theorem isNegative_of_toBinary64? {parts : Scaled} {x : Binary64} (h : parts.toBinary64? = some x)
    (hnegative : parts.negative = false) : x.isNegative = false := by
  obtain ⟨y, hy, rfl⟩ := Option.map_eq_some_iff.1 h
  rw [hnegative]
  exact isNegative_of_scale? hy (Binary64.isNegative_round _ _ _)

end Json.Scaled

namespace Numeral

variable {n : Numeral}

/-- The digits behind the point, if there are any. -/
def places (n : Numeral) : Nat := (n.fraction.getD []).length

/-- All the digits as one number. -/
def digitsNumber (n : Numeral) : Nat := digitsValue (n.whole ++ n.fraction.getD [])

/-- The float nearest to a numeral without its unit. -/
def nearest (n : Numeral) : Binary64 :=
  Binary64.round false n.digitsNumber (Nat.pow 10 n.places)

/-- The numerals that documents round as texts do: the whole numbers below `2 ^ 64`, and those
whose gathered digits, rounded to a float, scaled and rounded again, give the nearest float. -/
def DecodesToNearest (n : Numeral) : Prop :=
  (n.fraction = none ∧ digitsValue n.whole < Json.Scaled.significandBound) ∨
    n.gathered.toBinary64? = some n.nearest

instance (n : Numeral) : Decidable n.DecodesToNearest := by
  unfold DecodesToNearest
  infer_instance

/-- Without a fraction the nearest float is that of a natural number. -/
theorem nearest_of_fraction_eq_none (hfraction : n.fraction = none) :
    n.nearest = Binary64.ofNat (digitsValue n.whole) := by
  simp [nearest, digitsNumber, places, Binary64.ofNat, hfraction]

/-- The scalar of a numeral without a unit. -/
theorem value_eq (hunit : n.unit = none) :
    n.value =
      if n.fraction = none ∧ digitsValue n.whole < 0x8000000000000000 then
        .int (Int64.ofNat (digitsValue n.whole))
      else .float n.nearest := by
  obtain ⟨whole, fraction, unit⟩ := n
  cases hunit
  cases fraction with
  | some fraction => simp [value, mantissa, nearest, digitsNumber, places]
  | none =>
    simp only [value, mantissa, true_and, nearest_of_fraction_eq_none]

/-- No whole digit is dropped exactly when all of them fit the significand. -/
theorem exponent_gatheredWhole_eq_zero_iff (whole : List Char) :
    (gatheredWhole whole).exponent = 0 ↔ digitsValue whole < Json.Scaled.significandBound := by
  rw [gatheredWhole, digitsValue_eq_valueFrom]
  constructor
  · intro hexponent
    apply Nat.lt_of_not_le
    intro hle
    -- A digit that is dropped raises the exponent.
    have hlt : (0 : Int) < (Json.Scaled.takeWhole ⟨false, 0, 0⟩ (whole.map digitValue)).exponent :=
      Json.Scaled.exponent_lt_takeWhole (by decide) hle
    omega
  · intro hlt
    rw [Json.Scaled.takeWhole_of_lt hlt]

/-- Digits within the bound of the significand are all taken. -/
theorem significand_gatheredWhole {whole : List Char}
    (h : digitsValue whole < Json.Scaled.significandBound) :
    (gatheredWhole whole).significand = digitsValue whole := by
  rw [digitsValue_eq_valueFrom] at h ⊢
  rw [gatheredWhole, Json.Scaled.takeWhole_of_lt h]

/-- The number of a document in the two cases of its definition. -/
theorem jsonNumber_eq (n : Numeral) :
    n.jsonNumber =
      if n.fraction = none ∧ digitsValue n.whole < Json.Scaled.significandBound then
        .ok (.integer (digitsValue n.whole))
      else Json.NumberReader.float n.gathered := by
  obtain ⟨whole, fraction, unit⟩ := n
  cases fraction with
  | some fraction => simp [jsonNumber]
  | none =>
    have hgathered : gathered ⟨whole, none, unit⟩ = gatheredWhole whole := rfl
    simp only [jsonNumber, hgathered, exponent_gatheredWhole_eq_zero_iff, true_and]
    split
    next h => rw [significand_gatheredWhole h]
    next => rfl

theorem negative_gathered (n : Numeral) : n.gathered.negative = false := by
  rw [gathered, Json.Scaled.negative_takeFraction]
  exact Json.Scaled.negative_takeWhole _ _

theorem isNegative_nearest (n : Numeral) : n.nearest.isNegative = false :=
  Binary64.isNegative_round _ _ _

theorem nearest_ne_nan (n : Numeral) : n.nearest ≠ .nan := Binary64.round_ne_nan _ _ _

/-- A number without a unit is equal to itself. -/
theorem agrees_value_self (hunit : n.unit = none) : n.value.agrees n.value = true := by
  rw [value_eq hunit]
  split
  next => simp [Scalar.agrees]
  next =>
    have hself := (Binary64.compare?_eq_some_eq_iff n.isNegative_nearest n.isNegative_nearest
      n.nearest_ne_nan).2 rfl
    simp [Scalar.agrees, Scalar.numericCompare?, hself]

/-- A whole number below `2 ^ 64` is the same in a document as in a text. -/
theorem ofNumber_integer (hunit : n.unit = none) (hfraction : n.fraction = none) :
    Scalar.ofNumber (.integer (digitsValue n.whole)) = n.value := by
  rw [value_eq hunit]
  simp only [hfraction, true_and, Scalar.ofNumber]
  by_cases hlt : digitsValue n.whole < 0x8000000000000000
  · rw [if_pos (by omega), if_pos hlt]
    rfl
  · rw [if_neg (by omega), if_neg hlt, Binary64.ofInt_natCast,
      nearest_of_fraction_eq_none hfraction]

/-- A number of a document is equal to its own text exactly when both are rounded alike. -/
theorem agrees_ofNumber_iff (hunit : n.unit = none) {value : JsonNumber}
    (h : n.jsonNumber = .ok value) :
    (Scalar.ofNumber value).agrees n.value = true ↔ n.DecodesToNearest := by
  rw [jsonNumber_eq] at h
  split at h
  next hwhole =>
    cases h
    rw [ofNumber_integer hunit hwhole.1]
    exact iff_of_true (agrees_value_self hunit) (.inl hwhole)
  next hwhole =>
    -- The number and the text are floats, and floats without a minus are equal if they compare so.
    have hvalue : n.value = .float n.nearest := by
      rw [value_eq hunit, if_neg]
      intro hsmall
      exact hwhole ⟨hsmall.1, Nat.lt_trans hsmall.2 (by decide)⟩
    rw [Json.NumberReader.float] at h
    cases hfloat : n.gathered.toBinary64? with
    | none =>
      rw [hfloat] at h
      cases h
    | some x =>
      simp only [hfloat] at h
      cases h
      have hcompare := Binary64.compare?_eq_some_eq_iff
        (Json.Scaled.isNegative_of_toBinary64? hfloat n.negative_gathered) n.isNegative_nearest
        n.nearest_ne_nan
      simp [hvalue, Scalar.ofNumber, Scalar.agrees, Scalar.numericCompare?, hcompare,
        DecodesToNearest, hwhole, hfloat]

/-- A power of ten up to `10 ^ 22` is a float. -/
theorem powerOfTen_eq_finite {places : Nat} (h : places ≤ 22) :
    ∃ x : Magnitude, Json.Scaled.powerOfTen places = .finite false x ∧
      x.units = Nat.pow 10 places * Magnitude.unitsPerOne := by
  have hten : Nat.pow 10 places = Nat.pow 5 places * Nat.pow 2 places := Nat.mul_pow 5 2 places
  have hfive : Nat.pow 5 places < 0x20000000000000 :=
    Nat.lt_of_le_of_lt (Nat.pow_le_pow_right (by decide) h) (by decide)
  rw [Json.Scaled.powerOfTen, hten]
  exact Binary64.ofNat_eq_finite hfive (Nat.le_trans h (by decide))

/-- The quotient of a float and a float power of ten is rounded once. -/
theorem ofNat_div_powerOfTen {digits places : Nat} (hdigits : digits < 0x20000000000000)
    (hplaces : places ≤ 22) :
    (Binary64.ofNat digits).div (Json.Scaled.powerOfTen places) =
      Binary64.round false digits (Nat.pow 10 places) := by
  obtain ⟨x, hx, hxunits⟩ := Binary64.ofNat_eq_finite hdigits (Nat.zero_le 971)
  obtain ⟨y, hy, hyunits⟩ := powerOfTen_eq_finite hplaces
  have hone : digits * Nat.pow 2 0 = digits := Nat.mul_one _
  have hunit : 0 < Magnitude.unitsPerOne := Magnitude.unitsPerOne_pos
  have hne : y.units ≠ 0 := by
    rw [hyunits]
    exact Nat.mul_ne_zero (Nat.ne_of_gt (Nat.pow_pos (by decide))) (Nat.ne_of_gt hunit)
  rw [hone] at hx hxunits
  -- Both are given in units, which cancel.
  rw [hx, hy, Binary64.div_finite hne, hxunits, hyunits, Binary64.round_mul_right _ _ _ hunit,
    bne_self_eq_false]

/-- The digits behind the point are read on top of those in front of it. -/
theorem digitsNumber_eq (n : Numeral) :
    n.digitsNumber =
      valueFrom (valueFrom 0 (n.whole.map digitValue)) ((n.fraction.getD []).map digitValue) := by
  rw [digitsNumber, digitsValue_eq_valueFrom, List.map_append, valueFrom_append]

/-- The digits of a short numeral are all gathered. -/
theorem gathered_eq (h : n.digitsNumber < Json.Scaled.significandBound) :
    n.gathered = ⟨false, n.digitsNumber, -n.places⟩ := by
  rw [digitsNumber_eq] at h ⊢
  have hwhole : valueFrom 0 (n.whole.map digitValue) < Json.Scaled.significandBound :=
    Nat.lt_of_le_of_lt (le_valueFrom _ _) h
  rw [gathered, gatheredWhole, Json.Scaled.takeWhole_of_lt hwhole,
    Json.Scaled.takeFraction_of_lt h, List.length_map, places, Int.zero_sub]

/-- Numerals with at most 53 binary digits and 22 digits behind the point are rounded alike:
their digits and the power of ten are floats, so that only the quotient is rounded. -/
theorem decodesToNearest_of_lt (hn : n.WellFormed) (hdigits : n.digitsNumber < 0x20000000000000)
    (hplaces : n.places ≤ 22) : n.DecodesToNearest := by
  have hbound : n.digitsNumber < Json.Scaled.significandBound :=
    Nat.lt_trans hdigits (by decide)
  rcases Option.eq_none_or_eq_some n.fraction with hfraction | ⟨fraction, hfraction⟩
  · refine .inl ⟨hfraction, ?_⟩
    simpa [digitsNumber, hfraction] using hbound
  -- A point is followed by a digit, so there is something to divide by.
  have hpos : 0 < n.places := by
    rw [places, hfraction, Option.getD_some]
    apply List.length_pos_iff.2
    intro hnil
    apply hn.fraction_ne_nil
    rw [hfraction, hnil]
  refine .inr ?_
  rw [gathered_eq hbound, Json.Scaled.toBinary64?_eq_div hpos (Nat.le_trans hplaces (by decide)),
    ofNat_div_powerOfTen hdigits hplaces, nearest]

end Numeral

/-- The characters of field names are plain. -/
theorem isPlain_of_isFieldChar {c : Char} (h : isFieldChar c = true) : IsPlain c := by
  have hrange := isFieldChar_iff_toNat.1 h
  refine ⟨by omega, by omega, ?_, ?_⟩
  · rintro rfl
    exact absurd hrange (by decide)
  · rintro rfl
    exact absurd hrange (by decide)

/-- The names of fields need no escapes. -/
theorem isPlain_of_isFieldName {field : String} (h : IsFieldName field) :
    ∀ c ∈ field.toList, IsPlain c :=
  fun c hc => isPlain_of_isFieldChar (h.2 c hc)

theorem isPlain_of_isDigit {c : Char} (h : c.isDigit = true) : IsPlain c := by
  refine isPlain_of_isFieldChar ?_
  simp [isFieldChar, Char.isAlphanum, h]

/-- The text of a numeral without a unit has plain characters only. -/
theorem Numeral.isPlain_of_mem_toText {n : Numeral} (hn : n.WellFormed) (hunit : n.unit = none)
    {c : Char} (hc : c ∈ n.toText) : IsPlain c := by
  have hdigit {d : Char} (hd : d.isDigit = true) : IsPlain d := isPlain_of_isDigit hd
  have hpoint : IsPlain '.' := ⟨by decide, by decide, by decide, by decide⟩
  rw [toText_eq, hunit] at hc
  cases hfraction : n.fraction with
  | none =>
    rw [hfraction] at hc
    simp only [Option.map_none, Option.getD_none, List.append_nil] at hc
    exact hdigit (hn.whole_digits c hc)
  | some fraction =>
    have hdigits := hn.fraction_digits
    rw [hfraction] at hc hdigits
    simp only [Option.map_some, Option.map_none, Option.getD_some, Option.getD_none,
      List.append_nil, List.mem_append, List.mem_cons] at hc
    -- A digit of the whole part, the point, or a digit of the fraction.
    rcases hc with hc | rfl | hc
    · exact hdigit (hn.whole_digits c hc)
    · exact hpoint
    · exact hdigit (hdigits c hc)

/-- The sieve of a condition that asks for equality decides on a record with one field by the
equality of that field and the literal. -/
theorem exists_sieve_of_literal {field text : String} (hfield : IsFieldName field)
    (hliteral : isLiteral text.toList = true) :
    ∃ sieve, (Condition.parse (field ++ " == " ++ text) >>=
        fun condition => Sieve.ofConditions [condition] .all false) = .ok sieve ∧
      ∀ line number value, Json.decodeObject line = .ok [(field, value)] →
        sieve.judge line number = .ok ((Scalar.ofJson value).agrees (Scalar.ofText text)) := by
  have hparse : Condition.parse (field ++ " == " ++ text) = .ok ⟨field, .eq, text⟩ := by
    have hread := Condition.parse_render (c := ⟨field, .eq, text⟩)
      ⟨hfield.1, hfield.2, hliteral⟩
    simpa [Condition.render, Operator.symbol, String.append_assoc] using hread
  refine ⟨⟨[⟨⟨field, .eq, text⟩, Scalar.ofText text, none⟩], .all, false⟩, ?_, ?_⟩
  · rw [hparse]
    rfl
  · intro line number value hdecode
    have hread : readRecord line number = .ok [(field, value)] := by
      rw [readRecord, hdecode]
    rw [Sieve.judge_single hread]
    simp [Test.run, Fields.get?, Operator.evaluate]

/-- A number is equal to itself whichever way it enters: as a number of a document, as a text of
a document and as the literal of a condition. The condition that asks for it accepts both
records. -/
structure EntersAlike (text : String) (number : JsonNumber) : Prop where
  number_text :
    (Scalar.ofJson (.number number)).agrees (Scalar.ofJson (.string text)) = true
  text_literal : (Scalar.ofJson (.string text)).agrees (Scalar.ofText text) = true
  number_literal : (Scalar.ofJson (.number number)).agrees (Scalar.ofText text) = true
  accepted : ∀ field, IsFieldName field →
    ∃ sieve, (Condition.parse (field ++ " == " ++ text) >>=
        fun condition => Sieve.ofConditions [condition] .all false) = .ok sieve ∧
      ∀ line, sieve.judge (fieldLine field.toList text.toList) line = .ok true ∧
        sieve.judge (fieldLine field.toList ('"' :: text.toList ++ ['"'])) line = .ok true

/-- The numerals without a unit that are equal to themselves whichever way they enter are those
that documents round as texts do. -/
theorem entersAlike_iff {text : String} {n : Numeral} {number : JsonNumber}
    (hread : Numeral.ofText? text.toList = some n) (hunit : n.unit = none)
    (hdecode : Json.decode (Utf8.encode text.toList) = .ok (.number number)) :
    EntersAlike text number ↔ n.DecodesToNearest := by
  obtain ⟨hn, htext⟩ := Numeral.wellFormed_of_ofText? hread
  rw [← htext] at hdecode
  obtain ⟨hnumber, c, rest, reader, next, hcons, hc, hstart, hsteps, hfinish⟩ :=
    Numeral.reads_of_decode hn hunit hdecode
  have hliteral : Scalar.ofText text = n.value := Scalar.ofChars_of_numeral hread
  have hagrees := Numeral.agrees_ofNumber_iff hunit hnumber
  constructor
  · intro h
    have heq := h.number_literal
    rw [hliteral] at heq
    exact hagrees.1 heq
  · intro h
    have heq : (Scalar.ofJson (.number number)).agrees (Scalar.ofText text) = true := by
      rw [hliteral]
      exact hagrees.2 h
    have hself : (Scalar.ofJson (.string text)).agrees (Scalar.ofText text) = true := by
      show (Scalar.ofText text).agrees _ = true
      rw [hliteral]
      exact Numeral.agrees_value_self hunit
    constructor
    case number_text | number_literal => exact heq
    case text_literal => exact hself
    case accepted =>
      intro field hfield
      have hisLiteral : isLiteral text.toList = true := by
        unfold isLiteral
        split
        next htext' => simp [htext', Numeral.ofText?] at hread
        next => simp [hread]
      -- Both lines decode to the one field, so the sieve decides by the equalities above.
      obtain ⟨sieve, hsieve, hjudge⟩ := exists_sieve_of_literal hfield hisLiteral
      have hplain := isPlain_of_isFieldName hfield
      have hdecodeNumber : Json.decodeObject (fieldLine field.toList text.toList) =
          .ok [(field, .number number)] := by
        rw [← htext, hcons, Json.decodeObject_fieldLine_number hplain hc hstart hsteps hfinish,
          String.ofList_toList]
      have hdecodeText : Json.decodeObject (fieldLine field.toList ('"' :: text.toList ++ ['"'])) =
          .ok [(field, .string text)] := by
        rw [Json.decodeObject_fieldLine_string hplain fun c hc =>
          Numeral.isPlain_of_mem_toText hn hunit (htext ▸ hc), String.ofList_toList,
          String.ofList_toList]
      refine ⟨sieve, hsieve, ?_⟩
      intro line
      constructor
      · rw [hjudge _ _ (.number number) hdecodeNumber, heq]
      · rw [hjudge _ _ (.string text) hdecodeText, hself]

/-- A short numeral. -/
theorem entersAlike_half :
    Json.decode (Utf8.encode "0.5".toList) = .ok (.number (.float (Binary64.round false 5 10))) ∧
      EntersAlike "0.5" (.float (Binary64.round false 5 10)) := by
  have hfloat : Json.Scaled.toBinary64? ⟨false, 5, -(1 : Nat)⟩ =
      some (Binary64.round false 5 (Nat.pow 10 1)) := by
    rw [Json.Scaled.toBinary64?_eq_div (by decide) (by decide),
      Numeral.ofNat_div_powerOfTen (by decide) (by decide)]
  have hfinish : Json.NumberReader.finish (.fraction ⟨false, 5, -(1 : Nat)⟩) =
      .ok (.float (Binary64.round false 5 10)) := by
    simp only [Json.NumberReader.finish, Json.NumberReader.float, hfloat]
  have hstart : Json.NumberReader.start? 0x30 = some (.zero false) := rfl
  have hsteps : (Json.NumberReader.zero false).steps? (Utf8.encode ".5".toList) =
      some (.fraction ⟨false, 5, -(1 : Nat)⟩) := rfl
  have hdecode : Json.decode (Utf8.encode "0.5".toList) =
      .ok (.number (.float (Binary64.round false 5 10))) :=
    Json.decode_of_steps? hstart hsteps hfinish
  have hread : Numeral.ofText? "0.5".toList = some ⟨['0'], some ['5'], none⟩ := rfl
  refine ⟨hdecode, (entersAlike_iff hread rfl hdecode).2 ?_⟩
  exact Numeral.decodesToNearest_of_lt (Numeral.wellFormed_of_ofText? hread).1 (by decide)
    (by decide)

/-- A numeral with more digits than a float has is rounded twice in a document, and then it may be
another number than its own text. -/
theorem not_entersAlike_long :
    ∃ n number, Numeral.ofText? "0.9007199254740993".toList = some n ∧ n.unit = none ∧
      Json.decode (Utf8.encode "0.9007199254740993".toList) = .ok (.number number) ∧
      ¬ EntersAlike "0.9007199254740993" number := by
  have hread : Numeral.ofText? "0.9007199254740993".toList =
      some ⟨['0'], some "9007199254740993".toList, none⟩ := rfl
  have hfloat : Json.Scaled.toBinary64? ⟨false, 9007199254740993, -(16 : Nat)⟩ =
      some ((Binary64.ofNat 9007199254740993).div (Json.Scaled.powerOfTen 16)) :=
    Json.Scaled.toBinary64?_eq_div (by decide) (by decide)
  have hfinish : Json.NumberReader.finish (.fraction ⟨false, 9007199254740993, -(16 : Nat)⟩) =
      .ok (.float ((Binary64.ofNat 9007199254740993).div (Json.Scaled.powerOfTen 16))) := by
    simp only [Json.NumberReader.finish, Json.NumberReader.float, hfloat]
  have hstart : Json.NumberReader.start? 0x30 = some (.zero false) := rfl
  have hsteps : (Json.NumberReader.zero false).steps? (Utf8.encode ".9007199254740993".toList) =
      some (.fraction ⟨false, 9007199254740993, -(16 : Nat)⟩) := rfl
  have hdecode := Json.decode_of_steps? hstart hsteps hfinish
  refine ⟨_, _, hread, rfl, hdecode, ?_⟩
  intro h
  have hnumber := (Numeral.reads_of_decode (Numeral.wellFormed_of_ofText? hread).1 rfl hdecode).1
  have hliteral := h.number_literal
  rw [Scalar.ofText, Scalar.ofChars_of_numeral hread] at hliteral
  rcases (Numeral.agrees_ofNumber_iff rfl hnumber).1 hliteral with ⟨hnone, -⟩ | hnearest
  · cases hnone
  · rw [Numeral.gathered_eq (by decide)] at hnearest
    have heq := hfloat.symm.trans hnearest
    -- The two floats differ in their last digit.
    revert heq
    decide +kernel

end RecordSieve
