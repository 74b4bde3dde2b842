import RecordSieve.Proofs.Comparisons
import RecordSieve.Proofs.NumberAgreement

/-!
# Whole Numbers

An integer of 64 bits is kept as it is, and digits beyond that range are rounded to a float, or to
an infinity if there are too many of them. A rounded number stays behind all integers of 64 bits. So
a condition compares two integers correctly if one of them is in the range, however the other one is
rounded.

## Main definitions

* `Scalar.StandsFor`: a scalar that compares as an integer does;
* `Operator.Relates`: what an operator asks of two integers;
* `Json.IsInteger`, `WritesInteger`: the fields of records that are integers, as values and as
  texts.

## Main statements

* `Binary64.standsFor_ofNat`: a rounded number stays behind the integers of 64 bits;
* `Scalar.inOrder_of_standsFor`: two integers are compared correctly if one of them has 64 bits;
* `exists_decodeObject_of_writesInteger`: what the text of an integer is decoded as;
* `judge_wholeNumbers`: conditions on integers are decided correctly.
-/

namespace RecordSieve

/-! ### Scalars that stand for integers -/

/-- A scalar compares as an integer does: it has the exact value, or it is behind the integers of 64
bits as the integer is. -/
inductive Scalar.StandsFor (scalar : Scalar) (n : Int) : Prop
  | exact : n < 0x8000000000000000 → scalar.rank? = some (.units (n * Magnitude.unitsPerOne)) →
      StandsFor scalar n
  | behind {r : Rank} : 0x8000000000000000 ≤ n → scalar.rank? = some r →
      (∀ m : Int, m < 0x8000000000000000 →
        (Rank.units (m * Magnitude.unitsPerOne)).compare r = .lt) →
      StandsFor scalar n

/-- Two integers are compared correctly if one of them has 64 bits. -/
theorem Scalar.inOrder_of_standsFor {x y : Scalar} {a b : Int} (hx : x.StandsFor a)
    (hy : y.StandsFor b) (hbound : a < 0x8000000000000000 ∨ b < 0x8000000000000000) :
    InOrder x y (compare a b) := by
  rcases hx with ⟨ha, hrank⟩ | ⟨ha, hrank, hlt⟩
  · rcases hy with ⟨hb, hrank'⟩ | ⟨hb, hrank', hlt'⟩
    · rw [← compare_mul_unitsPerOne]
      exact .numbers hrank hrank'
    · -- The second one is behind the range that the first one is in.
      rw [Int.compare_eq_lt.2 (Int.lt_of_lt_of_le ha hb), ← hlt' a ha]
      exact .numbers hrank hrank'
  · rcases hy with ⟨hb, hrank'⟩ | ⟨hb, -, -⟩
    · -- The same the other way round.
      have horder : InOrder y x .lt := by
        rw [← hlt b hb]
        exact .numbers hrank' hrank
      rw [Int.compare_eq_gt.2 (Int.lt_of_lt_of_le hb ha)]
      exact horder.swap
    · -- Two integers behind the range are both rounded, and the bound rules them out.
      omega

/-- A rounded number stays behind the integers of 64 bits. -/
theorem Binary64.standsFor_ofNat {n : Nat} (hn : 0x8000000000000000 ≤ n) :
    (Scalar.float (ofNat n)).StandsFor n := by
  have hle : (0x8000000000000000 : Int) ≤ n := by omega
  cases hround : Magnitude.round? n 1 with
  | none =>
    have hrank : (Scalar.float (ofNat n)).rank? = some .top := by
      rw [Scalar.rank?, ofNat, round, hround]
      rfl
    exact .behind hle hrank fun m hm => rfl
  | some x =>
    have hrank : (Scalar.float (ofNat n)).rank? = some (.units x.units) := by
      rw [Scalar.rank?, ofNat, round, hround]
      rfl
    -- The bound is a float, and nothing behind a float is rounded to something in front of it.
    obtain ⟨bound, -, hbound⟩ := exists_twoPow63
    have hunits : 0x8000000000000000 * Magnitude.unitsPerOne ≤ x.units := by
      rw [← hbound]
      refine Magnitude.le_units_of_round? Nat.one_pos hround ?_
      rw [hbound, Nat.mul_one]
      exact Nat.mul_le_mul_right _ hn
    have hpos : (0 : Int) < Magnitude.unitsPerOne := Int.natCast_pos.2 Magnitude.unitsPerOne_pos
    refine .behind hle hrank ?_
    intro m hm
    have hle' := Int.ofNat_le.2 hunits
    rw [Int.natCast_mul] at hle'
    exact Int.compare_eq_lt.2 (Int.lt_of_lt_of_le (Int.mul_lt_mul_of_pos_right hm hpos) hle')

/-! ### Where integers come from -/

/-- Digits in a text stand for the number that they write. -/
theorem Scalar.standsFor_ofText {text : String} (h : IsDigits text.toList) :
    (ofText text).StandsFor (digitsValue text.toList) := by
  have hread : Numeral.ofText? text.toList = some ⟨text.toList, none, none⟩ := by
    have hwellFormed : Numeral.WellFormed ⟨text.toList, none, none⟩ :=
      ⟨h.1, h.2, by simp, by simp⟩
    simpa [Numeral.toText] using Numeral.ofText?_toText hwellFormed
  rw [ofText, ofChars_of_numeral hread, Numeral.value_eq rfl]
  generalize text.toList = digits
  by_cases hlt : digitsValue digits < 0x8000000000000000
  · rw [if_pos ⟨rfl, hlt⟩]
    refine .exact (by omega) ?_
    rw [rank?, Int64.toInt_ofNat_of_lt hlt]
  · rw [if_neg (mt And.right hlt)]
    rw [Numeral.nearest_of_fraction_eq_none rfl]
    exact Binary64.standsFor_ofNat (Nat.not_lt.1 hlt)

/-- A field value that is an integer: a number of 64 bits with a sign, or digits in a text. Zero
with a minus is a number of its own, and the same integer. -/
inductive Json.IsInteger : Json → Int → Prop
  | number {n : Int} : -0x8000000000000000 ≤ n → n < 0x8000000000000000 →
      IsInteger (.number (.integer n)) n
  | minusZero : IsInteger (.number (.float (.zero true))) 0
  | digits {text : String} : IsDigits text.toList →
      IsInteger (.string text) (digitsValue text.toList)

/-- A field value that is an integer compares as it. -/
theorem Scalar.standsFor_ofJson {value : Json} {n : Int} (h : value.IsInteger n) :
    (ofJson value).StandsFor n := by
  cases h with
  | number hlow hhigh =>
    refine .exact hhigh ?_
    rw [ofJson, ofNumber, if_pos ⟨hlow, hhigh⟩, rank?, Int64.toInt_ofInt_of_le hlow hhigh]
  | minusZero =>
    refine .exact (by decide) ?_
    rw [Int.zero_mul]
    rfl
  | digits hdigits => exact standsFor_ofText hdigits

/-! ### Integers in documents -/

namespace Json.NumberReader

/-- The machine behind the first digit of a number. -/
def behindDigit (negative : Bool) : Nat → NumberReader
  | 0 => zero negative
  | digit => whole negative digit

/-- The first digit of a number leads behind it. -/
theorem start?_of_isDigit {c : Char} (h : c.isDigit = true) :
    start? c.toUInt8 = some (behindDigit false (digitValue c)) := by
  rw [start?_toUInt8 h]
  cases digitValue c <;> rfl

/-- So does the first one behind a minus. -/
theorem step_minus_of_isDigit {c : Char} (h : c.isDigit = true) :
    minus.step c.toUInt8 = .more (behindDigit true (digitValue c)) := by
  rw [step, digit?_toUInt8 h]
  cases digitValue c <;> rfl

/-- Digits without a leading zero that fit the significand are read as their number. -/
theorem steps?_behindDigit {c : Char} {rest : List Char}
    (hdigits : ∀ d ∈ c :: rest, d.isDigit = true) (hzero : c = '0' → rest = [])
    (hlt : digitsValue (c :: rest) < Scaled.significandBound) (negative : Bool) :
    ∃ next, (behindDigit negative (digitValue c)).steps? (Utf8.encode rest) = some next ∧
      next.finish = .ok (wholeNumber negative (digitsValue (c :: rest))) := by
  rw [List.forall_mem_cons] at hdigits
  have hvalue : digitsValue (c :: rest) = valueFrom (digitValue c) (rest.map digitValue) := by
    rw [digitsValue_eq_valueFrom, List.map_cons, valueFrom_cons, Nat.mul_zero, Nat.zero_add]
  rw [hvalue] at hlt ⊢
  cases hdigit : digitValue c with
  | zero =>
    -- Nothing may stand behind a leading zero.
    have hc : c = '0' := by
      have hrange := toNat_of_isDigit hdigits.1
      rw [digitValue, show '0'.toNat = 0x30 from rfl] at hdigit
      apply Char.toNat_inj.1
      rw [show '0'.toNat = 0x30 from rfl]
      omega
    rw [hzero hc]
    exact ⟨_, rfl, rfl⟩
  | succ digit =>
    rw [hdigit] at hlt
    refine ⟨_, steps?_whole (areDigits_encode hdigits.2) negative (digit + 1), ?_⟩
    rw [Scaled.takeWhole_of_lt hlt]
    rfl

end Json.NumberReader

/-- The text of an integer in a document: digits without a leading zero, perhaps with a minus, whose
number has 64 bits, or any digits in quotes. -/
inductive WritesInteger : List Char → Int → Prop
  | plain {digits : List Char} : IsDigits digits → (digits.head? = some '0' → digits = ['0']) →
      digitsValue digits < 0x8000000000000000 → WritesInteger digits (digitsValue digits)
  | minus {digits : List Char} : IsDigits digits → (digits.head? = some '0' → digits = ['0']) →
      digitsValue digits ≤ 0x8000000000000000 →
      WritesInteger ('-' :: digits) (-(digitsValue digits : Int))
  | quoted {digits : List Char} : IsDigits digits →
      WritesInteger ('"' :: digits ++ ['"']) (digitsValue digits)

/-- A minus in front of digits makes the negative integer. -/
theorem Json.isInteger_wholeNumber_minus {value : Nat} (h : value ≤ 0x8000000000000000) :
    (Json.number (NumberReader.wholeNumber true value)).IsInteger (-(value : Int)) := by
  rw [NumberReader.wholeNumber, if_pos rfl]
  rcases Nat.eq_zero_or_pos value with rfl | hpos
  · have hzero : 0 * Magnitude.unitsPerOne = Magnitude.zero.units * 1 := by
      rw [Nat.zero_mul, Nat.mul_one, Magnitude.units]
      exact (Nat.zero_mul _).symm
    rw [if_pos (.inl rfl), Binary64.round_eq_finite true Nat.one_pos hzero]
    exact .minusZero
  · rw [if_neg (by omega)]
    exact .number (by omega) (by omega)

/-- The text of an integer is decoded as that integer. -/
theorem exists_decodeObject_of_writesInteger {field : String} {text : List Char} {n : Int}
    (hfield : IsFieldName field) (h : WritesInteger text n) :
    ∃ value, Json.decodeObject (fieldLine field.toList text) = .ok [(field, value)] ∧
      value.IsInteger n := by
  have hplain := isPlain_of_isFieldName hfield
  cases h with
  | plain hdigits hzero hlt =>
    obtain ⟨c, rest, rfl⟩ := List.exists_cons_of_ne_nil hdigits.1
    have hc : c.isDigit = true := hdigits.2 c List.mem_cons_self
    obtain ⟨next, hsteps, hfinish⟩ := Json.NumberReader.steps?_behindDigit hdigits.2
      (fun h0 => (List.cons.inj (hzero (congrArg some h0))).2) (Nat.lt_trans hlt (by decide)) false
    have hdecode := Json.decodeObject_fieldLine_number hplain (ascii_of_isDigit hc)
      (Json.NumberReader.start?_of_isDigit hc) hsteps hfinish
    rw [String.ofList_toList] at hdecode
    exact ⟨_, hdecode, .number (by omega) (by omega)⟩
  | @minus digits hdigits hzero hle =>
    obtain ⟨c, rest, rfl⟩ := List.exists_cons_of_ne_nil hdigits.1
    have hc : c.isDigit = true := hdigits.2 c List.mem_cons_self
    obtain ⟨next, hsteps, hfinish⟩ := Json.NumberReader.steps?_behindDigit hdigits.2
      (fun h0 => (List.cons.inj (hzero (congrArg some h0))).2)
      (Nat.lt_of_le_of_lt hle (by decide)) true
    -- The minus only chooses the state that the first digit is read in.
    have hminus : Json.NumberReader.minus.steps? (Utf8.encode (c :: rest)) = some next := by
      rw [Utf8.encode_cons (ascii_of_isDigit hc), Json.NumberReader.steps?,
        Json.NumberReader.step_minus_of_isDigit hc]
      exact hsteps
    have hdecode := Json.decodeObject_fieldLine_number hplain (c := '-') (by decide) rfl hminus
      hfinish
    rw [String.ofList_toList] at hdecode
    exact ⟨_, hdecode, Json.isInteger_wholeNumber_minus hle⟩
  | @quoted digits hdigits =>
    have hdecode := Json.decodeObject_fieldLine_string hplain
      fun c hc => isPlain_of_isDigit (hdigits.2 c hc)
    rw [String.ofList_toList] at hdecode
    refine ⟨_, hdecode, ?_⟩
    have hinteger : (Json.string (String.ofList digits)).IsInteger
        (digitsValue (String.ofList digits).toList) := .digits (by rwa [String.toList_ofList])
    rwa [String.toList_ofList] at hinteger

/-! ### Operators on integers -/

namespace Operator

/-- What an operator asks of two integers. A pattern asks nothing of them. -/
def Relates : Operator → Int → Int → Prop
  | eq, a, b => a = b
  | ge, a, b => b ≤ a
  | gt, a, b => b < a
  | le, a, b => a ≤ b
  | lt, a, b => a < b
  | ne, a, b => a ≠ b
  | like, _, _ => False

instance (op : Operator) (a b : Int) : Decidable (op.Relates a b) :=
  match op with
  | eq => inferInstanceAs (Decidable (a = b))
  | ge => inferInstanceAs (Decidable (b ≤ a))
  | gt => inferInstanceAs (Decidable (b < a))
  | le => inferInstanceAs (Decidable (a ≤ b))
  | lt => inferInstanceAs (Decidable (a < b))
  | ne => inferInstanceAs (Decidable (a ≠ b))
  | like => inferInstanceAs (Decidable False)

/-- The order of two integers is what the operators ask for. -/
theorem allows_compare (op : Operator) (a b : Int) :
    op.allows (compare a b) = decide (op.Relates a b) := by
  rw [Bool.eq_iff_iff, decide_eq_true_eq]
  rcases Int.lt_trichotomy a b with hlt | rfl | hgt
  · rw [Int.compare_eq_lt.2 hlt]
    cases op <;> simp [allows, holds, Relates] <;> omega
  · rw [Int.compare_eq_eq.2 rfl]
    cases op <;> simp [allows, holds, Relates]
  · rw [Int.compare_eq_gt.2 hgt]
    cases op <;> simp [allows, holds, Relates] <;> omega

end Operator

/-! ### Conditions on integers -/

/-- A condition that compares a field with digits is decided as the operator relates the two
integers, if one of them has 64 bits: for every record with the field, and for every spelling of the
field's value. -/
theorem judge_wholeNumbers {field literal : String} {op : Operator} {n : Int}
    (hfield : IsFieldName field) (hop : op ≠ .like) (hliteral : IsDigits literal.toList)
    (hbound : n < 0x8000000000000000 ∨ digitsValue literal.toList < 0x8000000000000000) :
    ∃ sieve, (Condition.parse (Condition.render ⟨field, op, literal⟩) >>=
        fun condition => Sieve.ofConditions [condition] .all false) = .ok sieve ∧
      (∀ line number fields value, readRecord line number = .ok fields →
        fields.get? field = some value → value.IsInteger n →
        sieve.judge line number = .ok (decide (op.Relates n (digitsValue literal.toList)))) ∧
      ∀ text number, WritesInteger text n →
        sieve.judge (fieldLine field.toList text) number =
          .ok (decide (op.Relates n (digitsValue literal.toList))) := by
  have hwellFormed : Condition.WellFormed ⟨field, op, literal⟩ := by
    refine ⟨hfield.1, hfield.2, isLiteral_iff.2 ?_⟩
    have hnumber := IsLiteralText.number hliteral .none .none
    rwa [List.append_nil, List.append_nil] at hnumber
  have hjudge : ∀ line number fields value, readRecord line number = .ok fields →
      fields.get? field = some value → value.IsInteger n →
      Sieve.judge ⟨[Test.plain ⟨field, op, literal⟩], .all, false⟩ line number =
        .ok (decide (op.Relates n (digitsValue literal.toList))) := by
    intro line number fields value hread hget hinteger
    -- The field and the literal stand for their integers, so they are in the order of these.
    have horder := Scalar.inOrder_of_standsFor (Scalar.standsFor_ofJson hinteger)
      (Scalar.standsFor_ofText hliteral) (hbound.imp id (by omega))
    rw [Sieve.judge_single hread, ← Operator.allows_compare]
    simp only [Test.run, Test.plain, hget]
    exact Operator.evaluate_of_inOrder hop horder
  refine ⟨_, ?_, hjudge, ?_⟩
  · rw [Condition.parse_render hwellFormed]
    exact Sieve.ofConditions_of_ne_like (List.forall_mem_singleton.2 hop)
  · intro text number htext
    obtain ⟨value, hdecode, hinteger⟩ := exists_decodeObject_of_writesInteger hfield htext
    refine hjudge _ number [(field, value)] value ?_ ?_ hinteger
    · rw [readRecord, hdecode]
    · simp [Fields.get?]

/-- The last integer of 64 bits is in front of the integer behind it, which is rounded. As floats
the two would be the same. -/
theorem judge_wholeNumbers_bound :
    IsFieldName "n" ∧ Operator.lt ≠ .like ∧ IsDigits "0009223372036854775808".toList ∧
      WritesInteger "9223372036854775807".toList 9223372036854775807 ∧
      WritesInteger "\"09223372036854775807\"".toList 9223372036854775807 ∧
      ∃ sieve, (Condition.parse "n < 0009223372036854775808" >>=
          fun condition => Sieve.ofConditions [condition] .all false) = .ok sieve ∧
        ∀ number,
          sieve.judge (fieldLine "n".toList "9223372036854775807".toList) number = .ok true ∧
          sieve.judge (fieldLine "n".toList "\"09223372036854775807\"".toList) number =
            .ok true := by
  have hfield : IsFieldName "n" := ⟨List.cons_ne_nil _ _, List.forall_mem_singleton.2 rfl⟩
  have hliteral : IsDigits "0009223372036854775808".toList :=
    ⟨by decide, List.all_eq_true.1 (by decide)⟩
  have hplain : WritesInteger "9223372036854775807".toList 9223372036854775807 := by
    have hvalue : digitsValue "9223372036854775807".toList = 9223372036854775807 := by decide
    have hcast : (digitsValue "9223372036854775807".toList : Int) = 9223372036854775807 := by omega
    rw [← hcast]
    exact .plain ⟨by decide, List.all_eq_true.1 (by decide)⟩ (by decide) (by decide)
  have hquoted : WritesInteger "\"09223372036854775807\"".toList 9223372036854775807 := by
    have hvalue : digitsValue "09223372036854775807".toList = 9223372036854775807 := by decide
    have hcast : (digitsValue "09223372036854775807".toList : Int) = 9223372036854775807 := by omega
    have htext : "\"09223372036854775807\"".toList =
        '"' :: "09223372036854775807".toList ++ ['"'] := rfl
    rw [← hcast, htext]
    exact .quoted ⟨by decide, List.all_eq_true.1 (by decide)⟩
  have hrelates : decide (Operator.lt.Relates 9223372036854775807
      (digitsValue "0009223372036854775808".toList)) = true := by decide
  obtain ⟨sieve, hsieve, -, hjudge⟩ :=
    @judge_wholeNumbers "n" "0009223372036854775808" .lt 9223372036854775807 hfield (by decide)
      hliteral (.inl (by decide))
  rw [hrelates] at hjudge
  exact ⟨hfield, by decide, hliteral, hplain, hquoted, sieve, hsieve,
    fun number => ⟨hjudge _ number hplain, hjudge _ number hquoted⟩⟩

end RecordSieve
