import RecordSieve.Proofs.Grammar
import RecordSieve.Proofs.Numeric.Order
import RecordSieve.Scalar.Coercion

/-!
# Coercion of Texts

What the texts of literals and of fields are read as. A numeral is a number: its digits are
rounded, to an infinity if there are too many of them, and a size unit scales what comes out by a
number that is neither zero nor infinite, so that NaN never arises. Of the literals, exactly the
quoted ones are strings.

## Main definitions

* `Scalar.IsNumber`: the integers, and the floats other than NaN.

## Main statements

* `Numeral.isNumber_value`: a numeral is a number;
* `Scalar.ofText_ne_nan`: no text is read as NaN;
* `Scalar.ofText_of_quoted`, `Scalar.kind_ofText_ne_string`: which literals are strings.
-/

namespace RecordSieve

/-- The integers, and the floats other than NaN. -/
inductive Scalar.IsNumber : Scalar → Prop
  | int (value : Int64) : IsNumber (.int value)
  | float {value : Binary64} : value ≠ .nan → IsNumber (.float value)

/-- Numbers are not NaN. -/
theorem Scalar.IsNumber.ne_nan {scalar : Scalar} (h : scalar.IsNumber) : scalar ≠ .float .nan := by
  cases h with
  | int => simp
  | float hvalue => exact float_ne_nan.2 hvalue

/-- Numbers are not strings. -/
theorem Scalar.IsNumber.kind_ne_string {scalar : Scalar} (h : scalar.IsNumber) :
    scalar.kind ≠ .string := by
  cases h <;> simp [kind]

/-- Numbers are not truth values. -/
theorem Scalar.IsNumber.kind_ne_bool {scalar : Scalar} (h : scalar.IsNumber) :
    scalar.kind ≠ .bool := by
  cases h <;> simp [kind]

/-- The multiplier of a unit is a factor. -/
theorem SizeUnit.isFactor_multiplier (unit : SizeUnit) : unit.multiplier.isFactor = true := by
  cases unit <;> decide +kernel

namespace Numeral

/-- The mantissa of a numeral is a number. -/
theorem isNumber_mantissa (n : Numeral) : n.mantissa.IsNumber := by
  rw [mantissa]
  split
  · exact .float (Binary64.round_ne_nan _ _ _)
  · dsimp only
    split
    · exact .int _
    · exact .float (Binary64.round_ne_nan _ _ _)

/-- A numeral is a number. -/
theorem isNumber_value (n : Numeral) : n.value.IsNumber := by
  have hmantissa := n.isNumber_mantissa
  rw [value]
  generalize n.mantissa = mantissa at hmantissa
  cases n.unit with
  | none => exact hmantissa
  | some unit =>
    -- The unit makes a float of the mantissa, whichever number it is.
    cases hmantissa with
    | int m =>
      exact .float (Binary64.mul_ne_nan (Binary64.round_ne_nan _ _ _) unit.isFactor_multiplier)
    | float hx => exact .float (Binary64.mul_ne_nan hx unit.isFactor_multiplier)

end Numeral

namespace Scalar

variable {text : String}

/-- A text that is read as a numeral is the number of the numeral. -/
theorem ofChars_of_numeral {text : List Char} {n : Numeral}
    (h : Numeral.ofText? text = some n) : ofChars text = n.value := by
  unfold ofChars
  split
  · simp [Numeral.ofText?] at h
  · have htrue : text ≠ "True".toList := by
      rintro rfl
      cases h
    have hfalse : text ≠ "False".toList := by
      rintro rfl
      cases h
    rw [if_neg htrue, if_neg hfalse, h]

/-- No text is read as NaN. -/
theorem ofText_ne_nan (text : String) : ofText text ≠ .float .nan := by
  rw [ofText]
  cases hread : Numeral.ofText? text.toList with
  | some n =>
    rw [ofChars_of_numeral hread]
    exact n.isNumber_value.ne_nan
  | none =>
    -- What is no numeral is a string or a Boolean.
    unfold ofChars
    split
    · simp
    · rw [hread]
      split
      · simp
      · split <;> simp

/-- A literal has quotes around it, or it does not start with one. -/
theorem exists_quoted_or (h : IsLiteralText text.toList) :
    (∃ inner, text.toList = '"' :: (inner ++ ['"'])) ∨ text.toList.head? ≠ some '"' := by
  generalize text.toList = chars at h
  cases h with
  | quoted hinner => exact .inl ⟨_, rfl⟩
  | isTrue => exact .inr (by decide)
  | isFalse => exact .inr (by decide)
  | number hwhole hfraction hunit =>
    obtain ⟨c, rest, rfl⟩ := List.exists_cons_of_ne_nil hwhole.1
    -- A number starts with a digit.
    refine .inr ?_
    rintro ⟨⟩
    exact absurd (hwhole.2 '"' List.mem_cons_self) (by decide)

/-- A quoted literal is the string between its quotes. -/
theorem ofText_of_quoted {inner : List Char} (h : text.toList = '"' :: (inner ++ ['"'])) :
    ofText text = .string (String.ofList inner) := by
  simp [ofText, h, ofChars, unquote]

/-- A literal without quotes is no string. -/
theorem kind_ofText_ne_string (hliteral : IsLiteralText text.toList)
    (h : text.toList.head? ≠ some '"') : (ofText text).kind ≠ .string := by
  rw [ofText]
  generalize text.toList = chars at hliteral h
  cases hliteral with
  | quoted hinner => exact absurd rfl h
  | isTrue => simp [ofChars, kind]
  | isFalse => simp [ofChars, kind]
  | number hwhole hfraction hunit =>
    have hsome := isSome_numeral_iff.2 ⟨_, _, _, hwhole, hfraction, hunit, rfl⟩
    obtain ⟨n, hread⟩ := Option.isSome_iff_exists.1 hsome
    rw [ofChars_of_numeral hread]
    exact n.isNumber_value.kind_ne_string

end Scalar

end RecordSieve
