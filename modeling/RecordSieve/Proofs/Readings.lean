import Mathlib.Data.Nat.Digits.Defs
import Mathlib.Logic.ExistsUnique
import RecordSieve.Proofs.Expansions
import RecordSieve.Proofs.NumberTexts
import RecordSieve.Proofs.Numeric.Nearest

/-!
# Readings of Texts

Coercion cuts a text up, tries one class after the other and computes a value. Here the classes
stand side by side, each with the value that it is worth: what is left between quotes, a truth
value, an integer of 64 bits, the float that is nearest to the digits, perhaps scaled by a unit, and
the text itself. Each text has exactly one reading, and that is what coercion makes of it.

## Main definitions

* `Unquotes`, `Stripped`: what is left of a text without the quotes around it;
* `placeValue`, `WritesMantissa`: the number that digits write, with or without a point;
* `IsScaled`: the float that a factor makes of another one;
* `Scalar.ReadAs`: the readings of a text;
* `ReadExactly`: coercion succeeds and gives the only reading.

## Main statements

* `Scalar.unquotes_iff`: what coercion leaves of a text that starts with a quote;
* `isScaled_iff`: the product with the factor of a unit;
* `Scalar.readAs_iff`: the only reading of a text;
* `readExactly`: coercion of every text.
-/

namespace RecordSieve

/-! ### Quotes -/

/-- A text starts with a quote, and this is what is left without it. A quote at the end is dropped
as well, if it is not the same one. -/
inductive Unquotes : List Char → List Char → Prop
  | closed (inner : List Char) : Unquotes ('"' :: (inner ++ ['"'])) inner
  | unclosed {inner : List Char} : inner.getLast? ≠ some '"' → Unquotes ('"' :: inner) inner

theorem Unquotes.head? {text body : List Char} (h : Unquotes text body) :
    text.head? = some '"' := by
  cases h <;> rfl

/-- What is left of a text without quotes around it: a text that does not start with one stays as it
is. -/
inductive Stripped : String → String → Prop
  | plain {text : String} : text.toList.head? ≠ some '"' → Stripped text text
  | quoted {text : String} {body : List Char} : Unquotes text.toList body →
      Stripped text (String.ofList body)

namespace Scalar

/-- What coercion leaves of a text that starts with a quote. -/
theorem unquotes_iff {inner body : List Char} :
    Unquotes ('"' :: inner) body ↔ body = unquote inner := by
  constructor
  · generalize htext : '"' :: inner = text
    rintro (_ | hlast)
    · cases htext
      rw [unquote, if_pos (List.getLast?_concat ..), List.dropLast_concat]
    · cases htext
      rw [unquote, if_neg hlast]
  · rintro rfl
    rw [unquote]
    split
    next hlast =>
      obtain ⟨front, rfl⟩ := List.getLast?_eq_some_iff.1 hlast
      rw [List.dropLast_concat]
      exact .closed front
    next hlast => exact .unclosed hlast

/-- A text that starts with a quote is the string that is left of it. -/
theorem ofChars_of_unquotes {text body : List Char} (h : Unquotes text body) :
    ofChars text = .string (String.ofList body) := by
  obtain ⟨inner, rfl⟩ := List.head?_eq_some_iff.1 h.head?
  rw [ofChars, unquotes_iff.1 h]

theorem toList_between_quotes (text : String) :
    ("\"" ++ text ++ "\"").toList = '"' :: (text.toList ++ ['"']) := by simp

/-- Between quotes a text is the string that it is. -/
theorem ofText_between_quotes (text : String) : ofText ("\"" ++ text ++ "\"") = .string text := by
  rw [ofText_of_quoted (toList_between_quotes text), String.ofList_toList]

end Scalar

/-- There is one thing left of every text. -/
theorem existsUnique_stripped (text : String) : ∃! stripped, Stripped text stripped := by
  by_cases hquote : text.toList.head? = some '"'
  · obtain ⟨inner, htext⟩ := List.head?_eq_some_iff.1 hquote
    refine ⟨_, .quoted (htext ▸ Scalar.unquotes_iff.2 rfl), ?_⟩
    rintro _ (hplain | hbody)
    · exact absurd hquote hplain
    · rw [htext, Scalar.unquotes_iff] at hbody
      rw [hbody]
  · refine ⟨text, .plain hquote, ?_⟩
    rintro _ (_ | hbody)
    · rfl
    · exact absurd hbody.head? hquote

/-! ### Digits -/

/-- The number that decimal digits write, the last one being worth one, the one in front of it ten,
and so on. -/
def placeValue (digits : List Char) : ℕ := Nat.ofDigits 10 (digits.reverse.map digitValue)

/-- Digits behind a value move it up by their number of places. -/
theorem valueFrom_eq_ofDigits (start : ℕ) (digits : List ℕ) :
    valueFrom start digits = start * 10 ^ digits.length + Nat.ofDigits 10 digits.reverse := by
  induction digits generalizing start with
  | nil => simp [valueFrom]
  | cons digit rest ih =>
    rw [valueFrom_cons, ih, List.length_cons, List.reverse_cons, Nat.ofDigits_append,
      Nat.ofDigits_singleton, List.length_reverse]
    ring

/-- Going from left to right gives the same number. -/
theorem placeValue_eq (digits : List Char) : placeValue digits = digitsValue digits := by
  rw [placeValue, digitsValue_eq_valueFrom, valueFrom_eq_ofDigits, Nat.zero_mul, Nat.zero_add,
    List.map_reverse]

/-- A text of digits, perhaps with a point and more digits, and its value. -/
inductive WritesMantissa : List Char → ℚ → Prop
  | whole {digits : List Char} : IsDigits digits → WritesMantissa digits (placeValue digits)
  | point {whole fraction : List Char} : IsDigits whole → IsDigits fraction →
      WritesMantissa (whole ++ '.' :: fraction)
        (placeValue whole + placeValue fraction / 10 ^ fraction.length)

namespace Numeral

variable {n : Numeral}

theorem wellFormed_whole {whole : List Char} (h : IsDigits whole) (unit : Option SizeUnit) :
    WellFormed ⟨whole, none, unit⟩ := ⟨h.1, h.2, by simp, by simp⟩

theorem wellFormed_point {whole fraction : List Char} (hwhole : IsDigits whole)
    (hfraction : IsDigits fraction) (unit : Option SizeUnit) :
    WellFormed ⟨whole, some fraction, unit⟩ :=
  ⟨hwhole.1, hwhole.2, by simpa using hfraction.1, hfraction.2⟩

/-- The value of the digits of a numeral, place by place. -/
theorem digitsNumber_div (n : Numeral) : (n.digitsNumber / 10 ^ n.places : ℚ) =
    placeValue n.whole + placeValue (n.fraction.getD []) / 10 ^ n.places := by
  have hpos : (0 : ℚ) < 10 ^ n.places := by positivity
  have hsplit : n.digitsNumber = placeValue n.whole * 10 ^ n.places +
      placeValue (n.fraction.getD []) := by
    rw [digitsNumber_eq, valueFrom_eq_ofDigits, ← digitsValue_eq_valueFrom, ← placeValue_eq,
      List.length_map, ← List.map_reverse, ← placeValue, places]
  rw [hsplit, Nat.cast_add, Nat.cast_mul, add_div, Nat.cast_pow, Nat.cast_ofNat,
    mul_div_cancel_right₀ _ hpos.ne']

/-- The texts of digits are those of numerals in front of their units. -/
theorem writesMantissa_iff {text : List Char} {value : ℚ} : WritesMantissa text value ↔
    ∃ n : Numeral, n.WellFormed ∧ n.mantissaText = text ∧
      value = n.digitsNumber / 10 ^ n.places := by
  simp only [digitsNumber_div]
  constructor
  · rintro (hwhole | ⟨hwhole, hfraction⟩)
    · exact ⟨_, wellFormed_whole hwhole none, by simp [mantissaText], by simp [placeValue]⟩
    · exact ⟨_, wellFormed_point hwhole hfraction none, rfl, rfl⟩
  · rintro ⟨⟨whole, fraction, unit⟩, ⟨hne, hwhole, hfraction_ne, hfraction⟩, rfl, rfl⟩
    cases fraction with
    | none => simpa [mantissaText, placeValue] using WritesMantissa.whole ⟨hne, hwhole⟩
    | some fraction => exact .point ⟨hne, hwhole⟩ ⟨by simpa using hfraction_ne, hfraction⟩

theorem toText_eq_mantissaText (n : Numeral) :
    n.toText = n.mantissaText ++ (n.unit.map SizeUnit.suffix).getD [] := n.toText_eq

/-- The digits of a numeral are rounded to the nearest float. -/
theorem isNearest_iff {x : Binary64} :
    Binary64.IsNearest (n.digitsNumber / 10 ^ n.places) x ↔ x = n.nearest := by
  have hcast : (10 ^ n.places : ℚ) = (Nat.pow 10 n.places : ℕ) := (Nat.cast_pow 10 n.places).symm
  rw [hcast, Binary64.isNearest_iff n.pow_places_pos, nearest]

end Numeral

/-- A float that is nearest to a value has no sign. -/
theorem Binary64.IsNearest.isNegative_eq_false {value : ℚ} {x : Binary64} (h : IsNearest value x) :
    x.isNegative = false := by
  cases h <;> rfl

/-! ### Units -/

/-- The float that is nearest to a float times a factor. An infinity stays one. -/
inductive IsScaled (factor : ℕ) : Binary64 → Binary64 → Prop
  | finite {x : Magnitude} {y : Binary64} : Binary64.IsNearest (x.toRat * factor) y →
      IsScaled factor (.finite false x) y
  | infinite : IsScaled factor (.infinite false) (.infinite false)

/-- Nor has one that is scaled. -/
theorem IsScaled.isNegative_eq_false {factor : ℕ} {x y : Binary64} (h : IsScaled factor x y) :
    y.isNegative = false := by
  cases h with
  | finite hnearest => exact hnearest.isNegative_eq_false
  | infinite => rfl

/-- A float without a minus is multiplied by the factor of a unit. -/
theorem isScaled_iff {unit : SizeUnit} {x y : Binary64} (hnegative : x.isNegative = false)
    (hnan : x ≠ .nan) : IsScaled unit.factor x y ↔ y = x.mul unit.multiplier := by
  obtain ⟨factor, hmultiplier, hunits⟩ := unit.exists_multiplier
  have hvalue : factor.toRat = unit.factor := by
    rw [Magnitude.toRat, hunits, Nat.cast_mul,
      mul_div_cancel_right₀ _ Binary64.unitsPerOne_pos_rat.ne']
  have hne : factor.units ≠ 0 := by
    rw [hunits]
    exact (Nat.mul_pos unit.factor_pos Magnitude.unitsPerOne_pos).ne'
  rw [hmultiplier]
  -- An infinity stays one because the factor of a unit is not zero.
  cases x with
  | nan => exact absurd rfl hnan
  | infinite negative =>
    cases hnegative
    rw [Binary64.mul, if_neg hne]
    constructor
    · rintro (_ | _)
      rfl
    · rintro rfl
      exact .infinite
  | finite negative x =>
    cases hnegative
    rw [← Binary64.isNearest_mul_iff, hvalue]
    constructor
    · rintro (hnearest | _)
      exact hnearest
    · exact .finite

/-! ### Readings -/

/-- Digits, perhaps a fraction and perhaps a unit. -/
def IsNumericText (text : List Char) : Prop :=
  ∃ whole fraction unit, IsDigits whole ∧ IsFractionText fraction ∧ IsUnitText unit ∧
    whole ++ fraction ++ unit = text

namespace Scalar

/-- The readings of a text. -/
inductive ReadAs : List Char → Scalar → Prop
  | quoted {text body : List Char} : Unquotes text body → ReadAs text (.string (String.ofList body))
  | isTrue : ReadAs "True".toList (.bool true)
  | isFalse : ReadAs "False".toList (.bool false)
  | int {digits : List Char} {n : Int64} : IsDigits digits → placeValue digits ≤ 2 ^ 63 - 1 →
      n.toInt = placeValue digits → ReadAs digits (.int n)
  | long {digits : List Char} {x : Binary64} : IsDigits digits → 2 ^ 63 - 1 < placeValue digits →
      Binary64.IsNearest (placeValue digits) x → ReadAs digits (.float x)
  | point {whole fraction : List Char} {x : Binary64} : IsDigits whole → IsDigits fraction →
      Binary64.IsNearest (placeValue whole + placeValue fraction / 10 ^ fraction.length) x →
      ReadAs (whole ++ '.' :: fraction) (.float x)
  | scaled {digits : List Char} {value : ℚ} {unit : SizeUnit} {x y : Binary64} :
      WritesMantissa digits value → Binary64.IsNearest value x → IsScaled unit.factor x y →
      ReadAs (digits ++ unit.suffix) (.float y)
  | other {text : List Char} : text.head? ≠ some '"' → text ≠ "True".toList →
      text ≠ "False".toList → ¬ IsNumericText text → ReadAs text (.string (String.ofList text))

/-- A numeral is read as its value. -/
theorem readAs_value {n : Numeral} (hn : n.WellFormed) : ReadAs n.toText n.value := by
  rw [n.toText_eq_mantissaText]
  -- A unit makes a float of every number. Without one the class depends on the point, and on the
  -- number of digits if there is none.
  cases hunit : n.unit with
  | some unit =>
    rw [Numeral.value_of_unit hunit]
    exact .scaled (Numeral.writesMantissa_iff.2 ⟨n, hn, rfl, rfl⟩) (Numeral.isNearest_iff.2 rfl)
      ((isScaled_iff n.isNegative_nearest n.nearest_ne_nan).2 rfl)
  | none =>
    have hnearest := Numeral.isNearest_iff.2 (Eq.refl n.nearest)
    rw [Numeral.value_eq hunit, Option.map_none, Option.getD_none, List.append_nil]
    rw [Numeral.digitsNumber_div] at hnearest
    obtain ⟨whole, fraction, unit⟩ := n
    obtain ⟨hne, hwhole, hfraction_ne, hfraction⟩ := hn
    cases fraction with
    | some fraction =>
      rw [if_neg (by simp)]
      exact .point ⟨hne, hwhole⟩ ⟨by simpa using hfraction_ne, hfraction⟩ hnearest
    | none =>
      have hzero : placeValue [] = 0 := rfl
      simp only [Numeral.mantissaText, Option.map_none, Option.getD_none, List.append_nil, true_and,
        hzero, Nat.cast_zero, zero_div, add_zero, ← placeValue_eq] at hnearest ⊢
      split
      next hlt =>
        exact .int ⟨hne, hwhole⟩ (Nat.le_sub_one_of_lt hlt) (Int64.toInt_ofNat_of_lt hlt)
      next hlt => exact .long ⟨hne, hwhole⟩ (by omega) hnearest

/-- What coercion makes of a text is a reading of it. -/
theorem readAs_ofChars (text : List Char) : ReadAs text (ofChars text) := by
  unfold ofChars
  split
  next inner => exact .quoted (unquotes_iff.2 rfl)
  next hquote =>
    by_cases htrue : text = "True".toList
    · rw [if_pos htrue, htrue]
      exact .isTrue
    by_cases hfalse : text = "False".toList
    · rw [if_neg htrue, if_pos hfalse, hfalse]
      exact .isFalse
    rw [if_neg htrue, if_neg hfalse]
    -- What is left is a numeral or a text of no class.
    cases hread : Numeral.ofText? text with
    | some n =>
      obtain ⟨hn, rfl⟩ := Numeral.wellFormed_of_ofText? hread
      exact readAs_value hn
    | none =>
      refine .other ?_ htrue hfalse ?_
      · intro hhead
        obtain ⟨inner, rfl⟩ := List.head?_eq_some_iff.1 hhead
        exact hquote inner rfl
      · intro hnumeric
        have hsome := isSome_numeral_iff.2 hnumeric
        rw [hread] at hsome
        cases hsome

/-- A numeral is coerced to its value. -/
theorem ofChars_toText {n : Numeral} (hn : n.WellFormed) : ofChars n.toText = n.value :=
  ofChars_of_numeral (Numeral.ofText?_toText hn)

/-- Digits alone are an integer if they fit 64 bits. -/
theorem ofChars_of_isDigits {digits : List Char} (h : IsDigits digits) :
    ofChars digits = if placeValue digits < 0x8000000000000000 then
      .int (Int64.ofNat (placeValue digits)) else .float (Binary64.ofNat (placeValue digits)) := by
  have hread := ofChars_toText (Numeral.wellFormed_whole h none)
  rw [Numeral.value_eq rfl, Numeral.nearest_of_fraction_eq_none rfl] at hread
  simpa [Numeral.toText, placeValue_eq] using hread

/-- Coercion makes of a text whatever reading it has. -/
theorem ReadAs.eq_ofChars {text : List Char} {scalar : Scalar} (h : ReadAs text scalar) :
    scalar = ofChars text := by
  cases h with
  | quoted hbody => exact (ofChars_of_unquotes hbody).symm
  | isTrue | isFalse => rfl
  | @int digits n hdigits hle hn =>
    have hlt : placeValue text < 0x8000000000000000 := by omega
    rw [ofChars_of_isDigits hdigits, if_pos hlt, int.injEq, ← Int64.toInt_inj, hn,
      Int64.toInt_ofNat_of_lt hlt]
  | @long digits x hdigits hlt hx =>
    have hone : (placeValue text : ℚ) = placeValue text / (1 : ℕ) := by rw [Nat.cast_one, div_one]
    rw [hone, Binary64.isNearest_iff Nat.one_pos] at hx
    rw [ofChars_of_isDigits hdigits, if_neg (by omega), hx, Binary64.ofNat]
  | @point whole fraction x hwhole hfraction hx =>
    have hread := ofChars_toText (Numeral.wellFormed_point hwhole hfraction none)
    have hnearest := Numeral.isNearest_iff (n := ⟨whole, some fraction, none⟩) (x := x)
    rw [Numeral.digitsNumber_div] at hnearest
    rw [Numeral.value_eq rfl, if_neg (by simp), Numeral.toText_eq_mantissaText] at hread
    rw [hnearest.1 hx, ← hread]
    simp [Numeral.mantissaText]
  | @scaled digits value unit x y hdigits hx hy =>
    -- Two roundings: that of the digits, and that of the product with the unit.
    obtain ⟨⟨whole, fraction, _⟩, hn, rfl, rfl⟩ := Numeral.writesMantissa_iff.1 hdigits
    have hread := ofChars_toText (n := ⟨whole, fraction, some unit⟩) ⟨hn.1, hn.2, hn.3, hn.4⟩
    rw [Numeral.value_of_unit rfl, Numeral.toText_eq_mantissaText] at hread
    obtain rfl := Numeral.isNearest_iff.1 hx
    rw [isScaled_iff (Numeral.isNegative_nearest _) (Numeral.nearest_ne_nan _)] at hy
    rw [hy]
    exact hread.symm
  | other hquote htrue hfalse hnumeric =>
    -- A text of no other class is read as it stands.
    have hnone : Numeral.ofText? text = none := by
      rw [← Option.not_isSome_iff_eq_none, isSome_numeral_iff]
      exact hnumeric
    unfold ofChars
    split
    next => exact absurd rfl hquote
    next => rw [if_neg htrue, if_neg hfalse, hnone]

/-- No text is read as a number with a minus. -/
theorem ReadAs.int_nonneg {text : List Char} {n : Int64} (h : ReadAs text (.int n)) :
    0 ≤ n.toInt := by
  cases h with
  | int _ _ hvalue => omega

/-- No text is read as a float with a sign. -/
theorem ReadAs.isNegative_eq_false {text : List Char} {x : Binary64} (h : ReadAs text (.float x)) :
    x.isNegative = false := by
  cases h with
  | long _ _ hx => exact hx.isNegative_eq_false
  | point _ _ hx => exact hx.isNegative_eq_false
  | scaled _ _ hx => exact hx.isNegative_eq_false

/-- The only reading of a text is what coercion makes of it. -/
theorem readAs_iff {text : List Char} {scalar : Scalar} :
    ReadAs text scalar ↔ scalar = ofChars text := by
  constructor
  · exact ReadAs.eq_ofChars
  · rintro rfl
    exact readAs_ofChars text

/-- A text that is none of the others is read as it stands. -/
theorem ofText_of_other {text : String} (hquote : text.toList.head? ≠ some '"')
    (hother : ¬ (text = "True" ∨ text = "False" ∨ IsNumericText text.toList)) :
    ofText text = .string text := by
  rw [not_or, not_or] at hother
  obtain ⟨htrue, hfalse, hnumeric⟩ := hother
  have hreading := (ReadAs.other hquote (mt String.toList_inj.1 htrue)
    (mt String.toList_inj.1 hfalse) hnumeric).eq_ofChars
  rw [ofText, ← hreading, String.ofList_toList]

/-- The texts that are read as a truth value or a number. -/
theorem kind_ofText_ne_string_iff {text : String} : (ofText text).kind ≠ .string ↔
    text = "True" ∨ text = "False" ∨ IsNumericText text.toList := by
  constructor
  · intro hkind
    by_contra hother
    refine hkind ?_
    -- A quote in front makes a string, and a text without one is none of the others.
    by_cases hquote : text.toList.head? = some '"'
    · obtain ⟨inner, htext⟩ := List.head?_eq_some_iff.1 hquote
      rw [ofText, htext]
      rfl
    · rw [ofText_of_other hquote hother]
      rfl
  · rintro (rfl | rfl | hnumeric)
    · decide
    · decide
    · obtain ⟨n, hread⟩ := Option.isSome_iff_exists.1 (isSome_numeral_iff.2 hnumeric)
      rw [ofText, ofChars_of_numeral hread]
      exact n.isNumber_value.kind_ne_string

/-- A text that is read as a string is what is left of it without quotes. -/
theorem ofText_of_stripped {text stripped : String} (h : Stripped text stripped)
    (hkind : (ofText text).kind = .string) : ofText text = .string stripped := by
  cases h with
  | plain hquote => exact ofText_of_other hquote (mt kind_ofText_ne_string_iff.2 (not_not.2 hkind))
  | quoted hbody => exact ofChars_of_unquotes hbody

end Scalar

/-! ### Coercion of every text -/

/-- Coercion succeeds on a text and gives its only reading. -/
structure ReadExactly (text : String) : Prop where
  /-- No step of coercion fails. -/
  succeeds : Scalar.read? text.toList = some (Scalar.ofText text)
  /-- What comes out is the only reading of the text. -/
  readAs_iff : ∀ scalar, Scalar.ReadAs text.toList scalar ↔ scalar = Scalar.ofText text
  /-- Between quotes it is the text itself, also if there are quotes in it. -/
  between_quotes : Scalar.ofText ("\"" ++ text ++ "\"") = .string text
  int_nonneg : ∀ n, Scalar.ofText text = .int n → 0 ≤ n.toInt
  float_ne_nan : Scalar.ofText text ≠ .float .nan
  float_not_negative : ∀ x, Scalar.ofText text = .float x → x.isNegative = false

/-- Coercion succeeds on every text and gives its only reading. -/
theorem readExactly (text : String) : ReadExactly text := by
  have hreading := Scalar.readAs_ofChars text.toList
  constructor
  case succeeds => exact Scalar.read?_eq_some _
  case readAs_iff => exact fun scalar => Scalar.readAs_iff
  case between_quotes => exact Scalar.ofText_between_quotes text
  case int_nonneg =>
    intro n hn
    rw [← Scalar.ofText, hn] at hreading
    exact hreading.int_nonneg
  case float_ne_nan => exact Scalar.ofText_ne_nan text
  case float_not_negative =>
    intro x hx
    rw [← Scalar.ofText, hx] at hreading
    exact hreading.isNegative_eq_false

end RecordSieve
