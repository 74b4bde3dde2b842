import RecordSieve.Pattern.Basic
import RecordSieve.Proofs.Grammar
import RecordSieve.Proofs.Pattern.Words

/-!
# The Grammar as Regular Expressions

The grammar of conditions and that of the numbers in texts are regular, and can be written as
patterns. Here these patterns are read and matched by the engine that also serves the conditions
with a pattern. Each has a match exactly in the texts that the readers of conditions and of numerals
accept, although the two patterns are written apart from each other and group their parts in
different ways.

## Main definitions

* `Condition.pattern`, `Numeral.pattern`: the patterns of conditions and of numerals;
* `Regex.condition`, `Regex.numeral`: the expressions that they write.

## Main statements

* `Numeral.isMatch_iff`: the numerals are what the pattern of numerals matches;
* `Condition.isMatch_iff`: the conditions are what the pattern of conditions matches.
-/

namespace RecordSieve

open Pattern

/-- The pattern of a whole text that is a numeral. It captures the digits and the unit. -/
def Numeral.pattern : String := "^([0-9]+(?:\\.[0-9]+)?)((?:[KMGTPE]i?)?)$"

/-- The pattern of a literal without quotes that is neither `True` nor `False`. -/
def Numeral.literalPattern : String := "[0-9]+(?:\\.[0-9]+)?(?:[KMGTPE]i?)?"

/-- The pattern of a condition. It captures the field, the operator and the literal. -/
def Condition.pattern : String :=
  "^([A-Za-z0-9_-]+)\\s*(==|>=|>|<=|<|!=|=~)\\s*(\"[^\"]*\"|True|False|" ++
    Numeral.literalPattern ++ ")$"

namespace Regex

/-! ### Numerals -/

/-- One or more digits. -/
def digits : Regex := .repeat (.char true (.ofRanges [(0x30, 0x39)])) 1 none true

/-- A point and digits, which may be missing. -/
def fraction : Regex :=
  .repeat (.group false (.seq (.char true (.singleton '.')) digits)) 0 (some 1) true

/-- The letter of a unit, perhaps with an `i` behind it, which may be missing. -/
def unit : Regex :=
  .repeat (.group false (.seq (.char true (.unionOf (unitLetters.map .singleton)))
    (.repeat (.char true (.singleton 'i')) 0 (some 1) true))) 0 (some 1) true

/-- The expression of a numeral behind the start of the text. -/
def numeral : Regex :=
  .seq (.group true (.seq digits fraction)) (.seq (.group true unit) (.look .textEnd))

/-- The pattern of numerals writes the expression. -/
theorem parse?_numeralPattern :
    (parse? Numeral.pattern.toList).map (·.2) = some (.seq (.look .textStart) numeral) := by
  with_unfolding_all rfl

/-- The expression of digits spells one digit or more. -/
theorem spells_digits : Spells digits IsDigits := by
  refine (spells_run true _ 1 true).congr fun word => ?_
  have hdigit (c : Char) :
      (CodePointSet.ofRanges [(0x30, 0x39)]).contains c = true ↔ c.isDigit = true := by
    simp [CodePointSet.contains_ofRanges, CodePointSet.inRange, Char.isDigit,
      UInt32.le_iff_toNat_le]
  simp only [IsDigits, hdigit, Nat.succ_le_iff, List.length_pos_iff]

/-- The expression of a fraction spells the point with digits behind it, or nothing. -/
theorem spells_fraction : Spells fraction IsFractionText := by
  refine (((spells_singleton true '.').seq spells_digits).group false).option true |>.congr
    fun word => ?_
  constructor
  · rintro (rfl | ⟨_, back, rfl, hback, rfl⟩)
    · exact .none
    · exact .digits hback
  · rintro (_ | ⟨hdigits⟩)
    · exact .inl rfl
    · exact .inr ⟨['.'], _, rfl, hdigits, rfl⟩

/-- The expression of a unit spells the suffixes, or nothing. -/
theorem spells_unit : Spells unit IsUnitText := by
  refine (((spells_char true _).seq ((spells_singleton true 'i').option true)).group
    false).option true |>.congr fun word => ?_
  have hletter (c : Char) :
      (CodePointSet.unionOf (unitLetters.map .singleton)).contains c = true ↔ c ∈ unitLetters := by
    simp [CodePointSet.contains_unionOf, CodePointSet.contains_singleton]
  constructor
  · rintro (rfl | ⟨_, _, ⟨c, hc, rfl⟩, rfl | rfl, rfl⟩)
    · exact .none
    · exact .decimal ((hletter c).1 hc)
    · exact .binary ((hletter c).1 hc)
  · rintro (_ | hc | hc)
    · exact .inl rfl
    · exact .inr ⟨[_], [], ⟨_, (hletter _).2 hc, rfl⟩, .inl rfl, rfl⟩
    · exact .inr ⟨[_], ['i'], ⟨_, (hletter _).2 hc, rfl⟩, .inr rfl, rfl⟩

/-- A numeral is matched by the expressions of its digits and of its unit. -/
theorem closes_numeral : Closes numeral fun text => (Numeral.ofText? text).isSome = true := by
  refine (((spells_digits.seq spells_fraction).group true).closes
    ((spells_unit.group true).closes closes_textEnd)).congr fun text => ?_
  rw [isSome_numeral_iff]
  constructor
  · rintro ⟨_, unit, ⟨whole, fraction, hwhole, hfraction, rfl⟩, hunit, rfl⟩
    exact ⟨whole, fraction, unit, hwhole, hfraction, inSequence_nil.1 hunit, rfl⟩
  · rintro ⟨whole, fraction, unit, hwhole, hfraction, hunit, rfl⟩
    exact ⟨_, unit, ⟨whole, fraction, hwhole, hfraction, rfl⟩, inSequence_nil.2 hunit, rfl⟩

/-! ### Conditions -/

/-- Any number of blanks. -/
def blanks : Regex := .repeat (.char true ⟨blankRanges⟩) 0 none true

/-- The characters of field names. -/
def fieldSet : CodePointSet :=
  .unionOf [.ofRanges [(0x41, 0x5a)], .ofRanges [(0x61, 0x7a)], .ofRanges [(0x30, 0x39)],
    .singleton '_', .singleton '-']

/-- The name of a field. -/
def fieldName : Regex := .repeat (.char true fieldSet) 1 none true

/-- One of several texts, of which there is at least one. -/
def oneOf (text : List Char) : List (List Char) → Regex
  | [] => ofWord true text
  | next :: texts => .alt (ofWord true text) (oneOf next texts)

/-- The token of an operator. -/
def operator : Regex :=
  oneOf "==".toList ([">=", ">", "<=", "<", "!=", "=~"].map String.toList)

/-- A text without a quote, between quotes. -/
def quoted : Regex :=
  .seq (.char true (.singleton '"'))
    (.seq (.repeat (.char true (CodePointSet.singleton '"').complement) 0 none true)
      (.char true (.singleton '"')))

/-- A literal. -/
def literal : Regex :=
  .alt quoted (.alt (ofWord true "True".toList) (.alt (ofWord true "False".toList)
    (.seq digits (.seq fraction unit))))

/-- The expression of a condition behind the start of the text. -/
def condition : Regex :=
  .seq (.group true fieldName) (.seq blanks (.seq (.group true operator) (.seq blanks
    (.seq (.group true literal) (.look .textEnd)))))

set_option maxRecDepth 4000 in
/-- The pattern of conditions writes the expression. -/
theorem parse?_conditionPattern :
    (parse? Condition.pattern.toList).map (·.2) = some (.seq (.look .textStart) condition) := by
  with_unfolding_all rfl

/-- The expression of blanks spells any number of them. -/
theorem spells_blanks : Spells blanks fun word => ∀ c ∈ word, isBlank c = true := by
  refine (spells_run true _ 0 true).congr fun word => ?_
  simp only [Nat.zero_le, true_and]
  exact Iff.rfl

/-- The set of field names has their characters: letters, digits, underscores and hyphens. -/
theorem contains_fieldSet (c : Char) : fieldSet.contains c = true ↔ isFieldChar c = true := by
  have hcode (d : Char) : c = d ↔ c.toNat = d.toNat := Char.toNat_inj.symm
  have hline : '_'.toNat = 0x5f := rfl
  have hdash : '-'.toNat = 0x2d := rfl
  simp only [fieldSet, CodePointSet.contains_unionOf, CodePointSet.contains_ofRanges,
    CodePointSet.contains_singleton, CodePointSet.inRange, List.any_cons, List.any_nil,
    Bool.or_false, Bool.or_eq_true, Bool.and_eq_true, decide_eq_true_eq, isFieldChar_iff_toNat,
    hcode, hline, hdash]
  omega

/-- The expression of a field name spells one character of field names or more. -/
theorem spells_fieldName : Spells fieldName fun word =>
    word ≠ [] ∧ ∀ c ∈ word, isFieldChar c = true := by
  refine (spells_run true _ 1 true).congr fun word => ?_
  simp only [contains_fieldSet, Nat.succ_le_iff, List.length_pos_iff]

/-- Alternatives of texts spell these texts. -/
theorem spells_oneOf (text : List Char) (texts : List (List Char)) :
    Spells (oneOf text texts) (· ∈ text :: texts) := by
  induction texts generalizing text with
  | nil => exact (spells_ofWord true text).congr fun word => List.mem_singleton.symm
  | cons next texts ih =>
    exact ((spells_ofWord true text).alt (ih next)).congr fun word => List.mem_cons.symm

/-- The expression of an operator spells the tokens of the operators. -/
theorem spells_operator : Spells operator fun word => ∃ op : Operator, op.symbol.toList = word := by
  refine (spells_oneOf _ _).congr fun word => ?_
  show word ∈ Operator.all.map (·.symbol.toList) ↔ _
  simp [Operator.mem_all]

/-- The expression of a quoted literal spells the texts between two quotes that hold none. -/
theorem spells_quoted : Spells quoted fun word =>
    ∃ inner, '"' ∉ inner ∧ word = '"' :: (inner ++ ['"']) := by
  refine ((spells_singleton true '"').seq
    ((spells_run true _ 0 true).seq (spells_singleton true '"'))).congr fun word => ?_
  have hother (c : Char) :
      (CodePointSet.singleton '"').complement.contains c = true ↔ c ≠ '"' := by
    rw [CodePointSet.contains_complement, Bool.not_eq_true', ← Bool.not_eq_true,
      CodePointSet.contains_singleton]
  simp only [hother]
  constructor
  · rintro ⟨_, _, rfl, ⟨inner, _, ⟨-, hinner⟩, rfl, rfl⟩, rfl⟩
    exact ⟨inner, fun hquote => hinner '"' hquote rfl, rfl⟩
  · rintro ⟨inner, hinner, rfl⟩
    refine ⟨['"'], _, rfl, ⟨inner, ['"'], ⟨Nat.zero_le _, ?_⟩, rfl, rfl⟩, rfl⟩
    rintro c hc rfl
    exact hinner hc

/-- The expression of a literal spells the texts that are literals. -/
theorem spells_literal : Spells literal IsLiteralText := by
  refine (spells_quoted.alt ((spells_ofWord true _).alt ((spells_ofWord true _).alt
    (spells_digits.seq (spells_fraction.seq spells_unit))))).congr fun word => ?_
  constructor
  · rintro (⟨inner, hinner, rfl⟩ | rfl | rfl |
      ⟨whole, _, hwhole, ⟨fraction, unit, hfraction, hunit, rfl⟩, rfl⟩)
    · exact .quoted hinner
    · exact .isTrue
    · exact .isFalse
    · rw [← List.append_assoc]
      exact .number hwhole hfraction hunit
  · rintro (hinner | _ | _ | ⟨hwhole, hfraction, hunit⟩)
    · exact .inl ⟨_, hinner, rfl⟩
    · exact .inr (.inl rfl)
    · exact .inr (.inr (.inl rfl))
    · exact .inr (.inr (.inr ⟨_, _, hwhole, ⟨_, _, hfraction, hunit, rfl⟩,
        (List.append_assoc _ _ _).symm⟩))

/-- A condition is matched by the expression of its parts, one after the other. -/
theorem closes_condition :
    Closes condition fun text => (Condition.ofChars? text).isSome = true := by
  refine ((spells_fieldName.group true).closes (spells_blanks.closes
    ((spells_operator.group true).closes (spells_blanks.closes
      ((spells_literal.group true).closes closes_textEnd))))).congr fun text => ?_
  rw [Option.isSome_iff_exists]
  -- The words of the five parts, one behind the other, are the parts of a spelling.
  constructor
  · rintro ⟨field, _, ⟨hne, hfield⟩, ⟨before, _, hbefore, ⟨_, _, ⟨operator, rfl⟩, ⟨behind, literal,
      hbehind, hliteral, rfl⟩, rfl⟩, rfl⟩, rfl⟩
    have hread := Spelling.ofChars?_text (s := ⟨field, before, operator, behind, literal⟩)
      ⟨hne, fun c hc => isFieldChar_iff.1 (hfield c hc), hbefore, hbehind,
        inSequence_nil.1 hliteral⟩
    simp only [Spelling.text, List.append_assoc] at hread
    exact ⟨_, hread⟩
  · rintro ⟨c, hread⟩
    obtain ⟨s, hs, rfl, -⟩ := Spelling.exists_of_ofChars? hread
    simp only [Spelling.text, List.append_assoc]
    exact ⟨s.field, _, ⟨hs.field_ne_nil, hs.field_isFieldChar⟩, ⟨s.before, _, hs.before_blank,
      ⟨_, _, ⟨s.operator, rfl⟩, ⟨s.behind, _, hs.behind_blank, inSequence_nil.2 hs.literal, rfl⟩,
        rfl⟩, rfl⟩, rfl⟩

end Regex

/-- The pattern of numerals has a match exactly in the texts that are read as numerals. -/
theorem Numeral.isMatch_iff : ∃ regex, (parse? pattern.toList).map (·.2) = some regex ∧
    ∀ text, regex.isMatch text = true ↔ (ofText? text).isSome = true :=
  ⟨_, Regex.parse?_numeralPattern, Regex.closes_numeral.isMatch_iff⟩

/-- The pattern of conditions has a match exactly in the texts that are read as conditions. -/
theorem Condition.isMatch_iff : ∃ regex, (parse? pattern.toList).map (·.2) = some regex ∧
    ∀ text, regex.isMatch text = true ↔ (ofChars? text).isSome = true :=
  ⟨_, Regex.parse?_conditionPattern, Regex.closes_condition.isMatch_iff⟩

end RecordSieve
