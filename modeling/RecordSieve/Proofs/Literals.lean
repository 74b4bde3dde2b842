import RecordSieve.Proofs.Conditions
import RecordSieve.Proofs.Expressions
import RecordSieve.Proofs.NumberTexts

/-!
# Literals and Coercion

Two readers look at the text of a literal: the reader of conditions, which accepts it or not, and
coercion, which makes a scalar of it as of the texts in records, and takes for a string what it does
not understand. They understand the same texts. So no literal turns into a string because only one
of the readers knows it, and whatever is a number or a truth value as the text of a field can be
asked for in a condition.

## Main definitions

* `IsQuoted`: the literals with quotes;
* `LiteralsAgree`: conditions on a field accept a literal exactly if coercion understands it.

## Main statements

* `isLiteralText_iff`: the literals of the grammar, said in terms of coercion;
* `Condition.parse_eqText`: what is read where a literal should stand;
* `literalsAgree`: the two readers understand the same literals, on every field.
-/

namespace RecordSieve

/-- A text without a quote, between quotes. -/
def IsQuoted (text : List Char) : Prop := ∃ inner, '"' ∉ inner ∧ text = '"' :: (inner ++ ['"'])

/-- A literal is in quotes, a truth value or a numeral. -/
theorem isLiteralText_iff_cases {chars : List Char} : IsLiteralText chars ↔
    IsQuoted chars ∨ chars = "True".toList ∨ chars = "False".toList ∨
      (Numeral.ofText? chars).isSome = true := by
  rw [isSome_numeral_iff]
  constructor
  · rintro (hinner | _ | _ | ⟨hwhole, hfraction, hunit⟩)
    · exact .inl ⟨_, hinner, rfl⟩
    · exact .inr (.inl rfl)
    · exact .inr (.inr (.inl rfl))
    · exact .inr (.inr (.inr ⟨_, _, _, hwhole, hfraction, hunit, rfl⟩))
  · rintro (⟨inner, hinner, rfl⟩ | rfl | rfl |
      ⟨whole, fraction, unit, hwhole, hfraction, hunit, rfl⟩)
    · exact .quoted hinner
    · exact .isTrue
    · exact .isFalse
    · exact .number hwhole hfraction hunit

/-- What coercion does not take for a string is a literal. -/
theorem isLiteralText_of_kind_ne_string {text : String}
    (h : (Scalar.ofText text).kind ≠ .string) : IsLiteralText text.toList := by
  rw [Scalar.ofText] at h
  generalize text.toList = chars at h
  rw [isLiteralText_iff_cases]
  unfold Scalar.ofChars at h
  split at h
  next => exact absurd rfl h
  next =>
    by_cases htrue : chars = "True".toList
    · exact .inr (.inl htrue)
    by_cases hfalse : chars = "False".toList
    · exact .inr (.inr (.inl hfalse))
    -- What is left is a string, but for the numerals.
    rw [if_neg htrue, if_neg hfalse] at h
    cases hread : Numeral.ofText? chars with
    | none =>
      rw [hread] at h
      exact absurd rfl h
    | some n => exact .inr (.inr (.inr rfl))

/-- The literals are the texts in quotes and those that coercion does not take for a string. -/
theorem isLiteralText_iff {text : String} : IsLiteralText text.toList ↔
    IsQuoted text.toList ∨ (Scalar.ofText text).kind ≠ .string := by
  constructor
  · intro h
    obtain ⟨inner, htext⟩ | hhead := Scalar.exists_quoted_or h
    · have hinner := isLiteral_iff.2 h
      rw [htext] at hinner
      exact .inl ⟨inner, by simpa [isLiteral] using hinner, htext⟩
    · exact .inr (Scalar.kind_ofText_ne_string h hhead)
  · rintro (⟨inner, hinner, htext⟩ | hkind)
    · rw [htext]
      exact .quoted hinner
    · exact isLiteralText_of_kind_ne_string hkind

/-- Whether a condition is read where a text stands for the literal depends on the text alone. -/
theorem Condition.parse_eqText {field text : String} (hfield : IsFieldName field)
    (hhead : ∀ c, text.toList.head? = some c → isBlank c = false) :
    parse (field ++ " == " ++ text) = if isLiteral text.toList then .ok ⟨field, .eq, text⟩
      else .error (.notACondition (field ++ " == " ++ text)) := by
  have hchars : (field ++ " == " ++ text).toList =
      field.toList ++ (' ' :: '=' :: '=' :: ' ' :: text.toList) := by simp
  have hcut : (' ' :: text.toList).dropWhile isBlank = text.toList :=
    dropWhile_append_of_head? (l := [' ']) (List.forall_mem_singleton.2 (by decide)) hhead
  -- The field ends in front of the blank, and the blanks in front of the literal.
  have hend : ∀ c, (' ' :: '=' :: '=' :: ' ' :: text.toList).head? = some c →
      isFieldChar c = false := by
    rintro _ ⟨⟩
    decide
  rw [parse, ofText?, hchars, ofChars?, takeWhile_append_of_head? hfield.2 hend,
    dropWhile_append_of_head? hfield.2 hend, if_neg hfield.1]
  have hspace : (' ' :: '=' :: '=' :: ' ' :: text.toList).dropWhile isBlank =
      '=' :: '=' :: ' ' :: text.toList := rfl
  simp only [hspace, Operator.split?, Option.bind_eq_bind, Option.bind_some, hcut,
    String.ofList_toList]
  cases isLiteral text.toList <;> rfl

/-- Conditions on a field accept a literal exactly if coercion understands it. -/
structure LiteralsAgree (field text : String) : Prop where
  /-- Coercion makes a scalar of the text. -/
  coerces : Scalar.read? text.toList = some (Scalar.ofText text)
  /-- The text is accepted if it is in quotes or coercion does not take it for a string. -/
  accepts_iff : (∃ condition, Condition.parse (field ++ " == " ++ text) = .ok condition) ↔
    IsQuoted text.toList ∨ (Scalar.ofText text).kind ≠ .string
  /-- In quotes it is the string between them. -/
  quoted : ∀ inner, text.toList = '"' :: (inner ++ ['"']) →
    Scalar.ofText text = .string (String.ofList inner)
  /-- The condition compares the field with what was written. If there are no quotes, that is no
  string. -/
  asks : ∀ condition, Condition.parse (field ++ " == " ++ text) = .ok condition →
    condition = ⟨field, .eq, text⟩ ∧
      (text.toList.head? ≠ some '"' → (Scalar.ofText text).kind ≠ .string)
  /-- The patterns of conditions and of numerals understand the same literals. -/
  patterns : ∃ condition numeral,
    (Pattern.parse? Condition.pattern.toList).map (·.2) = some condition ∧
      (Pattern.parse? Numeral.pattern.toList).map (·.2) = some numeral ∧
      (condition.isMatch (field ++ " == " ++ text).toList = true ↔
        IsQuoted text.toList ∨ text = "True" ∨ text = "False" ∨ numeral.isMatch text.toList = true)

/-- The two readers understand the same literals on every field. Whatever is a number or a truth
value as the text of a field can be written as a literal. -/
theorem literalsAgree {field : String} (hfield : IsFieldName field) (text : String) :
    ((∀ c, text.toList.head? = some c → isBlank c = false) → LiteralsAgree field text) ∧
      ((Scalar.ofJson (.string text)).kind ≠ .string →
        Condition.parse (field ++ " == " ++ text) = .ok ⟨field, .eq, text⟩) := by
  constructor
  · intro hhead
    have hparse := Condition.parse_eqText hfield hhead
    have haccepts : (∃ condition, Condition.parse (field ++ " == " ++ text) = .ok condition) ↔
        isLiteral text.toList = true := by
      rw [hparse]
      cases isLiteral text.toList <;> simp
    constructor
    case coerces => exact Scalar.read?_eq_some _
    case accepts_iff => rw [haccepts, isLiteral_iff, isLiteralText_iff]
    case quoted => exact fun inner => Scalar.ofText_of_quoted
    case asks =>
      intro condition hcondition
      have hliteral := haccepts.1 ⟨condition, hcondition⟩
      rw [hparse, if_pos hliteral] at hcondition
      cases hcondition
      exact ⟨rfl, Scalar.kind_ofText_ne_string (isLiteral_iff.1 hliteral)⟩
    case patterns =>
      obtain ⟨condition, hcondition, hmatch⟩ := Condition.isMatch_iff
      obtain ⟨numeral, hnumeral, hmatch'⟩ := Numeral.isMatch_iff
      refine ⟨condition, numeral, hcondition, hnumeral, ?_⟩
      have hread : (Condition.ofChars? (field ++ " == " ++ text).toList).isSome = true ↔
          isLiteral text.toList = true := by
        simp only [Option.isSome_iff_exists, ← Condition.parse_eq_ok_iff, haccepts]
      rw [hmatch, hmatch', hread, isLiteral_iff, isLiteralText_iff_cases, String.toList_inj,
        String.toList_inj]
  · intro hkind
    -- A literal does not begin with a blank, so nothing of it is skipped.
    have hliteral : IsLiteralText text.toList := isLiteralText_of_kind_ne_string hkind
    obtain ⟨c, hc, hblank, -⟩ := hliteral.head?
    have hhead : ∀ d, text.toList.head? = some d → isBlank d = false := by
      intro d hd
      cases hc.symm.trans hd
      exact hblank
    rw [Condition.parse_eqText hfield hhead, if_pos (isLiteral_iff.2 hliteral)]

/-- A number, a text in quotes and a text that neither reader understands. -/
theorem literalsAgree_sizes :
    IsFieldName "size" ∧ LiteralsAgree "size" "1.5Ki" ∧ LiteralsAgree "size" "\"15K\"" ∧
      LiteralsAgree "size" "15k" ∧ (Scalar.ofJson (.string "1.5Ki")).kind ≠ .string ∧
      Condition.parse ("size" ++ " == " ++ "1.5Ki") = .ok ⟨"size", .eq, "1.5Ki"⟩ := by
  have hfield : IsFieldName "size" :=
    ⟨by decide, List.all_eq_true.1 (by decide : "size".toList.all isFieldChar = true)⟩
  have hkind : (Scalar.ofJson (.string "1.5Ki")).kind ≠ .string := by decide +kernel
  refine ⟨hfield, (literalsAgree hfield "1.5Ki").1 ?_, (literalsAgree hfield "\"15K\"").1 ?_,
    (literalsAgree hfield "15k").1 ?_, hkind, (literalsAgree hfield "1.5Ki").2 hkind⟩
  all_goals
    rintro _ ⟨⟩
    decide

end RecordSieve
