import RecordSieve.Proofs.Readings
import RecordSieve.Proofs.Warnings

/-!
# Agreement with the Evaluator

A condition is made ready once, and its test is then run on many records. The evaluator is asked
about two scalars instead, and compiles a pattern each time. It shows the scalar on the left to hold
the pattern against it, whereas the test looks at the field value as well. The results are the same,
except for a pattern and a string that coercion takes for a number: the test holds the pattern
against the string as it is spelled.

## Main definitions

* `Json.SpellsNumber`: a string that coercion takes for a number;
* `HeldAgainst`: the text that a pattern is held against;
* `AgreesWithEvaluator`: what the test of a condition gives on a field value.

## Main statements

* `Test.subject_eq_render`: the test shows the scalar unless a string spells a number;
* `heldAgainst_subject`, `HeldAgainst.eq_subject`: each field value has one text for patterns;
* `agreesWithEvaluator`: every test on every field value.
-/

namespace RecordSieve

/-- A string that coercion takes for a number. -/
inductive Json.SpellsNumber : Json → Prop
  | string {text : String} :
      (Scalar.ofText text).kind = .int ∨ (Scalar.ofText text).kind = .float →
      SpellsNumber (.string text)

/-- The text that a pattern is held against: a string as it is spelled, but for quotes around it,
and any other value as its scalar is shown. -/
inductive HeldAgainst : Json → String → Prop
  | string {text stripped : String} : Stripped text stripped → HeldAgainst (.string text) stripped
  | shown {raw : Json} : (∀ text, raw ≠ .string text) → HeldAgainst raw (Scalar.ofJson raw).render

namespace Test

/-- The test shows the scalar of a field value unless a string spells a number. -/
theorem subject_eq_render {raw : Json} (h : ¬ raw.SpellsNumber) :
    subject raw (Scalar.ofJson raw) = (Scalar.ofJson raw).render := by
  cases raw with
  | string text =>
    rw [Scalar.ofJson]
    cases hvalue : Scalar.ofText text with
    | string other => rfl
    | int n => exact absurd (.string (.inl (by rw [hvalue]; rfl))) h
    | float x => exact absurd (.string (.inr (by rw [hvalue]; rfl))) h
    | bool value =>
      -- There is only one spelling for a truth value, and it is shown like that.
      have hkind : (Scalar.ofText text).kind = .bool := by
        rw [hvalue]
        rfl
      rcases Scalar.kind_ofText_eq_bool_iff.1 hkind with rfl | rfl
      · cases hvalue
        rfl
      · cases hvalue
        rfl
  | null | bool | number | array | object => cases Scalar.ofJson _ <;> rfl

/-- A string that spells a number is looked at as it is spelled. -/
theorem subject_of_kind_ne_string {text : String} {value : Scalar} (h : value.kind ≠ .string) :
    subject (.string text) value = text := by
  cases value with
  | string => exact absurd rfl h
  | int | float | bool => rfl

end Test

theorem HeldAgainst.eq_subject {raw : Json} {text : String} (h : HeldAgainst raw text) :
    text = Test.subject raw (Scalar.ofJson raw) := by
  cases h with
  | @string spelled _ hstripped =>
    rw [Scalar.ofJson]
    -- A string with a quote in front is never taken for another type, so where the test goes back
    -- to the spelling there were no quotes to drop.
    by_cases hkind : (Scalar.ofText spelled).kind = .string
    · rw [Scalar.ofText_of_stripped hstripped hkind, Test.subject]
    · cases hstripped with
      | plain hquote => rw [Test.subject_of_kind_ne_string hkind]
      | quoted hbody => exact absurd (congrArg Scalar.kind (Scalar.ofChars_of_unquotes hbody)) hkind
  | shown hraw =>
    refine (Test.subject_eq_render ?_).symm
    rintro ⟨-⟩
    exact hraw _ rfl

/-- Each field value has a text for patterns. -/
theorem heldAgainst_subject (raw : Json) :
    HeldAgainst raw (Test.subject raw (Scalar.ofJson raw)) := by
  have hexists : ∃ text, HeldAgainst raw text := by
    by_cases hraw : ∀ text, raw ≠ .string text
    · exact ⟨_, .shown hraw⟩
    · obtain ⟨text, rfl⟩ := not_forall_not.1 hraw
      obtain ⟨stripped, hstripped, -⟩ := existsUnique_stripped text
      exact ⟨stripped, .string hstripped⟩
  obtain ⟨text, htext⟩ := hexists
  exact htext.eq_subject ▸ htext

/-- What the test of a condition gives on a record with a field value. -/
structure AgreesWithEvaluator (condition : Condition) (test : Test) (fields : Fields) (line : ℕ)
    (raw : Json) : Prop where
  /-- It is the result of the evaluator, but for patterns and strings that spell numbers. -/
  eq_evaluate : ¬ (condition.operator = .like ∧ raw.SpellsNumber) →
    test.run fields line =
      condition.operator.evaluate (Scalar.ofJson raw) (Scalar.ofText condition.literal)
  /-- There it is the match of the pattern on the string itself. -/
  of_spellsNumber : ∀ text, condition.operator = .like → raw = .string text → raw.SpellsNumber →
    ∃ regex, (Scalar.ofText condition.literal).pattern? = .ok regex ∧
      test.run fields line = .ok (regex.isMatch text.toList)
  /-- A pattern is held against one text, which depends on the field value alone. -/
  heldAgainst : condition.operator = .like →
    ∃ regex, (Scalar.ofText condition.literal).pattern? = .ok regex ∧
      (∃! text, HeldAgainst raw text) ∧
      ∀ text, HeldAgainst raw text → test.run fields line = .ok (regex.isMatch text.toList)

/-- The result of a test with a pattern. -/
theorem Test.run_of_like {condition : Condition} {test : Test}
    (htest : ofCondition condition = .ok test) (hlike : condition.operator = .like)
    {fields : Fields} {raw : Json} (hget : fields.get? condition.field = some raw) (line : ℕ) :
    ∃ regex, (Scalar.ofText condition.literal).pattern? = .ok regex ∧
      test.run fields line = .ok (regex.isMatch (subject raw (Scalar.ofJson raw)).toList) := by
  rw [ofCondition_like hlike, map_eq_ok_iff] at htest
  obtain ⟨regex, hregex, rfl⟩ := htest
  refine ⟨regex, hregex, ?_⟩
  simp only [run, hget]

/-- The test of a condition gives the result of the evaluator on every field value, but for patterns
and strings that spell numbers. -/
theorem agreesWithEvaluator {condition : Condition} {test : Test}
    (htest : Test.ofCondition condition = .ok test) {fields : Fields} {raw : Json}
    (hget : fields.get? condition.field = some raw) (line : ℕ) :
    AgreesWithEvaluator condition test fields line raw := by
  constructor
  case eq_evaluate =>
    intro hsame
    by_cases hlike : condition.operator = .like
    · obtain ⟨regex, hpattern, hrun⟩ := Test.run_of_like htest hlike hget line
      rw [hrun, Test.subject_eq_render fun hspells => hsame ⟨hlike, hspells⟩, hlike,
        Operator.evaluate, hpattern]
      rfl
    · rw [Test.ofCondition_of_ne_like hlike] at htest
      cases htest
      simp only [Test.run, hget]
  case of_spellsNumber =>
    rintro text hlike rfl ⟨hkind⟩
    obtain ⟨regex, hpattern, hrun⟩ := Test.run_of_like htest hlike hget line
    refine ⟨regex, hpattern, ?_⟩
    rw [hrun, Scalar.ofJson, Test.subject_of_kind_ne_string]
    rcases hkind with hkind | hkind <;> rw [hkind] <;> decide
  case heldAgainst =>
    intro hlike
    obtain ⟨regex, hpattern, hrun⟩ := Test.run_of_like htest hlike hget line
    refine ⟨regex, hpattern, ⟨_, heldAgainst_subject raw, fun text => HeldAgainst.eq_subject⟩, ?_⟩
    intro text htext
    rw [hrun, htext.eq_subject]

/-- Digits keep the zeros in front of them, which the evaluator does not see. -/
theorem agreesWithEvaluator_zeros :
    ∃ test, Test.ofCondition ⟨"name", .like, "\"00\""⟩ = .ok test ∧
      Fields.get? [("name", .string "007")] "name" = some (.string "007") ∧
      AgreesWithEvaluator ⟨"name", .like, "\"00\""⟩ test [("name", .string "007")] 1
        (.string "007") ∧
      test.run [("name", .string "007")] 1 = .ok true ∧
      Operator.like.evaluate (.ofJson (.string "007")) (.ofText "\"00\"") = .ok false := by
  have hliteral : Scalar.ofText "\"00\"" = .string "00" := by decide +kernel
  have hshown : (Scalar.ofJson (.string "007")).render = "7" := by decide +kernel
  have hmatches : (Pattern.compile? "00").map
      (fun regex => (regex.isMatch "007".toList, regex.isMatch "7".toList)) =
        some (true, false) := by decide +kernel
  obtain ⟨regex, hregex, hmatch⟩ := Option.map_eq_some_iff.1 hmatches
  obtain ⟨hspelled, hevaluated⟩ := Prod.mk.inj hmatch
  have hpattern : (Scalar.ofText "\"00\"").pattern? = .ok regex := by
    rw [hliteral, Scalar.pattern?, hregex]
  have htest : Test.ofCondition ⟨"name", .like, "\"00\""⟩ =
      .ok ⟨⟨"name", .like, "\"00\""⟩, Scalar.ofText "\"00\"", some regex⟩ := by
    rw [Test.ofCondition_like rfl, hpattern]
    rfl
  have hget : Fields.get? [("name", .string "007")] "name" = some (.string "007") := rfl
  have hagrees := agreesWithEvaluator htest hget 1
  refine ⟨_, htest, hget, hagrees, ?_, ?_⟩
  · obtain ⟨other, hother, hrun⟩ :=
      hagrees.of_spellsNumber "007" rfl rfl (.string (.inl (by decide +kernel)))
    cases hpattern.symm.trans hother
    rw [hrun, hspelled]
  · rw [Operator.evaluate, hpattern, hshown]
    exact congrArg Except.ok hevaluated

end RecordSieve
