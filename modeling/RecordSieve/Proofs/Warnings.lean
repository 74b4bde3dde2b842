import RecordSieve.Proofs.Literals
import RecordSieve.Proofs.NumberAgreement
import RecordSieve.Proofs.Phases

/-!
# Warnings

A condition that asks for an order against a truth value is warned about, by the text of its literal
alone. These are exactly the conditions that fail on every record: a truth value has no order with
anything, whereas among the numbers and among the strings there is always a value to compare with.

A sieve with such a condition cannot even get past the first line, since every condition is asked
about every record.

## Main definitions

* `Condition.NeverAnswers`: a condition fails on every record;
* `WarnsExactly`: what the warnings about some conditions say.

## Main statements

* `Scalar.kind_ofText_eq_bool_iff`: the texts of truth values;
* `Condition.ordersBool_iff`: the conditions that are warned about are those that never answer;
* `Sieve.exists_judge_eq_error`: no line has a decision if a condition never answers;
* `Sieve.run_of_undecided_head`: a run ends on a first line without a decision;
* `warnsExactly_of_parseAll`: the warnings about conditions that were read.
-/

namespace RecordSieve

/-! ### Kinds -/

/-- Only two texts are truth values, and neither is in quotes. -/
theorem Scalar.kind_ofText_eq_bool_iff {text : String} :
    (ofText text).kind = .bool ↔ text = "True" ∨ text = "False" := by
  constructor
  · intro h
    have hliteral : IsLiteralText text.toList := by
      refine isLiteralText_of_kind_ne_string ?_
      rw [h]
      decide
    -- Texts in quotes are strings, and numerals are numbers.
    obtain ⟨inner, -, htext⟩ | htrue | hfalse | hnumeral := isLiteralText_iff_cases.1 hliteral
    · rw [ofText_of_quoted htext] at h
      cases h
    · exact .inl (String.toList_inj.1 htrue)
    · exact .inr (String.toList_inj.1 hfalse)
    · obtain ⟨n, hread⟩ := Option.isSome_iff_exists.1 hnumeral
      rw [ofText, ofChars_of_numeral hread] at h
      exact absurd h n.isNumber_value.kind_ne_bool
  · rintro (rfl | rfl)
    · rfl
    · rfl

/-- There is no order with a truth value. -/
theorem Kind.not_ordered_bool (kind : Kind) : ¬ Ordered kind .bool := by
  simp [Ordered, isNumeric]

/-- The text of a value that has an order with values of a kind, if there is one. -/
def Kind.sample (kind : Kind) : String := if kind.isNumeric then "0" else "x"

theorem Kind.ordered_sample {kind : Kind} (h : kind ≠ .bool) :
    Ordered (Scalar.ofJson (.string kind.sample)).kind kind := by
  cases kind with
  | bool => exact absurd rfl h
  | string => exact .inr ⟨by decide +kernel, rfl⟩
  | _ => exact .inl ⟨by decide +kernel, rfl⟩

namespace Condition

/-- The condition has a test, and this fails on every record, on whatever line it stands. -/
def NeverAnswers (condition : Condition) : Prop :=
  ∃ test, Test.ofCondition condition = .ok test ∧
    ∀ fields line, ∃ failure, test.run fields line = .error failure

/-- A condition is warned about if it asks for an order that nothing has with its literal. -/
theorem ordersBool_eq_true_iff {condition : Condition} : condition.ordersBool = true ↔
    condition.operator.isOrdering = true ∧ (Scalar.ofText condition.literal).kind = .bool := by
  rw [Scalar.kind_ofText_eq_bool_iff, ordersBool, Bool.and_eq_true, Bool.or_eq_true,
    decide_eq_true_eq, decide_eq_true_eq]

/-- The record with the sample of the literal's kind in the field of the condition. -/
def sampleFields (condition : Condition) : Fields :=
  [(condition.field, .string (Scalar.ofText condition.literal).kind.sample)]

/-- A condition that is not warned about answers on its sample, if it has a test. -/
theorem exists_answer_of_ordersBool {condition : Condition} (h : condition.ordersBool = false)
    {test : Test} (htest : Test.ofCondition condition = .ok test) (line : Nat) :
    ∃ answer, test.run condition.sampleFields line = .ok answer := by
  cases hrun : test.run condition.sampleFields line with
  | ok answer => exact ⟨answer, rfl⟩
  | error failure =>
    have hget : condition.sampleFields.get? condition.field =
        some (.string (Scalar.ofText condition.literal).kind.sample) := by
      simp [sampleFields, Fields.get?]
    -- The field is there, so the condition can only fail for want of an order.
    rw [Test.run_of_ofCondition_eq_error_iff htest, failsOn_iff_of_get? hget] at hrun
    obtain ⟨hop, hunordered, -⟩ := hrun
    refine absurd (Kind.ordered_sample fun hbool => ?_) hunordered
    rw [ordersBool_eq_true_iff.2 ⟨hop, hbool⟩] at h
    cases h

/-- The conditions that are warned about are those that never answer. -/
theorem ordersBool_iff {condition : Condition} :
    condition.ordersBool = true ↔ condition.NeverAnswers := by
  constructor
  · intro h
    obtain ⟨hop, hbool⟩ := ordersBool_eq_true_iff.1 h
    have hlike : condition.operator ≠ .like := by
      intro hlike
      rw [hlike] at hop
      cases hop
    have htest := Test.ofCondition_of_ne_like hlike
    -- A record lacks the field, or has a value there that has no order with the literal.
    refine ⟨_, htest, fun fields line => ?_⟩
    simp only [Test.run_of_ofCondition_eq_error_iff htest]
    cases hget : fields.get? condition.field with
    | none => exact ⟨_, .missing hget⟩
    | some raw => exact ⟨_, .unordered hget hop (hbool ▸ Kind.not_ordered_bool _)⟩
  · rintro ⟨test, htest, hfails⟩
    cases h : condition.ordersBool with
    | true => rfl
    | false =>
      obtain ⟨failure, herror⟩ := hfails condition.sampleFields 1
      obtain ⟨answer, hanswer⟩ := exists_answer_of_ordersBool h htest 1
      rw [hanswer] at herror
      cases herror

instance (condition : Condition) : Decidable condition.NeverAnswers :=
  decidable_of_iff _ ordersBool_iff

/-- The sample of a condition that was read stands on a line. -/
theorem WellFormed.exists_sampleLine {condition : Condition} (h : condition.WellFormed) :
    ∃ line, ∀ number, readRecord line number = .ok condition.sampleFields := by
  have hsample (kind : Kind) : ∀ c ∈ kind.sample.toList, isFieldChar c = true := by
    refine List.all_eq_true.1 ?_
    cases kind <;> decide
  refine ⟨fieldLine condition.field.toList ('"' :: (Scalar.ofText
    condition.literal).kind.sample.toList ++ ['"']), fun number => ?_⟩
  rw [readRecord, Json.decodeObject_fieldLine_string
    (fun c hc => isPlain_of_isFieldChar (h.field_chars c hc))
    (fun c hc => isPlain_of_isFieldChar (hsample _ c hc)), String.ofList_toList,
    String.ofList_toList, sampleFields]

end Condition

/-! ### Runs -/

namespace Sieve

variable {sieve : Sieve} {conditions : List Condition} {aggregation : Aggregation}
  {reverse : Bool}

/-- No line has a decision if one of the conditions never answers. -/
theorem exists_judge_eq_error (h : ofConditions conditions aggregation reverse = .ok sieve)
    {condition : Condition} (hmem : condition ∈ conditions) (hnever : condition.NeverAnswers)
    (line : List UInt8) (number : Nat) : ∃ failure, sieve.judge line number = .error failure := by
  cases hread : readRecord line number with
  | error failure => exact ⟨failure, judge_of_readRecord_error hread⟩
  | ok fields =>
    obtain ⟨test, htest, hfails⟩ := hnever
    obtain ⟨tests, htests, rfl⟩ := ofConditions_eq_ok_iff.1 h
    rw [judge_of_readRecord hread, keeps_eq]
    cases hanswers : answers _ fields number with
    | error failure => exact ⟨failure, rfl⟩
    | ok results =>
      -- If all tests had answers, so would the one that never does.
      obtain ⟨answer, hanswer⟩ := exists_mapM_eq_ok_iff.1 ⟨results, hanswers⟩ test
        ((mem_iff_of_mapM htests).2 ⟨condition, hmem, htest⟩)
      obtain ⟨failure, herror⟩ := hfails fields number
      rw [hanswer] at herror
      cases herror

/-- A run ends behind the first line if this has no decision. -/
theorem run_of_undecided_head {bytes line : List UInt8} {failure : Failure}
    (hline : (lines bytes).head? = some line) (hjudge : sieve.judge line 1 = .error failure)
    (sink : Sink) : sieve.run (.ofBytes bytes) sink = ⟨[.read line], .error failure⟩ := by
  obtain ⟨rest, hlines⟩ := List.head?_eq_some_iff.1 hline
  have hrun := sieve.run_eq_runLines (.ofBytes bytes) sink
  rw [show (Source.ofBytes bytes).lines = line :: rest from hlines, runLines] at hrun
  simp only [Nat.zero_add, hjudge] at hrun
  exact hrun

end Sieve

/-- What the warnings about some conditions say. -/
structure WarnsExactly (conditions : List Condition) : Prop where
  /-- There is a warning for every entry that never answers, in the order of the entries. -/
  eq : Condition.warnings conditions =
    (conditions.filter fun condition => condition.NeverAnswers).map Condition.warning
  /-- Every other condition that has a test answers on some record. -/
  answers : ∀ condition ∈ conditions, ¬ condition.NeverAnswers → ∀ test,
    Test.ofCondition condition = .ok test → ∃ line, ∀ number, ∃ fields answer,
      readRecord line number = .ok fields ∧ test.run fields number = .ok answer
  /-- After a warning, a run over any input ends with a failure on the first line, and does nothing
  but to read that line. -/
  fails : Condition.warnings conditions ≠ [] → ∀ aggregation reverse sieve,
    Sieve.ofConditions conditions aggregation reverse = .ok sieve → ∀ bytes ≠ [],
      ∃ line failure, (lines bytes).head? = some line ∧ sieve.judge line 1 = .error failure ∧
        ∀ sink, sieve.run (.ofBytes bytes) sink = ⟨[.read line], .error failure⟩

/-- The warnings about conditions that were read are sound and complete, and hold for every run. -/
theorem warnsExactly_of_parseAll {texts : List String} {conditions : List Condition}
    (h : Condition.parseAll texts = .ok conditions) : WarnsExactly conditions := by
  constructor
  case eq =>
    have hsame (condition : Condition) :
        condition.ordersBool = decide condition.NeverAnswers := by
      rw [Bool.eq_iff_iff, Condition.ordersBool_iff, decide_eq_true_iff]
    rw [Condition.warnings, funext hsame]
  case answers =>
    intro condition hmem hanswers test htest
    have hfalse : condition.ordersBool = false := by
      rwa [← Condition.ordersBool_iff, Bool.not_eq_true] at hanswers
    obtain ⟨line, hread⟩ := (Condition.wellFormed_of_parseAll h condition hmem).exists_sampleLine
    refine ⟨line, fun number => ?_⟩
    obtain ⟨answer, hanswer⟩ := Condition.exists_answer_of_ordersBool hfalse htest number
    exact ⟨_, answer, hread number, hanswer⟩
  case fails =>
    intro hwarned aggregation reverse sieve hsieve bytes hbytes
    -- A warning is about a condition of the list, and an input that is not empty has a line.
    obtain ⟨_, hwarning⟩ := List.exists_mem_of_ne_nil _ hwarned
    obtain ⟨condition, hcondition, -⟩ := List.mem_map.1 hwarning
    obtain ⟨hmem, horders⟩ := List.mem_filter.1 hcondition
    obtain ⟨line, rest, hlines⟩ := List.exists_cons_of_ne_nil (lines_ne_nil hbytes)
    obtain ⟨failure, hjudge⟩ := Sieve.exists_judge_eq_error hsieve hmem
      (Condition.ordersBool_iff.1 horders) line 1
    have hline : (lines bytes).head? = some line := by rw [hlines, List.head?_cons]
    exact ⟨line, failure, hline, hjudge, Sieve.run_of_undecided_head hline hjudge⟩

/-- A truth value, the same text in quotes, and an operator that needs no order. -/
theorem warnsExactly_flags :
    let conditions : List Condition :=
      [⟨"flag", .gt, "True"⟩, ⟨"flag", .gt, "\"True\""⟩, ⟨"flag", .eq, "True"⟩]
    Condition.parseAll ["flag > True", "flag > \"True\"", "flag == True"] = .ok conditions ∧
      Condition.warnings conditions = [Condition.warning ⟨"flag", .gt, "True"⟩] ∧
      WarnsExactly conditions := by
  intro conditions
  have h : Condition.parseAll ["flag > True", "flag > \"True\"", "flag == True"] =
      .ok conditions := rfl
  exact ⟨h, rfl, warnsExactly_of_parseAll h⟩

end RecordSieve
