import RecordSieve.Proofs.Conditions
import RecordSieve.Proofs.NumberTexts
import RecordSieve.Proofs.Run.Reliable

/-!
# Failures in Their Phases

A condition that was read can fail twice. When the sieve is built, its literal may be no pattern.
When the sieve meets a record, the field may be missing, or the operator may need an order that
the values do not have. Nothing else fails, and nothing fails in the other phase.

## Main definitions

* `Condition.Refused`: the failures of a condition when a sieve is built;
* `Condition.FailsOn`: the failures of a condition on a record;
* `Failure.IsOfRecord`: the failures that a run may end with;
* `FailsByPhase`: which failures some conditions have, and in which phase.

## Main statements

* `Test.ofCondition_eq_error_iff`, `Test.run_eq_error_iff`: which conditions fail, and how;
* `failsByPhase_of_parseAll`: conditions that were read fail in these two phases only.
-/

namespace RecordSieve

/-! ### Kinds that have an order -/

/-- Whether values of a kind are numbers. -/
def Kind.isNumeric : Kind → Bool
  | int | float => true
  | string | bool => false

/-- The kinds whose values have an order: numbers among each other and strings among each other. -/
def Kind.Ordered (left right : Kind) : Prop :=
  left.isNumeric = true ∧ right.isNumeric = true ∨ left = .string ∧ right = .string

/-- Kinds that have an order have it from both sides. -/
theorem Kind.ordered_comm (left right : Kind) : Ordered left right ↔ Ordered right left := by
  rw [Ordered, Ordered, and_comm, and_comm (a := left = .string)]

/-- Whether two values may be ordered depends on their kinds only. -/
theorem Scalar.compare?_eq_none_iff {left right : Scalar} :
    left.compare? right = none ↔ ¬ Kind.Ordered left.kind right.kind := by
  cases left <;> cases right <;> simp [compare?, Kind.Ordered, Kind.isNumeric, kind]

/-- An operator without a pattern fails exactly if it needs an order and there is none. -/
theorem Operator.evaluate_eq_error_iff {op : Operator} (hop : op ≠ .like) {left right : Scalar}
    {failure : Failure} :
    op.evaluate left right = .error failure ↔
      op.isOrdering = true ∧ ¬ Kind.Ordered left.kind right.kind ∧
        failure = .incomparable op left.kind right.kind := by
  rw [← Scalar.compare?_eq_none_iff]
  cases op with
  | eq => simp [evaluate, isOrdering]
  | ne => simp [evaluate, isOrdering]
  | like => exact absurd rfl hop
  | _ =>
    -- The ordering operators ask for the same order, whatever they make of it.
    simp only [evaluate, isOrdering, true_and]
    cases left.compare? right with
    | none => simp [eq_comm]
    | some ordering => simp

/-! ### Building a sieve -/

/-- Only strings are patterns. -/
theorem Scalar.pattern?_of_kind_ne_string {scalar : Scalar} (h : scalar.kind ≠ .string) :
    scalar.pattern? = .error (.incomparable .like .string scalar.kind) := by
  cases scalar with
  | string text => exact absurd rfl h
  | _ => rfl

namespace Condition

/-- How a condition fails when a sieve is built. -/
inductive Refused (condition : Condition) : Failure → Prop
  /-- A literal without quotes is no pattern. -/
  | unquoted : condition.operator = .like → condition.literal.toList.head? ≠ some '"' →
      Refused condition (.incomparable .like .string (Scalar.ofText condition.literal).kind)
  /-- The text between the quotes, put behind the start of the value, is no pattern. -/
  | pattern {inner : List Char} : condition.operator = .like →
      condition.literal.toList = '"' :: (inner ++ ['"']) →
      Pattern.compile? (String.ofList inner) = none →
      Refused condition (.invalidPattern (String.ofList inner))

variable {condition : Condition} {failure : Failure}

/-- Only a match of a pattern is refused when a test is made. -/
theorem Refused.like (h : condition.Refused failure) : condition.operator = .like := by
  cases h with
  | unquoted hlike => exact hlike
  | pattern hlike => exact hlike

/-- A pattern without quotes is refused as a literal of its own kind. -/
theorem refused_iff_of_unquoted (hlike : condition.operator = .like)
    (hquote : condition.literal.toList.head? ≠ some '"') :
    condition.Refused failure ↔
      failure = .incomparable .like .string (Scalar.ofText condition.literal).kind := by
  constructor
  · rintro (_ | ⟨-, hinner, -⟩)
    · rfl
    · rw [hinner] at hquote
      exact absurd rfl hquote
  · rintro rfl
    exact .unquoted hlike hquote

/-- A pattern in quotes is refused if it does not compile. -/
theorem refused_iff_of_quoted {inner : List Char} (hlike : condition.operator = .like)
    (hinner : condition.literal.toList = '"' :: (inner ++ ['"'])) :
    condition.Refused failure ↔ Pattern.compile? (String.ofList inner) = none ∧
      failure = .invalidPattern (String.ofList inner) := by
  constructor
  · rintro (⟨-, hquote⟩ | ⟨-, hother, hcompile⟩)
    · rw [hinner] at hquote
      exact absurd rfl hquote
    · rw [hinner, List.cons.injEq, List.append_cancel_right_eq] at hother
      obtain ⟨-, rfl⟩ := hother
      exact ⟨hcompile, rfl⟩
  · rintro ⟨hcompile, rfl⟩
    exact .pattern hlike hinner hcompile

end Condition

/-- The conditions that were read fail to become tests exactly if they are refused. -/
theorem Test.ofCondition_eq_error_iff {condition : Condition} {failure : Failure}
    (h : condition.WellFormed) :
    ofCondition condition = .error failure ↔ condition.Refused failure := by
  by_cases hlike : condition.operator = .like
  · have hliteral : IsLiteralText condition.literal.toList := isLiteral_iff.1 h.literal
    rw [ofCondition_like hlike]
    -- With quotes there is one way to fail, and without them there is another one.
    rcases Scalar.exists_quoted_or hliteral with ⟨inner, hinner⟩ | hquote
    · rw [Condition.refused_iff_of_quoted hlike hinner, Scalar.ofText_of_quoted hinner,
        Scalar.pattern?]
      cases Pattern.compile? (String.ofList inner) with
      | none => simp [Except.map, eq_comm]
      | some regex => simp [Except.map]
    · rw [Condition.refused_iff_of_unquoted hlike hquote,
        Scalar.pattern?_of_kind_ne_string (Scalar.kind_ofText_ne_string hliteral hquote)]
      simp [Except.map, eq_comm]
  · rw [ofCondition_of_ne_like hlike]
    refine iff_of_false (by simp) ?_
    intro hrefused
    exact hlike hrefused.like

/-- A condition makes a test if nothing refuses it. -/
theorem Test.exists_ofCondition_iff {condition : Condition} (h : condition.WellFormed) :
    (∃ test, ofCondition condition = .ok test) ↔ ∀ failure, ¬ condition.Refused failure := by
  simp only [← ofCondition_eq_error_iff h]
  cases ofCondition condition <;> simp

/-- A sieve cannot be built exactly if a condition is refused, and then the first one that is
refused tells why. -/
theorem Sieve.ofConditions_eq_error_iff {conditions : List Condition} {aggregation : Aggregation}
    {reverse : Bool} {failure : Failure} (h : ∀ condition ∈ conditions, condition.WellFormed) :
    ofConditions conditions aggregation reverse = .error failure ↔
      ∃ front condition back, conditions = front ++ condition :: back ∧
        (∀ other ∈ front, ∀ cause, ¬ other.Refused cause) ∧ condition.Refused failure := by
  -- Building a sieve fails where making the tests does, and there at the first failure.
  rw [ofConditions_eq_error_iff_mapM, mapM_eq_error_iff]
  refine exists_congr fun front => exists_congr fun condition => exists_congr fun back =>
    and_congr_right fun hsplit => ?_
  simp only [hsplit, List.forall_mem_append, List.forall_mem_cons] at h
  obtain ⟨hfront, hcondition, -⟩ := h
  rw [Test.ofCondition_eq_error_iff hcondition]
  refine and_congr_left fun _ => forall₂_congr fun other hother => ?_
  exact Test.exists_ofCondition_iff (hfront other hother)

/-- Only conditions with a pattern stand in the way of a sieve. -/
theorem Sieve.exists_ofConditions_eq_error_iff {conditions : List Condition}
    {aggregation : Aggregation} {reverse : Bool}
    (h : ∀ condition ∈ conditions, condition.WellFormed) :
    (∃ failure, ofConditions conditions aggregation reverse = .error failure) ↔
      ∃ condition ∈ conditions, ∃ failure, condition.Refused failure := by
  simp only [ofConditions_eq_error_iff_mapM, exists_mapM_eq_error_iff]
  refine exists_congr fun condition => and_congr_right fun hmem => exists_congr fun failure => ?_
  exact Test.ofCondition_eq_error_iff (h condition hmem)

/-! ### Tests on records -/

namespace Condition

/-- How a condition fails on a record, which stands on the given line. -/
inductive FailsOn (condition : Condition) (fields : Fields) (line : Nat) : Failure → Prop
  | missing : fields.get? condition.field = none →
      FailsOn condition fields line (.missingField condition.field line)
  /-- The operator needs an order that the values do not have. -/
  | unordered {raw : Json} : fields.get? condition.field = some raw →
      condition.operator.isOrdering = true →
      ¬ Kind.Ordered (Scalar.ofJson raw).kind (Scalar.ofText condition.literal).kind →
      FailsOn condition fields line (.incomparable condition.operator (Scalar.ofJson raw).kind
        (Scalar.ofText condition.literal).kind)

variable {condition : Condition} {fields : Fields} {line : Nat} {failure : Failure}

/-- On a record without the field, a condition fails for the field. -/
theorem failsOn_iff_of_missing (hget : fields.get? condition.field = none) :
    condition.FailsOn fields line failure ↔ failure = .missingField condition.field line := by
  constructor
  · rintro (_ | ⟨hraw, -, -⟩)
    · rfl
    · rw [hget] at hraw
      cases hraw
  · rintro rfl
    exact .missing hget

/-- On a record with the field, only an ordering of kinds without an order fails. -/
theorem failsOn_iff_of_get? {raw : Json} (hget : fields.get? condition.field = some raw) :
    condition.FailsOn fields line failure ↔
      condition.operator.isOrdering = true ∧
        ¬ Kind.Ordered (Scalar.ofJson raw).kind (Scalar.ofText condition.literal).kind ∧
        failure = .incomparable condition.operator (Scalar.ofJson raw).kind
          (Scalar.ofText condition.literal).kind := by
  constructor
  · rintro (hmissing | ⟨hraw, hop, hkinds⟩)
    · rw [hget] at hmissing
      cases hmissing
    · rw [hget] at hraw
      cases hraw
      exact ⟨hop, hkinds, rfl⟩
  · rintro ⟨hop, hkinds, rfl⟩
    exact .unordered hget hop hkinds

end Condition

/-- A test fails on a record exactly if its condition does. -/
theorem Test.run_eq_error_iff {test : Test} (h : ofCondition test.condition = .ok test)
    {fields : Fields} {line : Nat} {failure : Failure} :
    test.run fields line = .error failure ↔ test.condition.FailsOn fields line failure := by
  rw [run]
  cases hget : fields.get? test.condition.field with
  | none => simp [Condition.failsOn_iff_of_missing hget, eq_comm]
  | some raw =>
    rw [Condition.failsOn_iff_of_get? hget]
    by_cases hlike : test.condition.operator = .like
    · -- The pattern was made with the test, and holding it against a text does not fail.
      rw [ofCondition_like hlike, map_eq_ok_iff] at h
      obtain ⟨regex, -, h⟩ := h
      have htest : test.pattern = some regex := (congrArg pattern h).symm
      simp [htest, hlike, Operator.isOrdering]
    · rw [ofCondition_of_ne_like hlike, Except.ok.injEq] at h
      have hpattern : test.pattern = none := (congrArg pattern h).symm
      have hliteral : test.literal = Scalar.ofText test.condition.literal :=
        (congrArg literal h).symm
      rw [hpattern, hliteral]
      exact Operator.evaluate_eq_error_iff hlike

/-- The test of a condition fails exactly if the condition does. -/
theorem Test.run_of_ofCondition_eq_error_iff {condition : Condition} {test : Test}
    (h : ofCondition condition = .ok test) {fields : Fields} {line : Nat} {failure : Failure} :
    test.run fields line = .error failure ↔ condition.FailsOn fields line failure := by
  obtain rfl := condition_of_ofCondition h
  exact run_eq_error_iff h

/-! ### Runs -/

/-- The failures that a record can have. -/
inductive Failure.IsOfRecord : Failure → Prop
  | notARecord (line : Nat) (shown : String) (diagnosis : Json.Diagnosis) :
      IsOfRecord (.notARecord line shown diagnosis)
  | missingField (field : String) (line : Nat) : IsOfRecord (.missingField field line)
  | incomparable (operator : Operator) (left right : Kind) :
      IsOfRecord (.incomparable operator left right)

/-- A condition fails on a record with a failure of that record. -/
theorem Condition.FailsOn.isOfRecord {condition : Condition} {fields : Fields} {line : Nat}
    {failure : Failure} (h : condition.FailsOn fields line failure) : failure.IsOfRecord := by
  cases h with
  | missing => exact .missingField _ _
  | unordered => exact .incomparable _ _ _

namespace Sieve

variable {sieve : Sieve} {failure : Failure}

/-- A line is not judged for reasons of its own record. -/
theorem isOfRecord_of_judge (h : ∀ test ∈ sieve.tests, Test.ofCondition test.condition = .ok test)
    {line : List UInt8} {number : Nat} (hjudge : sieve.judge line number = .error failure) :
    failure.IsOfRecord := by
  rcases hread : readRecord line number with cause | fields
  · rw [judge_of_readRecord_error hread] at hjudge
    cases hjudge
    obtain ⟨shown, diagnosis, rfl⟩ := exists_of_readRecord_eq_error hread
    exact .notARecord _ _ _
  · rw [judge_of_readRecord hread, keeps_eq_error_iff] at hjudge
    -- The failure is that of a test, and so of its condition.
    obtain ⟨front, test, back, htests, -, herror⟩ := hjudge
    have hmem : test ∈ sieve.tests := by
      rw [htests]
      exact List.mem_append_right _ List.mem_cons_self
    exact ((Test.run_eq_error_iff (h test hmem)).1 herror).isOfRecord

/-- A run of a sieve that was built fails with failures of records only. -/
theorem isOfRecord_of_run (h : ∀ test ∈ sieve.tests, Test.ofCondition test.condition = .ok test)
    {bytes : List UInt8} (hrun : (sieve.run (.ofBytes bytes) .reliable).result = .error failure) :
    failure.IsOfRecord := by
  rcases sieve.run_cases bytes with ⟨-, -, hok⟩ | ⟨_, line, _, cause, -, -, hjudge, -, herror⟩
  · rw [hok] at hrun
    cases hrun
  · rw [herror] at hrun
    cases hrun
    exact isOfRecord_of_judge h hjudge

end Sieve

/-- Conditions that were read are well-formed. -/
theorem Condition.wellFormed_of_parseAll {texts : List String} {conditions : List Condition}
    (h : parseAll texts = .ok conditions) : ∀ condition ∈ conditions, condition.WellFormed := by
  intro condition hmem
  obtain ⟨text, -, hparse⟩ := exists_of_mem_mapM h condition hmem
  exact wellFormed_of_parse hparse

/-- Which failures some conditions have, and in which phase. -/
structure FailsByPhase (conditions : List Condition) (aggregation : Aggregation) (reverse : Bool) :
    Prop where
  /-- Coercion has no failures: its steps do not fail on any text. -/
  read?_eq_some : ∀ text : String, Scalar.read? text.toList = some (Scalar.ofText text)
  /-- A sieve cannot be built exactly if a condition is refused. -/
  exists_error_iff :
    (∃ failure, Sieve.ofConditions conditions aggregation reverse = .error failure) ↔
      ∃ condition ∈ conditions, ∃ failure, condition.Refused failure
  /-- The first condition that is refused tells why. -/
  eq_error_iff : ∀ failure, Sieve.ofConditions conditions aggregation reverse = .error failure ↔
    ∃ front condition back, conditions = front ++ condition :: back ∧
      (∀ other ∈ front, ∀ cause, ¬ other.Refused cause) ∧ condition.Refused failure
  /-- A sieve that is built has a test for each of the conditions, in their order. -/
  conditions_eq : ∀ sieve, Sieve.ofConditions conditions aggregation reverse = .ok sieve →
    sieve.conditions = conditions
  /-- Each test fails on a record exactly as its condition does. -/
  run_eq_error_iff : ∀ sieve, Sieve.ofConditions conditions aggregation reverse = .ok sieve →
    ∀ test ∈ sieve.tests, ∀ fields line failure,
      test.run fields line = .error failure ↔ test.condition.FailsOn fields line failure
  /-- A run fails with failures of records only. -/
  isOfRecord : ∀ sieve, Sieve.ofConditions conditions aggregation reverse = .ok sieve →
    ∀ bytes failure, (sieve.run (.ofBytes bytes) .reliable).result = .error failure →
      failure.IsOfRecord

/-- Conditions that were read fail in two phases only: when a sieve is built, and on a record. -/
theorem failsByPhase_of_parseAll {texts : List String} {conditions : List Condition}
    (h : Condition.parseAll texts = .ok conditions) (aggregation : Aggregation) (reverse : Bool) :
    FailsByPhase conditions aggregation reverse := by
  have hconditions := Condition.wellFormed_of_parseAll h
  constructor
  case read?_eq_some => exact fun _ => Scalar.read?_eq_some _
  case exists_error_iff => exact Sieve.exists_ofConditions_eq_error_iff hconditions
  case eq_error_iff => exact fun _ => Sieve.ofConditions_eq_error_iff hconditions
  case conditions_eq =>
    intro sieve hsieve
    exact (Sieve.conditions_of_ofConditions hsieve).1
  case run_eq_error_iff =>
    intro sieve hsieve test hmem fields line failure
    exact Test.run_eq_error_iff ((Sieve.conditions_of_ofConditions hsieve).2 test hmem)
  case isOfRecord =>
    intro sieve hsieve bytes failure
    exact Sieve.isOfRecord_of_run (Sieve.conditions_of_ofConditions hsieve).2

/-- An ordering and a pattern. -/
theorem failsByPhase_sizes :
    Condition.parseAll ["size >= 1.5Ki", "name =~ \"a+\""] =
        .ok [⟨"size", .ge, "1.5Ki"⟩, ⟨"name", .like, "\"a+\""⟩] ∧
      FailsByPhase [⟨"size", .ge, "1.5Ki"⟩, ⟨"name", .like, "\"a+\""⟩] .all false := by
  have h : Condition.parseAll ["size >= 1.5Ki", "name =~ \"a+\""] =
      .ok [⟨"size", .ge, "1.5Ki"⟩, ⟨"name", .like, "\"a+\""⟩] := rfl
  exact ⟨h, failsByPhase_of_parseAll h .all false⟩

end RecordSieve
