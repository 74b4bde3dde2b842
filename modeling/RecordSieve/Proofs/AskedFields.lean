import RecordSieve.Proofs.Numeric.Rank
import RecordSieve.Proofs.Phases
import RecordSieve.Proofs.Run.Duality

/-!
# The Fields That Are Asked About

Conditions without a pattern see nothing of a record but the scalars of the fields that they name,
and of a scalar nothing but what it is equal to. So two records are decided alike if the fields that
are asked about have equal scalars, however these are spelled and whatever else is in the records.

No field of a record is NaN, which is not equal to itself: this is why two records with the same
value in a field agree on it.

## Main definitions

* `AgreeOn`: two records have equal scalars in a field, or both lack it;
* `Failure.SameVariant`: the same failure up to the kind of the field's value;
* `FailTogether`: the same condition is the first one to fail on two records.

## Main statements

* `Operator.alike_evaluate`: operators tell equal scalars apart in their failures only;
* `agreeOn_of_get?_eq`: records with the same value in a field agree on it;
* `keeps_alike_of_agreeOn`: records that agree on what is asked are decided alike.
-/

namespace RecordSieve

/-! ### Records that agree -/

/-- Two records agree on a field: both lack it, or both have it with equal scalars. -/
inductive AgreeOn (field : String) (fields others : Fields) : Prop
  | missing : fields.get? field = none → others.get? field = none → AgreeOn field fields others
  | present {value other : Json} : fields.get? field = some value →
      others.get? field = some other →
      (Scalar.ofJson value).agrees (Scalar.ofJson other) = true → AgreeOn field fields others

/-- Records with the same value in a field agree on it, since the value is equal to itself. -/
theorem agreeOn_of_get?_eq {line : List UInt8} {number : Nat} {fields others : Fields}
    {field : String} (hread : readRecord line number = .ok fields)
    (h : fields.get? field = others.get? field) : AgreeOn field fields others := by
  cases hget : fields.get? field with
  | none => exact .missing hget (h ▸ hget)
  | some value =>
    exact .present hget (h ▸ hget)
      (Scalar.agrees_self (Scalar.ofJson_ne_nan_of_readRecord hread hget))

/-! ### Answers to equal scalars -/

/-- Failures of one variant with the same fields, but for the kind of the value on the left. -/
inductive Failure.SameVariant : Failure → Failure → Prop
  | missingField (field : String) (line : Nat) :
      SameVariant (.missingField field line) (.missingField field line)
  | incomparable (operator : Operator) (left other right : Kind) :
      SameVariant (.incomparable operator left right) (.incomparable operator other right)

/-- Operators without a pattern give the same answers for equal scalars. -/
theorem Operator.alike_evaluate {op : Operator} (hop : op ≠ .like) {left other : Scalar}
    (h : left.agrees other = true) (right : Scalar) :
    Alike Failure.SameVariant (op.evaluate left right) (op.evaluate other right) := by
  cases op with
  | eq =>
    rw [evaluate, evaluate, Scalar.agrees_congr h]
    exact .ok _
  | ne =>
    rw [evaluate, evaluate, Scalar.agrees_congr h]
    exact .ok _
  | like => exact absurd rfl hop
  | _ =>
    -- The ordering operators ask for the same order, and name the kinds if there is none.
    simp only [evaluate, Scalar.compare?_congr h]
    cases other.compare? right with
    | none => exact .error (.incomparable _ _ _ _)
    | some ordering => exact .ok _

/-- Tests without a pattern give the same answers on records that agree on the field. -/
theorem Test.alike_run_plain {condition : Condition} (hlike : condition.operator ≠ .like)
    {fields others : Fields} (h : AgreeOn condition.field fields others) (line : Nat) :
    Alike Failure.SameVariant ((plain condition).run fields line)
      ((plain condition).run others line) := by
  cases h with
  | missing hget hget' =>
    simp only [run, plain, hget, hget']
    exact .error (.missingField _ _)
  | present hget hget' hagrees =>
    simp only [run, plain, hget, hget']
    exact Operator.alike_evaluate hlike hagrees _

/-! ### Sieves of one condition -/

/-- The sieve that is built from the text of a condition without a pattern. -/
theorem Sieve.ofConditions_render {condition : Condition} (hcondition : condition.WellFormed)
    (hlike : condition.operator ≠ .like) :
    (Condition.parse condition.render >>= fun c => ofConditions [c] .all false) =
      .ok ⟨[Test.plain condition], .all, false⟩ := by
  rw [Condition.parse_render hcondition]
  exact ofConditions_of_ne_like (List.forall_mem_singleton.2 hlike)

/-- It decides by the scalars of the field and of the literal. -/
theorem Sieve.keeps_plain {condition : Condition} {fields : Fields} {raw : Json}
    (hget : fields.get? condition.field = some raw) (line : Nat) :
    keeps ⟨[Test.plain condition], .all, false⟩ fields line =
      condition.operator.evaluate (Scalar.ofJson raw) (Scalar.ofText condition.literal) := by
  rw [keeps_single]
  simp only [Test.run, Test.plain, hget]

/-! ### Decisions on records that agree -/

/-- The same condition of a list is the first one to fail on two records, on both with the same
variant of failure. -/
def FailTogether (conditions : List Condition) (fields others : Fields) (line : Nat)
    (failure failure' : Failure) : Prop :=
  ∃ front condition back, conditions = front ++ condition :: back ∧
    (∀ other ∈ front, ∀ cause, ¬ other.FailsOn fields line cause ∧
      ¬ other.FailsOn others line cause) ∧
    condition.FailsOn fields line failure ∧ condition.FailsOn others line failure' ∧
    failure.SameVariant failure'

/-- A test without a pattern fails exactly if its condition does. -/
theorem Test.run_plain_eq_error_iff {condition : Condition} (hlike : condition.operator ≠ .like)
    {fields : Fields} {line : Nat} {failure : Failure} :
    (plain condition).run fields line = .error failure ↔ condition.FailsOn fields line failure :=
  run_of_ofCondition_eq_error_iff (ofCondition_of_ne_like hlike)

/-- Conditions without a pattern decide alike on a record and on any other that agrees with it on
every field they name. So it makes no difference what else is in the records, or how the scalars are
spelled; and records agree on a field at least if they have the same value there. -/
theorem keeps_alike_of_agreeOn {conditions : List Condition}
    (hlike : ∀ condition ∈ conditions, condition.operator ≠ .like) (aggregation : Aggregation)
    (reverse : Bool) {line : List UInt8} {number : Nat} {fields : Fields}
    (hread : readRecord line number = .ok fields) (others : Fields) :
    ∃ sieve, Sieve.ofConditions conditions aggregation reverse = .ok sieve ∧
      ((∀ condition ∈ conditions, AgreeOn condition.field fields others) → ∀ place,
        Alike (FailTogether conditions fields others place) (sieve.keeps fields place)
          (sieve.keeps others place)) ∧
      ∀ field, fields.get? field = others.get? field → AgreeOn field fields others := by
  refine ⟨_, Sieve.ofConditions_of_ne_like hlike, ?_, fun _ => agreeOn_of_get?_eq hread⟩
  intro hagree place
  have hanswers := alike_mapM fun condition hmem =>
    Test.alike_run_plain (hlike condition hmem) (hagree condition hmem) place
  rw [Sieve.keeps_eq, Sieve.keeps_eq, Sieve.answers, Sieve.answers, List.mapM_map, List.mapM_map]
  refine (hanswers.mono ?_).map _
  -- The first test that fails on one record is the first that fails on the other.
  rintro failure failure' ⟨front, condition, back, rfl, hfront, hfails, hfails', hvariant⟩
  simp only [List.forall_mem_append, List.forall_mem_cons] at hlike
  have hcondition : condition.operator ≠ .like := hlike.2.1
  refine ⟨front, condition, back, rfl, ?_, (Test.run_plain_eq_error_iff hcondition).1 hfails,
    (Test.run_plain_eq_error_iff hcondition).1 hfails', hvariant⟩
  intro other hmem cause
  obtain ⟨answer, hanswer, hanswer'⟩ := hfront other hmem
  rw [← Test.run_plain_eq_error_iff (hlike.1 other hmem),
    ← Test.run_plain_eq_error_iff (hlike.1 other hmem), hanswer, hanswer']
  simp

/-- Two lines with equal scalars in the fields that are asked about: another order of the keys, a
field more and other spellings. -/
theorem keeps_alike_sizes :
    let conditions : List Condition := [⟨"size", .ge, "1Ki"⟩, ⟨"by", .lt, "\"root\""⟩]
    let fields : Fields := [("by", .string "ops"), ("size", .number (.integer 1024))]
    let others : Fields := [("by", .string "\"ops\""), ("n", .null), ("size", .string "1.0Ki")]
    readRecord (Utf8.encode "\x7b\"size\":1024,\"by\":\"ops\"\x7d".toList) 1 = .ok fields ∧
      readRecord
        (Utf8.encode "\x7b\"n\":null,\"by\":\"\\\"ops\\\"\",\"size\":\"1.0Ki\"\x7d".toList) 1 =
          .ok others ∧
      (∀ condition ∈ conditions, condition.operator ≠ .like) ∧
      (∀ condition ∈ conditions, AgreeOn condition.field fields others) ∧
      ∃ sieve, Sieve.ofConditions conditions .all false = .ok sieve ∧
        Alike (FailTogether conditions fields others 1) (sieve.keeps fields 1)
          (sieve.keeps others 1) := by
  intro conditions fields others
  have hread : readRecord (Utf8.encode "\x7b\"size\":1024,\"by\":\"ops\"\x7d".toList) 1 =
      .ok fields := rfl
  have hlike : ∀ condition ∈ conditions, condition.operator ≠ .like := by decide
  have hagree : ∀ condition ∈ conditions, AgreeOn condition.field fields others := by
    refine List.forall_mem_cons.2 ⟨.present rfl rfl (by decide +kernel), ?_⟩
    exact List.forall_mem_singleton.2 (.present rfl rfl (by decide +kernel))
  obtain ⟨sieve, hsieve, halike, -⟩ := keeps_alike_of_agreeOn hlike .all false hread others
  exact ⟨hread, rfl, hlike, hagree, sieve, hsieve, halike hagree 1⟩

example : ∀ spelling ∈ [Json.number (.integer 1024), .number (.float (Binary64.ofNat 1024)),
    .string "1024", .string "1024.0", .string "1Ki"],
    (Scalar.ofJson spelling).agrees (.int 1024) = true := by decide +kernel

end RecordSieve
