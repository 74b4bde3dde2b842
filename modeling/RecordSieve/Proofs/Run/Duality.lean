import RecordSieve.Proofs.Decisions
import RecordSieve.Proofs.Json.Values
import RecordSieve.Proofs.Run.Basic

/-!
# Dual Sieves

De Morgan's law for sieves. All of some conditions hold exactly when it is not so that one of the
complementary conditions holds. So a sieve and its dual, which asks for the complementary
conditions in the other mode and turns the result around, do the same to every input.

An operator and its complement are opposites on all values that have an order if they may be
ordered at all, and this is why no literal and no field may be NaN.

## Main definitions

* `Operator.complement`, `Condition.complement`: what holds exactly when the operator, or the
  condition, does not;
* `Failure.complement`: the failure that complementary conditions have;
* `RunAlike`: sieves that do the same to every input.

## Main statements

* `Operator.evaluate_complement`: complementary operators give opposite answers;
* `Aggregation.resultOf_dual`: the other mode makes the opposite result of the opposite answers;
* `Sieve.judge_dual`: dual sieves decide alike;
* `run_dual`: dual sieves run alike.
-/

namespace RecordSieve

/-! ### Complements -/

namespace Operator

/-- The operator that says no where this one says yes. No operator is the complement of `=~`. -/
def complement : Operator → Operator
  | eq => ne
  | ne => eq
  | ge => lt
  | lt => ge
  | gt => le
  | le => gt
  | like => like

end Operator

/-- The condition with the complementary operator. -/
def Condition.complement (condition : Condition) : Condition :=
  { condition with operator := condition.operator.complement }

/-- The same failure, where an operator that does not apply is replaced by its complement. -/
def Failure.complement : Failure → Failure
  | incomparable operator left right => incomparable operator.complement left right
  | failure => failure

/-- The other mode. -/
def Aggregation.dual : Aggregation → Aggregation
  | all => any
  | any => all

/-- Complementary operators give opposite answers, and they do not apply to the same values. -/
theorem Operator.evaluate_complement {op : Operator} (hop : op ≠ .like) {left right : Scalar}
    (hleft : left ≠ .float .nan) (hright : right ≠ .float .nan) :
    op.complement.evaluate left right =
      ((op.evaluate left right).map not).mapError Failure.complement := by
  have hordered := Scalar.compare?_ne_some_none hleft hright
  cases op with
  | eq => rfl
  | ne => simp [evaluate, complement, Except.map]
  | like => exact absurd rfl hop
  | _ =>
    -- Either there is no order to ask for, or complementary operators disagree about it.
    simp only [evaluate, complement]
    rcases hcompare : left.compare? right with _ | _ | ordering
    · rfl
    · exact absurd hcompare hordered
    · cases ordering <;> rfl

/-- The other mode makes the opposite result of the opposite answers. -/
theorem Aggregation.resultOf_dual (aggregation : Aggregation) (answers : List Bool) :
    aggregation.dual.resultOf (answers.map not) = !aggregation.resultOf answers := by
  cases aggregation with
  | all => simp [dual, List.any_map, List.not_all_eq_any_not]
  | any => simp [dual, List.all_map, List.not_any_eq_all_not]

/-! ### Tests without a pattern -/

namespace Test

/-- The test of a condition without a pattern. -/
def plain (condition : Condition) : Test := ⟨condition, Scalar.ofText condition.literal, none⟩

/-- The test of the complementary condition. -/
def complement (test : Test) : Test := { test with condition := test.condition.complement }

/-- Tests of complementary conditions give opposite answers on a record. -/
theorem run_complement {condition : Condition} (hlike : condition.operator ≠ .like)
    {line : List UInt8} {number : Nat} {fields : Fields}
    (hread : readRecord line number = .ok fields) :
    (plain condition).complement.run fields number =
      (((plain condition).run fields number).map not).mapError Failure.complement := by
  simp only [run, plain, complement, Condition.complement]
  rcases hget : fields.get? condition.field with _ | raw
  · rfl
  · exact Operator.evaluate_complement hlike (Scalar.ofJson_ne_nan_of_readRecord hread hget)
      (Scalar.ofText_ne_nan _)

end Test

namespace Sieve

/-- The sieve that asks for the complementary conditions in the other mode, and turns the result
around. -/
def dual (sieve : Sieve) : Sieve :=
  ⟨sieve.tests.map Test.complement, sieve.aggregation.dual, !sieve.reverse⟩

variable {conditions : List Condition} {aggregation : Aggregation} {reverse : Bool}

/-- Without a pattern there is always a sieve. -/
theorem ofConditions_of_ne_like (h : ∀ condition ∈ conditions, condition.operator ≠ .like) :
    ofConditions conditions aggregation reverse =
      .ok ⟨conditions.map Test.plain, aggregation, reverse⟩ := by
  have htests : conditions.mapM Test.ofCondition = .ok (conditions.map Test.plain) := by
    induction conditions with
    | nil => rfl
    | cons condition conditions ih =>
      obtain ⟨hcondition, hrest⟩ := List.forall_mem_cons.1 h
      rw [mapM_cons_of_ok (Test.ofCondition_of_ne_like hcondition), ih hrest]
      rfl
  rw [ofConditions_eq, htests]
  rfl

/-- The dual sieve is the sieve of the complementary conditions. -/
theorem ofConditions_complement (h : ∀ condition ∈ conditions, condition.operator ≠ .like) :
    ofConditions (conditions.map Condition.complement) aggregation.dual (!reverse) =
      .ok (dual ⟨conditions.map Test.plain, aggregation, reverse⟩) := by
  have hcomplement : ∀ condition ∈ conditions.map Condition.complement,
      condition.operator ≠ .like := by
    rw [List.forall_mem_map]
    intro condition hmem
    -- The complement of an operator without a pattern has none either.
    have hlike := h condition hmem
    simp only [Condition.complement]
    cases hop : condition.operator with
    | like => exact absurd hop hlike
    | _ => simp [Operator.complement]
  rw [ofConditions_of_ne_like hcomplement, dual, List.map_map, List.map_map]
  rfl

/-- Dual sieves decide alike. -/
theorem judge_dual (h : ∀ condition ∈ conditions, condition.operator ≠ .like)
    (line : List UInt8) (number : Nat) :
    (dual ⟨conditions.map Test.plain, aggregation, reverse⟩).judge line number =
      (judge ⟨conditions.map Test.plain, aggregation, reverse⟩ line number).mapError
        Failure.complement := by
  rcases hread : readRecord line number with failure | fields
  · rw [judge_of_readRecord_error hread, judge_of_readRecord_error hread]
    -- A line that is no record fails in front of the conditions.
    obtain ⟨shown, diagnosis, rfl⟩ := exists_of_readRecord_eq_error hread
    rfl
  · have htests : ∀ test ∈ conditions.map Test.plain,
        ((·.run fields number) ∘ Test.complement) test =
          ((test.run fields number).map not).mapError Failure.complement := by
      rw [List.forall_mem_map]
      intro condition hmem
      exact Test.run_complement (h condition hmem) hread
    rw [judge_of_readRecord hread, judge_of_readRecord hread, keeps_eq, keeps_eq, answers, answers,
      dual, List.mapM_map, mapM_eq_mapError_map htests]
    cases (conditions.map Test.plain).mapM (·.run fields number) with
    | error failure => rfl
    | ok answers =>
      show Except.ok (aggregation.dual.resultOf (answers.map not) != !reverse) = _
      rw [Aggregation.resultOf_dual]
      -- The result is turned around twice.
      exact congrArg Except.ok (Bool.not_bne_not _ _)

end Sieve

/-! ### Runs with the same decisions -/

/-- A run that ends with another failure, if it ends with one. -/
def Run.mapFailure (f : Failure → Failure) (run : Run) : Run :=
  { run with result := run.result.mapError f }

/-- What a sieve does with some lines is what every other sieve does that decides alike, up to
what a decision fails with. -/
theorem Runs.runLines_eq_mapFailure {sieve other : Sieve} {f : Failure → Failure}
    {sink : Sink} {failure : Option String} {counts : Summary} {ls : List (List UInt8)} {run : Run}
    (h : Runs sieve sink failure counts ls run) (hio : ∀ reason, f (.io reason) = .io reason)
    (hjudge : ∀ line number, other.judge line number = (sieve.judge line number).mapError f) :
    other.runLines sink failure counts ls = run.mapFailure f := by
  have houtcome (fault : OutputFault) (counts : Summary) :
      (fault.outcome counts).mapError f = fault.outcome counts := by
    cases fault with
    | closed => rfl
    | failed reason => simp [OutputFault.outcome, hio]
  -- By induction on the rules: the other sieve goes by the same rule, or ends with another failure.
  induction h with
  | ended hfailure =>
    rw [hfailure]
    rfl
  | failed hfailure => simp [Sieve.runLines, hfailure, Run.mapFailure, hio]
  | undecided hdecision =>
    simp only [Sieve.runLines, hjudge, hdecision]
    rfl
  | dropped hdecision _ ih =>
    simp only [Sieve.runLines, hjudge, hdecision, mapError_ok, ih]
    rfl
  | unwritten hdecision hwrite =>
    rw [Run.mapFailure, houtcome]
    simp only [Sieve.runLines, hjudge, hdecision, mapError_ok, hwrite]
    rfl
  | unflushed hdecision hwrite hflush =>
    rw [Run.mapFailure, houtcome]
    simp only [Sieve.runLines, hjudge, hdecision, mapError_ok, hwrite, hflush]
    rfl
  | emitted hdecision hwrite hflush _ ih =>
    simp only [Sieve.runLines, hjudge, hdecision, mapError_ok, hwrite, hflush, ih]
    rfl

/-- Two sieves do the same to every input, and end with the same counts or with the same failure,
but for the operator that a failure names. -/
structure RunAlike (sieve other : Sieve) : Prop where
  operations_eq : ∀ source sink,
    (other.run source sink).operations = (sieve.run source sink).operations
  output_eq : ∀ source sink, (other.run source sink).output = (sieve.run source sink).output
  result_eq : ∀ source sink,
    (other.run source sink).result = (sieve.run source sink).result.mapError Failure.complement

/-- De Morgan's law. The sieve that asks for all of some conditions, or for any of them, and the
sieve that asks for the complementary ones in the other mode, turned around, run alike. -/
theorem run_dual {conditions : List Condition}
    (h : ∀ condition ∈ conditions, condition.operator ≠ .like) (aggregation : Aggregation)
    (reverse : Bool) :
    ∃ sieve dual, Sieve.ofConditions conditions aggregation reverse = .ok sieve ∧
      Sieve.ofConditions (conditions.map Condition.complement) aggregation.dual (!reverse) =
        .ok dual ∧
      RunAlike sieve dual := by
  refine ⟨_, _, Sieve.ofConditions_of_ne_like h, Sieve.ofConditions_complement h, ?_⟩
  have hrun (source : Source) (sink : Sink) :
      (Sieve.dual ⟨conditions.map Test.plain, aggregation, reverse⟩).run source sink =
        (Sieve.run ⟨conditions.map Test.plain, aggregation, reverse⟩ source sink).mapFailure
          Failure.complement := by
    rw [Sieve.run_eq_runLines]
    exact (runs_run _ source sink).runLines_eq_mapFailure (fun _ => rfl) (Sieve.judge_dual h)
  constructor
  case operations_eq | output_eq | result_eq =>
    intro source sink
    rw [hrun]
    rfl

/-- Large files of other owners, and those that are not. -/
theorem run_dual_files :
    (∀ condition ∈ ([⟨"size", .ge, "1.5Ki"⟩, ⟨"owner", .ne, "\"root\""⟩] : List Condition),
      condition.operator ≠ .like) ∧
    ∃ sieve dual,
      Sieve.ofConditions [⟨"size", .ge, "1.5Ki"⟩, ⟨"owner", .ne, "\"root\""⟩] .all false =
        .ok sieve ∧
      Sieve.ofConditions [⟨"size", .lt, "1.5Ki"⟩, ⟨"owner", .eq, "\"root\""⟩] .any true =
        .ok dual ∧
      RunAlike sieve dual := by
  have h : ∀ condition ∈ ([⟨"size", .ge, "1.5Ki"⟩, ⟨"owner", .ne, "\"root\""⟩] : List Condition),
      condition.operator ≠ .like := by decide
  exact ⟨h, run_dual h .all false⟩

end RecordSieve
