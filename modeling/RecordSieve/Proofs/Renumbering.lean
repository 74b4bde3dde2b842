import RecordSieve.Proofs.Run.Reliable

/-!
# Numbers of Lines

The number of a line is there for messages. A line that stands further on is decided as before,
and only a failure says where it stands.

## Main definitions

* `Failure.raised`: the same failure some lines further on;
* `Sieve.accepts`: whether a sieve keeps a line, wherever it stands.

## Main statements

* `Sieve.judge_add`: a decision further on is the same one, up to the line that a failure names;
* `Sieve.judge_eq_ok_iff`: an answer does not depend on the number;
* `Sieve.keptFrom_eq_filter`: what a sieve keeps of some lines is a filter on them.
-/

namespace RecordSieve

namespace Failure

/-- The same failure, some lines further on. -/
def raised (count : Nat) : Failure → Failure
  | notARecord line shown diagnosis => notARecord (line + count) shown diagnosis
  | missingField field line => missingField field (line + count)
  | failure => failure

/-- A failure that names no line is the same everywhere. -/
theorem raised_of_line?_eq_none {failure : Failure} (h : failure.line? = none) (count : Nat) :
    failure.raised count = failure := by
  cases failure with
  | notARecord | missingField => cases h
  | _ => rfl

end Failure

/-- A line further on is a record alike, or fails with the number raised. -/
theorem readRecord_add (line : List UInt8) (number count : Nat) :
    readRecord line (number + count) =
      (readRecord line number).mapError (Failure.raised count) := by
  unfold readRecord
  split <;> rfl

/-- An operator answers or fails without looking at the line. -/
theorem Operator.mapError_evaluate (op : Operator) (left right : Scalar) (count : Nat) :
    (op.evaluate left right).mapError (Failure.raised count) = op.evaluate left right := by
  rcases hanswer : op.evaluate left right with failure | answer
  · rw [mapError_error, Failure.raised_of_line?_eq_none (line?_of_evaluate_error hanswer)]
  · rfl

/-- A test answers alike for a record further on, or fails with the number raised. -/
theorem Test.run_add (test : Test) (fields : Fields) (number count : Nat) :
    test.run fields (number + count) =
      (test.run fields number).mapError (Failure.raised count) := by
  unfold run
  split
  · rfl
  · simp only
    split
    · rfl
    · rw [Operator.mapError_evaluate]

namespace Sieve

variable {sieve : Sieve}

/-- A record further on is decided as before, up to the line that a failure names. -/
theorem keeps_add (sieve : Sieve) (fields : Fields) (number count : Nat) :
    sieve.keeps fields (number + count) =
      (sieve.keeps fields number).mapError (Failure.raised count) := by
  have hanswers : sieve.answers fields (number + count) =
      ((sieve.answers fields number).map (·.map id)).mapError (Failure.raised count) := by
    apply mapM_eq_mapError_map
    intro test _
    rw [Except.map_id, id, test.run_add]
  rw [keeps_eq, keeps_eq, hanswers]
  cases sieve.answers fields number with
  | error failure => rfl
  | ok answers => simp [Except.map]

/-- A line further on is decided as before, up to the line that a failure names. -/
theorem judge_add (sieve : Sieve) (line : List UInt8) (number count : Nat) :
    sieve.judge line (number + count) =
      (sieve.judge line number).mapError (Failure.raised count) := by
  have hread := readRecord_add line number count
  rcases hline : readRecord line number with failure | fields
  · rw [hline] at hread
    rw [judge_of_readRecord_error hread, judge_of_readRecord_error hline]
    rfl
  · rw [hline] at hread
    rw [judge_of_readRecord hread, judge_of_readRecord hline, keeps_add]

/-- An answer does not depend on where the line stands. -/
theorem judge_eq_ok_iff {line : List UInt8} {number : Nat} (other : Nat) {kept : Bool} :
    sieve.judge line number = .ok kept ↔ sieve.judge line other = .ok kept := by
  -- Both numbers are compared with that of a line with nothing in front of it.
  rw [← Nat.zero_add number, ← Nat.zero_add other, judge_add, judge_add, mapError_eq_ok_iff,
    mapError_eq_ok_iff]

/-- Whether a sieve keeps a line, wherever it stands. -/
def accepts (sieve : Sieve) (line : List UInt8) : Bool :=
  (sieve.judge line 1).toOption = some true

/-- A sieve accepts a line if it keeps it under any number. -/
theorem accepts_iff {line : List UInt8} (number : Nat) :
    sieve.accepts line = true ↔ sieve.judge line number = .ok true := by
  rw [judge_eq_ok_iff 1, accepts, decide_eq_true_iff, toOption_eq_some_iff]

/-- What a sieve keeps of some lines is what it accepts, whatever numbers they have. -/
theorem keptFrom_eq_filter (first : Nat) (ls : List (List UInt8)) :
    sieve.keptFrom first ls = ls.filter sieve.accepts := by
  have hnumber : (fun p : List UInt8 × Nat =>
      decide ((sieve.judge p.1 p.2).toOption = some true)) = sieve.accepts ∘ Prod.fst := by
    ext ⟨line, number⟩
    rw [Function.comp_apply, Bool.eq_iff_iff, accepts_iff number, decide_eq_true_iff,
      toOption_eq_some_iff]
  rw [keptFrom, hnumber, ← List.filter_map, List.zipIdx_map_fst]

/-- Lines are all decided if each of them is, whatever numbers they have. -/
theorem decides_iff {first : Nat} {ls : List (List UInt8)} :
    sieve.Decides first ls ↔ ∀ line ∈ ls, ∃ kept, sieve.judge line 1 = .ok kept := by
  rw [List.forall_mem_iff_forall_getElem]
  refine forall₂_congr fun i hi => exists_congr fun kept => ?_
  exact judge_eq_ok_iff 1

end Sieve

end RecordSieve
