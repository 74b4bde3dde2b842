import RecordSieve.Sieve.Test

/-!
# Sieves

A sieve decides which records to keep: it runs a list of tests, combines their answers, and may
turn the result around.

## Main definitions

* `Aggregation`: how the answers are combined;
* `Sieve`, `Sieve.ofConditions`: a sieve and how it is built;
* `Sieve.keeps`: the decision on one record.
-/

namespace RecordSieve

/-- How the answers of the tests are combined. -/
inductive Aggregation where
  /-- Every answer has to be yes. -/
  | all
  /-- One answer has to be yes. -/
  | any
deriving DecidableEq

namespace Aggregation

/-- The mode that a flag for "or" asks for. -/
def ofOr (useOr : Bool) : Aggregation := if useOr then any else all

/-- The name of a mode. -/
def name : Aggregation → String
  | all => "All"
  | any => "Any"

/-- The result without answers. -/
def identity : Aggregation → Bool
  | all => true
  | any => false

/-- The result with one more answer. -/
def combine : Aggregation → Bool → Bool → Bool
  | all, result, answer => result && answer
  | any, result, answer => result || answer

end Aggregation

/-- A decision procedure for records. -/
structure Sieve where
  tests : List Test
  aggregation : Aggregation
  /-- Whether the records that fail the tests are kept instead. -/
  reverse : Bool

namespace Sieve

/-- The sieve of conditions. Every literal is coerced and every pattern compiled here, and the
first condition whose pattern is unusable fails the whole list. -/
def ofConditions (conditions : List Condition) (aggregation : Aggregation) (reverse : Bool) :
    Except Failure Sieve := do
  let tests ← conditions.mapM Test.ofCondition
  pure ⟨tests, aggregation, reverse⟩

/-- The conditions of a sieve, in their order. -/
def conditions (sieve : Sieve) : List Condition := sieve.tests.map (·.condition)

/-- Whether a record is kept. Every test is run, in order, even when the result is settled, so
which failure is reported does not depend on the answers. -/
def keeps (sieve : Sieve) (fields : Fields) (line : Nat) : Except Failure Bool := do
  let result ← sieve.tests.foldlM
    (fun result test => do
      let answer ← test.run fields line
      pure (sieve.aggregation.combine result answer))
    sieve.aggregation.identity
  pure (result != sieve.reverse)

end Sieve

end RecordSieve
