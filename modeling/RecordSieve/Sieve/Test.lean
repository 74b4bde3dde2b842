import RecordSieve.Condition.Basic
import RecordSieve.Scalar.Coercion
import RecordSieve.Sieve.Evaluation

/-!
# Tests

A condition made ready for many records: its literal is coerced and its pattern compiled once,
before any record is read.

## Main definitions

* `Test.ofCondition`: the test of a condition;
* `Test.run`: the answer of a test on the fields of a record.
-/

namespace RecordSieve

/-- A condition with its literal as a scalar and, for `=~`, its pattern. -/
structure Test where
  condition : Condition
  literal : Scalar
  pattern : Option Regex

namespace Test

/-- The test of a condition. -/
def ofCondition (condition : Condition) : Except Failure Test := do
  let literal := Scalar.ofText condition.literal
  match condition.operator with
  | .like =>
      let regex ← literal.pattern?
      pure ⟨condition, literal, some regex⟩
  | _ => pure ⟨condition, literal, none⟩

/-- The text that a pattern is held against. A text field keeps its own spelling unless it is a
quoted string, and other values are shown as scalars. -/
def subject (raw : Json) (value : Scalar) : String :=
  match raw, value with
  | _, .string text => text
  | .string text, _ => text
  | _, value => value.render

/-- The answer of a test on the fields of a record, which stands on the given line. -/
def run (test : Test) (fields : Fields) (line : Nat) : Except Failure Bool :=
  match fields.get? test.condition.field with
  | none => .error (.missingField test.condition.field line)
  | some raw =>
      let value := Scalar.ofJson raw
      match test.pattern with
      | some regex => .ok (regex.isMatch (subject raw value).toList)
      | none => test.condition.operator.evaluate value test.literal

end Test

end RecordSieve
