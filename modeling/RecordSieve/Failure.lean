import RecordSieve.Condition.Operator
import RecordSieve.Json.Fault
import RecordSieve.Pattern.Basic
import RecordSieve.Scalar.Basic
import RecordSieve.Wording

/-!
# Failures

What ends the work on conditions and records.
-/

namespace RecordSieve

/-- A failure of reading conditions, of building a sieve or of a run. -/
inductive Failure where
  /-- A line is no JSON object; `shown` is its text for the message. -/
  | notARecord (line : Nat) (shown : String) (diagnosis : Json.Diagnosis)
  /-- A text is no condition. -/
  | notACondition (text : String)
  /-- A record lacks the field of a condition. -/
  | missingField (field : String) (line : Nat)
  /-- An operator does not apply to values of two kinds. -/
  | incomparable (operator : Operator) (left right : Kind)
  /-- A pattern does not compile. -/
  | invalidPattern (pattern : String)
  /-- No preset has the name. -/
  | unknownPreset (name : String)
  /-- Reading or writing failed. -/
  | io (reason : String)
deriving DecidableEq

namespace Failure

/-- The text of a failure, without its cause. -/
def message : Failure → String
  | notARecord line shown _ =>
      "Line " ++ NumberLayout.natText line ++ " is not a JSON object: " ++ shown
  | notACondition text =>
      "Condition not understood: '" ++ text ++ "'. Expected '<field> <operator> <literal>' " ++
        "with operators ==, >=, >, <=, <, !=, =~"
  | missingField field line =>
      "Field not found on line " ++ NumberLayout.natText line ++ ": '" ++ field ++ "'"
  | incomparable operator left right =>
      "Operator '" ++ operator.symbol ++ "' is not defined between " ++ left.name ++ " and " ++
        right.name
  | invalidPattern pattern => "Invalid regular expression '" ++ pattern ++ "'"
  | unknownPreset name => "Unknown condition preset: '" ++ name ++ "'"
  | io reason => reason

/-- The text of what caused a failure, if anything did. A pattern is at fault as it was compiled,
with what stands around it. -/
def cause? (wording : Wording) : Failure → Option String
  | notARecord _ _ diagnosis => some diagnosis.message
  | invalidPattern pattern => some (wording.pattern (Pattern.anchored pattern.toList))
  | notACondition _ | missingField .. | incomparable .. | unknownPreset _ | io _ => none

/-- The text of a failure, and of what caused it. -/
def chain (wording : Wording) (failure : Failure) : List String :=
  failure.message :: (failure.cause? wording).toList

end Failure

end RecordSieve
