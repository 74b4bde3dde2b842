import RecordSieve.Condition.Operator

/-!
# Conditions

A condition asks how one top-level field of a record compares with a literal.
-/

namespace RecordSieve

/-- One condition, such as `size >= 15K`. -/
structure Condition where
  /-- The key of the field. -/
  field : String
  operator : Operator
  /-- The literal exactly as written, quotes included. -/
  literal : String
deriving DecidableEq

namespace Condition

/-- The text of a condition, with one space on each side of the operator. -/
def render (c : Condition) : String :=
  c.field ++ " " ++ c.operator.symbol ++ " " ++ c.literal

/-- Whether the condition asks for an order against a truth value, which no field has. -/
def ordersBool (c : Condition) : Bool :=
  c.operator.isOrdering && (c.literal = "True" || c.literal = "False")

/-- The warning for a condition that fails on every record. -/
def warning (c : Condition) : String :=
  "Condition '" ++ c.render ++
    "' orders against a boolean and will fail on the first record"

/-- The warnings for a list of conditions, in their order. -/
def warnings (conditions : List Condition) : List String :=
  (conditions.filter ordersBool).map warning

end Condition

end RecordSieve
