/-!
# Operators

The operators of a condition and their tokens.
-/

namespace RecordSieve

/-- An operator between a field and a literal. -/
inductive Operator where
  | eq
  | ge
  | gt
  | le
  | lt
  | ne
  /-- The field's text has a match of the literal's pattern at its start. -/
  | like
deriving DecidableEq

namespace Operator

/-- The operators, each once. A longer token stands before the tokens it starts with. -/
def all : List Operator := [eq, ge, gt, le, lt, ne, like]

/-- The token of an operator. -/
def symbol : Operator → String
  | eq => "=="
  | ge => ">="
  | gt => ">"
  | le => "<="
  | lt => "<"
  | ne => "!="
  | like => "=~"

/-- The operator that a token writes. -/
def ofSymbol? (token : String) : Option Operator := all.find? (·.symbol = token)

/-- Whether the operator needs an order between its operands. -/
def isOrdering : Operator → Bool
  | ge | gt | le | lt => true
  | eq | ne | like => false

/-- The list of the operators is complete. -/
theorem mem_all (op : Operator) : op ∈ all := by
  cases op <;> decide

/-- Each operator is found by its token. -/
@[simp]
theorem ofSymbol?_symbol (op : Operator) : ofSymbol? op.symbol = some op := by
  cases op <;> decide

/-- A token belongs to at most one operator, and reading finds it. -/
theorem ofSymbol?_eq_some_iff {token : String} {op : Operator} :
    ofSymbol? token = some op ↔ token = op.symbol := by
  constructor
  · intro h
    simpa [eq_comm] using List.find?_some h
  · rintro rfl
    exact ofSymbol?_symbol op

end Operator

end RecordSieve
