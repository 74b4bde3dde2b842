import RecordSieve.Numeric.Layout

/-!
# Scalars

The values that conditions compare: a literal or a field after coercion. A scalar is one of
four kinds, and the kinds are told apart by every comparison except that integers and floats
meet as numbers.
-/

namespace RecordSieve

/-- The kind of a scalar. -/
inductive Kind where
  | int
  | float
  | string
  | bool
deriving DecidableEq

/-- The name of a kind in messages. -/
def Kind.name : Kind → String
  | int => "int"
  | float => "float"
  | string => "string"
  | bool => "bool"

/-- A literal or field value after coercion. -/
inductive Scalar where
  | int (value : Int64)
  | float (value : Binary64)
  | string (text : String)
  | bool (value : Bool)
deriving DecidableEq

namespace Scalar

/-- The kind of a scalar. -/
def kind : Scalar → Kind
  | int _ => .int
  | float _ => .float
  | string _ => .string
  | bool _ => .bool

/-- The text of a scalar: strings as they are, numbers positionally with the fewest digits
that read back, and truth values as `True` and `False`. -/
def render : Scalar → String
  | int value => NumberLayout.intText value.toInt
  | float value => NumberLayout.plain.render value
  | string text => text
  | bool true => "True"
  | bool false => "False"

/-- The nearest binary64 number of a numeric scalar. -/
def toBinary64? : Scalar → Option Binary64
  | int value => some (Binary64.ofInt value.toInt)
  | float value => some value
  | string _ => none
  | bool _ => none

end Scalar

end RecordSieve
