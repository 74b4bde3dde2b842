import RecordSieve.Json.Printer
import RecordSieve.Scalar.Numeral

/-!
# Coercion

How literals and field values become scalars. Text is read the same way on both sides: a leading
quote marks a string, `True` and `False` are truth values, numerals are numbers, and everything
else is a string as it stands. So `15K` means the same as a literal and as a text field.

## Main definitions

* `Scalar.ofText`: the scalar of a literal or of a text field;
* `Scalar.ofJson`: the scalar of a field value.
-/

namespace RecordSieve.Scalar

/-- Text behind a leading quote, without the closing quote if there is one. -/
def unquote (inner : List Char) : List Char :=
  if inner.getLast? = some '"' then inner.dropLast else inner

/-- The scalar of a literal or of a text field. -/
def ofChars (text : List Char) : Scalar :=
  match text with
  | '"' :: inner => .string (String.ofList (unquote inner))
  | _ =>
      if text = "True".toList then .bool true
      else if text = "False".toList then .bool false
      else
        match Numeral.ofText? text with
        | some numeral => numeral.value
        | none => .string (String.ofList text)

/-- The scalar of a literal or of a text field. -/
def ofText (text : String) : Scalar := ofChars text.toList

/-- The scalar of a number: an integer if it fits 64 bits with a sign, otherwise the nearest
float. -/
def ofNumber : JsonNumber → Scalar
  | .integer n =>
      if -0x8000000000000000 ≤ n ∧ n < 0x8000000000000000 then .int (Int64.ofInt n)
      else .float (Binary64.ofInt n)
  | .float x => .float x

/-- The scalar of a field value. Null, arrays and objects are their compact text. -/
def ofJson : Json → Scalar
  | .bool value => .bool value
  | .number n => ofNumber n
  | .string text => ofText text
  | other => .string other.render

end RecordSieve.Scalar
