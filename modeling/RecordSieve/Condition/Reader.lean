import RecordSieve.Condition.Basic
import RecordSieve.Failure
import RecordSieve.Scalar.Numeral
import RecordSieve.Text.Blank

/-!
# Reading Conditions

A condition is a field name, an operator and a literal, with blanks allowed around the operator
only. The literal is a quoted text without quotes inside, `True`, `False` or a numeral, and the
condition ends with it.

## Main definitions

* `Condition.ofText?`: the condition that a text writes;
* `Condition.parse`, `Condition.parseAll`: the same with the failure for texts that are none.
-/

namespace RecordSieve

/-- Whether a character may stand in a field name. -/
def isFieldChar (c : Char) : Bool := c.isAlphanum || c = '_' || c = '-'

/-- Whether a text is a literal. -/
def isLiteral (text : List Char) : Bool :=
  match text with
  | '"' :: inner => inner.getLast? = some '"' && !inner.dropLast.contains '"'
  | _ => text = "True".toList || text = "False".toList || (Numeral.ofText? text).isSome

namespace Operator

/-- The operator at the start of a text and what follows it. The longest token wins. -/
def split? : List Char → Option (Operator × List Char)
  | '=' :: '=' :: rest => some (eq, rest)
  | '>' :: '=' :: rest => some (ge, rest)
  | '>' :: rest => some (gt, rest)
  | '<' :: '=' :: rest => some (le, rest)
  | '<' :: rest => some (lt, rest)
  | '!' :: '=' :: rest => some (ne, rest)
  | '=' :: '~' :: rest => some (like, rest)
  | _ => none

end Operator

namespace Condition

/-- The condition that a text writes from its first character to its last. -/
def ofChars? (text : List Char) : Option Condition := do
  let field := text.takeWhile isFieldChar
  if field = [] then none
  else
    let (operator, rest) ←
      Operator.split? ((text.dropWhile isFieldChar).dropWhile RecordSieve.isBlank)
    let literal := rest.dropWhile RecordSieve.isBlank
    if isLiteral literal then
      some ⟨String.ofList field, operator, String.ofList literal⟩
    else none

/-- The condition that a text writes from its first character to its last. -/
def ofText? (text : String) : Option Condition := ofChars? text.toList

/-- The condition that a text writes, or the failure that carries the text. -/
def parse (text : String) : Except Failure Condition :=
  match ofText? text with
  | some condition => .ok condition
  | none => .error (.notACondition text)

/-- The conditions of a list of texts. The first text that is none fails the whole list. -/
def parseAll (texts : List String) : Except Failure (List Condition) := texts.mapM parse

end Condition

end RecordSieve
