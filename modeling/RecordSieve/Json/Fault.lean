import RecordSieve.Json.Printer

/-!
# Faults of Documents

Why bytes are no JSON document, and where that shows.
-/

namespace RecordSieve.Json

/-- The reasons for which bytes are refused. -/
inductive Cause where
  | endInValue
  | endInObject
  | endInList
  | endInString
  | expectedValue
  | expectedColon
  | expectedCommaOrBrace
  | expectedCommaOrBracket
  | trailingComma
  | keyNotString
  | trailingCharacters
  | nestedTooDeep
  | misspelledWord
  | invalidNumber
  | numberOutOfRange
  | invalidEscape
  | controlCharacter
  | loneSurrogate
  | unpairedSurrogate
  | notUtf8
  /-- The document is a value of another sort than the object that was asked for. -/
  | notObject (description : String)
deriving DecidableEq

/-- The text of a reason. -/
def Cause.message : Cause → String
  | endInValue => "EOF while parsing a value"
  | endInObject => "EOF while parsing an object"
  | endInList => "EOF while parsing a list"
  | endInString => "EOF while parsing a string"
  | expectedValue => "expected value"
  | expectedColon => "expected `:`"
  | expectedCommaOrBrace => "expected `,` or `\x7d`"
  | expectedCommaOrBracket => "expected `,` or `]`"
  | trailingComma => "trailing comma"
  | keyNotString => "key must be a string"
  | trailingCharacters => "trailing characters"
  | nestedTooDeep => "recursion limit exceeded"
  | misspelledWord => "expected ident"
  | invalidNumber => "invalid number"
  | numberOutOfRange => "number out of range"
  | invalidEscape => "invalid escape"
  | controlCharacter =>
      "control character (\\u0000-\\u001F) found while parsing a string"
  | loneSurrogate => "lone leading surrogate in hex escape"
  | unpairedSurrogate => "unexpected end of hex escape"
  | notUtf8 => "invalid unicode code point"
  | notObject description => "invalid type: " ++ description ++ ", expected a map"

/-- A reason with the number of bytes before the place where it showed. -/
structure Fault where
  cause : Cause
  offset : Nat
deriving DecidableEq

namespace Fault

/-- The line of a place in bytes, counted from one. -/
def line (bytes : List UInt8) (offset : Nat) : Nat := 1 + (bytes.take offset).count 10

/-- The number of bytes between the start of the line and a place in it. -/
def column (bytes : List UInt8) (offset : Nat) : Nat :=
  ((bytes.take offset).reverse.takeWhile (· ≠ 10)).length

end Fault

/-- A reason with the line and the column of the place where it showed. -/
structure Diagnosis where
  cause : Cause
  line : Nat
  column : Nat
deriving DecidableEq

/-- The diagnosis for a fault that arose in `bytes`. -/
def Fault.diagnosis (fault : Fault) (bytes : List UInt8) : Diagnosis :=
  ⟨fault.cause, line bytes fault.offset, column bytes fault.offset⟩

/-- The text of a diagnosis. -/
def Diagnosis.message (diagnosis : Diagnosis) : String :=
  diagnosis.cause.message ++ " at line " ++ NumberLayout.natText diagnosis.line ++
    " column " ++ NumberLayout.natText diagnosis.column

end RecordSieve.Json
