import RecordSieve.Json.NumberReader
import RecordSieve.Json.StringReader
import RecordSieve.Text.Quoted

/-!
# JSON Decoding

JSON documents are decoded by a machine that takes one byte at a time: a stack of open arrays
and objects, and a phase that says what is due. Blanks are the space, the tab, the line feed
and the carriage return; nothing else may stand around a document.

## Main definitions

* `Decoder`, `Decoder.step`, `Decoder.finish`: the machine;
* `Json.decode`: the value that bytes write;
* `Json.decodeObject`: the same for documents that have to be objects.
-/

namespace RecordSieve.Json

/-- An array or object that is open around the value at hand. -/
inductive Frame where
  /-- An array with the items before the value, last first. -/
  | array (items : List Json)
  /-- An object with the fields before the value, and the value's key. -/
  | object (fields : Fields) (key : String)

/-- Where a value is due. -/
inductive Place where
  /-- At the start of the document. -/
  | document
  /-- Behind an opening bracket, where the array may also close. -/
  | firstItem
  /-- Behind a comma in an array. -/
  | nextItem
  /-- Behind a colon. -/
  | member
deriving DecidableEq

/-- What is due next. -/
inductive Phase where
  | value (place : Place)
  /-- A key: the first one, in whose place the object may close, or one behind a comma. -/
  | key (first : Bool) (fields : Fields)
  | keyText (fields : Fields) (reader : StringReader)
  | colon (fields : Fields) (key : String)
  /-- The rest of `null`, `true` or `false`. -/
  | word (rest : List UInt8) (value : Json)
  | number (reader : NumberReader)
  | string (reader : StringReader)
  /-- A comma or the closing bracket. -/
  | afterItem (items : List Json)
  /-- A comma or the closing brace. -/
  | afterMember (fields : Fields)
  /-- Only blanks. -/
  | done (value : Json)

/-- The decoding machine. -/
structure Decoder where
  /-- Whether the document has to be an object. -/
  objectsOnly : Bool
  /-- How many bytes have been taken. -/
  offset : Nat
  /-- The open arrays and objects, the innermost first. -/
  frames : List Frame
  phase : Phase

namespace Decoder

/-- How many arrays and objects may be open at once. -/
def maxDepth : Nat := 127

/-- A decoder before the first byte. -/
def start (objectsOnly : Bool) : Decoder := ⟨objectsOnly, 0, [], .value .document⟩

/-- Whether a byte is blank. -/
def isBlank (b : UInt8) : Bool := b = 0x20 || b = 0x09 || b = 0x0a || b = 0x0d

/-- What a document is called when an object was expected. -/
def describe : Json → String
  | .null => "null"
  | .bool true => "boolean `true`"
  | .bool false => "boolean `false`"
  | .number (.integer n) => "integer `" ++ NumberLayout.intText n ++ "`"
  | .number (.float x) => "floating point `" ++ NumberLayout.document.render x ++ "`"
  | .string text => "string " ++ quoteText text
  | .array _ => "sequence"
  | .object _ => "map"

/-- Whether a document of this sort may stand where the decoder is. -/
def admits (decoder : Decoder) : Json → Bool
  | .object _ => true
  | _ => !decoder.objectsOnly || !decoder.frames.isEmpty

/-- Hands a complete value to the innermost open array or object. The value ends in front of
the byte at `finish`. -/
def deliver (decoder : Decoder) (value : Json) (finish : Nat) : Except Fault Decoder :=
  if decoder.admits value then
    match decoder.frames with
    | [] => .ok { decoder with phase := .done value }
    | .array items :: frames => .ok { decoder with frames, phase := .afterItem (value :: items) }
    | .object fields key :: frames =>
        .ok { decoder with frames, phase := .afterMember (fields.insert key value) }
  else .error ⟨.notObject (describe value), finish⟩

/-- Opens an array or object. -/
def opening (decoder : Decoder) (opened : Decoder) : Except Fault Decoder :=
  if decoder.frames.length < maxDepth then .ok opened
  else .error ⟨.nestedTooDeep, decoder.offset + 1⟩

/-- Opens an array. Where an object is expected, the bracket is already too much. -/
def openArray (decoder : Decoder) : Except Fault Decoder :=
  if decoder.admits (.array []) then
    decoder.opening
      { decoder with frames := .array [] :: decoder.frames, phase := .value .firstItem }
  else .error ⟨.notObject (describe (.array [])), decoder.offset⟩

/-- A byte at the place of a value. -/
def startValue (decoder : Decoder) (b : UInt8) : Except Fault Decoder :=
  if b = 0x7b then decoder.opening { decoder with phase := .key true [] }
  else if b = 0x5b then decoder.openArray
  else if b = 0x22 then .ok { decoder with phase := .string .empty }
  else if b = 0x6e then .ok { decoder with phase := .word [0x75, 0x6c, 0x6c] .null }
  else if b = 0x74 then .ok { decoder with phase := .word [0x72, 0x75, 0x65] (.bool true) }
  else if b = 0x66 then
    .ok { decoder with phase := .word [0x61, 0x6c, 0x73, 0x65] (.bool false) }
  else
    match NumberReader.start? b with
    | some reader => .ok { decoder with phase := .number reader }
    | none => .error ⟨.expectedValue, decoder.offset + 1⟩

/-- A byte in a phase that does not end in front of it. The offset is still that of the byte. -/
def take (decoder : Decoder) (b : UInt8) : Except Fault Decoder :=
  let wrong (cause : Cause) : Except Fault Decoder := .error ⟨cause, decoder.offset + 1⟩
  match decoder.phase with
  | .value place =>
      if isBlank b then .ok decoder
      -- Only an array without items may close where a value is due.
      else if b = 0x5d ∧ place = .firstItem then
        match decoder.frames with
        | .array items :: frames =>
            deliver { decoder with frames } (.array items.reverse) (decoder.offset + 1)
        | _ => wrong .expectedValue
      else if b = 0x5d ∧ place = .nextItem then wrong .trailingComma
      else decoder.startValue b
  | .key first fields =>
      if isBlank b then .ok decoder
      else if b = 0x22 then .ok { decoder with phase := .keyText fields .empty }
      else if b = 0x7d then
        if first then decoder.deliver (.object fields) (decoder.offset + 1)
        else wrong .trailingComma
      else wrong .keyNotString
  | .keyText fields reader =>
      match reader.step decoder.offset b with
      | .more reader => .ok { decoder with phase := .keyText fields reader }
      | .closed key => .ok { decoder with phase := .colon fields key }
      | .wrong fault => .error fault
  | .colon fields key =>
      if isBlank b then .ok decoder
      else if b = 0x3a then
        .ok { decoder with
          frames := .object fields key :: decoder.frames, phase := .value .member }
      else wrong .expectedColon
  | .word [] _ => wrong .misspelledWord
  | .word [letter] value =>
      if b = letter then decoder.deliver value (decoder.offset + 1) else wrong .misspelledWord
  | .word (letter :: rest) value =>
      if b = letter then .ok { decoder with phase := .word rest value }
      else wrong .misspelledWord
  | .number reader =>
      match reader.step b with
      | .more reader => .ok { decoder with phase := .number reader }
      | .ended => .ok decoder
      | .wrong cause => wrong cause
  | .string reader =>
      match reader.step decoder.offset b with
      | .more reader => .ok { decoder with phase := .string reader }
      | .closed text => decoder.deliver (.string text) (decoder.offset + 1)
      | .wrong fault => .error fault
  | .afterItem items =>
      if isBlank b then .ok decoder
      else if b = 0x2c then
        .ok { decoder with
          frames := .array items :: decoder.frames, phase := .value .nextItem }
      else if b = 0x5d then decoder.deliver (.array items.reverse) (decoder.offset + 1)
      else wrong .expectedCommaOrBracket
  | .afterMember fields =>
      if isBlank b then .ok decoder
      else if b = 0x2c then .ok { decoder with phase := .key false fields }
      else if b = 0x7d then decoder.deliver (.object fields) (decoder.offset + 1)
      else wrong .expectedCommaOrBrace
  | .done _ => if isBlank b then .ok decoder else wrong .trailingCharacters

/-- Completes a number in front of the byte at hand, if the byte does not belong to it. -/
def settle (decoder : Decoder) (b : UInt8) : Except Fault Decoder :=
  match decoder.phase with
  | .number reader =>
      match reader.step b with
      | .ended =>
          match reader.finish with
          | .ok value => decoder.deliver (.number value) decoder.offset
          | .error cause => .error ⟨cause, decoder.offset⟩
      | _ => .ok decoder
  | _ => .ok decoder

/-- The step of one byte. -/
def step (decoder : Decoder) (b : UInt8) : Except Fault Decoder := do
  let settled ← decoder.settle b
  let next ← settled.take b
  pure { next with offset := next.offset + 1 }

/-- The value at the end of the bytes. -/
def finish (decoder : Decoder) : Except Fault Json :=
  let ended (cause : Cause) : Except Fault Json := .error ⟨cause, decoder.offset⟩
  match decoder.phase with
  | .value .firstItem => ended .endInList
  | .value _ => ended .endInValue
  | .key true _ => ended .endInObject
  | .key false _ => ended .endInValue
  | .keyText _ _ => ended .endInString
  | .colon _ _ => ended .endInObject
  | .word _ _ => ended .endInValue
  | .number reader =>
      match reader.finish with
      | .error cause => ended cause
      | .ok value =>
          match decoder.deliver (.number value) decoder.offset with
          | .error fault => .error fault
          | .ok delivered =>
              match delivered.phase with
              | .done value => .ok value
              | .afterItem _ => ended .endInList
              | _ => ended .endInObject
  | .string _ => ended .endInString
  | .afterItem _ => ended .endInList
  | .afterMember _ => ended .endInObject
  | .done value => .ok value

/-- The decoder after more bytes. -/
def run (decoder : Decoder) (bytes : List UInt8) : Except Fault Decoder :=
  bytes.foldlM step decoder

end Decoder

/-- The value that bytes write. -/
def decode (bytes : List UInt8) : Except Diagnosis Json :=
  ((Decoder.start false).run bytes >>= Decoder.finish).mapError (·.diagnosis bytes)

/-- The fields of the object that bytes write. -/
def decodeObject (bytes : List UInt8) : Except Diagnosis Fields :=
  match (Decoder.start true).run bytes >>= Decoder.finish with
  | .ok (.object fields) => .ok fields
  | .ok other => .error (Fault.diagnosis ⟨.notObject (Decoder.describe other), bytes.length⟩ bytes)
  | .error fault => .error (fault.diagnosis bytes)

end RecordSieve.Json
