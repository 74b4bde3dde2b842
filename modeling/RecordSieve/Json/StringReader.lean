import RecordSieve.Json.Fault
import RecordSieve.Text.Utf8

/-!
# Strings of Documents

The inside of a JSON string as a machine that takes one byte at a time, from behind the opening
quote to the closing one. Bytes that are not UTF-8 are remembered and refused at the closing
quote. The place of the first of them is found by counting back from there over the bytes of the
text, in which an escape has the bytes of its character.

## Main definitions

* `StringReader`, `StringReader.step`: the machine.
-/

namespace RecordSieve.Json

/-- Where a string is inside an escape. -/
inductive Escape where
  /-- Outside of any escape. -/
  | outside
  /-- Behind a backslash. -/
  | letter
  /-- Behind `\u` and some of its four digits, last first; `high` is the first half of a
  surrogate pair that stands in front of it. -/
  | digits (read : List UInt8) (high : Option Nat)
  /-- Behind the first half of a surrogate pair. -/
  | secondHalf (high : Nat)
  /-- Behind the first half of a surrogate pair and a backslash. -/
  | secondLetter (high : Nat)
deriving DecidableEq

/-- What has been read of a string. -/
structure StringReader where
  /-- The characters so far, last first. -/
  text : List Char
  /-- The number of bytes of the text so far. -/
  length : Nat
  /-- Where the bytes are inside a character. -/
  utf8 : Utf8.State
  /-- The number of bytes of the text in front of that character. -/
  charStart : Nat
  /-- The number of bytes of the text in front of the first that is not UTF-8. -/
  stray : Option Nat
  escape : Escape
deriving DecidableEq

/-- What one byte does to a string. -/
inductive StringStep where
  /-- The byte belongs to the string. -/
  | more (reader : StringReader)
  /-- The byte is the closing quote. -/
  | closed (text : String)
  /-- The bytes up to an offset make the string wrong. -/
  | wrong (fault : Fault)

namespace StringReader

/-- The string behind its opening quote. -/
def empty : StringReader := ⟨[], 0, .boundary, 0, none, .outside⟩

/-- The value of a hexadecimal digit. -/
def hexValue? (b : UInt8) : Option Nat :=
  if 0x30 ≤ b ∧ b ≤ 0x39 then some (b.toNat - 0x30)
  else if 0x41 ≤ b ∧ b ≤ 0x46 then some (b.toNat - 0x41 + 10)
  else if 0x61 ≤ b ∧ b ≤ 0x66 then some (b.toNat - 0x61 + 10)
  else none

/-- The number that hexadecimal digits write, given last first. -/
def hexNumber? : List UInt8 → Option Nat
  | [] => some 0
  | b :: before => do
      let value ← hexNumber? before
      let digit ← hexValue? b
      pure (16 * value + digit)

/-- The character of an escape letter. -/
def escapedChar? (b : UInt8) : Option Char :=
  if b = 0x22 then some '"'
  else if b = 0x5c then some '\\'
  else if b = 0x2f then some '/'
  else if b = 0x62 then some '\x08'
  else if b = 0x66 then some '\x0c'
  else if b = 0x6e then some '\n'
  else if b = 0x72 then some '\r'
  else if b = 0x74 then some '\t'
  else none

/-- Whether a 16-bit unit is the first half of a surrogate pair. -/
def isHighSurrogate (unit : Nat) : Bool := 0xd800 ≤ unit && unit ≤ 0xdbff

/-- Whether a 16-bit unit is the second half of a surrogate pair. -/
def isLowSurrogate (unit : Nat) : Bool := 0xdc00 ≤ unit && unit ≤ 0xdfff

/-- The string with one more character. -/
def push (reader : StringReader) (c : Char) : StringReader :=
  { reader with text := c :: reader.text, utf8 := .boundary, escape := .outside }

/-- The string with the character of an escape. -/
def pushEscaped (reader : StringReader) (c : Char) : StringReader :=
  { reader.push c with length := reader.length + c.utf8Size }

/-- The string after bytes that are not UTF-8 and start behind some bytes of the text: only the
first count. -/
def markStray (reader : StringReader) (start : Nat) : StringReader :=
  { reader with stray := some (reader.stray.getD start), utf8 := .boundary }

/-- The string after a character has been cut short, if one has. -/
def cutShort (reader : StringReader) : StringReader :=
  match reader.utf8 with
  | .boundary => reader
  | .inside .. => reader.markStray reader.charStart

/-- What a byte of an unescaped character does, apart from the length of the text. -/
def takeUnescaped (reader : StringReader) (b : UInt8) : StringReader :=
  let starting (reader : StringReader) :=
    match Utf8.start b with
    | .char c => reader.push c
    | .more utf8 => { reader with utf8, charStart := reader.length }
    | .stray | .cut => reader.markStray reader.length
  match reader.utf8 with
  | .boundary => starting reader
  | .inside .. =>
      match Utf8.step reader.utf8 b with
      | .char c => reader.push c
      | .more utf8 => { reader with utf8 }
      | .stray | .cut => starting (reader.markStray reader.charStart)

/-- The string with a byte of an unescaped character. -/
def takeByte (reader : StringReader) (b : UInt8) : StringReader :=
  { reader.takeUnescaped b with length := reader.length + 1 }

/-- The unit that four digits write, given last first, behind a first half or not. -/
def takeUnit (reader : StringReader) (unit : Nat) (high : Option Nat) :
    Except Cause StringReader :=
  match high with
  | none =>
      if isLowSurrogate unit then .error .loneSurrogate
      else if isHighSurrogate unit then .ok { reader with escape := .secondHalf unit }
      else .ok (reader.pushEscaped (Char.ofNat unit))
  | some high =>
      if isLowSurrogate unit then
        .ok (reader.pushEscaped
          (Char.ofNat ((high - 0xd800) * 0x400 + (unit - 0xdc00) + 0x10000)))
      else .error .loneSurrogate

/-- The step of the byte at an offset. -/
def step (reader : StringReader) (offset : Nat) (b : UInt8) : StringStep :=
  let wrong (cause : Cause) := StringStep.wrong ⟨cause, offset + 1⟩
  match reader.escape with
  | .outside =>
      if b = 0x22 then
        -- Only here does it show that bytes are no text, and they are counted back from here.
        match reader.cutShort.stray with
        | some stray => .wrong ⟨.notUtf8, offset + 1 - (reader.length - stray)⟩
        | none => .closed (String.ofList reader.text.reverse)
      else if b = 0x5c then .more { reader.cutShort with escape := .letter }
      else if b < 0x20 then wrong .controlCharacter
      else .more (reader.takeByte b)
  | .letter =>
      if b = 0x75 then .more { reader with escape := .digits [] none }
      else
        match escapedChar? b with
        | some c => .more (reader.pushEscaped c)
        | none => wrong .invalidEscape
  | .digits read high =>
      if read.length < 3 then .more { reader with escape := .digits (b :: read) high }
      else
        match hexNumber? (b :: read) with
        | none => wrong .invalidEscape
        | some unit =>
            match reader.takeUnit unit high with
            | .ok reader => .more reader
            | .error cause => wrong cause
  | .secondHalf high =>
      if b = 0x5c then .more { reader with escape := .secondLetter high }
      else wrong .unpairedSurrogate
  | .secondLetter high =>
      if b = 0x75 then .more { reader with escape := .digits [] (some high) }
      else wrong .unpairedSurrogate

end StringReader

end RecordSieve.Json
