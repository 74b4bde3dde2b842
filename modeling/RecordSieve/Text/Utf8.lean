/-!
# UTF-8

UTF-8 as a machine that takes one byte at a time. The machine refuses a sequence at the first
byte that rules it out, so overlong forms, surrogates and values beyond the last code point
are refused at their second byte at the latest.

## Main definitions

* `Utf8.State`, `Utf8.step`: the machine;
* `Utf8.decode?`: the text of bytes that are UTF-8 throughout;
* `Utf8.decodeLossy`: the text with one replacement character for each refused sequence;
* `Utf8.encode`: the bytes of a text.
-/

namespace RecordSieve.Utf8

/-- What the machine has seen of the current character. -/
inductive State where
  /-- Nothing: the next byte starts a character. -/
  | boundary
  /-- The lead byte and perhaps some continuation bytes: `missing + 1` more are needed, the
  next one between `low` and `high`, and `value` holds the bits so far. -/
  | inside (missing : Nat) (low high : UInt8) (value : Nat)
deriving DecidableEq

/-- What one byte does. -/
inductive Step where
  /-- The byte completes a character. -/
  | char (c : Char)
  /-- The character needs more bytes. -/
  | more (state : State)
  /-- The byte starts no character. -/
  | stray
  /-- The byte ends the unfinished character before it, and starts afresh itself. -/
  | cut

/-- The step of a byte at a character boundary. -/
def start (b : UInt8) : Step :=
  let value := b.toNat
  if value < 0x80 then .char (Char.ofNat value)
  else if value < 0xc2 then .stray
  else if value < 0xe0 then .more (.inside 0 0x80 0xbf (value - 0xc0))
  else if value = 0xe0 then .more (.inside 1 0xa0 0xbf 0)
  else if value = 0xed then .more (.inside 1 0x80 0x9f 0xd)
  else if value < 0xf0 then .more (.inside 1 0x80 0xbf (value - 0xe0))
  else if value = 0xf0 then .more (.inside 2 0x90 0xbf 0)
  else if value < 0xf4 then .more (.inside 2 0x80 0xbf (value - 0xf0))
  else if value = 0xf4 then .more (.inside 2 0x80 0x8f 4)
  else .stray

/-- The step of a byte in a state. -/
def step : State → UInt8 → Step
  | .boundary, b => start b
  | .inside missing low high value, b =>
      if low ≤ b ∧ b ≤ high then
        let value := value * 64 + (b.toNat - 0x80)
        match missing with
        | 0 => .char (Char.ofNat value)
        | missing + 1 => .more (.inside missing 0x80 0xbf value)
      else .cut

/-- The character that stands for bytes that are not UTF-8. -/
def replacement : Char := '\ufffd'

/-- The text of bytes that are UTF-8 throughout, from a state on. -/
def decodeFrom? : State → List UInt8 → Option (List Char)
  | .boundary, [] => some []
  | .inside .., [] => none
  | state, b :: rest =>
      match step state b with
      | .char c => (decodeFrom? .boundary rest).map (c :: ·)
      | .more state => decodeFrom? state rest
      | .stray | .cut => none

/-- The text of bytes that are UTF-8 throughout. -/
def decode? (bytes : List UInt8) : Option (List Char) := decodeFrom? .boundary bytes

/-- The text of bytes from a state on, with one replacement character for each longest
sequence that starts a character and is not continued, and for each byte that starts none. -/
def decodeLossyFrom : State → List UInt8 → List Char
  | .boundary, [] => []
  | .inside .., [] => [replacement]
  | state, b :: rest =>
      match step state b with
      | .char c => c :: decodeLossyFrom .boundary rest
      | .more state => decodeLossyFrom state rest
      | .stray => replacement :: decodeLossyFrom .boundary rest
      | .cut =>
          replacement ::
            match start b with
            | .char c => c :: decodeLossyFrom .boundary rest
            | .more state => decodeLossyFrom state rest
            | .stray | .cut => replacement :: decodeLossyFrom .boundary rest

/-- The text of bytes, with replacement characters for what is not UTF-8. -/
def decodeLossy (bytes : List UInt8) : List Char := decodeLossyFrom .boundary bytes

/-- The bytes of a text. -/
def encode (text : List Char) : List UInt8 := text.flatMap String.utf8EncodeChar

end RecordSieve.Utf8
