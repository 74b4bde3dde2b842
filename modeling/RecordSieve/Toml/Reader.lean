import RecordSieve.Toml.Draft
import RecordSieve.Toml.Moment
import RecordSieve.Toml.Number

/-!
# Reading TOML

A file is a sequence of lines that open tables or hold a key and a value. Arrays may run over
several lines and tables in braces may not. The reader answers whether a text is TOML and what
it holds, without a reason for texts that are none.

## Main definitions

* `Toml.value?`: the value at the start of a text;
* `Toml.ofText?`: the table that a whole text writes.
-/

namespace RecordSieve.Toml

/-- The rest of an array whose items `item` reads, behind its bracket or a comma. -/
def items? (item : List Char → Option (Toml × List Char)) (text : List Char) :
    Option (List Toml × List Char) := do
  match ← skipLines? text with
  | ']' :: rest => some ([], rest)
  | start =>
      let (value, rest) ← item start
      match ← skipLines? rest with
      | ']' :: rest => some ([value], rest)
      | ',' :: rest =>
          -- An item takes at least one character, so this always holds.
          if rest.length < text.length then
            let (others, rest) ← items? item rest
            some (value :: others, rest)
          else none
      | _ => none
termination_by text.length

/-- A key and its value, which `item` reads. -/
def pair? (item : List Char → Option (Toml × List Char)) (text : List Char) :
    Option (Key × Toml × List Char) := do
  match ← key? text with
  | (key, '=' :: rest) =>
      let (value, rest) ← item (skipBlanks rest)
      some (key, value, rest)
  | _ => none

/-- The rest of a table in braces, behind its brace or a comma, given the items so far. -/
def pairs? (item : List Char → Option (Toml × List Char)) (items : Items) (text : List Char) :
    Option (Items × List Char) := do
  let (key, value, rest) ← pair? item text
  let items ← items.insert? key value
  match skipBlanks rest with
  | '\x7d' :: rest => some (items, rest)
  | ',' :: rest => if rest.length < text.length then pairs? item items rest else none
  | _ => none
termination_by text.length

/-- A table in braces, behind its brace. -/
def inlineTable? (item : List Char → Option (Toml × List Char)) (text : List Char) :
    Option (Toml × List Char) :=
  match skipBlanks text with
  | '\x7d' :: rest => some (.table [], rest)
  | start => (pairs? item [] start).map fun (items, rest) => (.table (entries items), rest)

/-- A value that contains no others. -/
def plainValue? (text : List Char) : Option (Toml × List Char) :=
  match text with
  | 't' :: 'r' :: 'u' :: 'e' :: rest => some (.boolean true, rest)
  | 'f' :: 'a' :: 'l' :: 's' :: 'e' :: rest => some (.boolean false, rest)
  | '"' :: _ | '\'' :: _ =>
      (string? text).map fun (value, rest) => (.string (String.ofList value), rest)
  | _ =>
      match afterMoment? text with
      | some rest => some (.moment, rest)
      | none => number? text

/-- The value at the start of a text, with at most `depth` containers inside each other. -/
def value? (depth : Nat) (text : List Char) : Option (Toml × List Char) :=
  -- A container that is one too many is refused at its bracket.
  match depth, text with
  | 0, '[' :: _ | 0, '\x7b' :: _ => none
  | depth + 1, '[' :: rest =>
      (items? (value? depth) rest).map fun (items, rest) => (.array items, rest)
  | depth + 1, '\x7b' :: rest => inlineTable? (value? depth) rest
  | _, text => plainValue? text

namespace Draft

/-- A header, behind its first bracket. -/
def header? (draft : Draft) (text : List Char) : Option (Draft × List Char) := do
  match text with
  | '[' :: text =>
      match ← key? text with
      | (key, ']' :: ']' :: rest) => (draft.openRow? key).map (·, rest)
      | _ => none
  | text =>
      match ← key? text with
      | (key, ']' :: rest) => (draft.openTable? key).map (·, rest)
      | _ => none

/-- What stands on a line in front of a comment, if anything does. -/
def statement? (draft : Draft) (text : List Char) : Option (Draft × List Char) :=
  match text with
  | [] => some (draft, [])
  | '[' :: rest => draft.header? rest
  | c :: _ =>
      -- Nothing stands on the line, or only a comment.
      if c = '#' ∨ c = '\n' ∨ c = '\r' then some (draft, text)
      else do
        let (key, value, rest) ← pair? (value? nestingLimit) text
        (draft.insert? key value).map (·, rest)

/-- The draft behind the lines of a text. -/
def read? (draft : Draft) (text : List Char) : Option Draft := do
  let (draft, rest) ← draft.statement? (skipBlanks text)
  let rest ← afterLine? rest
  if rest = [] then some draft
  else if rest.length < text.length then draft.read? rest
  else none
termination_by text.length

end Draft

/-- The mark that may stand at the start of a text in Unicode. -/
def byteOrderMark : Char := '\ufeff'

/-- The table that a text writes. -/
def ofText? (text : List Char) : Option Toml :=
  let text := if text.head? = some byteOrderMark then text.tail else text
  (Draft.empty.read? text).map Draft.toToml

end RecordSieve.Toml
