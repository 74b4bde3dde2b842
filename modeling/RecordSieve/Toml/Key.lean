import RecordSieve.Toml.Quoted

/-!
# Keys of TOML

A key names a value below the table at hand: some parts, each bare or in quotes, with dots
between them.

## Main definitions

* `Toml.key?`: the key at the start of a text, and the text behind it.
-/

namespace RecordSieve.Toml

/-- How many containers may stand inside each other, and how many parts a key may have. -/
def nestingLimit : Nat := 79

/-- A key: the tables on the way, and the name in the last of them. -/
structure Key where
  parents : List String
  name : String
deriving DecidableEq

/-- The parts of a key. -/
def Key.path (key : Key) : List String := key.parents ++ [key.name]

/-- Whether a character may stand in a part without quotes. -/
def isBareKeyChar (c : Char) : Bool := c.isAlphanum || c = '-' || c = '_'

/-- The part of a key at the start of a text. -/
def keyPart? (text : List Char) : Option (String × List Char) :=
  let bare := text.takeWhile isBareKeyChar
  if bare = [] then (quoted? text).map fun (part, rest) => (String.ofList part, rest)
  else some (String.ofList bare, text.dropWhile isBareKeyChar)

/-- The parts of a key, with blanks around each of them. -/
def keyParts? (text : List Char) : Option (Key × List Char) := do
  let (part, rest) ← keyPart? (skipBlanks text)
  match skipBlanks rest with
  | '.' :: rest =>
      if rest.length < text.length then
        let (key, rest) ← keyParts? rest
        some (⟨part :: key.parents, key.name⟩, rest)
      else none
  | rest => some (⟨[], part⟩, rest)
termination_by text.length

/-- The key at the start of a text. -/
def key? (text : List Char) : Option (Key × List Char) := do
  let (key, rest) ← keyParts? text
  if key.path.length ≤ nestingLimit then some (key, rest) else none

end RecordSieve.Toml
