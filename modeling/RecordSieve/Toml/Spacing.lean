/-!
# Spacing of TOML

What may stand between the parts of a TOML file: blanks within a line, and newlines and comments
where a line may end.

## Main definitions

* `Toml.afterLine?`: the text behind the rest of a line that holds nothing more;
* `Toml.skipLines?`: the text behind any number of such lines.
-/

namespace RecordSieve.Toml

/-- Whether a character is no control character. The tab counts as none. -/
def isPlain (c : Char) : Bool := c = '\t' || (' ' ≤ c && c ≠ '\x7f')

/-- Skips the blanks within a line. -/
def skipBlanks (text : List Char) : List Char := text.dropWhile fun c => c = ' ' || c = '\t'

/-- Skips a comment. -/
def skipComment : List Char → List Char
  | '#' :: rest => rest.dropWhile isPlain
  | text => text

/-- The text behind a newline. A carriage return belongs to a newline or is refused. -/
def afterNewline? : List Char → Option (List Char)
  | '\n' :: rest => some rest
  | '\r' :: '\n' :: rest => some rest
  | _ => none

/-- The text behind the rest of a line, which holds blanks and perhaps a comment. The end of the
text ends a line as well. -/
def afterLine? (text : List Char) : Option (List Char) :=
  match skipComment (skipBlanks text) with
  | [] => some []
  | rest => afterNewline? rest

/-- The text behind blanks, comments and newlines. A comment has to end with a newline. -/
def skipLines? (text : List Char) : Option (List Char) :=
  let next := skipBlanks text
  match next.head? with
  | some '#' | some '\n' | some '\r' => do
      let rest ← afterNewline? (skipComment next)
      if rest.length < text.length then skipLines? rest else none
  | _ => some next
termination_by text.length

end RecordSieve.Toml
