import RecordSieve.Numeric.Digits
import RecordSieve.Toml.Spacing

/-!
# Strings of TOML

The four written forms of a string. Double quotes allow escapes and single quotes do not; three
quotes of either kind allow newlines, and up to two quotes inside.

## Main definitions

* `Toml.quoted?`: a string on one line, which may also be a key;
* `Toml.string?`: a string in any of the forms.

Each gives the characters of the string and the text behind it.
-/

namespace RecordSieve.Toml

/-- A character written as exactly `count` hexadecimal digits. -/
def hexEscape? (count : Nat) (text : List Char) : Option (Char × List Char) :=
  let digits := text.take count
  if digits.length = count ∧ digits.all isHexDigit then
    (charOfHex? digits).map (·, text.drop count)
  else none

/-- The character of an escape, behind its backslash. -/
def escape? : List Char → Option (Char × List Char)
  | 'b' :: rest => some ('\x08', rest)
  | 't' :: rest => some ('\t', rest)
  | 'n' :: rest => some ('\n', rest)
  | 'f' :: rest => some ('\x0c', rest)
  | 'r' :: rest => some ('\r', rest)
  | '"' :: rest => some ('"', rest)
  | '\\' :: rest => some ('\\', rest)
  | 'u' :: rest => hexEscape? 4 rest
  | 'U' :: rest => hexEscape? 8 rest
  | _ => none

/-! ### On one line -/

/-- A string in double quotes, behind the first of them. -/
def basic? (text : List Char) : Option (List Char × List Char) :=
  match text with
  | [] => none
  | '"' :: rest => some ([], rest)
  | '\\' :: escaped => do
      let (c, rest) ← escape? escaped
      if rest.length ≤ escaped.length then
        let (others, rest) ← basic? rest
        some (c :: others, rest)
      else none
  | c :: rest =>
      if isPlain c then (basic? rest).map fun (others, rest) => (c :: others, rest) else none
termination_by text.length

/-- A string in single quotes, behind the first of them. -/
def literal? : List Char → Option (List Char × List Char)
  | [] => none
  | '\'' :: rest => some ([], rest)
  | c :: rest =>
      if isPlain c then (literal? rest).map fun (others, rest) => (c :: others, rest) else none

/-- A string on one line. -/
def quoted? : List Char → Option (List Char × List Char)
  | '"' :: rest => basic? rest
  | '\'' :: rest => literal? rest
  | _ => none

/-! ### On several lines -/

/-- Skips blanks and newlines. -/
def skipEmptyLines (text : List Char) : List Char :=
  let next := skipBlanks text
  match afterNewline? next with
  | some rest => if rest.length < text.length then skipEmptyLines rest else next
  | none => next
termination_by text.length

/-- The text behind a newline and the blanks around it, which a backslash takes out of a
string. -/
def afterFold? (text : List Char) : Option (List Char) :=
  (afterNewline? (skipBlanks text)).map skipEmptyLines

/-- The next characters of a string on several lines, where no quote comes next. -/
def multilineStep? (escapes : Bool) : List Char → Option (List Char × List Char)
  | [] => none
  | c :: rest =>
      match afterNewline? (c :: rest) with
      | some rest => some (['\n'], rest)
      | none =>
          if escapes ∧ c = '\\' then
            match afterFold? rest with
            | some rest => some ([], rest)
            | none => (escape? rest).map fun (c, rest) => ([c], rest)
          else if isPlain c then some ([c], rest)
          else none

/-- A string on several lines, behind the three quotes that open it. Fewer than three quotes
belong to the string; the last three of up to five close it. -/
def multiline? (quote : Char) (text : List Char) : Option (List Char × List Char) :=
  let quotes := (text.takeWhile (· = quote)).length
  if 3 ≤ quotes then
    let inside := min (quotes - 3) 2
    some (List.replicate inside quote, text.drop (inside + 3))
  else do
    let (next, rest) ← multilineStep? (quote = '"') (text.drop quotes)
    if rest.length < text.length then
      let (others, rest) ← multiline? quote rest
      some (List.replicate quotes quote ++ next ++ others, rest)
    else none
termination_by text.length

/-- A string in any of the four forms. A newline right behind three opening quotes is no part
of it. -/
def string? : List Char → Option (List Char × List Char)
  | '"' :: '"' :: '"' :: rest => multiline? '"' ((afterNewline? rest).getD rest)
  | '\'' :: '\'' :: '\'' :: rest => multiline? '\'' ((afterNewline? rest).getD rest)
  | text => quoted? text

end RecordSieve.Toml
