import RecordSieve.Json.Basic

/-!
# JSON Text

The compact text of a JSON value: no blanks, keys in their order, strings with the short
escapes where there is one.
-/

namespace RecordSieve

/-- The lower-case hexadecimal digit of a number below sixteen. -/
def hexDigit (n : Nat) : Char := Nat.digitChar n

namespace JsonNumber

/-- Text of a number. -/
def render : JsonNumber → String
  | integer value => NumberLayout.intText value
  | float value => NumberLayout.document.render value

end JsonNumber

namespace Json

/-- A character inside a string. Quotes, backslashes and the characters below U+0020 are
escaped, and all others stand for themselves. -/
def renderChar (c : Char) : List Char :=
  match c with
  | '"' => ['\\', '"']
  | '\\' => ['\\', '\\']
  | '\n' => ['\\', 'n']
  | '\r' => ['\\', 'r']
  | '\t' => ['\\', 't']
  | '\x08' => ['\\', 'b']
  | '\x0c' => ['\\', 'f']
  | c =>
      if c.toNat < 0x20 then
        ['\\', 'u', '0', '0', hexDigit (c.toNat / 16), hexDigit (c.toNat % 16)]
      else [c]

/-- A string in quotes. -/
def renderString (text : String) : String :=
  String.ofList ('"' :: text.toList.flatMap renderChar ++ ['"'])

mutual

/-- The compact text of a value. -/
def render : Json → String
  | null => "null"
  | bool true => "true"
  | bool false => "false"
  | number value => value.render
  | string text => renderString text
  | array items => "[" ++ String.intercalate "," (renderItems items) ++ "]"
  | object fields => "\x7b" ++ String.intercalate "," (renderFields fields) ++ "\x7d"

/-- The texts of the items of an array. -/
def renderItems : List Json → List String
  | [] => []
  | item :: rest => render item :: renderItems rest

/-- The texts of the fields of an object. -/
def renderFields : List (String × Json) → List String
  | [] => []
  | (key, value) :: rest => (renderString key ++ ":" ++ render value) :: renderFields rest

end

end Json

end RecordSieve
