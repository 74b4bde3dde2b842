import RecordSieve.Unicode.Addition
import RecordSieve.Unicode.Category
import RecordSieve.Unicode.Property

/-!
# Quoted Text

Text between double quotes as messages show it: quotes, backslashes and characters that show
nothing by themselves, after version 17 of the character database, are escaped.

## Main definitions

* `quoteText`: a text between quotes.
-/

namespace RecordSieve

/-- The code points that no glyph shows: control and format characters, code points without a
character, separators, and characters to be ignored where they are not supported. -/
def invisible : CodePointSet :=
  let named := Unicode.ofCategories ["Cc", "Cf", "Cs", "Co", "Cn", "Zl", "Zp", "Zs"].contains
  (named.diff Unicode.addedCharacters).union Unicode.defaultIgnorableCodePoint

/-- The characters that change the one in front of them. Letters among them, which are sound
marks of half the width, stand for themselves. -/
def attached : CodePointSet :=
  (Unicode.graphemeExtend.union Unicode.addedGraphemeExtend).diff
    (Unicode.ofCategories (· = "Lm"))

/-- Whether a character shows by itself. The space does. -/
def isVisible (c : Char) : Bool := c = ' ' || !(invisible.contains c || attached.contains c)

/-- A character between quotes. -/
def quoteChar (c : Char) : List Char :=
  match c with
  | '"' => ['\\', '"']
  | '\\' => ['\\', '\\']
  | '\t' => ['\\', 't']
  | '\n' => ['\\', 'n']
  | '\r' => ['\\', 'r']
  | '\x00' => ['\\', '0']
  | c => if isVisible c then [c] else "\\u\x7b".toList ++ Nat.toDigits 16 c.toNat ++ ['\x7d']

/-- A text between quotes. -/
def quoteText (text : String) : String :=
  String.ofList (['"'] ++ text.toList.flatMap quoteChar ++ ['"'])

end RecordSieve
