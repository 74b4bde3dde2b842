import RecordSieve.Numeric.Digits
import RecordSieve.Text.Blank
import RecordSieve.Unicode.Addition
import RecordSieve.Unicode.Category
import RecordSieve.Unicode.Property

/-!
# Tokens of Patterns

The written form of a regular expression as a list of tokens: single primitives, bracketed
classes, group brackets, flag settings, bars and repetitions.

In verbose mode blanks and comments between the parts of a pattern are skipped. The mode is a
flag with the scope of a group, so the reader keeps the mode of each group that is open.

## Main definitions

* `Token.readAll?`: the tokens of a whole pattern, whose group brackets have to be balanced.
-/

namespace RecordSieve.Pattern

/-- The modes that flags set. -/
inductive Flag where
  | ignoreCase
  | multiLine
  | dotAll
  | swapGreed
  | unicode
  | crlf
  | verbose
deriving DecidableEq

/-- Flags with the state that each is set to. -/
abbrev FlagSettings := List (Flag × Bool)

/-- A character that stands for itself. -/
structure Literal where
  char : Char
  /-- Whether it was written as a byte in two hexadecimal digits. -/
  asByte : Bool
deriving DecidableEq

/-- Places that a pattern asks for without taking characters. -/
inductive Anchor where
  | lineStart
  | lineEnd
  | textStart
  | textEnd
  | wordBoundary
  | notWordBoundary
  | wordStart
  | wordEnd
  | wordStartHalf
  | wordEndHalf
deriving DecidableEq

/-- The classes with a letter of their own. -/
inductive Shorthand where
  | digit
  | space
  | word
deriving DecidableEq

/-- The question of a property class. -/
inductive PropertyQuery where
  /-- A name that stands alone. -/
  | named (name : String)
  /-- A property that has a value, or another one than that. -/
  | valued (equal : Bool) (name value : String)
deriving DecidableEq

/-- The smallest parts of a pattern. -/
inductive Primitive where
  | literal (literal : Literal)
  | dot
  | anchor (anchor : Anchor)
  | shorthand (kind : Shorthand) (negated : Bool)
  | property (query : PropertyQuery) (negated : Bool)
deriving DecidableEq

/-- The operations between the parts of a bracketed class. -/
inductive SetOperation where
  | intersection
  | difference
  | symmetricDifference
deriving DecidableEq

/-- The members of a bracketed class. -/
inductive SetItem where
  | literal (literal : Literal)
  | range (low high : Literal)
  | ascii (set : CodePointSet) (negated : Bool)
  | shorthand (kind : Shorthand) (negated : Bool)
  | property (query : PropertyQuery) (negated : Bool)
deriving DecidableEq

/-- The tokens of a bracketed class. -/
inductive SetToken where
  | opening (negated : Bool)
  | closing
  | operation (operation : SetOperation)
  | item (item : SetItem)
deriving DecidableEq

/-- The tokens of a pattern. -/
inductive Token where
  | primitive (primitive : Primitive)
  | set (parts : List SetToken)
  /-- An opening group bracket; a capturing group has no flags. -/
  | opening (capturing : Bool) (name : Option String) (flags : FlagSettings)
  | closing
  | flags (flags : FlagSettings)
  | bar
  /-- Repetition of what stands in front, at least `low` and at most `high` times; a lazy one
  prefers few. -/
  | repetition (low : Nat) (high : Option Nat) (isLazy : Bool)
deriving DecidableEq

/-- The name that a token gives to a group. -/
def Token.name? : Token → Option String
  | .opening _ name _ => name
  | _ => none

/-! ### Blanks, numbers and names -/

/-- Drops blanks and comments; a comment goes from a number sign to the end of the line. -/
def dropComments (inComment : Bool) : List Char → List Char
  | [] => []
  | c :: rest =>
      -- The line feed ends the comment and is dropped with it.
      if inComment then dropComments (c ≠ '\n') rest
      else if isBlank c then dropComments false rest
      else if c = '#' then dropComments true rest
      else c :: rest

/-- Drops blanks and comments in verbose mode. -/
def skip (verbose : Bool) (text : List Char) : List Char :=
  if verbose then dropComments false text else text

/-- Nothing is put in front of what is left when blanks and comments are dropped. -/
theorem length_dropComments_le (inComment : Bool) (text : List Char) :
    (dropComments inComment text).length ≤ text.length := by
  induction text generalizing inComment with
  | nil => simp [dropComments]
  | cons c rest ih =>
    unfold dropComments
    split
    · exact Nat.le_succ_of_le (ih _)
    · split
      · exact Nat.le_succ_of_le (ih _)
      · split
        · exact Nat.le_succ_of_le (ih _)
        · exact Nat.le_refl _

/-- Skipping blanks does not lengthen a text. -/
theorem length_skip_le (verbose : Bool) (text : List Char) :
    (skip verbose text).length ≤ text.length := by
  unfold skip
  split
  · exact length_dropComments_le _ _
  · exact Nat.le_refl _

/-- Behind a character that is read, skipping leaves less than there was. -/
theorem length_skip_lt (verbose : Bool) (c : Char) (rest : List Char) :
    (skip verbose rest).length < (c :: rest).length :=
  Nat.lt_succ_of_le (length_skip_le verbose rest)

/-- Behind the first character that is not skipped there is less than there was. -/
theorem length_lt_of_skip_eq {verbose : Bool} {text rest : List Char} {c : Char}
    (h : skip verbose text = c :: rest) : rest.length < text.length := by
  have := length_skip_le verbose text
  rw [h] at this
  exact this

/-- The character behind the first one, past blanks in verbose mode. The first number sign is
passed over as well, but not the comment that it begins. -/
def peekBehind (verbose : Bool) (text : List Char) : Option Char :=
  let behind := text.drop 1
  if verbose then
    let rec go (inComment : Bool) : List Char → Option Char
      | [] => behind.head?
      | c :: rest =>
          if isBlank c then go inComment rest
          else if !inComment && c = '#' then go true rest
          else some c
    go false behind
  else behind.head?

/-- The bound on the counts of a repetition. -/
def countBound : Nat := 0x100000000

/-- Characters of a kind, between which verbose mode skips blanks, and what follows them. -/
def takeSpaced (kind : Char → Bool) (verbose : Bool) (text : List Char) :
    List Char × List Char :=
  match text with
  | c :: rest =>
      if kind c then
        let (taken, others) := takeSpaced kind verbose (skip verbose rest)
        (c :: taken, others)
      else ([], text)
  | [] => ([], [])
termination_by text.length
decreasing_by exact length_skip_lt ..

/-- A count of a repetition, with blanks around it in any mode. -/
def count? (verbose : Bool) (text : List Char) : Option (Nat × List Char) :=
  let (digits, rest) := takeSpaced Char.isDigit verbose (text.dropWhile isBlank)
  let value := digits.foldl Unicode.pushDigit 0
  -- A count that does not fit 32 bits is refused.
  if digits ≠ [] ∧ value < countBound then some (value, skip verbose (rest.dropWhile isBlank))
  else none

/-- Whether a character is a letter of any script. -/
def isLetter (c : Char) : Bool :=
  Unicode.alphabetic.contains c || Unicode.addedAlphabetic.contains c

/-- The characters whose category is a number. -/
def numberSet : CodePointSet :=
  (Unicode.ofCategories ["Nd", "Nl", "No"].contains).union Unicode.addedNumbers

/-- Whether a character may stand in the name of a group. -/
def isNameChar (first : Bool) (c : Char) : Bool :=
  c = '_' || isLetter c ||
    (!first && (c = '.' || c = '[' || c = ']' || c.isDigit || isNumber c))
where
  /-- Whether a character beyond ASCII is a number. -/
  isNumber (c : Char) : Bool := c.toNat > 0x7f && numberSet.contains c

/-- The name of a group up to the closing angle bracket. -/
def groupName? (text : List Char) : Option (String × List Char) :=
  let name := text.takeWhile (· ≠ '>')
  match text.dropWhile (· ≠ '>'), name with
  | _ :: rest, first :: others =>
      if isNameChar true first && others.all (isNameChar false) then
        some (String.ofList name, rest)
      else none
  | _, _ => none

/-! ### Escapes -/

/-- The characters with a meaning of their own, which a backslash takes away. -/
def isMeta (c : Char) : Bool := "\\.+*?()|[]\x7b\x7d^$#&-~".toList.contains c

/-- Whether a backslash may stand in front of a character that means nothing by itself: ASCII
except letters, digits and angle brackets. -/
def isEscapable (c : Char) : Bool :=
  isMeta c || (c.toNat < 0x80 && !c.isAlphanum && c ≠ '<' && c ≠ '>')

/-- Hexadecimal digits of a fixed number, in front of which verbose mode skips blanks. -/
def fixedHex? (verbose : Bool) : Nat → List Char → Option (List Char × List Char)
  | 0, text => some ([], text)
  | n + 1, text =>
      match skip verbose text with
      | [] => none
      | c :: rest =>
          if isHexDigit c then
            (fixedHex? verbose n rest).map fun (digits, rest) => (c :: digits, rest)
          else none

/-- The text up to a closing brace, which verbose mode thins of blanks, and what follows. -/
def braced? (verbose : Bool) (text : List Char) : Option (List Char × List Char) :=
  match _h : skip verbose text with
  | [] => none
  | c :: rest =>
      if c = '\x7d' then some ([], rest)
      else (braced? verbose rest).map fun (inner, rest) => (c :: inner, rest)
termination_by text.length
decreasing_by exact length_lt_of_skip_eq _h

/-- A character by its number, behind the letter of the escape. -/
def hexLiteral? (verbose : Bool) (digits : Nat) (text : List Char) :
    Option (Primitive × List Char) :=
  match skip verbose text with
  | '\x7b' :: rest => do
      let (inner, rest) ← braced? verbose rest
      if inner ≠ [] ∧ inner.all isHexDigit then
        let c ← charOfHex? inner
        -- Between braces no number of digits makes it a byte.
        some (.literal ⟨c, false⟩, rest)
      else none
  | _ => do
      let (inner, rest) ← fixedHex? verbose digits text
      let c ← charOfHex? inner
      some (.literal ⟨c, digits = 2⟩, rest)

/-- Cuts a text at the first occurrence of a separator. -/
def cutAt? (separator : List Char) : List Char → Option (List Char × List Char)
  | [] => none
  | c :: rest =>
      if separator.isPrefixOf (c :: rest) then some ([], (c :: rest).drop separator.length)
      else (cutAt? separator rest).map fun (before, behind) => (c :: before, behind)

/-- The question in the braces of a property class. -/
def propertyQuery (inner : List Char) : PropertyQuery :=
  let valued (equal : Bool) (name value : List Char) : PropertyQuery :=
    .valued equal (String.ofList name) (String.ofList value)
  -- The sign of inequality is looked for first, since it ends in that of equality.
  match cutAt? ['!', '='] inner with
  | some (name, value) => valued false name value
  | none =>
      match (cutAt? [':'] inner).or (cutAt? ['='] inner) with
      | some (name, value) => valued true name value
      | none => .named (String.ofList inner)

/-- A property class behind its letter. -/
def property? (verbose : Bool) (negated : Bool) (text : List Char) :
    Option (Primitive × List Char) :=
  match skip verbose text with
  | [] => none
  | '\x7b' :: rest => do
      let (inner, rest) ← braced? verbose rest
      some (.property (propertyQuery inner) negated, rest)
  | c :: rest =>
      if c = '\\' then none
      else some (.property (.named (String.ofList [c])) negated, rest)

/-- Whether a character may stand in the name of a word boundary. -/
def isBoundaryChar (c : Char) : Bool := c.isAlpha || c = '-'

/-- The side of a word that a name asks for. -/
def wordSide? (name : List Char) : Option Anchor :=
  if name = "start".toList then some .wordStart
  else if name = "end".toList then some .wordEnd
  else if name = "start-half".toList then some .wordStartHalf
  else if name = "end-half".toList then some .wordEndHalf
  else none

/-- The side of a word, given a name and what follows it, which is a closing brace. -/
def closedSide? : List Char × List Char → Option (Anchor × List Char)
  | (name, '\x7d' :: rest) => do
      let anchor ← wordSide? name
      some (anchor, rest)
  | _ => none

/-- A word boundary behind its letter. A name in braces asks for one side of a word only, and
braces without a name are left for a repetition. -/
def boundary? (verbose : Bool) (text : List Char) : Option (Anchor × List Char) :=
  match text with
  | '\x7b' :: inner =>
      match skip verbose inner with
      | [] => some (.wordBoundary, text)
      | c :: rest =>
          if isBoundaryChar c then closedSide? (takeSpaced isBoundaryChar verbose (c :: rest))
          else some (.wordBoundary, text)
  | _ => some (.wordBoundary, text)

/-- What a backslash makes of the text behind it. -/
def escape? (verbose : Bool) : List Char → Option (Primitive × List Char)
  | [] => none
  | c :: rest =>
      let literal (char : Char) := some (Primitive.literal ⟨char, false⟩, rest)
      if isEscapable c then literal c
      else
        match c with
        | 'x' => hexLiteral? verbose 2 rest
        | 'u' => hexLiteral? verbose 4 rest
        | 'U' => hexLiteral? verbose 8 rest
        | 'p' => property? verbose false rest
        | 'P' => property? verbose true rest
        | 'd' => some (.shorthand .digit false, rest)
        | 'D' => some (.shorthand .digit true, rest)
        | 's' => some (.shorthand .space false, rest)
        | 'S' => some (.shorthand .space true, rest)
        | 'w' => some (.shorthand .word false, rest)
        | 'W' => some (.shorthand .word true, rest)
        | 'a' => literal '\x07'
        | 'f' => literal '\x0c'
        | 't' => literal '\t'
        | 'n' => literal '\n'
        | 'r' => literal '\r'
        | 'v' => literal '\x0b'
        | 'A' => some (.anchor .textStart, rest)
        | 'z' => some (.anchor .textEnd, rest)
        | 'b' => (boundary? verbose rest).map fun (anchor, rest) => (.anchor anchor, rest)
        | 'B' => some (.anchor .notWordBoundary, rest)
        | '<' => some (.anchor .wordStart, rest)
        | '>' => some (.anchor .wordEnd, rest)
        | _ => none

/-! ### Bracketed classes -/

/-- The named ASCII classes. -/
def asciiClasses : List (String × CodePointSet) :=
  [("alnum", ⟨[(0x30, 0x39), (0x41, 0x5a), (0x61, 0x7a)]⟩),
    ("alpha", ⟨[(0x41, 0x5a), (0x61, 0x7a)]⟩),
    ("ascii", ⟨[(0, 0x7f)]⟩),
    ("blank", ⟨[(0x9, 0x9), (0x20, 0x20)]⟩),
    ("cntrl", ⟨[(0, 0x1f), (0x7f, 0x7f)]⟩),
    ("digit", ⟨[(0x30, 0x39)]⟩),
    ("graph", ⟨[(0x21, 0x7e)]⟩),
    ("lower", ⟨[(0x61, 0x7a)]⟩),
    ("print", ⟨[(0x20, 0x7e)]⟩),
    ("punct", ⟨[(0x21, 0x2f), (0x3a, 0x40), (0x5b, 0x60), (0x7b, 0x7e)]⟩),
    ("space", ⟨[(0x9, 0xd), (0x20, 0x20)]⟩),
    ("upper", ⟨[(0x41, 0x5a)]⟩),
    ("word", ⟨[(0x30, 0x39), (0x41, 0x5a), (0x5f, 0x5f), (0x61, 0x7a)]⟩),
    ("xdigit", ⟨[(0x30, 0x39), (0x41, 0x46), (0x61, 0x66)]⟩)]

/-- An ASCII class by its name, up to a colon and a closing bracket. -/
def asciiName? (negated : Bool) (inner : List Char) : Option (SetItem × List Char) := do
  let (name, rest) ← cutAt? [':'] inner
  let rest ← match rest with
    | ']' :: rest => some rest
    | _ => none
  let set ← asciiClasses.lookup (String.ofList name)
  some (.ascii set negated, rest)

/-- A named ASCII class behind its opening bracket; anything else is none. -/
def asciiClass? : List Char → Option (SetItem × List Char)
  | ':' :: '^' :: inner => asciiName? true inner
  | ':' :: inner => asciiName? false inner
  | _ => none

/-- One end of a range, or a member that stands alone. -/
def setPrimitive? (verbose : Bool) : List Char → Option (Primitive × List Char)
  | '\\' :: rest => escape? verbose rest
  | c :: rest => some (.literal ⟨c, false⟩, rest)
  | [] => none

/-- A primitive as a member of a class, which an anchor cannot be. -/
def SetItem.ofPrimitive? : Primitive → Option SetItem
  | .literal l => some (.literal l)
  | .shorthand kind negated => some (.shorthand kind negated)
  | .property query negated => some (.property query negated)
  | .dot | .anchor _ => none

/-- A range from its ends, which are single characters in their order. -/
def SetItem.range? : Primitive → Primitive → Option SetItem
  | .literal low, .literal high => if low.char ≤ high.char then some (.range low high) else none
  | _, _ => none

/-- A member of a class from what it starts with and the text behind that. A hyphen there makes
it a range, unless a closing bracket or another hyphen follows. -/
def itemFrom? (verbose : Bool) (first : Primitive) (text : List Char) :
    Option (SetItem × List Char) :=
  match text with
  | '-' :: behind =>
      if peekBehind verbose text = some ']' ∨ peekBehind verbose text = some '-' then do
        let item ← SetItem.ofPrimitive? first
        some (item, text)
      else do
        let (second, rest) ← setPrimitive? verbose (skip verbose behind)
        let item ← SetItem.range? first second
        some (item, rest)
  | _ => do
      let item ← SetItem.ofPrimitive? first
      some (item, text)

/-- A member of a class: a range, or what stands alone. -/
def setItem? (verbose : Bool) (text : List Char) : Option (SetItem × List Char) := do
  let (first, rest) ← setPrimitive? verbose text
  itemFrom? verbose first (skip verbose rest)

/-- The sign of negation at the start of a class. -/
def negation (verbose : Bool) (text : List Char) : Bool × List Char :=
  match skip verbose text with
  | '^' :: rest => (true, skip verbose rest)
  | text => (false, text)

/-- The first members of a class, given the hyphens that it starts with, which stand for
themselves. Without hyphens a closing bracket stands for itself. -/
def firstMembers (verbose : Bool) : List Char × List Char → List SetToken × List Char
  | ([], ']' :: rest) => ([.item (.literal ⟨']', false⟩)], skip verbose rest)
  | (hyphens, rest) => (hyphens.map fun c => .item (.literal ⟨c, false⟩), rest)

/-- The start of a class behind its opening bracket: a sign of negation, then hyphens, or a
closing bracket that stands for itself. -/
def openSet (verbose : Bool) (text : List Char) : List SetToken × List Char :=
  let (negated, text) := negation verbose text
  let (members, rest) := firstMembers verbose (takeSpaced (· = '-') verbose text)
  (.opening negated :: members, rest)

/-- The operation of a sign that is written twice. -/
def operationOf? : Char → Option SetOperation
  | '&' => some .intersection
  | '-' => some .difference
  | '~' => some .symmetricDifference
  | _ => none

/-- An operation at the start of a text. -/
def setOperation? : List Char → Option (SetOperation × List Char)
  | c :: d :: rest =>
      if c = d then (operationOf? c).map fun operation => (operation, rest) else none
  | _ => none

/-- An operation or a member of a class. -/
def setToken? (verbose : Bool) (text : List Char) : Option (SetToken × List Char) :=
  match setOperation? text with
  | some (operation, rest) => some (.operation operation, rest)
  | none => (setItem? verbose text).map fun (item, rest) => (.item item, rest)

/-- The next tokens of a class with `depth + 1` open brackets, the open brackets behind them,
and the rest. -/
def setTokens? (verbose : Bool) (depth : Nat) (text : List Char) :
    Option ((List SetToken × Nat) × List Char) :=
  match text with
  | [] => none
  | '[' :: rest =>
      -- What looks like an ASCII class but is none opens a class within the class.
      match asciiClass? rest with
      | some (item, rest) => some (([.item item], depth + 1), rest)
      | none =>
          let (tokens, rest) := openSet verbose rest
          some ((tokens, depth + 2), rest)
  | ']' :: rest => some (([.closing], depth), rest)
  | text => (setToken? verbose text).map fun (token, rest) => (([token], depth + 1), rest)

/-- The tokens of a class with `depth` open brackets, up to its end. -/
def restOfSet? (verbose : Bool) (depth : Nat) (text : List Char) :
    Option (List SetToken × List Char) :=
  match depth with
  | 0 => some ([], text)
  | depth + 1 => do
      let ((tokens, depth), rest) ← setTokens? verbose depth (skip verbose text)
      -- Tokens take at least one character, so this always holds.
      if rest.length < text.length then
        let (others, rest) ← restOfSet? verbose depth rest
        some (tokens ++ others, rest)
      else none
termination_by text.length

/-- A class behind its opening bracket. -/
def set? (verbose : Bool) (text : List Char) : Option (Token × List Char) := do
  let (tokens, rest) := openSet verbose text
  let (others, rest) ← restOfSet? verbose 1 rest
  some (.set (tokens ++ others), rest)

/-! ### Groups and repetitions -/

/-- The flag of a letter. -/
def flag? : Char → Option Flag
  | 'i' => some .ignoreCase
  | 'm' => some .multiLine
  | 's' => some .dotAll
  | 'U' => some .swapGreed
  | 'u' => some .unicode
  | 'R' => some .crlf
  | 'x' => some .verbose
  | _ => none

/-- The settings that letters write: those behind the minus are taken back. There is at most
one minus, it does not stand last, and no letter comes twice. -/
def flagSettings? (letters : List Char) : Option FlagSettings := do
  let set := letters.takeWhile (· ≠ '-')
  let cleared := letters.dropWhile (· ≠ '-')
  let on ← set.mapM flag?
  let off ← match cleared with
    | [] => some []
    | [_] => none
    | _ :: letters => letters.mapM flag?
  if (on ++ off).Nodup then some (on.map (·, true) ++ off.map (·, false)) else none

/-- A group with a name. Look-behind starts with the same signs and is refused. -/
def namedGroup? (text : List Char) : Option (Token × List Char) := do
  let (name, rest) ← groupName? text
  some (.opening true (some name) [], rest)

/-- Flags for a group that a colon opens, or for the rest of the group around them. -/
def flaggedGroup? (text : List Char) : Option (Token × List Char) := do
  let letters := text.takeWhile fun c => c ≠ ':' && c ≠ ')'
  let settings ← flagSettings? letters
  match text.dropWhile fun c => c ≠ ':' && c ≠ ')' with
  | ':' :: rest => some (.opening false none settings, rest)
  -- Without a colon there has to be something to set.
  | ')' :: rest => if letters = [] then none else some (.flags settings, rest)
  | _ => none

/-- A group with a question mark, behind the mark. -/
def markedGroup? : List Char → Option (Token × List Char)
  | 'P' :: '<' :: rest => namedGroup? rest
  | '<' :: rest => namedGroup? rest
  | text => flaggedGroup? text

/-- What an opening parenthesis begins, given the text behind it. -/
def group? (verbose : Bool) (text : List Char) : Option (Token × List Char) :=
  match skip verbose text with
  | '?' :: rest => markedGroup? rest
  | _ => some (.opening true none [], text)

/-- A repetition, which a question mark behind it makes lazy. In front of the mark verbose mode
skips blanks. -/
def repeated (verbose : Bool) (low : Nat) (high : Option Nat) (text : List Char) :
    Token × List Char :=
  match skip verbose text with
  | '?' :: rest => (.repetition low high true, rest)
  | _ => (.repetition low high false, text)

/-- A count in front of a closing brace. -/
def closedCount? : Nat × List Char → Option (Option Nat × List Char)
  | (count, '\x7d' :: rest) => some (some count, rest)
  | _ => none

/-- The high count behind a comma, up to the closing brace; there may be none. -/
def highCount? (verbose : Bool) : List Char → Option (Option Nat × List Char)
  | '\x7d' :: rest => some (none, rest)
  | text => do
      let count ← count? verbose text
      closedCount? count

/-- What stands behind the low count, up to the closing brace. -/
def countsBehind? (verbose : Bool) (low : Nat) : List Char → Option (Option Nat × List Char)
  | '\x7d' :: rest => some (some low, rest)
  | ',' :: rest => highCount? verbose (skip verbose rest)
  | _ => none

/-- A repetition with counts, behind its opening brace. -/
def counted? (verbose : Bool) (text : List Char) : Option (Token × List Char) := do
  let (low, rest) ← count? verbose (skip verbose text)
  let (high, rest) ← countsBehind? verbose low rest
  if high.all (low ≤ ·) then some (repeated verbose low high rest) else none

/-! ### Whole patterns -/

/-- The token at the start of a text that is not empty and from which blanks have been
skipped. -/
def Token.read? (verbose : Bool) : List Char → Option (Token × List Char)
  | [] => none
  | c :: rest =>
      match c with
      | '(' => group? verbose rest
      | ')' => some (.closing, rest)
      | '|' => some (.bar, rest)
      | '[' => set? verbose rest
      -- Behind a sign of repetition no blanks are skipped, even in verbose mode.
      | '?' => some (repeated false 0 (some 1) rest)
      | '*' => some (repeated false 0 none rest)
      | '+' => some (repeated false 1 none rest)
      | '\x7b' => counted? verbose rest
      | '\\' => (escape? verbose rest).map fun (p, rest) => (.primitive p, rest)
      | '.' => some (.primitive .dot, rest)
      | '^' => some (.primitive (.anchor .lineStart), rest)
      | '$' => some (.primitive (.anchor .lineEnd), rest)
      | c => some (.primitive (.literal ⟨c, false⟩), rest)

/-- The verbose modes of the open groups after a token, the innermost first. A closing bracket
without a group is refused. -/
def Token.scopes? : Token → List Bool → Option (List Bool)
  | .opening _ _ settings, verbose :: outer =>
      some ((settings.lookup .verbose).getD verbose :: verbose :: outer)
  | .flags settings, verbose :: outer =>
      some ((settings.lookup .verbose).getD verbose :: outer)
  -- The mode of the group around comes back in force.
  | .closing, _ :: verbose :: outer => some (verbose :: outer)
  | .closing, _ => none
  | _, scopes => some scopes

/-- The tokens of a text, given the verbose modes of the open groups. -/
def Token.readFrom? (scopes : List Bool) (text : List Char) : Option (List Token) :=
  let verbose := scopes.headD false
  match skip verbose text with
  | [] => if scopes.length = 1 then some [] else none
  | next => do
      let (token, rest) ← Token.read? verbose next
      let scopes ← token.scopes? scopes
      -- A token takes at least one character, so this always holds.
      if rest.length < text.length then
        let others ← Token.readFrom? scopes rest
        some (token :: others)
      else none
termination_by text.length

/-- The tokens of a pattern. -/
def Token.readAll? (text : List Char) : Option (List Token) := Token.readFrom? [false] text

end RecordSieve.Pattern
