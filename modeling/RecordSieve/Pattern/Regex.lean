import RecordSieve.Pattern.Tree
import RecordSieve.Unicode.Age
import RecordSieve.Unicode.CaseFolding
import RecordSieve.Unicode.ScriptExtension
import RecordSieve.Unicode.Segmentation

/-!
# Regular Expressions

The regular expression that a pattern tree stands for, once the modes in force at each of its
parts have been applied. A part that could only be understood in terms of single bytes of a
character is refused.

## Main definitions

* `Regex`: regular expressions over characters;
* `Modes`: the modes that flags change;
* `Node.toRegex?`: the regular expression of a tree.
-/

namespace RecordSieve

namespace Pattern

/-- The places around a word that a look asks for. -/
inductive WordEdge where
  | boundary
  | notBoundary
  | start
  | stop
  | startHalf
  | stopHalf
deriving DecidableEq

/-- A question about the characters around a place. -/
inductive Look where
  | textStart
  | textEnd
  /-- The start of a line, which a line feed ends or also, in the second form, a carriage
  return. -/
  | lineStart (crlf : Bool)
  | lineEnd (crlf : Bool)
  /-- An edge of a word of Unicode or of ASCII word characters. -/
  | word (unicode : Bool) (edge : WordEdge)
deriving DecidableEq

/-- A property name as it is compared: without spaces, hyphens, underscores, a leading `is` and
all that is not ASCII, in lower case. -/
def normalizeName (name : String) : String :=
  let chars := name.toList
  let isPrefixed := (chars.take 2).map Char.toLower = ['i', 's']
  let kept := (if isPrefixed then chars.drop 2 else chars).filter fun c =>
    c.toNat < 0x80 && c ≠ ' ' && c ≠ '_' && c ≠ '-'
  let lower := kept.map Char.toLower
  -- The name `isc` is not the category `c`.
  if isPrefixed ∧ lower = ['c'] then "isc" else String.ofList lower

/-- The properties that have values, by their names, with the characters of each value. -/
def valuedProperties : List (List String × (String → Option CodePointSet)) :=
  [(["gc", "generalcategory"], Unicode.category?),
    (["sc", "script"], Unicode.script?),
    (["scx", "scriptextensions"], Unicode.scriptExtension?),
    (["age"], Unicode.age?),
    (["gcb", "graphemeclusterbreak"], Unicode.graphemeBreak?),
    (["wb", "wordbreak"], Unicode.wordBreak?),
    (["sb", "sentencebreak"], Unicode.sentenceBreak?)]

/-- The characters of a property class, apart from whether a value is to be another one. A name
that stands alone is a binary property, a general category or a script, whichever has it. -/
def PropertyQuery.set? : PropertyQuery → Option CodePointSet
  | .named name =>
      let name := normalizeName name
      (Unicode.property? name).or ((Unicode.category? name).or (Unicode.script? name))
  | .valued _ property value => do
      let values ← Unicode.byName? valuedProperties (normalizeName property)
      values (normalizeName value)

/-- Whether a property class asks for another value than the one that it gives. -/
def PropertyQuery.differs : PropertyQuery → Bool
  | .named _ => false
  | .valued equal _ _ => !equal

/-- The word characters: letters, marks, decimal digits, connectors and joiners. -/
def wordSet : CodePointSet :=
  Unicode.alphabetic.union <| Unicode.joinControl.union <| Unicode.ofCategories
    ["Mn", "Mc", "Me", "Nd", "Pc"].contains

/-- The decimal digits of all scripts. -/
def digitSet : CodePointSet := Unicode.ofCategories (· = "Nd")

/-- The ASCII word characters. -/
def asciiWordSet : CodePointSet := ⟨[(0x30, 0x39), (0x41, 0x5a), (0x5f, 0x5f), (0x61, 0x7a)]⟩

/-- The characters of a shorthand class. -/
def Shorthand.set (unicode : Bool) : Shorthand → CodePointSet
  | .digit => if unicode then digitSet else ⟨[(0x30, 0x39)]⟩
  | .space => if unicode then ⟨blankRanges⟩ else ⟨[(0x9, 0xd), (0x20, 0x20)]⟩
  | .word => if unicode then wordSet else asciiWordSet

/-- The modes in force at a part of a pattern. -/
structure Modes where
  ignoreCase : Bool := false
  multiLine : Bool := false
  dotAll : Bool := false
  swapGreed : Bool := false
  unicode : Bool := true
  crlf : Bool := false
deriving DecidableEq

namespace Modes

/-- The modes after one setting. The verbose mode matters only for the tokens. -/
def set (modes : Modes) : Flag × Bool → Modes
  | (.ignoreCase, on) => { modes with ignoreCase := on }
  | (.multiLine, on) => { modes with multiLine := on }
  | (.dotAll, on) => { modes with dotAll := on }
  | (.unicode, on) => { modes with unicode := on }
  | (.crlf, on) => { modes with crlf := on }
  | (.swapGreed, on) => { modes with swapGreed := on }
  | (.verbose, _) => modes

/-- The modes after settings. -/
def apply (modes : Modes) (settings : FlagSettings) : Modes := settings.foldl set modes

/-- A set with the other case of its letters, if case is ignored. -/
def fold (modes : Modes) (s : CodePointSet) : CodePointSet :=
  if modes.ignoreCase then if modes.unicode then s.foldCase else s.foldAsciiCase else s

/-- A set or its complement. Outside of Unicode mode a complement would hold bytes that are no
characters, and is refused. -/
def negate? (modes : Modes) (negated : Bool) (s : CodePointSet) : Option CodePointSet :=
  if negated then if modes.unicode then some s.complement else none else some s

/-- A literal as a character. Outside of Unicode mode a byte beyond ASCII is refused. -/
def literal? (modes : Modes) (l : Literal) : Option Char :=
  if !modes.unicode && l.asByte && l.char.toNat > 0x7f then none else some l.char

/-- A literal as a member of a class. Outside of Unicode mode it has to be ASCII. -/
def member? (modes : Modes) (l : Literal) : Option Nat :=
  if !modes.unicode && l.char.toNat > 0x7f then none else some l.char.toNat

/-- The characters of a shorthand class. -/
def shorthand? (modes : Modes) (kind : Shorthand) (negated : Bool) : Option CodePointSet :=
  modes.negate? negated (kind.set modes.unicode)

/-- The characters of a property class, which needs Unicode mode. -/
def property? (modes : Modes) (query : PropertyQuery) (negated : Bool) : Option CodePointSet := do
  let s ← query.set?
  if modes.unicode then modes.negate? (negated != query.differs) (modes.fold s) else none

/-- The characters of a member of a class. -/
def item? (modes : Modes) : SetItem → Option CodePointSet
  | .literal l => (modes.member? l).map fun n => ⟨[(n, n)]⟩
  | .range low high => do
      let low ← modes.member? low
      let high ← modes.member? high
      some (.ofRanges [(low, high)])
  | .ascii s negated => modes.negate? negated (modes.fold s)
  | .shorthand kind negated => modes.shorthand? kind negated
  | .property query negated => modes.property? query negated

/-- The place that an anchor asks for. -/
def look (modes : Modes) : Anchor → Look
  | .lineStart => if modes.multiLine then .lineStart modes.crlf else .textStart
  | .lineEnd => if modes.multiLine then .lineEnd modes.crlf else .textEnd
  | .textStart => .textStart
  | .textEnd => .textEnd
  | .wordBoundary => .word modes.unicode .boundary
  | .notWordBoundary => .word modes.unicode .notBoundary
  | .wordStart => .word modes.unicode .start
  | .wordEnd => .word modes.unicode .stop
  | .wordStartHalf => .word modes.unicode .startHalf
  | .wordEndHalf => .word modes.unicode .stopHalf

/-- The characters that a dot stands for: all, or all but the ends of lines. -/
def dot? (modes : Modes) : Option CodePointSet :=
  if !modes.unicode then none
  else if modes.dotAll then some .all
  else if modes.crlf then some (CodePointSet.complement ⟨[(0xa, 0xa), (0xd, 0xd)]⟩)
  else some (CodePointSet.complement ⟨[(0xa, 0xa)]⟩)

end Modes

/-- The result of an operation between the two sides of a class. -/
def SetOperation.apply : SetOperation → CodePointSet → CodePointSet → CodePointSet
  | .intersection, s, t => s.inter t
  | .difference, s, t => s.diff t
  | .symmetricDifference, s, t => s.symmDiff t

mutual

/-- The characters of a class. Case is folded before an operation or a negation applies. -/
def SetTree.set? (modes : Modes) : SetTree → Option CodePointSet
  | .item i => modes.item? i
  | .union members => (SetTree.sets? modes members).map .unionOf
  | .bracketed negated inside => do
      let s ← inside.set? modes
      modes.negate? negated (modes.fold s)
  | .operation op left right => do
      let s ← left.set? modes
      let t ← right.set? modes
      some (op.apply (modes.fold s) (modes.fold t))

/-- The characters of members, one after the other. -/
def SetTree.sets? (modes : Modes) : List SetTree → Option (List CodePointSet)
  | [] => some []
  | member :: rest => do
      let s ← member.set? modes
      let others ← SetTree.sets? modes rest
      some (s :: others)

end

end Pattern

/-- A regular expression over characters. Some parts do not matter for what it matches, but for
how much room it takes: the greed of repetitions, the groups, and whether a set was written for
Unicode. -/
inductive Regex where
  /-- The empty text. -/
  | empty
  /-- One character of a set. -/
  | char (unicode : Bool) (set : CodePointSet)
  /-- No text, at a certain place. -/
  | look (look : Pattern.Look)
  /-- One after the other. -/
  | seq (first second : Regex)
  /-- One or the other. -/
  | alt (first second : Regex)
  /-- Several in a row, at least `low` and at most `high`; a greedy repetition prefers many. -/
  | repeat (inside : Regex) (low : Nat) (high : Option Nat) (greedy : Bool)
  /-- A group, which remembers its text if it is capturing. -/
  | group (capturing : Bool) (inside : Regex)

namespace Pattern

/-- The regular expression of a primitive. -/
def Modes.primitive? (modes : Modes) : Primitive → Option Regex
  | .literal l => do
      let c ← modes.literal? l
      some (.char modes.unicode (modes.fold (.singleton c)))
  | .dot => modes.dot?.map (.char modes.unicode)
  | .anchor a => some (.look (modes.look a))
  | .shorthand kind negated => (modes.shorthand? kind negated).map (.char modes.unicode)
  | .property query negated => (modes.property? query negated).map (.char modes.unicode)

mutual

/-- The regular expression of a tree and the modes behind it: flag settings hold up to the end
of their group. -/
def Node.toRegex? (modes : Modes) : Node → Option (Regex × Modes)
  | .empty => some (.empty, modes)
  | .flags settings => some (.empty, modes.apply settings)
  | .primitive p => (modes.primitive? p).map (·, modes)
  | .set negated inside => do
      let s ← inside.set? modes
      let s ← modes.negate? negated (modes.fold s)
      some (.char modes.unicode s, modes)
  | .repetition inside low high isLazy => do
      let (r, modes) ← inside.toRegex? modes
      some (.repeat r low high (isLazy == modes.swapGreed), modes)
  | .group capturing settings inside => do
      -- What is set inside of a group ends with it.
      let (r, _) ← inside.toRegex? (modes.apply settings)
      some (.group capturing r, modes)
  | .sequence parts => Node.sequence? modes parts
  | .alternatives branches => Node.alternatives? modes branches

/-- The regular expression of parts one after the other. -/
def Node.sequence? (modes : Modes) : List Node → Option (Regex × Modes)
  | [] => some (.empty, modes)
  | [part] => part.toRegex? modes
  | part :: rest => do
      let (first, modes) ← part.toRegex? modes
      let (second, modes) ← Node.sequence? modes rest
      some (.seq first second, modes)

/-- The regular expression of branches. -/
def Node.alternatives? (modes : Modes) : List Node → Option (Regex × Modes)
  | [] => some (.empty, modes)
  | [branch] => branch.toRegex? modes
  | branch :: rest => do
      let (first, modes) ← branch.toRegex? modes
      let (second, modes) ← Node.alternatives? modes rest
      some (.alt first second, modes)

end

end Pattern

end RecordSieve
