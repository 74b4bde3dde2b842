import RecordSieve.Pattern.Automaton
import RecordSieve.Pattern.Matcher

/-!
# Patterns

The patterns of conditions. A pattern is read, given its modes, and refused if it is nested too
deeply or takes too much room.

The pattern of a condition is put as text behind the start of the value before it is read, so a
pattern that closes the bracket around it reaches beyond it.

## Main definitions

* `Pattern.parse?`: the tree and the expression of a pattern;
* `Regex.ofText?`: the expression of a pattern that keeps to the limits;
* `Pattern.anchored`, `Pattern.compile?`: the expression of a condition's pattern.
-/

namespace RecordSieve

namespace Pattern

/-- The tree and the expression of a pattern, however large. -/
def parse? (text : List Char) : Option (Node × Regex) := do
  let tokens ← Token.readAll? text
  let tree ← Node.ofTokens? tokens
  let (regex, _) ← tree.toRegex? {}
  some (tree, regex)

/-- How deeply a pattern may be nested. -/
def maxDepth : Nat := 250

/-- Whether a pattern keeps to the limits on nesting and room. -/
def fits (tree : Node) (regex : Regex) : Bool := tree.depth ≤ maxDepth && regex.form.fits

end Pattern

/-- The expression of a pattern, if it keeps to the limits. -/
def Regex.ofText? (text : List Char) : Option Regex := do
  let (tree, regex) ← Pattern.parse? text
  if Pattern.fits tree regex then some regex else none

namespace Pattern

/-- The text of a pattern behind the start of the value. -/
def anchored (pattern : List Char) : List Char :=
  "^(?:".toList ++ pattern ++ ")".toList

/-- The expression of a condition's pattern. -/
def compile? (pattern : String) : Option Regex := Regex.ofText? (anchored pattern.toList)

end Pattern

end RecordSieve
