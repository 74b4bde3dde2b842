import RecordSieve.Pattern.Regex

/-!
# Forms of Expressions

The form in which an expression is laid out as an automaton. It is simpler than the expression
as it was written: characters in a row are one text, sequences and choices are flat, a choice
between single characters or between sets is a set, and what all the branches of a choice begin
with stands in front of the choice.

## Main definitions

* `Form`, and the operations that keep it simple: `Form.ofSet`, `inOrder`, `either`, `times`;
* `Form.minLength`, `Form.maxLength`: how many bytes a match takes;
* `Form.isAnchored`: whether each match lies at a certain place;
* `Regex.form`: the form of an expression.
-/

namespace RecordSieve

namespace Pattern

/-- An expression in the form in which it is laid out. -/
inductive Form where
  /-- The empty text. -/
  | empty
  /-- Certain characters in a row. -/
  | text (chars : List Char)
  /-- One character of a set. -/
  | set (unicode : Bool) (set : CodePointSet)
  /-- No text, at a certain place. -/
  | look (look : Look)
  /-- Several in a row, at least `low` and at most `high`. -/
  | repetition (inside : Form) (low : Nat) (high : Option Nat) (greedy : Bool)
  /-- A group that remembers its text. -/
  | capture (inside : Form)
  | sequence (parts : List Form)
  | choice (branches : List Form)

namespace Form

/-! ### Lengths and places -/

/-- The number of bytes that encode some characters. -/
def byteLength (chars : List Char) : Nat := chars.foldl (fun n c => n + c.utf8Size) 0

mutual

/-- The least number of bytes that a match takes. There is none if nothing matches. -/
def minLength : Form → Option Nat
  | empty | look _ => some 0
  | text chars => some (byteLength chars)
  -- Greater characters take no fewer bytes, and ranges ascend.
  | set _ s => s.ranges.head?.map fun range => (Char.ofNat range.1).utf8Size
  | repetition inside low _ _ => inside.minLength.map (low * ·)
  | capture inside => inside.minLength
  | sequence parts => minLengthInOrder parts
  | choice branches => minLengthOfEither branches

/-- The least number of bytes that all parts take together. -/
def minLengthInOrder : List Form → Option Nat
  | [] => some 0
  | part :: rest => do
      let n ← part.minLength
      let others ← minLengthInOrder rest
      some (n + others)

/-- The least number of bytes that a branch takes, if each branch has such a number. -/
def minLengthOfEither : List Form → Option Nat
  | [] => none
  | [branch] => branch.minLength
  | branch :: rest => do
      let n ← branch.minLength
      let others ← minLengthOfEither rest
      some (min n others)

end

mutual

/-- The greatest number of bytes that a match takes. There is none if nothing matches or there
is no bound. -/
def maxLength : Form → Option Nat
  | empty | look _ => some 0
  | text chars => some (byteLength chars)
  | set _ s => s.ranges.getLast?.map fun range => (Char.ofNat range.2).utf8Size
  | repetition inside _ high _ => do
      let times ← high
      let n ← inside.maxLength
      some (times * n)
  | capture inside => inside.maxLength
  | sequence parts => maxLengthInOrder parts
  | choice branches => maxLengthOfEither branches

/-- The greatest number of bytes that all parts take together. -/
def maxLengthInOrder : List Form → Option Nat
  | [] => some 0
  | part :: rest => do
      let n ← part.maxLength
      let others ← maxLengthInOrder rest
      some (n + others)

/-- The greatest number of bytes that a branch takes, if each branch has such a number. -/
def maxLengthOfEither : List Form → Option Nat
  | [] => none
  | [branch] => branch.maxLength
  | branch :: rest => do
      let n ← branch.maxLength
      let others ← maxLengthOfEither rest
      some (max n others)

end

mutual

/-- Whether every match has a certain place at its start or, looking backward, at its end, as
far as the looks in front of the first character show. -/
def isAnchored (backward : Bool) (place : Look) : Form → Bool
  | empty | text _ | set .. => false
  | look l => l = place
  | repetition inside low _ _ => low ≠ 0 && inside.isAnchored backward place
  | capture inside => inside.isAnchored backward place
  | sequence parts => (isAnchoredInOrder backward place parts).1
  | choice branches => isAnchoredEither backward place branches

/-- Whether a sequence has the place at its start or end, and whether all its parts take no
characters. -/
def isAnchoredInOrder (backward : Bool) (place : Look) : List Form → Bool × Bool
  | [] => (false, true)
  | part :: rest =>
      let here := part.isAnchored backward place
      let isEmpty : Bool := part.maxLength = some 0
      let (others, areEmpty) := isAnchoredInOrder backward place rest
      -- A part is passed over only if it takes no characters.
      (if backward then others || (areEmpty && here) else here || (isEmpty && others),
        isEmpty && areEmpty)

/-- Whether all branches have the place. -/
def isAnchoredEither (backward : Bool) (place : Look) : List Form → Bool
  | [] => true
  | branch :: rest =>
      branch.isAnchored backward place && isAnchoredEither backward place rest

end

mutual

/-- Whether two forms are the same. Two groups that remember their text never are. -/
def isSame : Form → Form → Bool
  | empty, empty => true
  | text s, text t => s = t
  | set u s, set v t => u = v && s = t
  | look l, look m => l = m
  | repetition f low high greedy, repetition g low' high' greedy' =>
      low = low' && high = high' && greedy = greedy' && f.isSame g
  | sequence fs, sequence gs => areSame fs gs
  | choice fs, choice gs => areSame fs gs
  | _, _ => false

/-- Whether two lists of forms are the same. -/
def areSame : List Form → List Form → Bool
  | [], [] => true
  | f :: fs, g :: gs => f.isSame g && areSame fs gs
  | _, _ => false

end

mutual

/-- The number of forms inside a form, itself included. -/
def count : Form → Nat
  | empty | text _ | set .. | look _ => 1
  | repetition inside .. | capture inside => 1 + inside.count
  | sequence parts => 1 + countAll parts
  | choice branches => 1 + countAll branches

/-- The number of forms inside several forms. -/
def countAll : List Form → Nat
  | [] => 0
  | f :: fs => f.count + countAll fs

end

/-! ### Simple forms -/

/-- The form that matches nothing. -/
def never : Form := set false .empty

/-- One character of a set. A set of one character is a text. -/
def ofSet (unicode : Bool) (s : CodePointSet) : Form :=
  match s.ranges with
  | [] => never
  | [(low, high)] => if low = high then text [Char.ofNat low] else set unicode s
  | _ => set unicode s

/-- The parts of a sequence; anything else but the empty text is its own only part. -/
def parts : Form → List Form
  | empty => []
  | sequence parts => parts
  | form => [form]

/-- Texts that stand side by side, as one text. -/
def mergeTexts : List Form → List Form
  | [] => []
  | text s :: rest =>
      match mergeTexts rest with
      | text t :: others => text (s ++ t) :: others
      | others => text s :: others
  | form :: rest => form :: mergeTexts rest

/-- Forms one after the other. -/
def inOrder (forms : List Form) : Form :=
  match mergeTexts (forms.flatMap parts) with
  | [] => empty
  | [form] => form
  | forms => sequence forms

/-- The branches of a choice; anything else is its own only branch. -/
def branches : Form → List Form
  | choice branches => branches
  | form => [form]

/-- The characters that forms stand for, if each of them is a single character. -/
def singles? (forms : List Form) : Option CodePointSet := do
  let chars ← forms.mapM fun
    | text [c] => some c
    | _ => none
  some (.ofRanges (chars.map fun c => (c.toNat, c.toNat)))

/-- The characters that forms stand for, if each of them is a set. -/
def sets? (forms : List Form) : Option CodePointSet := do
  let sets ← forms.mapM fun
    | set _ s => some s
    | _ => none
  some (.unionOf sets)

/-- What two sequences begin with. -/
def sharedParts : List Form → List Form → List Form
  | f :: fs, g :: gs => if f.isSame g then f :: sharedParts fs gs else []
  | _, _ => []

/-- The parts of a form that is a sequence. -/
def sequence? : Form → Option (List Form)
  | sequence parts => some parts
  | _ => none

/-- What several branches all begin with, if each of them is a sequence and they share
something. -/
def shared? (branches : List Form) : Option (List Form) := do
  let sequences ← branches.mapM sequence?
  match sequences with
  | first :: others =>
      let shared := others.foldl sharedParts first
      if shared.isEmpty then none else some shared
  | [] => none

/-- A choice, out of which shared beginnings are taken at most `n` times. -/
def eitherWithin : (n : Nat) → List Form → Form
  | n, forms =>
      match forms.flatMap branches with
      | [] => never
      | [form] => form
      | forms =>
          -- One character out of several is a set, however it was written.
          match (singles? forms).or (sets? forms) with
          | some s => ofSet true s
          | none =>
              match n, shared? forms with
              | n + 1, some shared =>
                  let rests := forms.map fun form => inOrder (form.parts.drop shared.length)
                  inOrder (shared ++ [eitherWithin n rests])
              | _, _ => choice forms

/-- One of several forms. Each time that a shared beginning is taken out there are fewer forms
left, so their number bounds how often that can happen. -/
def either (forms : List Form) : Form := eitherWithin (countAll forms) forms

/-- A form several times in a row. What takes no characters does so only once. -/
def times (inside : Form) (low : Nat) (high : Option Nat) (greedy : Bool) : Form :=
  let (low, high) :=
    -- More copies of what is empty match nothing else than one.
    if inside.maxLength = some 0 then (min low 1, some (min (high.getD 1) 1)) else (low, high)
  if low = 0 ∧ high = some 0 then empty
  else if low = 1 ∧ high = some 1 then inside
  else repetition inside low high greedy

/-- The form of branches that were written side by side; one branch stands for itself. -/
def ofBranches : List Form → Form
  | [form] => form
  | forms => either forms

end Form

end Pattern

namespace Regex

open Pattern

/-- The forms of the branches of an expression. -/
def branchForms : Regex → List Form
  | empty => [.empty]
  | char unicode set => [.ofSet unicode set]
  | look l => [.look l]
  | seq r s => [.inOrder [.ofBranches r.branchForms, .ofBranches s.branchForms]]
  | alt r s => r.branchForms ++ s.branchForms
  | .repeat r low high greedy => [.times (.ofBranches r.branchForms) low high greedy]
  | group capturing r =>
      let inside := Form.ofBranches r.branchForms
      [if capturing then .capture inside else inside]

/-- The form of an expression. -/
def form (r : Regex) : Form := .ofBranches r.branchForms

end Regex

end RecordSieve
