import RecordSieve.Pattern.Encoding
import RecordSieve.Pattern.Form
import Std.Data.TreeMap

/-!
# Automata

The automaton of a form over the bytes of UTF-8, as far as its size goes: how many states it has
and how much room the ways out of its states take. It reads a text forward or backward, and is
given up once it takes more room than the limit.

A set of characters shares the states for equal ends of its byte sequences, or for equal
beginnings when it is read backward. What can be shared is remembered in a table with a fixed
number of places, in which a new state takes the place of an older one with the same hash.

## Main definitions

* `Automaton`, `Automaton.add?`: an automaton and its growth up to the limit;
* `Form.lay?`: the automaton after a form has been laid out behind it;
* `Form.fits`: whether both automata of a form keep to the limit.
-/

namespace RecordSieve.Pattern

/-- The most room that an automaton may take, in bytes. -/
def sizeLimit : Nat := 10 * 1024 * 1024

/-- The room of a state. -/
def stateSize : Nat := 32

/-- The room of a way out of a choice. -/
def choiceSize : Nat := 4

/-- The room of a way out of a state whose ways are ranges of bytes. -/
def byteChoiceSize : Nat := 8

/-- An automaton under construction. -/
structure Automaton where
  /-- The number of its states, which is also the number of the next state. -/
  states : Nat
  /-- The room of the ways out of choices and of states with several ranges of bytes. -/
  ways : Nat
deriving DecidableEq

namespace Automaton

/-- The automaton without states. -/
def empty : Automaton := ⟨0, 0⟩

/-- The room of an automaton. -/
def room (a : Automaton) : Nat := stateSize * a.states + a.ways

/-- The automaton with more states and more room for ways, if it keeps to the limit. -/
def add? (a : Automaton) (states ways : Nat) : Option Automaton :=
  let a : Automaton := ⟨a.states + states, a.ways + ways⟩
  if a.room ≤ sizeLimit then some a else none

end Automaton

/-- What has been laid out: the automaton, and whether the last state is a choice, so that the
way on from it takes room. -/
structure Layout where
  automaton : Automaton
  endsInChoice : Bool

namespace Layout

/-- The automaton once the way on from the last state of an earlier layout has been added. -/
def link? (earlier : Layout) (a : Automaton) : Option Automaton :=
  if earlier.endsInChoice then a.add? 0 choiceSize else some a

/-- The layout with more states behind it, the last of which is no choice. -/
def add? (l : Layout) (states ways : Nat) : Option Layout := do
  let a ← l.link? l.automaton
  let a ← a.add? states ways
  some ⟨a, false⟩

/-- The layout with a choice behind it that also leads back, for which there is room. -/
def addLoop? (l : Layout) : Option Layout := do
  let l ← l.add? 1 choiceSize
  some { l with endsInChoice := true }

/-- The layout of more behind what has been laid out. -/
def next? (l : Layout) (lay : Automaton → Option Layout) : Option Layout :=
  match lay l.automaton with
  | none => none
  | some next =>
      match l.link? next.automaton with
      | none => none
      | some a => some { next with automaton := a }

/-- The layout of the same several times. -/
def copies? (lay : Automaton → Option Layout) : Nat → Layout → Option Layout
  | 0, l => some l
  | n + 1, l =>
      match l.next? lay with
      | none => none
      | some l => copies? lay n l

/-- The layout of the same several times, before each of which there is a choice to stop. -/
def options? (lay : Automaton → Option Layout) : Nat → Layout → Option Layout
  | 0, l => some l
  | n + 1, l =>
      match l.add? 1 (2 * choiceSize) with
      | none => none
      | some l =>
          match l.next? lay with
          | none => none
          | some l => options? lay n l

end Layout

namespace Automaton

/-- The layout of a single state. -/
def state? (a : Automaton) : Option Layout := Layout.add? ⟨a, false⟩ 1 0

/-- The layout of an exact number of copies; none is the empty text. -/
def exactly? (a : Automaton) (lay : Automaton → Option Layout) (n : Nat) : Option Layout :=
  if n = 0 then a.state? else Layout.copies? lay n ⟨a, false⟩

/-- The layout of any number of copies from `n` on. One that may take no characters gets a
choice to pass it by around the loop. -/
def atLeast? (a : Automaton) (lay : Automaton → Option Layout) (takesChars : Bool) (n : Nat) :
    Option Layout := do
  match n with
  | 0 =>
      if takesChars then
        let loop ← a.add? 1 choiceSize
        let l ← Layout.next? ⟨loop, false⟩ lay
        let a ← l.link? l.automaton
        some ⟨a, true⟩
      else
        let l ← Layout.next? ⟨a, false⟩ lay
        let l ← l.addLoop?
        -- The choice to pass by has two ways, and the loop one more.
        let a ← l.automaton.add? 2 (3 * choiceSize)
        some ⟨a, false⟩
  | n + 1 =>
      -- The last of the copies that are due is the one that the loop repeats.
      let l ← if n = 0 then some ⟨a, false⟩ else a.exactly? lay n
      let l ← l.next? lay
      l.addLoop?

/-- The layout of copies from `low` to `high`. -/
def between? (a : Automaton) (lay : Automaton → Option Layout) (low high : Nat) :
    Option Layout := do
  if low = 0 ∧ high = 1 then
    -- The choice to pass by and the copy meet in a state of their own.
    let a ← a.add? 1 (2 * choiceSize)
    let l ← Layout.next? ⟨a, false⟩ lay
    l.add? 1 0
  else
    let l ← a.exactly? lay low
    if low = high then some l
    else
      -- All the choices to stop lead to one state.
      let a ← l.automaton.add? 1 0
      let l ← Layout.options? lay (high - low) { l with automaton := a }
      let a ← l.link? l.automaton
      some ⟨a, false⟩

/-! ### Sets -/

/-- The hash of a list of numbers, which takes one number after the other. -/
def hash (key : List Nat) : UInt64 :=
  key.foldl (fun h n => (h ^^^ n.toUInt64) * 1099511628211) 14695981039346656037

/-- States that can be shared: by a place in a table, what the state stands for and its
number. -/
abbrev Shared := Std.TreeMap Nat (List Nat × Nat)

/-- The number of places for states that are shared when a set is read forward. -/
def forwardPlaces : Nat := 10000

/-- The number of places for states that are shared when a set is read backward. -/
def backwardPlaces : Nat := 1000

/-- The state that stands for a key: a shared one, or a new one with room for its ways. -/
def share? (places : Nat) (key : List Nat) (ways : Nat) (a : Automaton) (shared : Shared) :
    Option (Nat × Automaton × Shared) :=
  let place := (hash key).toNat % places
  let fresh : Option (Nat × Automaton × Shared) := do
    let grown ← a.add? 1 ways
    some (a.states, grown, shared.insert place (key, a.states))
  match shared[place]? with
  -- A place that another key holds is taken over, and its state is not shared any more.
  | some (other, state) => if other = key then some (state, a, shared) else fresh
  | none => fresh

/-- The state that reads the rest of some byte sequences of at most `depth` bytes and goes on to
a target. States are shared by the ranges of bytes that they read and where these lead. -/
def forwardState? (target : Nat) :
    (depth : Nat) → List (List ByteRange) → Automaton → Shared →
      Option (Nat × Automaton × Shared)
  | 0, _, a, shared => some (target, a, shared)
  | depth + 1, sequences, a, shared => do
      -- Sequences that begin with the same range go on in one state.
      let groups := sequences.splitBy fun s t => s.head? = t.head?
      let (key, a, shared) ← groups.foldlM (fun (key, a, shared) group => do
        let tails := group.map List.tail
        let (state, a, shared) ←
          if tails.all List.isEmpty then some (target, a, shared)
          else forwardState? target depth tails a shared
        let range : List Nat := match group with
          | (range :: _) :: _ => [range.1, range.2, state]
          | _ => []
        some (key ++ range, a, shared)) (([] : List Nat), a, shared)
      share? forwardPlaces key (byteChoiceSize * groups.length) a shared

/-- The automaton with the states for a byte sequence that is read backward up to a target: the
state with which its last byte begins. States are shared by the range of bytes that they read
and where it leads. -/
def backwardState? (target : Nat) (sequence : List ByteRange) (a : Automaton)
    (shared : Shared) : Option (Nat × Automaton × Shared) :=
  sequence.foldlM (fun (state, a, shared) range =>
    share? backwardPlaces [state, range.1, range.2] 0 a shared) (target, a, shared)

/-- The layout of a set. A set of ASCII characters needs no sequences of bytes. -/
def set? (a : Automaton) (backward : Bool) (s : CodePointSet) : Option Layout := do
  if s.isAscii then
    Layout.add? ⟨a, false⟩ 2 (byteChoiceSize * s.ranges.length)
  else if backward then
    -- The choice between the sequences comes first, and the state behind the set next.
    let target := a.states + 1
    let a ← a.add? 2 0
    let (a, _) ← s.byteSequences.foldlM (fun (a, shared) sequence => do
      let (_, a, shared) ← backwardState? target sequence a shared
      let a ← a.add? 0 choiceSize
      some (a, shared)) (a, (∅ : Shared))
    some ⟨a, false⟩
  else
    let target := a.states
    let a ← a.add? 1 0
    let (_, a, _) ← forwardState? target 4 s.byteSequences a ∅
    some ⟨a, false⟩

end Automaton

/-! ### Texts side by side -/

/-- A tree of texts, which are read byte by byte. At a place where a text ends, the bytes that
were known by then come first, so `earlier` has the ways that earlier texts opened, in groups
that each end with such a text, and `ways` has those after the last of them. -/
inductive TextTree where
  | node (earlier : List (List (Nat × TextTree))) (ways : List (Nat × TextTree))

namespace TextTree

/-- The tree without texts. -/
def empty : TextTree := node [] []

/-- Whether no byte leads on. -/
def isLeaf : TextTree → Bool
  | node earlier ways => earlier.all List.isEmpty && ways.isEmpty

/-- Ways in ascending order of their bytes, with the way of one byte changed. -/
def amend (byte : Nat) (change : TextTree → TextTree) :
    List (Nat × TextTree) → List (Nat × TextTree)
  | [] => [(byte, change empty)]
  | (other, tree) :: rest =>
      if byte < other then (byte, change empty) :: (other, tree) :: rest
      else if byte = other then (other, change tree) :: rest
      else (other, tree) :: amend byte change rest

/-- The tree with one more text, given by its bytes. -/
def insert : List Nat → TextTree → TextTree
  | [], node earlier ways =>
      -- A text that has ended here before is not marked again.
      if !earlier.isEmpty && isLeaf (node earlier ways) then node earlier ways
      else node (earlier ++ [ways]) []
  | byte :: rest, node earlier ways => node earlier (amend byte (insert rest) ways)

mutual

/-- The number of states and the room of the ways of a tree: a choice, and a state for each
group of ways. -/
def size : TextTree → Nat × Nat
  | node earlier ways =>
      let (states, room) := sizeOfGroups earlier
      let (last, lastRoom) := sizeOfGroup ways
      -- The choice also leads to the end for each text that ends here.
      (1 + states + last, room + lastRoom + choiceSize * earlier.length)

/-- The size of groups of ways. -/
def sizeOfGroups : List (List (Nat × TextTree)) → Nat × Nat
  | [] => (0, 0)
  | group :: rest =>
      let (states, room) := sizeOfGroup group
      let (others, otherRoom) := sizeOfGroups rest
      (states + others, room + otherRoom)

/-- The size of a group of ways with the choice's way to it. A single way takes no room of its
own. -/
def sizeOfGroup : List (Nat × TextTree) → Nat × Nat
  | [] => (0, 0)
  | (_, tree) :: rest =>
      let (states, room) := if tree.isLeaf then (0, 0) else tree.size
      let (others, otherRoom) := sizeOfWays rest
      let own := if rest.isEmpty then 0 else byteChoiceSize
      (1 + states + others, choiceSize + own + room + otherRoom)

/-- The size of what several ways lead to, with the ways. Behind a leaf there is only the
end. -/
def sizeOfWays : List (Nat × TextTree) → Nat × Nat
  | [] => (0, 0)
  | (_, tree) :: rest =>
      let (states, room) := if tree.isLeaf then (0, 0) else tree.size
      let (others, otherRoom) := sizeOfWays rest
      (states + others, byteChoiceSize + room + otherRoom)

end

end TextTree

namespace Form

/-- The bytes of a text, from the last one if it is read backward. -/
def bytes (backward : Bool) (chars : List Char) : List Nat :=
  let bytes := chars.flatMap fun c => (String.utf8EncodeChar c).map UInt8.toNat
  if backward then bytes.reverse else bytes

/-- The texts that forms are, if each of them is one. -/
def texts? (forms : List Form) : Option (List (List Char)) :=
  forms.mapM fun
    | text chars => some chars
    | _ => none

/-- The layout of a choice between texts, which is read as a tree. -/
def layTexts? (backward : Bool) (texts : List (List Char)) (a : Automaton) : Option Layout :=
  let tree := texts.foldl (fun tree chars => tree.insert (bytes backward chars)) TextTree.empty
  let (states, ways) := tree.size
  Layout.add? ⟨a, false⟩ (1 + states) ways

mutual

/-- The layout of a form behind what an automaton has already. Only an automaton that reads
forward remembers the texts of groups. -/
def lay? (backward : Bool) : Form → Automaton → Option Layout
  | empty, a | look _, a => a.state?
  | text chars, a => Layout.add? ⟨a, false⟩ (byteLength chars) 0
  | set _ s, a => a.set? backward s
  | repetition inside low none _, a =>
      a.atLeast? (inside.lay? backward) (inside.minLength.any (· ≠ 0)) low
  | repetition inside low (some high) _, a => a.between? (inside.lay? backward) low high
  | capture inside, a =>
      if backward then inside.lay? backward a
      else do
        let l ← a.state?
        let l ← l.next? (inside.lay? backward)
        l.add? 1 0
  | sequence parts, a => layInOrder? backward parts ⟨a, false⟩
  | choice branches, a =>
      match texts? branches with
      | some texts => layTexts? backward texts a
      | none => do
          let a ← layEither? backward 0 branches a
          some ⟨a, false⟩

/-- The layout of parts behind a layout, the last one first if they are read backward. -/
def layInOrder? (backward : Bool) : List Form → Layout → Option Layout
  | [], l => some l
  | part :: rest, l => do
      if backward then
        let l ← layInOrder? backward rest l
        l.next? (part.lay? backward)
      else
        let l ← l.next? (part.lay? backward)
        layInOrder? backward rest l

/-- The automaton with the branches of a choice, of which `n` stand in front of these. The
choice and the state behind it come after the first two. -/
def layEither? (backward : Bool) : (n : Nat) → List Form → Automaton → Option Automaton
  | _, [], a => some a
  | n, branch :: rest, a => do
      let l ← branch.lay? backward a
      let a ← l.link? l.automaton
      let a ← a.add? (if n = 1 then 2 else 0) choiceSize
      layEither? backward (n + 1) rest a

end

/-- The automaton of a form, which may start to match at any place unless each match lies at
the start of the text, or at its end if the text is read backward. -/
def automaton? (backward : Bool) (form : Form) : Option Automaton := do
  let isAnchored := form.isAnchored backward (if backward then .textEnd else .textStart)
  let start ←
    if isAnchored then Automaton.empty.state?
    else do
      -- A loop over single bytes.
      let a ← Automaton.empty.add? 3 (byteChoiceSize + choiceSize)
      some ⟨a, true⟩
  -- The text of the whole match is remembered like that of a group.
  let whole := if backward then form else capture form
  let l ← Layout.next? { start with endsInChoice := false } (whole.lay? backward)
  let l ← l.add? 1 0
  start.link? l.automaton

/-- Whether both the automaton that reads forward and the one that reads backward keep to the
limit. -/
def fits (form : Form) : Bool :=
  (form.automaton? false).isSome && (form.automaton? true).isSome

end Form

end RecordSieve.Pattern
