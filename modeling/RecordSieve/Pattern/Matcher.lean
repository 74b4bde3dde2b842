import RecordSieve.Pattern.Regex

/-!
# Matching

Which places of a text a match can reach. All the matches that start at any of several places are
followed at once, so no choice has to be taken back. Several places are a list in which the last
place of the text comes first and none comes twice.

`Regex.Matches` says what a match is, and `Regex.ends` finds all of them from some starts.

## Main definitions

* `Place`: a place of a text, with the text around it;
* `Regex.Matches`: the expression matches the text between two places;
* `Regex.ends`: the places where matches from some places can end;
* `Regex.isMatch`: whether the text has a match anywhere.
-/

namespace RecordSieve

namespace Pattern

/-- Whether a character is a word character. -/
def isWordChar (unicode : Bool) (c : Char) : Bool :=
  if unicode then wordSet.contains c else asciiWordSet.contains c

/-- Whether a place lies at an edge of a word, given whether the characters before and behind it
belong to words. -/
def WordEdge.holds (before behind : Bool) : WordEdge → Bool
  | .boundary => before != behind
  | .notBoundary => before == behind
  | .start => !before && behind
  | .stop => before && !behind
  | .startHalf => !before
  | .stopHalf => !behind

/-- Whether a question is answered by the characters before and behind a place, which are
missing at the ends of the text. -/
def Look.holds (before behind : Option Char) : Look → Bool
  | .textStart => before.isNone
  | .textEnd => behind.isNone
  | .lineStart false => before.all (· = '\n')
  | .lineEnd false => behind.all (· = '\n')
  | .lineStart true => before.all (· = '\n') || (before = some '\r' && behind ≠ some '\n')
  | .lineEnd true => behind.all (· = '\r') || (behind = some '\n' && before ≠ some '\r')
  | .word unicode edge =>
      edge.holds (before.any (isWordChar unicode)) (behind.any (isWordChar unicode))

/-- A place of a text, between two characters or at an end. -/
structure Place where
  /-- How many characters are in front of the place. -/
  index : Nat
  /-- The character in front of the place, which is missing at the start of the text. -/
  before : Option Char
  /-- The characters behind the place. -/
  rest : List Char
deriving DecidableEq

namespace Place

/-- The place at the start of a text. -/
def start (text : List Char) : Place := ⟨0, none, text⟩

/-- The place behind the next character, if that character is in a set. -/
def advance? (set : CodePointSet) (p : Place) : Option Place :=
  match p.rest with
  | [] => none
  | c :: rest => if set.contains c then some ⟨p.index + 1, some c, rest⟩ else none

/-- Whether a question is answered at the place. -/
def answers (l : Look) (p : Place) : Bool := l.holds p.before p.rest.head?

/-- Places, and before them those of the text behind them, given by how many characters and which
one stand in front of it. -/
def follow (index : Nat) (before : Option Char) : List Char → List Place → List Place
  | [], places => ⟨index, before, []⟩ :: places
  | c :: rest, places => follow (index + 1) (some c) rest (⟨index, before, c :: rest⟩ :: places)

/-- All the places of a text. -/
def all (text : List Char) : List Place := follow 0 none text []

/-- The places in either of two lists. -/
def merge : List Place → List Place → List Place
  | [], qs => qs
  | p :: ps, qs =>
      qs.takeWhile (p.index < ·.index) ++ p :: merge ps (qs.dropWhile (p.index ≤ ·.index))

/-- The places in the first of two lists that are not in the second. -/
def without : List Place → List Place → List Place
  | [], _ => []
  | p :: ps, qs =>
      let qs := qs.dropWhile (p.index < ·.index)
      if qs.head?.any (·.index = p.index) then without ps qs else p :: without ps qs

/-- The places after `n` rounds. Once a round changes nothing, the later ones change nothing
either. -/
def rounds (step : List Place → List Place) : Nat → List Place → List Place
  | 0, places => places
  | n + 1, places =>
      let next := step places
      if next.map index = places.map index then places else rounds step n next

/-- The places after any number of rounds up to `n`, beside those that have been seen already.
Only the fresh ones among these, which the last round was the first to reach, can lead to more. -/
def roundsUpTo (step : List Place → List Place) : Nat → (seen fresh : List Place) → List Place
  | 0, seen, _ => seen
  | n + 1, seen, fresh =>
      match without (step fresh) seen with
      | [] => seen
      | fresh => roundsUpTo step n (merge fresh seen) fresh

end Place

end Pattern

namespace Regex

open Pattern

/-- The expression matches the characters between two places. -/
inductive Matches : Regex → Place → Place → Prop where
  | empty {p : Place} : Matches .empty p p
  | char {unicode : Bool} {set : CodePointSet} {p q : Place} :
      p.advance? set = some q → Matches (.char unicode set) p q
  | look {l : Look} {p : Place} : p.answers l = true → Matches (.look l) p p
  | seq {r s : Regex} {p q t : Place} :
      Matches r p q → Matches s q t → Matches (.seq r s) p t
  | altFirst {r s : Regex} {p q : Place} : Matches r p q → Matches (.alt r s) p q
  | altSecond {r s : Regex} {p q : Place} : Matches s p q → Matches (.alt r s) p q
  | repeatNone {r : Regex} {high : Option Nat} {greedy : Bool} {p : Place} :
      Matches (.repeat r 0 high greedy) p p
  | repeatRequired {r : Regex} {low : Nat} {high : Option Nat} {greedy : Bool} {p q t : Place} :
      Matches r p q → Matches (.repeat r low (high.map (· - 1)) greedy) q t →
      Matches (.repeat r (low + 1) high greedy) p t
  | repeatMore {r : Regex} {high : Option Nat} {greedy : Bool} {p q t : Place} :
      high ≠ some 0 → Matches r p q →
      Matches (.repeat r 0 (high.map (· - 1)) greedy) q t →
      Matches (.repeat r 0 high greedy) p t
  | group {capturing : Bool} {r : Regex} {p q : Place} :
      Matches r p q → Matches (.group capturing r) p q

/-- The places where matches of an expression that start at the given places can end. In a text
of `size` places, that many rounds reach all there is to reach. -/
def ends (size : Nat) : Regex → List Place → List Place
  | empty, starts => starts
  | char _ set, starts => starts.filterMap (·.advance? set)
  | look l, starts => starts.filter (·.answers l)
  | seq r s, starts => s.ends size (r.ends size starts)
  | alt r s, starts => Place.merge (r.ends size starts) (s.ends size starts)
  | .repeat r low high _, starts =>
      -- The rounds that are due come first, and those that may follow keep what they reached.
      let required := Place.rounds (r.ends size) low starts
      let more := match high with
        | some high => high - low
        | none => size
      Place.roundsUpTo (r.ends size) more required required
  | group _ r, starts => r.ends size starts

/-- Whether a text has a match anywhere. -/
def isMatch (r : Regex) (text : List Char) : Bool :=
  !(r.ends (text.length + 1) (Place.all text)).isEmpty

end Regex

end RecordSieve
