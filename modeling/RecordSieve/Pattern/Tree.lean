import RecordSieve.Pattern.Token

/-!
# Pattern Trees

The structure of a pattern: groups, alternatives, sequences and repetitions over primitives and
bracketed classes. Trees are built from tokens with a stack of the groups that are open.

## Main definitions

* `Node`, `Node.ofTokens?`: the tree of a pattern;
* `SetTree`, `SetTree.ofTokens?`: the tree of a bracketed class;
* `Node.depth`: how deeply a tree is nested.
-/

namespace RecordSieve.Pattern

/-- The inside of a bracketed class. -/
inductive SetTree where
  | item (item : SetItem)
  /-- The members side by side. -/
  | union (members : List SetTree)
  /-- A class within a class. -/
  | bracketed (negated : Bool) (inside : SetTree)
  | operation (operation : SetOperation) (left right : SetTree)

namespace SetTree

/-- A class whose closing bracket is still to come. -/
structure Open where
  negated : Bool
  /-- The operation that waits for its right side, with its left side. -/
  pending : Option (SetOperation × SetTree)
  /-- The members of the current side, last first. -/
  members : List SetTree

/-- Members side by side; one member stands for itself. -/
def ofMembers : List SetTree → SetTree
  | [member] => member
  | members => union members

/-- Everything inside a class so far. Operations apply from left to right. -/
def Open.inside (o : Open) : SetTree :=
  let side := ofMembers o.members.reverse
  match o.pending with
  | some (op, left) => operation op left side
  | none => side

/-- The open classes after a token, the innermost first. A class that is complete while no other
is open is the result. -/
def step : List Open × Option (Bool × SetTree) → SetToken → List Open × Option (Bool × SetTree)
  | (stack, done), .opening negated => (⟨negated, none, []⟩ :: stack, done)
  | (top :: below :: stack, done), .closing =>
      let member := bracketed top.negated top.inside
      ({ below with members := member :: below.members } :: stack, done)
  | ([top], _), .closing => ([], some (top.negated, top.inside))
  -- What stands in front of the sign, an earlier operation included, is its left side.
  | (top :: stack, done), .operation op =>
      ({ top with pending := some (op, top.inside), members := [] } :: stack, done)
  | (top :: stack, done), .item i =>
      ({ top with members := item i :: top.members } :: stack, done)
  | ([], done), _ => ([], done)

/-- The class that tokens write, with its sign of negation. -/
def ofTokens? (tokens : List SetToken) : Option (Bool × SetTree) :=
  (tokens.foldl step ([], none)).2

mutual

/-- How deeply a class is nested. -/
def depth : SetTree → Nat
  | item _ => 0
  | union [] => 0
  | union members => 1 + depthOfMembers members
  | bracketed _ inside => 1 + inside.depth
  | operation _ left right => 1 + max left.depth right.depth

/-- The depth of the deepest member. -/
def depthOfMembers : List SetTree → Nat
  | [] => 0
  | member :: rest => max member.depth (depthOfMembers rest)

end

end SetTree

/-- A pattern. -/
inductive Node where
  | empty
  /-- Flag settings for what follows in the same group. -/
  | flags (settings : FlagSettings)
  | primitive (primitive : Primitive)
  | set (negated : Bool) (inside : SetTree)
  | repetition (inside : Node) (low : Nat) (high : Option Nat) (isLazy : Bool)
  | group (capturing : Bool) (settings : FlagSettings) (inside : Node)
  | sequence (parts : List Node)
  | alternatives (branches : List Node)

namespace Node

/-- A group whose closing bracket is still to come. -/
structure Open where
  capturing : Bool
  settings : FlagSettings
  /-- The branches before the current one, last first. -/
  branches : List Node
  /-- The parts of the current branch, last first. -/
  parts : List Node

/-- Parts one after the other; one part stands for itself. -/
def ofParts : List Node → Node
  | [] => empty
  | [part] => part
  | parts => sequence parts

/-- Everything inside a group so far. -/
def Open.inside (o : Open) : Node :=
  let branch := ofParts o.parts.reverse
  match o.branches with
  | [] => branch
  | branches => alternatives (branch :: branches).reverse

/-- A group with one more part. -/
def Open.push (o : Open) (part : Node) : Open := { o with parts := part :: o.parts }

/-- The open groups after a token, the innermost first; the last one is the whole pattern. A
repetition needs a part in front of it that is no flag setting. -/
def step : List Open → Token → Option (List Open)
  | [], _ => none
  | top :: stack, .primitive p => some (top.push (primitive p) :: stack)
  | top :: stack, .set tokens => do
      let (negated, inside) ← SetTree.ofTokens? tokens
      some (top.push (set negated inside) :: stack)
  | stack, .opening capturing _ settings => some (⟨capturing, settings, [], []⟩ :: stack)
  | top :: below :: stack, .closing =>
      some (below.push (group top.capturing top.settings top.inside) :: stack)
  | [_], .closing => none
  | top :: stack, .flags settings => some (top.push (flags settings) :: stack)
  | top :: stack, .bar =>
      let branches := ofParts top.parts.reverse :: top.branches
      some ({ top with branches, parts := [] } :: stack)
  | top :: stack, .repetition low high isLazy =>
      match top.parts with
      | [] | flags _ :: _ => none
      | part :: parts =>
          some ({ top with parts := repetition part low high isLazy :: parts } :: stack)

/-- The tree of the only open group. -/
def ofOpen? : List Open → Option Node
  | [whole] => some whole.inside
  | _ => none

/-- The tree that tokens write. Group brackets have to be balanced and the names of groups
different. -/
def ofTokens? (tokens : List Token) : Option Node :=
  if (tokens.filterMap Token.name?).Nodup then
    (tokens.foldlM step [⟨false, [], [], []⟩]).bind ofOpen?
  else none

mutual

/-- How deeply a pattern is nested. -/
def depth : Node → Nat
  | empty | flags _ | primitive _ => 0
  | set _ inside => 1 + inside.depth
  | repetition inside .. => 1 + inside.depth
  | group _ _ inside => 1 + inside.depth
  | sequence parts => 1 + depthOfParts parts
  | alternatives branches => 1 + depthOfParts branches

/-- The depth of the deepest part. -/
def depthOfParts : List Node → Nat
  | [] => 0
  | part :: rest => max part.depth (depthOfParts rest)

end

end Node

end RecordSieve.Pattern
