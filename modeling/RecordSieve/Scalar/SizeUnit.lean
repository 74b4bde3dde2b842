import RecordSieve.Numeric.Binary64

/-!
# Size Units

The units that may follow a number: `K M G T P E` for the powers of a thousand and
`Ki Mi Gi Ti Pi Ei` for the powers of 1024.
-/

namespace RecordSieve

/-- A unit that scales the number in front of it. -/
inductive SizeUnit where
  | kilo
  | mega
  | giga
  | tera
  | peta
  | exa
  | kibi
  | mebi
  | gibi
  | tebi
  | pebi
  | exbi
deriving DecidableEq

namespace SizeUnit

/-- The units, each once. -/
def all : List SizeUnit :=
  [kilo, mega, giga, tera, peta, exa, kibi, mebi, gibi, tebi, pebi, exbi]

/-- The written form of a unit. -/
def suffix : SizeUnit → List Char
  | kilo => ['K']
  | mega => ['M']
  | giga => ['G']
  | tera => ['T']
  | peta => ['P']
  | exa => ['E']
  | kibi => ['K', 'i']
  | mebi => ['M', 'i']
  | gibi => ['G', 'i']
  | tebi => ['T', 'i']
  | pebi => ['P', 'i']
  | exbi => ['E', 'i']

/-- The unit that a text writes. -/
def ofSuffix? (text : List Char) : Option SizeUnit := all.find? (·.suffix = text)

/-- How many ones the unit stands for. -/
def factor : SizeUnit → Nat
  | kilo => 1000
  | mega => Nat.pow 1000 2
  | giga => Nat.pow 1000 3
  | tera => Nat.pow 1000 4
  | peta => Nat.pow 1000 5
  | exa => Nat.pow 1000 6
  | kibi => 1024
  | mebi => Nat.pow 1024 2
  | gibi => Nat.pow 1024 3
  | tebi => Nat.pow 1024 4
  | pebi => Nat.pow 1024 5
  | exbi => Nat.pow 1024 6

/-- The factor as a binary64 number, which holds each of them exactly. -/
def multiplier (unit : SizeUnit) : Binary64 := Binary64.ofNat unit.factor

/-- The list of the units is complete. -/
theorem mem_all (unit : SizeUnit) : unit ∈ all := by
  cases unit <;> decide

/-- Each unit is found by its written form. -/
@[simp]
theorem ofSuffix?_suffix (unit : SizeUnit) : ofSuffix? unit.suffix = some unit := by
  cases unit <;> decide

/-- What is found has the text as its written form. -/
theorem suffix_of_ofSuffix? {text : List Char} {unit : SizeUnit}
    (h : ofSuffix? text = some unit) : unit.suffix = text := by
  simpa using List.find?_some h

/-- A text is the written form of at most one unit, and reading finds it. -/
theorem ofSuffix?_eq_some_iff {text : List Char} {unit : SizeUnit} :
    ofSuffix? text = some unit ↔ text = unit.suffix :=
  ⟨fun h => (suffix_of_ofSuffix? h).symm, fun h => h ▸ ofSuffix?_suffix unit⟩

end SizeUnit

end RecordSieve
