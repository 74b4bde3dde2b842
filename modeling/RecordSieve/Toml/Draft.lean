import RecordSieve.Toml.Basic
import RecordSieve.Toml.Key

/-!
# Tables under Construction

A TOML file fills its tables line by line, and how a table came to be decides what may still
be added to it: a header opens a table once, dotted keys may only add to tables that dotted
keys have made, and a value is never changed.

## Main definitions

* `Toml.Draft`: the tables so far;
* `Toml.Draft.openTable?`, `Toml.Draft.openRow?`, `Toml.Draft.insert?`: what a line does;
* `Toml.Draft.toToml`: the table when the file ends.
-/

namespace RecordSieve.Toml

/-- How a table came to be. -/
inductive Origin where
  /-- A header opened it, or it is a row or the whole file. -/
  | opened
  /-- It stands above a table that a header opened, and may still be opened itself. -/
  | implied
  /-- A dotted key made it. -/
  | dotted
deriving DecidableEq

/-- What a key of an unfinished table holds. -/
inductive Item where
  | value (value : Toml)
  | table (origin : Origin) (items : List (String × Item))
  /-- The rows of an array of tables, of which the last one can still grow; the others stand
  last first. -/
  | rows (last : List (String × Item)) (others : List (List (String × Item)))

/-- The items of an unfinished table. -/
abbrev Items := List (String × Item)

namespace Items

/-- The items with one under a key that is new or already there. -/
def set (name : String) (item : Item) : Items → Items
  | [] => [(name, item)]
  | (other, old) :: rest =>
      if other = name then (name, item) :: rest else (other, old) :: set name item rest

/-- The items after a change of the table where a path leads, given the origin of the table at
hand. Tables that are missing on the way are made, and an array of tables leads to its last
row. A dotted key may not pass through a table that was opened. -/
def alter? (dotted : Bool) (change : Origin → Items → Option Items) :
    List String → Origin → Items → Option Items
  | [], origin, items => change origin items
  | name :: path, _, items =>
      match items.lookup name with
      | none => do
          -- A table that is missing is made by the line that asks for it.
          let origin := if dotted then .dotted else .implied
          let inner ← alter? dotted change path origin []
          some (items.set name (.table origin inner))
      | some (.table origin inner) =>
          if dotted ∧ origin = .opened then none
          else (alter? dotted change path origin inner).map fun inner =>
            items.set name (.table origin inner)
      | some (.rows last others) =>
          (alter? dotted change path .opened last).map fun last =>
            items.set name (.rows last others)
      | some (.value _) => none

/-- The items with a value under a key that is new. -/
def insert? (key : Key) (value : Toml) (items : Items) : Option Items :=
  alter? true
    (fun origin items =>
      if (key.parents ≠ [] → origin = .dotted) ∧ (items.lookup key.name).isNone then
        some (items.set key.name (.value value))
      else none)
    key.parents .opened items

end Items

mutual

/-- The value of an item. -/
def Item.toToml : Item → Toml
  | .value value => value
  | .table _ items => .table (entries items)
  | .rows last others => .array ((tables others).reverse ++ [.table (entries last)])

/-- The entries of items. -/
def entries : List (String × Item) → List (String × Toml)
  | [] => []
  | (name, item) :: rest => (name, item.toToml) :: entries rest

/-- The tables of rows. -/
def tables : List (List (String × Item)) → List Toml
  | [] => []
  | row :: rest => .table (entries row) :: tables rest

end

/-- The tables of a file so far, and the path of the table that is open. -/
structure Draft where
  root : Items
  place : List String

namespace Draft

/-- The file before its first line. -/
def empty : Draft := ⟨[], []⟩

/-- The draft behind a header of a table. -/
def openTable? (draft : Draft) (key : Key) : Option Draft := do
  let root ← draft.root.alter? false
    (fun _ items =>
      match items.lookup key.name with
      | none => some (items.set key.name (.table .opened []))
      | some (.table .implied inner) => some (items.set key.name (.table .opened inner))
      | some _ => none)
    key.parents .opened
  some ⟨root, key.path⟩

/-- The draft behind a header of one more row of an array of tables. -/
def openRow? (draft : Draft) (key : Key) : Option Draft := do
  let root ← draft.root.alter? false
    (fun _ items =>
      match items.lookup key.name with
      | none => some (items.set key.name (.rows [] []))
      | some (.rows last others) => some (items.set key.name (.rows [] (last :: others)))
      | some _ => none)
    key.parents .opened
  some ⟨root, key.path⟩

/-- The draft behind a value in the open table. -/
def insert? (draft : Draft) (key : Key) (value : Toml) : Option Draft := do
  let root ← draft.root.alter? false (fun _ items => items.insert? key value)
    draft.place .opened
  some { draft with root }

/-- The table when the file ends. -/
def toToml (draft : Draft) : Toml := .table (entries draft.root)

end Draft

end RecordSieve.Toml
