import RecordSieve.Numeric.Layout

/-!
# JSON Values

The values of the documents. The fields of an object stand in ascending order of their keys,
and each key stands once.
-/

namespace RecordSieve

/-- A number of a document. -/
inductive JsonNumber where
  /-- A whole number written without point and exponent, from `-2 ^ 63` up to `2 ^ 64 - 1`. -/
  | integer (value : Int)
  /-- Every other number. -/
  | float (value : Binary64)
deriving DecidableEq

/-- A JSON value. -/
inductive Json where
  | null
  | bool (value : Bool)
  | number (value : JsonNumber)
  | string (text : String)
  | array (items : List Json)
  | object (fields : List (String × Json))

/-- The fields of an object, in ascending order of their keys, each key once. -/
abbrev Fields := List (String × Json)

namespace Fields

/-- The fields with a value under a key: a key that was present keeps its place and loses its
former value. -/
def insert (key : String) (value : Json) : Fields → Fields
  | [] => [(key, value)]
  | (other, old) :: rest =>
      if key < other then (key, value) :: (other, old) :: rest
      else if key = other then (key, value) :: rest
      else (other, old) :: insert key value rest

/-- The value under a key. -/
def get? (fields : Fields) (key : String) : Option Json := fields.lookup key

/-- The keys, in ascending order. -/
def keys (fields : Fields) : List String := fields.map (·.1)

end Fields

end RecordSieve
