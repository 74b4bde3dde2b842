import RecordSieve.Numeric.Binary64

/-!
# TOML Values

The values of the files that hold settings. The entries of a table keep the order of the file,
and each key stands once.
-/

namespace RecordSieve

/-- A TOML value. -/
inductive Toml where
  | string (text : String)
  /-- A whole number of 64 bits. -/
  | integer (value : Int)
  | float (value : Binary64)
  | boolean (value : Bool)
  /-- A date, a time of day or both. No setting is one, so which one it is does not matter. -/
  | moment
  | array (items : List Toml)
  | table (entries : List (String × Toml))

end RecordSieve
