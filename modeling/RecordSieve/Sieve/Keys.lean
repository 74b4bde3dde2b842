import RecordSieve.Sieve.Run

/-!
# Keys

The keys that occur in the records of an input, each once and in ascending order.
-/

namespace RecordSieve

/-- Keys in ascending order, with one more key that is new or already there. -/
def insertKey (key : String) : List String → List String
  | [] => [key]
  | other :: rest =>
      if key < other then key :: other :: rest
      else if key = other then other :: rest
      else other :: insertKey key rest

/-- The keys of what is left of a source, the first line of which has the number `number + 1`,
beside the keys so far. -/
def keysFrom (number : Nat) (keys : List String) (source : Source) :
    Except Failure (List String) :=
  match _hread : source.readLine with
  | .ended => .ok keys
  | .failed reason => .error (.io reason)
  | .line line rest => do
      let fields ← readRecord line (number + 1)
      keysFrom (number + 1) (fields.keys.foldl (fun keys key => insertKey key keys) keys) rest
termination_by source.bytes.length
decreasing_by exact Source.length_lt_of_readLine _hread

/-- The keys of the records of an input. -/
def collectKeys (source : Source) : Except Failure (List String) := keysFrom 0 [] source

/-- The keys as one text. -/
def joinKeys (keys : List String) (separator : String) : String :=
  String.intercalate separator keys

/-- What the collection of keys reports about itself. -/
def keysEvent (keys : List String) (records : Nat) : LogEvent :=
  ⟨.debug, "jsonl_tools::fields",
    "Collected " ++ NumberLayout.natText keys.length ++ " fields from " ++
      NumberLayout.natText records ++ " records"⟩

end RecordSieve
