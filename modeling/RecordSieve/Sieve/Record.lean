import RecordSieve.Failure
import RecordSieve.Json.Decoder
import RecordSieve.Text.Lines

/-!
# Records

Each line of the input is one record: a JSON object.
-/

namespace RecordSieve

/-- A line as messages show it: replacement characters for what is not UTF-8, and no ends of
lines behind it. -/
def shownLine (line : List UInt8) : String :=
  let text := Utf8.decodeLossy line
  String.ofList (text.reverse.dropWhile fun c => c = '\n' || c = '\r').reverse

/-- The fields of the record on a line, which has the given number. -/
def readRecord (line : List UInt8) (number : Nat) : Except Failure Fields :=
  match Json.decodeObject line with
  | .ok fields => .ok fields
  | .error diagnosis => .error (.notARecord number (shownLine line) diagnosis)

end RecordSieve
