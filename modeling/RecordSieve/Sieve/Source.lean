import RecordSieve.Failure
import RecordSieve.Text.Lines

/-!
# Sources

What a reader delivers, read line by line. A failure of the reader loses the line that it
interrupts.

## Main definitions

* `Source`: the bytes that a reader delivers, and how they end;
* `Source.readLine`: one read of a line;
* `Source.lines`, `Source.ending`: all the lines that can be read, and what comes behind them.
-/

namespace RecordSieve

/-- What a reader delivers: bytes, and then the end of the input or a failure in its place. -/
structure Source where
  bytes : List UInt8
  failure : Option String

/-- What one read of a line gives. -/
inductive Reading where
  /-- A line, with its newline if it has one, and what is left to be read. -/
  | line (bytes : List UInt8) (rest : Source)
  /-- Nothing is left. -/
  | ended
  | failed (reason : String)

namespace Source

/-- A reader that does not fail. -/
def ofBytes (bytes : List UInt8) : Source := ⟨bytes, none⟩

/-- The reader that fails behind the first `n` bytes. -/
def failingAt (bytes : List UInt8) (n : Nat) (reason : String) : Source :=
  ⟨bytes.take n, some reason⟩

/-- One read of a line: the bytes up to and with the next newline. Without a newline it is the
end of the input that completes the line, and a failure in its place loses it. -/
def readLine (source : Source) : Reading :=
  match cutLine? source.bytes, source.failure with
  | some (line, rest), _ => .line line { source with bytes := rest }
  | none, some reason => .failed reason
  | none, none =>
      if source.bytes = [] then .ended else .line source.bytes { source with bytes := [] }

/-- The lines that can be read. A failure loses the line that it interrupts. -/
def lines (source : Source) : List (List UInt8) :=
  match source.failure with
  | none => RecordSieve.lines source.bytes
  | some _ => RecordSieve.lines (finishedPart source.bytes)

/-- The failure behind the lines, if there is one. -/
def ending (source : Source) : Option Failure := source.failure.map .io

/-- A read uses bytes up. -/
theorem length_lt_of_readLine {source rest : Source} {line : List UInt8}
    (h : source.readLine = .line line rest) : rest.bytes.length < source.bytes.length := by
  unfold readLine at h
  split at h
  · next cut others hcut =>
    cases h
    obtain ⟨body, -, rfl, hbytes⟩ := cutLine?_eq_some_iff.1 hcut
    rw [hbytes, List.length_append, List.length_append, List.length_singleton]
    simp only
    omega
  · cases h
  · split at h
    · cases h
    · next hne =>
      cases h
      exact List.length_pos_iff.2 hne

end Source

end RecordSieve
