import RecordSieve.Log
import RecordSieve.Sieve.Basic
import RecordSieve.Sieve.Record
import RecordSieve.Sieve.Source

/-!
# Runs

A run reads records line by line, and writes each line that the sieve keeps exactly as it was
read, with a flush behind it. The first failure ends the run, and what was written stays. A
reader of the output that has gone away ends the run without a failure.

## Main definitions

* `Sink`: which writes and flushes fail;
* `Operation`: what a run does to its input and its output;
* `Sieve.run`: the operations of a run and how it ends.
-/

namespace RecordSieve

/-- How a write or a flush fails. -/
inductive OutputFault where
  /-- Nobody reads the output any more. -/
  | closed
  | failed (reason : String)
deriving DecidableEq

/-- Which operations on the output fail, by the number of the operation. A write that fails
writes nothing. -/
structure Sink where
  write : Nat → Option OutputFault
  flush : Nat → Option OutputFault

/-- The output that does not fail. -/
def Sink.reliable : Sink := ⟨fun _ => none, fun _ => none⟩

/-- The counts of a run. -/
structure Summary where
  /-- How many lines were read. -/
  records : Nat
  /-- How many lines were written and flushed. -/
  emitted : Nat
deriving DecidableEq

/-- How a run ends whose output fails. -/
def OutputFault.outcome (counts : Summary) : OutputFault → Except Failure Summary
  | closed => .ok counts
  | failed reason => .error (.io reason)

/-- One operation of a run. -/
inductive Operation where
  /-- A read that gave a line. -/
  | read (line : List UInt8)
  /-- A read that found the end of the input. -/
  | readEnd
  | readFailure (reason : String)
  | write (line : List UInt8) (fault : Option OutputFault)
  | flush (fault : Option OutputFault)
deriving DecidableEq

namespace Operation

/-- The line that the operation wrote, if it did. -/
def written? : Operation → Option (List UInt8)
  | write line none => some line
  | _ => none

/-- Whether the operation is a flush that succeeded. -/
def isFlushed : Operation → Bool
  | flush none => true
  | _ => false

/-- The fault of the output that the operation met, if it met one. -/
def fault? : Operation → Option OutputFault
  | write _ fault | flush fault => fault
  | _ => none

end Operation

/-- What a run did. -/
structure Run where
  /-- The operations, in order. -/
  operations : List Operation
  result : Except Failure Summary

namespace Run

/-- The lines that were written, in order. -/
def written (run : Run) : List (List UInt8) := run.operations.filterMap Operation.written?

/-- The bytes that were written. -/
def output (run : Run) : List UInt8 := run.written.flatten

/-- How many flushes succeeded. -/
def flushes (run : Run) : Nat := run.operations.countP Operation.isFlushed

/-- Whether the output was found closed. -/
def outputClosed (run : Run) : Bool := run.operations.any (·.fault? = some .closed)

/-- A run that ends in front of any further operation. -/
def stopped (result : Except Failure Summary) : Run := ⟨[], result⟩

/-- A run with more operations in front. -/
def after (operations : List Operation) (run : Run) : Run :=
  { run with operations := operations ++ run.operations }

/-- The run that ends because a line could not be written. -/
def unwritten (line : List UInt8) (fault : OutputFault) (counts : Summary) : Run :=
  ⟨[.write line (some fault)], fault.outcome counts⟩

/-- The run that ends because a line that was written could not be flushed. -/
def unflushed (line : List UInt8) (fault : OutputFault) (counts : Summary) : Run :=
  ⟨[.write line none, .flush (some fault)], fault.outcome counts⟩

/-- What a run reports about itself. -/
def events (run : Run) : List LogEvent :=
  let event (message : String) : LogEvent := ⟨.debug, "jsonl_tools::filter::stream", message⟩
  match run.result with
  | .error _ => []
  | .ok summary =>
      let records := NumberLayout.natText summary.records
      (if run.outputClosed then [event ("Output closed after " ++ records ++ " records")]
        else []) ++
        [event ("Filtered " ++ records ++ " records, emitted " ++
          NumberLayout.natText summary.emitted)]

end Run

namespace Sieve

/-- The decision on a line, which has the given number. -/
def judge (sieve : Sieve) (line : List UInt8) (number : Nat) : Except Failure Bool := do
  let fields ← readRecord line number
  sieve.keeps fields number

/-- The run over what is left of a source, with the counts so far. -/
def runFrom (sieve : Sieve) (sink : Sink) (counts : Summary) (source : Source) : Run :=
  match _hread : source.readLine with
  | .ended => ⟨[.readEnd], .ok counts⟩
  | .failed reason => ⟨[.readFailure reason], .error (.io reason)⟩
  | .line line rest =>
      let counts := { counts with records := counts.records + 1 }
      .after [.read line] <|
        match sieve.judge line counts.records with
        | .error failure => .stopped (.error failure)
        | .ok false => sieve.runFrom sink counts rest
        | .ok true =>
            match sink.write counts.emitted, sink.flush counts.emitted with
            | some fault, _ => .unwritten line fault counts
            | none, some fault => .unflushed line fault counts
            | none, none =>
                .after [.write line none, .flush none] <|
                  sieve.runFrom sink { counts with emitted := counts.emitted + 1 } rest
termination_by source.bytes.length
decreasing_by all_goals exact Source.length_lt_of_readLine _hread

/-- The run of a sieve. -/
def run (sieve : Sieve) (source : Source) (sink : Sink) : Run :=
  sieve.runFrom sink ⟨0, 0⟩ source

end Sieve

end RecordSieve
