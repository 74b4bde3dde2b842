import RecordSieve.Sieve.Run

/-!
# Stages of a Run

A run one operation at a time. At each stage a run asks for one operation, and what that meets
decides at which stage the run goes on. Whoever does the operations needs to know nothing about
conditions, counts or failures.

## Main definitions

* `Stage`: where a run stands;
* `Sieve.advance`: the stage behind an operation;
* `Sieve.start`: the stage in front of the first one.
-/

namespace RecordSieve

/-- Where a run stands, with the counts so far. -/
inductive Stage where
  /-- The next line is to be read. -/
  | reading (counts : Summary)
  /-- The line that was read is to be written. -/
  | writing (line : List UInt8) (counts : Summary)
  /-- The line that was written is to be flushed. -/
  | flushing (counts : Summary)
  /-- Nothing is to be done any more. -/
  | ended (result : Except Failure Summary)

namespace Sieve

/-- The stage in front of everything. -/
def start : Stage := .reading ⟨0, 0⟩

/-- The stage behind an operation. One that the stage did not ask for changes nothing. -/
def advance (sieve : Sieve) : Stage → Operation → Stage
  | .reading counts, .read line =>
      let counts := { counts with records := counts.records + 1 }
      match sieve.judge line counts.records with
      | .error failure => .ended (.error failure)
      | .ok false => .reading counts
      | .ok true => .writing line counts
  | .reading counts, .readEnd => .ended (.ok counts)
  | .reading _, .readFailure reason => .ended (.error (.io reason))
  | .writing _ counts, .write _ none => .flushing counts
  | .flushing counts, .flush none => .reading { counts with emitted := counts.emitted + 1 }
  | .writing _ counts, .write _ (some fault) | .flushing counts, .flush (some fault) =>
      .ended (fault.outcome counts)
  | stage, _ => stage

end Sieve

end RecordSieve
