import RecordSieve.Proofs.Lines
import RecordSieve.Sieve.Run

/-!
# Runs over Lines

A run reads its source as it goes. Here it is put as a function on the lines that the source
holds, and everything that a run can do with a line is said once, as the rules of a relation.

## Main definitions

* `Sieve.runLines`: the run over some lines;
* `Runs`: the rules by which a run goes from line to line.

## Main statements

* `Sieve.run_eq_runLines`: a run of a source is the run over its lines;
* `runs_run`: a run follows the rules.
-/

namespace RecordSieve

@[simp]
theorem Run.after_operations (operations : List Operation) (run : Run) :
    (run.after operations).operations = operations ++ run.operations := rfl

@[simp]
theorem Run.after_result (operations : List Operation) (run : Run) :
    (run.after operations).result = run.result := rfl

theorem Run.after_after (operations more : List Operation) (run : Run) :
    (run.after more).after operations = run.after (operations ++ more) := by
  rw [after, after, after, List.append_assoc]

/-- The lines written by a run with more operations in front. -/
theorem Run.written_after (operations : List Operation) (run : Run) :
    (run.after operations).written = operations.filterMap Operation.written? ++ run.written := by
  rw [written, after_operations, List.filterMap_append, written]

namespace Sieve

/-- The run over lines that are still to be read, with the counts so far and the failure behind
the lines. -/
def runLines (sieve : Sieve) (sink : Sink) (failure : Option String) (counts : Summary) :
    List (List UInt8) → Run
  | [] =>
      match failure with
      | none => ⟨[.readEnd], .ok counts⟩
      | some reason => ⟨[.readFailure reason], .error (.io reason)⟩
  | line :: rest =>
      let counts := { counts with records := counts.records + 1 }
      .after [.read line] <|
        match sieve.judge line counts.records with
        | .error failure => .stopped (.error failure)
        | .ok false => sieve.runLines sink failure counts rest
        | .ok true =>
            match sink.write counts.emitted, sink.flush counts.emitted with
            | some fault, _ => .unwritten line fault counts
            | none, some fault => .unflushed line fault counts
            | none, none =>
                .after [.write line none, .flush none] <|
                  sieve.runLines sink failure { counts with emitted := counts.emitted + 1 } rest

/-- What is left of a source is run line by line. -/
theorem runFrom_eq_runLines (sieve : Sieve) (sink : Sink) (counts : Summary) (source : Source) :
    sieve.runFrom sink counts source =
      sieve.runLines sink source.failure counts source.lines := by
  rw [runFrom]
  split
  · next hread =>
    obtain ⟨hlines, hfailure⟩ := Source.lines_of_ended hread
    rw [hlines, hfailure, runLines]
  · next reason hread =>
    obtain ⟨hlines, hfailure⟩ := Source.lines_of_failed hread
    rw [hlines, hfailure, runLines]
  · next line rest hread =>
    obtain ⟨hlines, hfailure⟩ := Source.lines_of_readLine hread
    have hlt := Source.length_lt_of_readLine hread
    -- Every further call is on what is behind the line, whatever the counts are.
    have ih := fun counts => runFrom_eq_runLines sieve sink counts rest
    simp only [ih]
    rw [hlines, hfailure]
    rfl
termination_by source.bytes.length

/-- A run goes over the lines of its source. -/
theorem run_eq_runLines (sieve : Sieve) (source : Source) (sink : Sink) :
    sieve.run source sink = sieve.runLines sink source.failure ⟨0, 0⟩ source.lines :=
  runFrom_eq_runLines sieve sink ⟨0, 0⟩ source

end Sieve

/-- The rules of a run: what it does with the next line, given the counts in front of it, and
what it does where no line is left. -/
inductive Runs (sieve : Sieve) (sink : Sink) (failure : Option String) :
    Summary → List (List UInt8) → Run → Prop where
  | ended {counts : Summary} :
      failure = none → Runs sieve sink failure counts [] ⟨[.readEnd], .ok counts⟩
  | failed {counts : Summary} {reason : String} :
      failure = some reason →
      Runs sieve sink failure counts [] ⟨[.readFailure reason], .error (.io reason)⟩
  /-- A line without a decision ends the run. -/
  | undecided {counts : Summary} {line : List UInt8} {rest : List (List UInt8)}
      {cause : Failure} :
      sieve.judge line (counts.records + 1) = .error cause →
      Runs sieve sink failure counts (line :: rest) ⟨[.read line], .error cause⟩
  | dropped {counts : Summary} {line : List UInt8} {rest : List (List UInt8)} {run : Run} :
      sieve.judge line (counts.records + 1) = .ok false →
      Runs sieve sink failure ⟨counts.records + 1, counts.emitted⟩ rest run →
      Runs sieve sink failure counts (line :: rest) (run.after [.read line])
  | unwritten {counts : Summary} {line : List UInt8} {rest : List (List UInt8)}
      {fault : OutputFault} :
      sieve.judge line (counts.records + 1) = .ok true →
      sink.write counts.emitted = some fault →
      Runs sieve sink failure counts (line :: rest)
        ⟨[.read line, .write line (some fault)],
          fault.outcome ⟨counts.records + 1, counts.emitted⟩⟩
  | unflushed {counts : Summary} {line : List UInt8} {rest : List (List UInt8)}
      {fault : OutputFault} :
      sieve.judge line (counts.records + 1) = .ok true →
      sink.write counts.emitted = none → sink.flush counts.emitted = some fault →
      Runs sieve sink failure counts (line :: rest)
        ⟨[.read line, .write line none, .flush (some fault)],
          fault.outcome ⟨counts.records + 1, counts.emitted⟩⟩
  | emitted {counts : Summary} {line : List UInt8} {rest : List (List UInt8)} {run : Run} :
      sieve.judge line (counts.records + 1) = .ok true →
      sink.write counts.emitted = none → sink.flush counts.emitted = none →
      Runs sieve sink failure ⟨counts.records + 1, counts.emitted + 1⟩ rest run →
      Runs sieve sink failure counts (line :: rest)
        (run.after [.read line, .write line none, .flush none])

/-- The run over lines follows the rules. -/
theorem runs_runLines (sieve : Sieve) (sink : Sink) (failure : Option String) (counts : Summary)
    (ls : List (List UInt8)) :
    Runs sieve sink failure counts ls (sieve.runLines sink failure counts ls) := by
  induction ls generalizing counts with
  | nil =>
    cases hfailure : failure with
    | none => exact .ended rfl
    | some reason => exact .failed rfl
  | cons line rest ih =>
    rw [Sieve.runLines]
    simp only
    rcases hjudge : sieve.judge line (counts.records + 1) with cause | kept
    · exact .undecided hjudge
    · cases kept with
      | false => exact .dropped hjudge (ih _)
      | true =>
        -- A line that is kept ends the run at its write or at its flush, or not at all.
        rcases hwrite : sink.write counts.emitted with _ | fault
        · rcases hflush : sink.flush counts.emitted with _ | fault
          · exact .emitted hjudge hwrite hflush (ih _)
          · exact .unflushed hjudge hwrite hflush
        · exact .unwritten hjudge hwrite

/-- The rules determine the run. -/
theorem Runs.eq_runLines {sieve : Sieve} {sink : Sink} {failure : Option String}
    {counts : Summary} {ls : List (List UInt8)} {run : Run}
    (h : Runs sieve sink failure counts ls run) :
    run = sieve.runLines sink failure counts ls := by
  induction h with
  | ended hfailure | failed hfailure => rw [hfailure, Sieve.runLines]
  | undecided hjudge =>
    simp only [Sieve.runLines, hjudge]
    rfl
  | dropped hjudge _ ih => simp only [Sieve.runLines, hjudge, ih]
  | unwritten hjudge hwrite =>
    simp only [Sieve.runLines, hjudge, hwrite]
    rfl
  | unflushed hjudge hwrite hflush =>
    simp only [Sieve.runLines, hjudge, hwrite, hflush]
    rfl
  | emitted hjudge hwrite hflush _ ih =>
    simp only [Sieve.runLines, hjudge, hwrite, hflush, ih]
    rfl

/-- A run follows the rules. -/
theorem runs_run (sieve : Sieve) (source : Source) (sink : Sink) :
    Runs sieve sink source.failure ⟨0, 0⟩ source.lines (sieve.run source sink) := by
  rw [Sieve.run_eq_runLines]
  exact runs_runLines sieve sink source.failure ⟨0, 0⟩ source.lines

end RecordSieve
