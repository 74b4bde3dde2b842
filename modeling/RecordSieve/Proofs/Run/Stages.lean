import RecordSieve.Proofs.Run.Faults
import RecordSieve.Sieve.Stage

/-!
# Runs by Stages

A run that is done one operation at a time, each as the stage asks for it, is the run as a whole:
with lines that come from a source and an output that fails by plan, the operations are the same
and so is the result. What a run reports about itself shows in its last operation, so whoever does
the operations may forget the others.

## Main definitions

* `Stage.Meets`: what the operation meets that a stage asks for;
* `Sieve.Works`: the operations from a stage to the end.

## Main statements

* `Stage.Meets.unique`, `Sieve.Works.unique`: the source and the plan leave no choice;
* `Sieve.works_start_iff`: the operations from the start to the end are those of the run;
* `Sieve.events_latest`: the last operation is enough for what a run reports.
-/

namespace RecordSieve

/-! ### One operation -/

/-- What the operation meets that a stage asks for, and what it leaves of the source. A stage that
has ended asks for none. -/
inductive Stage.Meets (sink : Sink) : Stage → Source → Operation → Source → Prop where
  | read {counts : Summary} {source rest : Source} {line : List UInt8} :
      source.readLine = .line line rest → Meets sink (.reading counts) source (.read line) rest
  | readEnd {counts : Summary} {source : Source} :
      source.readLine = .ended → Meets sink (.reading counts) source .readEnd source
  | readFailure {counts : Summary} {source : Source} {reason : String} :
      source.readLine = .failed reason →
      Meets sink (.reading counts) source (.readFailure reason) source
  | write {line : List UInt8} {counts : Summary} {source : Source} :
      Meets sink (.writing line counts) source (.write line (sink.write counts.emitted)) source
  | flush {counts : Summary} {source : Source} :
      Meets sink (.flushing counts) source (.flush (sink.flush counts.emitted)) source

/-- The source and the plan say what an operation meets. -/
theorem Stage.Meets.unique {sink : Sink} {stage : Stage} {source rest rest' : Source}
    {op op' : Operation} (h : stage.Meets sink source op rest)
    (h' : stage.Meets sink source op' rest') : op = op' ∧ rest = rest' := by
  cases h with
  -- One read of a source gives one thing.
  | read hread | readEnd hread | readFailure hread => cases h' <;> simp_all
  | write | flush =>
    cases h'
    exact ⟨rfl, rfl⟩

/-! ### All operations -/

namespace Sieve

/-- The operations from a stage to the end, one behind the other, and the result. -/
inductive Works (sieve : Sieve) (sink : Sink) :
    Stage → Source → List Operation → Except Failure Summary → Prop where
  | ended {result : Except Failure Summary} {source : Source} :
      Works sieve sink (.ended result) source [] result
  | step {stage : Stage} {source rest : Source} {op : Operation} {operations : List Operation}
      {result : Except Failure Summary} :
      stage.Meets sink source op rest →
      Works sieve sink (sieve.advance stage op) rest operations result →
      Works sieve sink stage source (op :: operations) result

variable {sieve : Sieve} {sink : Sink} {stage : Stage} {source rest : Source}
  {counts : Summary} {line : List UInt8} {operations operations' : List Operation}
  {result result' : Except Failure Summary}

/-- There is one way from a stage to the end. -/
theorem Works.unique (h : sieve.Works sink stage source operations result)
    (h' : sieve.Works sink stage source operations' result') :
    operations = operations' ∧ result = result' := by
  induction h generalizing operations' with
  | ended =>
    cases h' with
    | ended => exact ⟨rfl, rfl⟩
    | step hmeets => cases hmeets
  | step hmeets _ ih =>
    cases h' with
    | ended => cases hmeets
    | step hmeets' hworks' =>
      obtain ⟨rfl, rfl⟩ := hmeets.unique hmeets'
      obtain ⟨rfl, rfl⟩ := ih hworks'
      exact ⟨rfl, rfl⟩

/-- A line that is kept is written and flushed, and where that fails the work ends. -/
theorem works_writing (sieve : Sieve) (sink : Sink) (line : List UInt8) (counts : Summary)
    (source : Source) {next : Run}
    (h : sieve.Works sink (.reading { counts with emitted := counts.emitted + 1 }) source
      next.operations next.result) :
    let run : Run :=
      match sink.write counts.emitted, sink.flush counts.emitted with
      | some fault, _ => .unwritten line fault counts
      | none, some fault => .unflushed line fault counts
      | none, none => next.after [.write line none, .flush none]
    sieve.Works sink (.writing line counts) source run.operations run.result := by
  have hwrite : (Stage.writing line counts).Meets sink source
    (.write line (sink.write counts.emitted)) source := .write
  have hflush : (Stage.flushing counts).Meets sink source
    (.flush (sink.flush counts.emitted)) source := .flush
  -- One case for each of the operations that may fail, and one for neither.
  split
  · next fault hfault =>
    rw [hfault] at hwrite
    exact .step hwrite .ended
  · next fault hnone hfault =>
    rw [hnone] at hwrite
    rw [hfault] at hflush
    exact .step hwrite (.step hflush .ended)
  · next hnone hnone' =>
    rw [hnone] at hwrite
    rw [hnone'] at hflush
    exact .step hwrite (.step hflush h)

/-- The run over what is left of a source is done one operation at a time. -/
theorem works_runFrom (sieve : Sieve) (sink : Sink) (counts : Summary) (source : Source) :
    sieve.Works sink (.reading counts) source (sieve.runFrom sink counts source).operations
      (sieve.runFrom sink counts source).result := by
  rw [runFrom]
  split
  · next hread => exact .step (.readEnd hread) .ended
  · next reason hread => exact .step (.readFailure hread) .ended
  · next line rest hread =>
    have hlt := Source.length_lt_of_readLine hread
    -- Every further call is on what is behind the line, whatever the counts are.
    have ih := fun counts => works_runFrom sieve sink counts rest
    refine .step (.read hread) ?_
    simp only [advance]
    rcases sieve.judge line (counts.records + 1) with failure | kept
    · exact .ended
    · cases kept with
      | false => exact ih _
      | true => exact works_writing sieve sink line _ rest (ih _)
termination_by source.bytes.length

/-- The operations from the start to the end are those of the run, and the result is its result. -/
theorem works_start_iff :
    sieve.Works sink start source operations result ↔
      sieve.run source sink = ⟨operations, result⟩ := by
  have hrun := works_runFrom sieve sink ⟨0, 0⟩ source
  constructor
  · intro h
    obtain ⟨rfl, rfl⟩ := h.unique hrun
    rfl
  · intro h
    rw [run] at h
    rwa [h] at hrun

/-- A run reports what its last operation and its result say. -/
theorem events_latest (sieve : Sieve) (source : Source) (sink : Sink) :
    (⟨(sieve.run source sink).last?.toList, (sieve.run source sink).result⟩ : Run).events =
      (sieve.run source sink).events := by
  have hrun := runs_run sieve source sink
  have hclosed : (⟨(sieve.run source sink).last?.toList, (sieve.run source sink).result⟩ :
      Run).outputClosed = (sieve.run source sink).outputClosed := by
    rw [Bool.eq_iff_iff, Run.outputClosed, Run.outputClosed, List.any_eq_true, List.any_eq_true]
    constructor
    · rintro ⟨op, hop, hfault⟩
      exact ⟨op, List.mem_of_getLast? (Option.mem_toList.1 hop), hfault⟩
    · rintro ⟨op, hop, hfault⟩
      -- Only the last operation can have met a fault.
      have hlast := (hrun.result_of_fault hop (of_decide_eq_true hfault)).1
      exact ⟨op, Option.mem_toList.2 hlast, hfault⟩
  rw [Run.events, Run.events, hclosed]

end Sieve

end RecordSieve
