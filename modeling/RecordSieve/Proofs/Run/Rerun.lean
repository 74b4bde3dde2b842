import RecordSieve.Proofs.Renumbering
import RecordSieve.Proofs.Run.Faults

/-!
# Runs over Their Own Output

What a run has written passes the sieve again. The lines written are some of the lines read, so
their bytes are split back into the same lines, and each of them is accepted wherever it stands.
It does not matter how the run ended: what was written stays written.

## Main statements

* `Runs.written_sublist`, `Runs.accepts_of_mem_written`: a run writes some of its lines, and only
  such as the sieve accepts;
* `lines_output`: the output is split into the lines that were written;
* `run_output_unchanged`: a run over the output of a run keeps all of it.
-/

namespace RecordSieve

/-- The lines of a source are a split, whether or not the reader fails behind them. -/
theorem Source.isSplit_lines (source : Source) : IsSplit source.lines.flatten source.lines := by
  unfold lines
  split
  · rw [flatten_lines]
    exact RecordSieve.isSplit_lines _
  · rw [flatten_lines]
    exact RecordSieve.isSplit_lines _

namespace Runs

variable {sieve : Sieve} {sink : Sink} {failure : Option String} {counts : Summary}
  {ls : List (List UInt8)} {run : Run}

/-- The lines written are some of the lines of the input, in their order. -/
theorem written_sublist (h : Runs sieve sink failure counts ls run) :
    run.written.Sublist ls := by
  induction h with
  | ended | failed | undecided | unwritten => exact List.nil_sublist _
  | dropped _ _ ih => exact ih.cons _
  | unflushed => exact (List.nil_sublist _).cons_cons _
  | emitted _ _ _ _ ih => exact ih.cons_cons _

/-- Only lines that the sieve accepts are written. -/
theorem accepts_of_mem_written (h : Runs sieve sink failure counts ls run) :
    ∀ line ∈ run.written, sieve.accepts line = true := by
  induction h with
  | ended | failed | undecided | unwritten => exact List.forall_mem_nil _
  | dropped _ _ ih => exact ih
  | unflushed hjudge =>
    exact List.forall_mem_singleton.2 ((Sieve.accepts_iff _).2 hjudge)
  | emitted hjudge _ _ _ ih =>
    rw [Run.written_emit]
    exact List.forall_mem_cons.2 ⟨(Sieve.accepts_iff _).2 hjudge, ih⟩

end Runs

/-- The output of a run is split into the lines that were written. -/
theorem lines_output (sieve : Sieve) (source : Source) (sink : Sink) :
    lines (sieve.run source sink).output = (sieve.run source sink).written := by
  have hsplit := source.isSplit_lines.sublist (runs_run sieve source sink).written_sublist
  exact (isSplit_iff.1 hsplit).symm

/-- A sieve keeps everything that it has written. Over the output of any run, however it ended,
the run without faults reads and keeps every line, and writes the same bytes. -/
theorem run_output_unchanged (sieve : Sieve) (source : Source) (sink : Sink) :
    let run := sieve.run source sink
    let again := sieve.run (.ofBytes run.output) .reliable
    again.result = .ok ⟨run.written.length, run.written.length⟩ ∧ again.output = run.output := by
  intro run again
  have hlines : lines run.output = run.written := lines_output sieve source sink
  have haccepts := (runs_run sieve source sink).accepts_of_mem_written
  have hdecides : sieve.Decides 1 (lines run.output) := by
    rw [hlines, Sieve.decides_iff]
    intro line hline
    exact ⟨true, (Sieve.accepts_iff 1).1 (haccepts line hline)⟩
  have hkept : sieve.keptFrom 1 (lines run.output) = run.written := by
    rw [hlines, Sieve.keptFrom_eq_filter, List.filter_eq_self]
    exact haccepts
  obtain ⟨hwritten, hresult⟩ := Sieve.run_of_decides hdecides
  rw [hkept, hlines] at hresult
  refine ⟨hresult, ?_⟩
  show again.written.flatten = run.written.flatten
  exact congrArg List.flatten (hwritten.trans hkept)

end RecordSieve
