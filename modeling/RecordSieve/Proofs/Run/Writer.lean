import RecordSieve.Proofs.Run.Basic

/-!
# Outputs with a State

A plan of faults says by number which operations on the output fail. Here the output is given as
what it is to a run instead: something with a state of its own, to which lines are written and which
is flushed. A write may fail with part of the line taken, and what an operation does may hang on
everything that has been done before.

## Main definitions

* `Writer`: what a write and a flush do to the state of an output;
* `Sieve.runThrough`: the run of a sieve whose output is a writer;
* `Writer.ofSink`: the writer that follows a plan of faults.

## Main statements

* `Sieve.runThroughFrom_eq`: a run through a writer goes over the lines of its source;
* `Sieve.run_eq_runThrough`: a run whose output fails by plan is the run through a writer.
-/

namespace RecordSieve

/-- An output with a state. An operation gives the fault that it has met, if it met one, and the
state behind it; what a write that fails has taken of its line is for that state to say. -/
structure Writer (σ : Type) where
  write : List UInt8 → σ → Option OutputFault × σ
  flush : σ → Option OutputFault × σ

/-- The writer that follows a plan of faults: its state is the number of lines written and
flushed. -/
def Writer.ofSink (sink : Sink) : Writer Nat where
  write _ emitted := (sink.write emitted, emitted)
  flush emitted := (sink.flush emitted, emitted + 1)

@[simp]
theorem Writer.write_ofSink (sink : Sink) (line : List UInt8) (emitted : Nat) :
    (ofSink sink).write line emitted = (sink.write emitted, emitted) := rfl

@[simp]
theorem Writer.flush_ofSink (sink : Sink) (emitted : Nat) :
    (ofSink sink).flush emitted = (sink.flush emitted, emitted + 1) := rfl

/-- What a run does behind the last line, with the given counts. -/
def Run.atEnd (failure : Option String) (counts : Summary) : Run :=
  match failure with
  | none => ⟨[.readEnd], .ok counts⟩
  | some reason => ⟨[.readFailure reason], .error (.io reason)⟩

namespace Sieve

variable {σ : Type}

/-- What a run does with a line, and then with the others, given the counts and the state of its
output so far. -/
def throughLine (sieve : Sieve) (writer : Writer σ) (counts : Summary) (state : σ)
    (line : List UInt8) (others : Summary → σ → Run × σ) : Run × σ :=
  let counts := { counts with records := counts.records + 1 }
  Prod.map (.after [.read line]) id <|
    match sieve.judge line counts.records with
    | .error failure => (.stopped (.error failure), state)
    | .ok false => others counts state
    | .ok true =>
        match writer.write line state with
        | (some fault, state) => (.unwritten line fault counts, state)
        | (none, state) =>
            match writer.flush state with
            | (some fault, state) => (.unflushed line fault counts, state)
            | (none, state) =>
                Prod.map (.after [.write line none, .flush none]) id <|
                  others { counts with emitted := counts.emitted + 1 } state

/-- The run over what is left of a source, with the counts and the state of its output so far, and
the state that it leaves the output in. -/
def runThroughFrom (sieve : Sieve) (writer : Writer σ) (counts : Summary) (state : σ)
    (source : Source) : Run × σ :=
  match _hread : source.readLine with
  | .ended => (⟨[.readEnd], .ok counts⟩, state)
  | .failed reason => (⟨[.readFailure reason], .error (.io reason)⟩, state)
  | .line line rest =>
      sieve.throughLine writer counts state line fun counts state =>
        sieve.runThroughFrom writer counts state rest
termination_by source.bytes.length
decreasing_by exact Source.length_lt_of_readLine _hread

/-- The run of a sieve through a writer, and the state that it leaves the writer in. -/
def runThrough (sieve : Sieve) (source : Source) (writer : Writer σ) (state : σ) : Run × σ :=
  sieve.runThroughFrom writer ⟨0, 0⟩ state source

/-- The run through a writer over lines that are still to be read, given what follows them. -/
def throughLines (sieve : Sieve) (writer : Writer σ) (counts : Summary) (state : σ) :
    List (List UInt8) → (Summary → σ → Run × σ) → Run × σ
  | [], others => others counts state
  | line :: rest, others =>
      sieve.throughLine writer counts state line fun counts state =>
        sieve.throughLines writer counts state rest others

/-- A run through a writer goes over the lines of its source, up to what stands behind them. -/
theorem runThroughFrom_eq (sieve : Sieve) (writer : Writer σ) (counts : Summary) (state : σ)
    (source : Source) :
    sieve.runThroughFrom writer counts state source =
      sieve.throughLines writer counts state source.lines fun counts state =>
        (.atEnd source.failure counts, state) := by
  rw [runThroughFrom]
  split
  · next hread =>
    obtain ⟨hlines, hfailure⟩ := Source.lines_of_ended hread
    rw [hlines, hfailure]
    rfl
  · next reason hread =>
    obtain ⟨hlines, hfailure⟩ := Source.lines_of_failed hread
    rw [hlines, hfailure]
    rfl
  · next line rest hread =>
    obtain ⟨hlines, hfailure⟩ := Source.lines_of_readLine hread
    have hlt := Source.length_lt_of_readLine hread
    -- What is behind the line is read through for all counts and states that the line leads to.
    have ih := fun counts state => runThroughFrom_eq sieve writer counts state rest
    simp only [ih]
    rw [hlines, hfailure, throughLines]
termination_by source.bytes.length

/-- Lines are run through the writer that follows a plan as they are run by the plan. -/
theorem throughLines_ofSink (sieve : Sieve) (sink : Sink) (failure : Option String)
    (counts : Summary) (ls : List (List UInt8)) :
    (sieve.throughLines (.ofSink sink) counts counts.emitted ls fun counts state =>
      (.atEnd failure counts, state)).1 = sieve.runLines sink failure counts ls := by
  induction ls generalizing counts with
  | nil => cases failure <;> rfl
  | cons line rest ih =>
    rw [throughLines, throughLine, runLines]
    rcases hjudge : sieve.judge line (counts.records + 1) with cause | kept
    · rfl
    · cases kept with
      | false => exact congrArg (Run.after _) (ih ⟨counts.records + 1, counts.emitted⟩)
      | true =>
        rcases hwrite : sink.write counts.emitted with _ | fault
        · rcases hflush : sink.flush counts.emitted with _ | fault
          · -- The state of the writer is the count of the lines emitted.
            have hrest := ih ⟨counts.records + 1, counts.emitted + 1⟩
            simp only [Writer.write_ofSink, Writer.flush_ofSink, hwrite, hflush, Prod.map_fst,
              hrest]
          · simp only [Writer.write_ofSink, Writer.flush_ofSink, hwrite, hflush, Prod.map_fst]
        · simp only [Writer.write_ofSink, hwrite, Prod.map_fst]

/-- A run whose output fails by plan is the run through the writer that follows the plan. -/
theorem run_eq_runThrough (sieve : Sieve) (source : Source) (sink : Sink) :
    sieve.run source sink = (sieve.runThrough source (.ofSink sink) 0).1 := by
  rw [run_eq_runLines, runThrough, runThroughFrom_eq]
  exact (throughLines_ofSink sieve sink source.failure ⟨0, 0⟩ source.lines).symm

end Sieve

end RecordSieve
