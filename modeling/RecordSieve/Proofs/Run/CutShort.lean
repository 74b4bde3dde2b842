import RecordSieve.Proofs.Keys
import RecordSieve.Proofs.Run.Writer

/-!
# Readers that Fail

A reader that fails in the middle of its input costs a run no more than the line that it breaks
off. What the run does up to there it does for what has been delivered, whichever way the input
ends behind it: a line either stops the run, or leads on to whatever follows.

## Main definitions

* `Run.Stops`: a run that fails, or that ends because its output is closed;
* `Proceeds`: work that stops a run or leads on to what follows it;
* `CutShort`: how a run whose reader fails relates to the run on the lines that were delivered.

## Main statements

* `Sieve.proceeds_throughLine`, `Sieve.proceeds_throughLines`: a line, and any lines, stop a run or
  lead on;
* `cutShort_runThrough`, `collectKeys_failingAt`: runs and the collection of keys, from a reader
  that fails;
* `failingAt_loses_unfinished`: a reader that fails loses the line that it breaks off, and nothing
  else.
-/

namespace RecordSieve

variable {σ : Type}

/-! ### Lines that stop a run -/

/-- Whether the operation is on the output: a write or a flush. -/
def Operation.isOutput : Operation → Bool
  | write _ _ | flush _ => true
  | _ => false

namespace Run

/-- What is done to the output, in order. -/
def outputs (run : Run) : List Operation := run.operations.filter Operation.isOutput

/-- Whether a run fails or ends because its output is closed, as it does if it stops in front of
the end of its lines. -/
def Stops (run : Run) : Prop :=
  (∃ failure, run.result = .error failure) ∨ run.outputClosed = true

theorem Stops.after {run : Run} (h : run.Stops) (operations : List Operation) :
    (run.after operations).Stops := by
  refine h.imp id fun hclosed => ?_
  rw [outputClosed, after_operations, List.any_append, ← outputClosed, hclosed, Bool.or_true]

/-- A fault of the output stops a run: an output that is closed, or else a failure. -/
theorem stops_of_fault {run : Run} {op : Operation} (hop : op ∈ run.operations)
    {fault : OutputFault} (hfault : op.fault? = some fault) {counts : Summary}
    (hresult : run.result = fault.outcome counts) : run.Stops := by
  cases fault with
  | closed => exact .inr (List.any_eq_true.2 ⟨op, hop, decide_eq_true hfault⟩)
  | failed reason => exact .inl ⟨_, hresult⟩

end Run

/-- Work that is given what follows it either stops the run, so that nothing follows, or leads on
to what follows behind operations that meet no fault. -/
inductive Proceeds (work : (Summary → σ → Run × σ) → Run × σ) : Prop where
  | stops (run : Run) (state : σ) : run.Stops → (∀ others, work others = (run, state)) →
      Proceeds work
  | leads (operations : List Operation) (counts : Summary) (state : σ) :
      (∀ op ∈ operations, op.fault? = none) →
      (∀ others, work others = Prod.map (.after operations) id (others counts state)) →
      Proceeds work

/-- Work behind other work stops a run or leads on as each of them does. -/
theorem Proceeds.trans {work : (Summary → σ → Run × σ) → Run × σ}
    {next : Summary → σ → (Summary → σ → Run × σ) → Run × σ} (h : Proceeds work)
    (hnext : ∀ counts state, Proceeds (next counts state)) :
    Proceeds fun others => work fun counts state => next counts state others := by
  rcases h with ⟨run, last, hstops, hwork⟩ | ⟨operations, counts, state, hfaults, hwork⟩
  · exact .stops run last hstops fun others => hwork _
  · rcases hnext counts state with
      ⟨run, last, hstops, hrest⟩ | ⟨more, counts, state, hmore, hrest⟩
    · refine .stops (run.after operations) last (hstops.after operations) fun others => ?_
      rw [hwork, hrest]
      rfl
    · refine .leads (operations ++ more) counts state ?_ fun others => ?_
      · exact List.forall_mem_append.2 ⟨hfaults, hmore⟩
      · rw [hwork, hrest]
        exact Prod.ext (Run.after_after operations more _) rfl

namespace Sieve

/-- A line stops a run or leads on to those behind it. -/
theorem proceeds_throughLine (sieve : Sieve) (writer : Writer σ) (counts : Summary) (state : σ)
    (line : List UInt8) : Proceeds (sieve.throughLine writer counts state line) := by
  unfold throughLine
  simp only
  rcases sieve.judge line (counts.records + 1) with cause | kept
  · exact .stops ⟨[.read line], .error cause⟩ state (.inl ⟨cause, rfl⟩) fun _ => rfl
  · cases kept with
    | false =>
      refine .leads [.read line] ⟨counts.records + 1, counts.emitted⟩ state ?_ fun _ => rfl
      simp [Operation.fault?]
    | true =>
      -- The line leads on if it is written and flushed, and stops the run where one of them fails.
      rcases writer.write line state with ⟨_ | fault, written⟩
      · simp only
        rcases writer.flush written with ⟨_ | fault, flushed⟩
        · refine .leads [.read line, .write line none, .flush none]
            ⟨counts.records + 1, counts.emitted + 1⟩ flushed ?_ fun _ => rfl
          simp [Operation.fault?]
        · refine .stops _ flushed ?_ fun _ => rfl
          exact Run.stops_of_fault (List.mem_of_getLast? rfl) rfl rfl
      · refine .stops _ written ?_ fun _ => rfl
        exact Run.stops_of_fault (List.mem_of_getLast? rfl) rfl rfl

/-- Lines stop a run or lead on to what stands behind them. -/
theorem proceeds_throughLines (sieve : Sieve) (writer : Writer σ) (counts : Summary) (state : σ)
    (ls : List (List UInt8)) : Proceeds (sieve.throughLines writer counts state ls) := by
  induction ls generalizing counts state with
  | nil => exact .leads [] counts state (List.forall_mem_nil _) fun _ => rfl
  | cons line rest ih => exact (sieve.proceeds_throughLine writer counts state line).trans ih

end Sieve

/-! ### Runs cut short -/

/-- How a run whose reader fails relates to the run `whole` on the lines that were delivered. -/
structure CutShort (reason : String) (whole run : Run) : Prop where
  /-- The output is written and flushed as it is in the other run, and answers alike. -/
  outputs_eq : run.outputs = whole.outputs
  output_eq : run.output = whole.output
  flushes_eq : run.flushes = whole.flushes
  of_error : ∀ failure, whole.result = .error failure → run.result = .error failure
  of_closed : whole.outputClosed = true → run.result = whole.result
  /-- Otherwise the run comes to the failure of the reader. -/
  of_ok : ∀ counts, whole.result = .ok counts → whole.outputClosed = false →
    run.result = .error (.io reason)

/-- A run that stops is the same whatever stands behind its lines. -/
theorem Run.Stops.cutShort {run : Run} (h : run.Stops) (reason : String) :
    CutShort reason run run := by
  refine ⟨rfl, rfl, rfl, fun _ => id, fun _ => rfl, ?_⟩
  intro counts hok hopen
  rcases h with ⟨failure, herror⟩ | hclosed
  · rw [hok] at herror
    cases herror
  · rw [hopen] at hclosed
    cases hclosed

/-- A run that comes to the end of its lines meets the failure of the reader there. -/
theorem cutShort_atEnd {operations : List Operation} (h : ∀ op ∈ operations, op.fault? = none)
    (reason : String) (counts : Summary) :
    CutShort reason ((Run.atEnd none counts).after operations)
      ((Run.atEnd (some reason) counts).after operations) := by
  have hwritten : ((Run.atEnd (some reason) counts).after operations).written =
      ((Run.atEnd none counts).after operations).written := by
    rw [Run.written_after, Run.written_after]
    rfl
  refine ⟨?_, congrArg List.flatten hwritten, ?_, ?_, ?_, fun _ _ _ => rfl⟩
  · rw [Run.outputs, Run.outputs, Run.after_operations, Run.after_operations, List.filter_append,
      List.filter_append]
    rfl
  · rw [Run.flushes, Run.flushes, Run.after_operations, Run.after_operations, List.countP_append,
      List.countP_append]
    rfl
  · intro failure herror
    cases herror
  · intro hclosed
    -- None of the operations meets a fault, so the output has not been found closed.
    obtain ⟨op, hop, hfault⟩ := List.any_eq_true.1 hclosed
    rw [Run.after_operations, List.mem_append] at hop
    rcases hop with hop | hop
    · simp [h op hop] at hfault
    · rw [List.mem_singleton.1 hop] at hfault
      cases hfault

/-- A run through a writer whose reader fails leaves the writer in the state that it would be in
if the input ended behind the last newline delivered. -/
theorem cutShort_runThrough (sieve : Sieve) (bytes : List UInt8) (n : Nat) (reason : String)
    (writer : Writer σ) (state : σ) :
    let whole := sieve.runThrough (.ofBytes (finishedPart (bytes.take n))) writer state
    let run := sieve.runThrough (.failingAt bytes n reason) writer state
    CutShort reason whole.1 run.1 ∧ run.2 = whole.2 := by
  intro whole run
  -- Both runs go over the same lines, and differ in what stands behind them.
  have hwhole : whole = sieve.throughLines writer ⟨0, 0⟩ state
      (lines (finishedPart (bytes.take n))) fun counts state => (.atEnd none counts, state) :=
    sieve.runThroughFrom_eq writer ⟨0, 0⟩ state _
  have hrun : run = sieve.throughLines writer ⟨0, 0⟩ state
      (lines (finishedPart (bytes.take n))) fun counts state =>
        (.atEnd (some reason) counts, state) :=
    sieve.runThroughFrom_eq writer ⟨0, 0⟩ state _
  rcases sieve.proceeds_throughLines writer ⟨0, 0⟩ state (lines (finishedPart (bytes.take n))) with
    ⟨stopped, last, hstops, heq⟩ | ⟨operations, counts, last, hfaults, heq⟩
  · rw [hwhole, hrun, heq, heq]
    exact ⟨hstops.cutShort reason, rfl⟩
  · rw [hwhole, hrun, heq, heq]
    exact ⟨cutShort_atEnd hfaults reason counts, rfl⟩

/-- The keys collected from a reader that fails come to nothing: the collection fails as it does
on the lines that were delivered, and with the reader at the latest. -/
theorem collectKeys_failingAt (bytes : List UInt8) (n : Nat) (reason : String) :
    collectKeys (.failingAt bytes n reason) =
      (collectKeys (.ofBytes (finishedPart (bytes.take n)))).bind fun _ => .error (.io reason) := by
  rw [collectKeys_ofBytes, collectKeys, keysFrom_eq]
  show (readRecords 1 (lines (finishedPart (bytes.take n)))).bind _ = _
  cases readRecords 1 (lines (finishedPart (bytes.take n))) <;> rfl

/-- A reader that fails loses the line that it breaks off, and nothing else: for every sieve,
whether its output fails by plan or in a way of its own, and for the collection of keys. -/
theorem failingAt_loses_unfinished (bytes : List UInt8) (n : Nat) (reason : String) :
    let finished := finishedPart (bytes.take n)
    IsFinishedPart (bytes.take n) finished ∧
      (∀ (sieve : Sieve) (sink : Sink),
        CutShort reason (sieve.run (.ofBytes finished) sink)
          (sieve.run (.failingAt bytes n reason) sink)) ∧
      (∀ (sieve : Sieve) {σ : Type} (writer : Writer σ) (state : σ),
        let whole := sieve.runThrough (.ofBytes finished) writer state
        let run := sieve.runThrough (.failingAt bytes n reason) writer state
        CutShort reason whole.1 run.1 ∧ run.2 = whole.2) ∧
      collectKeys (.failingAt bytes n reason) =
        (collectKeys (.ofBytes finished)).bind fun _ => .error (.io reason) := by
  refine ⟨isFinishedPart_finishedPart _, ?_, ?_, collectKeys_failingAt bytes n reason⟩
  · intro sieve sink
    rw [sieve.run_eq_runThrough, sieve.run_eq_runThrough]
    exact (cutShort_runThrough sieve bytes n reason (.ofSink sink) 0).1
  · intro sieve σ writer state
    exact cutShort_runThrough sieve bytes n reason writer state

end RecordSieve
