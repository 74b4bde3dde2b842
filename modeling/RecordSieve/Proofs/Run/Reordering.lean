import RecordSieve.Proofs.Phases
import RecordSieve.Proofs.Run.Duality
import RecordSieve.Proofs.Run.Faults

/-!
# Conditions in Another Order

Every condition is asked about every record, even if the answers so far have settled the matter. So
a list of conditions means no more than the set of its members: their order and how often each is
repeated do not change what a run reads and writes, nor on which line it fails. All that they change
is which condition a failure is about, if several of them fail on that line.

## Main definitions

* `StopsAlike`: two runs that read the same lines fail alike;
* `FailsOnLine`: two failures of some conditions on one line.

## Main statements

* `Runs.alike`: sieves that decide alike do the same on every input and output;
* `Sieve.alike_judge`: sieves with the same tests decide alike on every line;
* `run_alike_of_mem_iff`: conditions with the same members do the same on every input and output.
-/

namespace RecordSieve

/-! ### Runs of sieves that decide alike -/

/-- Two runs that read the same lines, of which the first has the number `start + 1`, fail alike:
the input or the output failed, or the last line that they read had related failures. -/
inductive StopsAlike (R : List UInt8 → Nat → Failure → Failure → Prop) (start : Nat)
    (reads : List (List UInt8)) : Failure → Failure → Prop
  | io (reason : String) : StopsAlike R start reads (.io reason) (.io reason)
  | onLine {front : List (List UInt8)} {line : List UInt8} {failure failure' : Failure} :
      reads = front ++ [line] → R line (start + reads.length) failure failure' →
      StopsAlike R start reads failure failure'

theorem StopsAlike.cons {R : List UInt8 → Nat → Failure → Failure → Prop} {start : Nat}
    {reads : List (List UInt8)} {failure failure' : Failure}
    (h : StopsAlike R (start + 1) reads failure failure') (line : List UInt8) :
    StopsAlike R start (line :: reads) failure failure' := by
  cases h with
  | io reason => exact .io reason
  | onLine hreads hR =>
    subst hreads
    refine .onLine (List.cons_append ..).symm ?_
    rwa [List.length_cons, Nat.add_comm _ 1, ← Nat.add_assoc]

/-- A run whose output fails ends like itself. -/
theorem OutputFault.alike_outcome {R : List UInt8 → Nat → Failure → Failure → Prop} {start : Nat}
    {reads : List (List UInt8)} (fault : OutputFault) (counts : Summary) :
    Alike (StopsAlike R start reads) (fault.outcome counts) (fault.outcome counts) := by
  cases fault with
  | closed => exact .ok counts
  | failed reason => exact .error (.io reason)

/-- If two sieves decide alike on every line, a run of the one does the same as a run of the other
on the same input and output, and they end alike. -/
theorem Runs.alike {sieve other : Sieve} {R : List UInt8 → Nat → Failure → Failure → Prop}
    (hjudges : ∀ line number,
      Alike (R line number) (sieve.judge line number) (other.judge line number))
    {sink : Sink} {failure : Option String} {counts : Summary} {ls : List (List UInt8)}
    {run : Run} (h : Runs sieve sink failure counts ls run) :
    ∃ run', Runs other sink failure counts ls run' ∧ run.operations = run'.operations ∧
      Alike (StopsAlike R counts.records run.reads) run.result run'.result := by
  -- The induction is on the run of the first sieve. The second one takes the same step, since
  -- what the output does depends on what was read and written so far only.
  induction h with
  | ended hfailure => exact ⟨_, .ended hfailure, rfl, .ok _⟩
  | failed hfailure => exact ⟨_, .failed hfailure, rfl, .error (.io _)⟩
  | undecided hjudge =>
    obtain ⟨cause', hjudge', hR⟩ := (hjudge ▸ hjudges _ _).exists_eq_error
    exact ⟨_, .undecided hjudge', rfl, .error (.onLine (List.nil_append _).symm hR)⟩
  | dropped hjudge _ ih =>
    obtain ⟨run', hrun', hoperations, hresult⟩ := ih
    refine ⟨_, .dropped (hjudge ▸ hjudges _ _).eq_ok hrun', ?_, ?_⟩
    · rw [Run.after_operations, Run.after_operations, hoperations]
    · exact hresult.mono fun _ _ hstops => hstops.cons _
  | unwritten hjudge hwrite =>
    exact ⟨_, .unwritten (hjudge ▸ hjudges _ _).eq_ok hwrite, rfl,
      OutputFault.alike_outcome _ _⟩
  | unflushed hjudge hwrite hflush =>
    exact ⟨_, .unflushed (hjudge ▸ hjudges _ _).eq_ok hwrite hflush, rfl,
      OutputFault.alike_outcome _ _⟩
  | emitted hjudge hwrite hflush _ ih =>
    obtain ⟨run', hrun', hoperations, hresult⟩ := ih
    refine ⟨_, .emitted (hjudge ▸ hjudges _ _).eq_ok hwrite hflush hrun', ?_, ?_⟩
    · rw [Run.after_operations, Run.after_operations, hoperations]
    · exact hresult.mono fun _ _ hstops => hstops.cons _

/-! ### Conditions with the same members -/

/-- Two failures on one line: it is no record, or a condition fails on its record for each of
them. -/
inductive FailsOnLine (conditions : List Condition) (line : List UInt8) (number : Nat) :
    Failure → Failure → Prop
  | undecoded {failure : Failure} : readRecord line number = .error failure →
      FailsOnLine conditions line number failure failure
  | ofConditions {fields : Fields} {failure failure' : Failure} :
      readRecord line number = .ok fields →
      (∃ condition ∈ conditions, condition.FailsOn fields number failure) →
      (∃ condition ∈ conditions, condition.FailsOn fields number failure') →
      FailsOnLine conditions line number failure failure'

namespace Sieve

variable {sieve other : Sieve} {conditions others : List Condition} {aggregation : Aggregation}
  {reverse : Bool}

/-- Two sieves that differ only in the order of their tests and in how often each is repeated. -/
structure SameTests (sieve other : Sieve) : Prop where
  mem_iff : ∀ test, test ∈ sieve.tests ↔ test ∈ other.tests
  aggregation_eq : sieve.aggregation = other.aggregation
  reverse_eq : sieve.reverse = other.reverse

/-- Conditions with the same members have sieves with the same tests. -/
theorem exists_sameTests (hmem : ∀ condition, condition ∈ conditions ↔ condition ∈ others)
    (h : ofConditions conditions aggregation reverse = .ok sieve) :
    ∃ other, ofConditions others aggregation reverse = .ok other ∧ sieve.SameTests other := by
  obtain ⟨tests, htests, rfl⟩ := ofConditions_eq_ok_iff.1 h
  have hall := exists_mapM_eq_ok_iff.1 ⟨tests, htests⟩
  obtain ⟨otherTests, hotherTests⟩ : ∃ results, others.mapM Test.ofCondition = .ok results :=
    exists_mapM_eq_ok_iff.2 fun condition hcondition =>
      hall condition ((hmem condition).2 hcondition)
  refine ⟨_, ofConditions_eq_ok_iff.2 ⟨otherTests, hotherTests, rfl⟩, ?_, rfl, rfl⟩
  intro test
  simp only [mem_iff_of_mapM htests, mem_iff_of_mapM hotherTests, hmem]

/-- A test of a sieve fails only if one of the conditions does. -/
theorem exists_failsOn (h : ofConditions conditions aggregation reverse = .ok sieve) {test : Test}
    (hmem : test ∈ sieve.tests) {fields : Fields} {number : Nat} {failure : Failure}
    (herror : test.run fields number = .error failure) :
    ∃ condition ∈ conditions, condition.FailsOn fields number failure := by
  obtain ⟨tests, htests, rfl⟩ := ofConditions_eq_ok_iff.1 h
  obtain ⟨condition, hcondition, htest⟩ := exists_of_mem_mapM htests test hmem
  exact ⟨condition, hcondition, (Test.run_of_ofCondition_eq_error_iff htest).1 herror⟩

/-- A sieve and one with the same tests decide alike on every line. -/
theorem alike_judge (h : ofConditions conditions aggregation reverse = .ok sieve)
    (hsame : sieve.SameTests other) (line : List UInt8) (number : Nat) :
    Alike (FailsOnLine conditions line number) (sieve.judge line number)
      (other.judge line number) := by
  cases hread : readRecord line number with
  | error cause =>
    rw [judge_of_readRecord_error hread, judge_of_readRecord_error hread]
    exact .error (.undecoded hread)
  | ok fields =>
    -- All tests have answers in both sieves, or one is missing in both of them.
    have hanswered : (∃ answers, sieve.answers fields number = .ok answers) ↔
        ∃ answers, other.answers fields number = .ok answers := by
      simp only [answers, exists_mapM_eq_ok_iff, hsame.mem_iff]
    rw [judge_of_readRecord hread, judge_of_readRecord hread, keeps_eq, keeps_eq]
    cases hanswers : sieve.answers fields number with
    | error failure =>
      cases hothers : other.answers fields number with
      | error failure' =>
        obtain ⟨test, htest, herror⟩ := exists_of_mapM_eq_error hanswers
        obtain ⟨test', htest', herror'⟩ := exists_of_mapM_eq_error hothers
        exact .error (.ofConditions hread (exists_failsOn h htest herror)
          (exists_failsOn h ((hsame.mem_iff test').2 htest') herror'))
      | ok answers =>
        obtain ⟨_, hok⟩ := hanswered.2 ⟨answers, hothers⟩
        rw [hanswers] at hok
        cases hok
    | ok answers =>
      obtain ⟨otherAnswers, hothers⟩ := hanswered.1 ⟨answers, hanswers⟩
      have hresult : sieve.aggregation.resultOf answers =
          sieve.aggregation.resultOf otherAnswers := by
        refine sieve.aggregation.resultOf_congr fun answer => ?_
        rw [mem_iff_of_mapM hanswers, mem_iff_of_mapM hothers]
        simp only [hsame.mem_iff]
      rw [hothers, ← hsame.aggregation_eq, ← hsame.reverse_eq]
      simp only [Except.map, hresult]
      exact .ok _

end Sieve

/-- The order of conditions and how often each is repeated make no difference. If there is a sieve
of some conditions, there is one of every list with the same members, and on every input and output
their runs read the same lines and write the same bytes. They end with the same counts, or both fail
on the last line that they read. -/
theorem run_alike_of_mem_iff {conditions others : List Condition}
    (hmem : ∀ condition, condition ∈ conditions ↔ condition ∈ others) {aggregation : Aggregation}
    {reverse : Bool} {sieve : Sieve}
    (h : Sieve.ofConditions conditions aggregation reverse = .ok sieve) :
    ∃ other, Sieve.ofConditions others aggregation reverse = .ok other ∧ ∀ source sink,
      let run := sieve.run source sink
      let run' := other.run source sink
      run.reads = run'.reads ∧ run.output = run'.output ∧
        Alike (StopsAlike (FailsOnLine conditions) 0 run.reads) run.result run'.result := by
  obtain ⟨other, hother, hsame⟩ := Sieve.exists_sameTests hmem h
  refine ⟨other, hother, fun source sink => ?_⟩
  obtain ⟨run', hrun', hoperations, hresult⟩ :=
    (runs_run sieve source sink).alike (Sieve.alike_judge h hsame)
  rw [hrun'.eq_runLines, ← Sieve.run_eq_runLines] at hoperations hresult
  refine ⟨?_, ?_, hresult⟩
  · rw [Run.reads, hoperations, ← Run.reads]
  · rw [Run.output, Run.written, hoperations, ← Run.written, ← Run.output]

/-- Two conditions in both orders, on a line on which both of them fail. -/
theorem run_alike_sizes :
    let size : Condition := ⟨"size", .ge, "1Ki"⟩
    let user : Condition := ⟨"by", .lt, "\"root\""⟩
    let bytes := Utf8.encode "\x7b\"by\":1\x7d".toList
    (∀ condition, condition ∈ [size, user] ↔ condition ∈ [user, size, user]) ∧
      ∃ sieve other, Sieve.ofConditions [size, user] .any true = .ok sieve ∧
        Sieve.ofConditions [user, size, user] .any true = .ok other ∧
        let run := sieve.run (.ofBytes bytes) .reliable
        let run' := other.run (.ofBytes bytes) .reliable
        run.reads = run'.reads ∧ run.output = run'.output ∧
          Alike (StopsAlike (FailsOnLine [size, user]) 0 run.reads) run.result run'.result := by
  intro size user bytes
  have hmem : ∀ condition, condition ∈ [size, user] ↔ condition ∈ [user, size, user] := by
    intro condition
    simp only [List.mem_cons, List.not_mem_nil, or_false]
    exact ⟨Or.inr, fun h => h.elim Or.inr id⟩
  have hsieve : Sieve.ofConditions [size, user] .any true =
      .ok ⟨[Test.plain size, Test.plain user], .any, true⟩ := rfl
  obtain ⟨other, hother, halike⟩ := run_alike_of_mem_iff hmem hsieve
  exact ⟨hmem, _, other, hsieve, hother, halike _ _⟩

end RecordSieve
