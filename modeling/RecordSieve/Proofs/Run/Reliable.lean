import RecordSieve.Proofs.Decisions
import RecordSieve.Proofs.Run.Basic

/-!
# Runs without Faults

What a run means when neither its input nor its output fails: it writes the lines that the sieve
keeps, in order and byte for byte, up to the first line without a decision.

## Main definitions

* `Sieve.keptFrom`: the lines that the sieve keeps;
* `Failure.line?`: the line that a failure names.

## Main statements

* `Sieve.runLines_append`: decided lines in front of others only add to the counts and the output;
* `Sieve.run_of_decides`, `Sieve.run_of_undecided`: a run goes on up to the first line without a
  decision;
* `run_ofBytes_reliable`: the full meaning of a run.
-/

namespace RecordSieve

/-- The number of the line that a failure names, if it names one. -/
def Failure.line? : Failure → Option Nat
  | notARecord line .. => some line
  | missingField _ line => some line
  | _ => none

/-- A scalar that is no pattern is refused without a line. -/
theorem Scalar.line?_of_pattern?_error {scalar : Scalar} {failure : Failure}
    (h : scalar.pattern? = .error failure) : failure.line? = none := by
  unfold pattern? at h
  split at h
  · split at h <;> cases h
    rfl
  · cases h
    rfl

/-- An operator that does not apply is refused without a line. -/
theorem Operator.line?_of_evaluate_error {op : Operator} {left right : Scalar} {failure : Failure}
    (h : op.evaluate left right = .error failure) : failure.line? = none := by
  unfold evaluate at h
  split at h
  · cases h
  · cases h
  · rcases hpattern : right.pattern? with cause | regex
    · rw [hpattern] at h
      cases h
      exact Scalar.line?_of_pattern?_error hpattern
    · rw [hpattern] at h
      cases h
  all_goals
    split at h <;> cases h
    rfl

/-- The failure of a test names no line but the one that was tested. -/
theorem Test.line_of_run_error {test : Test} {fields : Fields} {number m : Nat} {failure : Failure}
    (h : test.run fields number = .error failure) (hline : failure.line? = some m) :
    m = number := by
  unfold run at h
  split at h
  · cases h
    exact (Option.some.inj hline).symm
  · simp only at h
    split at h
    · cases h
    · rw [Operator.line?_of_evaluate_error h] at hline
      cases hline

namespace Sieve

variable {sieve : Sieve}

/-- The failure of a decision names no line but the one that was judged. -/
theorem line_of_judge_error {line : List UInt8} {number m : Nat} {failure : Failure}
    (h : sieve.judge line number = .error failure) (hline : failure.line? = some m) :
    m = number := by
  rcases hread : readRecord line number with cause | fields
  · rw [judge_of_readRecord_error hread] at h
    cases h
    obtain ⟨shown, diagnosis, rfl⟩ := exists_of_readRecord_eq_error hread
    exact (Option.some.inj hline).symm
  · rw [judge_of_readRecord hread, keeps_eq_error_iff] at h
    obtain ⟨_, test, _, -, -, herror⟩ := h
    exact Test.line_of_run_error herror hline

/-- Every one of some lines, the first of which has the number `first`, has a decision. -/
def Decides (sieve : Sieve) (first : Nat) (ls : List (List UInt8)) : Prop :=
  ∀ i (h : i < ls.length), ∃ kept, sieve.judge ls[i] (first + i) = .ok kept

/-- The lines that the sieve keeps of some lines, the first of which has the number `first`. -/
def keptFrom (sieve : Sieve) (first : Nat) (ls : List (List UInt8)) : List (List UInt8) :=
  ((ls.zipIdx first).filter fun p => (sieve.judge p.1 p.2).toOption = some true).map Prod.fst

theorem decides_cons {first : Nat} {line : List UInt8} {rest : List (List UInt8)} :
    sieve.Decides first (line :: rest) ↔
      (∃ kept, sieve.judge line first = .ok kept) ∧ sieve.Decides (first + 1) rest := by
  constructor
  · intro h
    refine ⟨h 0 (Nat.zero_lt_succ _), ?_⟩
    intro i hi
    have := h (i + 1) (Nat.succ_lt_succ hi)
    rwa [List.getElem_cons_succ, show first + (i + 1) = first + 1 + i by omega] at this
  · rintro ⟨hline, hrest⟩ i hi
    cases i with
    | zero => exact hline
    | succ i =>
      have := hrest i (Nat.lt_of_succ_lt_succ hi)
      rwa [List.getElem_cons_succ, show first + (i + 1) = first + 1 + i by omega]

/-- Lines are decided up to the first one without a decision, if there is one. -/
theorem exists_decided (sieve : Sieve) (first : Nat) (ls : List (List UInt8)) :
    ∃ front back, ls = front ++ back ∧ sieve.Decides first front ∧
      (back = [] ∨ ∃ line rest failure, back = line :: rest ∧
        sieve.judge line (first + front.length) = .error failure) := by
  induction ls generalizing first with
  | nil =>
    refine ⟨[], [], rfl, ?_, .inl rfl⟩
    intro i hi
    cases hi
  | cons line ls ih =>
    rcases hjudge : sieve.judge line first with failure | kept
    · refine ⟨[], line :: ls, rfl, ?_, .inr ⟨line, ls, failure, rfl, hjudge⟩⟩
      intro i hi
      cases hi
    · obtain ⟨front, back, rfl, hfront, hback⟩ := ih (first + 1)
      refine ⟨line :: front, back, rfl, decides_cons.2 ⟨⟨kept, hjudge⟩, hfront⟩, ?_⟩
      rwa [List.length_cons, Nat.add_comm front.length, ← Nat.add_assoc]

theorem keptFrom_cons_true {first : Nat} {line : List UInt8} {rest : List (List UInt8)}
    (h : sieve.judge line first = .ok true) :
    sieve.keptFrom first (line :: rest) = line :: sieve.keptFrom (first + 1) rest := by
  rw [keptFrom, List.zipIdx_cons, List.filter_cons_of_pos (by simp [h, Except.toOption]),
    List.map_cons, keptFrom]

theorem keptFrom_cons_false {first : Nat} {line : List UInt8} {rest : List (List UInt8)}
    (h : sieve.judge line first = .ok false) :
    sieve.keptFrom first (line :: rest) = sieve.keptFrom (first + 1) rest := by
  rw [keptFrom, List.zipIdx_cons, List.filter_cons_of_neg (by simp [h, Except.toOption]),
    keptFrom]

/-- Decided lines in front of others are read and, if they are kept, written; then the run goes on
as if it had started behind them with the counts it has reached. -/
theorem runLines_append (failure : Option String) (counts : Summary)
    {front : List (List UInt8)} (back : List (List UInt8))
    (h : sieve.Decides (counts.records + 1) front) :
    let kept := sieve.keptFrom (counts.records + 1) front
    let others := sieve.runLines .reliable failure
      ⟨counts.records + front.length, counts.emitted + kept.length⟩ back
    (sieve.runLines .reliable failure counts (front ++ back)).result = others.result ∧
      (sieve.runLines .reliable failure counts (front ++ back)).written =
        kept ++ others.written := by
  -- The counts are generalized, since they are those behind the lines that were decided.
  induction front generalizing counts with
  | nil => exact ⟨rfl, rfl⟩
  | cons line front ih =>
    obtain ⟨⟨kept, hjudge⟩, hfront⟩ := decides_cons.1 h
    simp only [List.cons_append, runLines, hjudge, List.length_cons]
    cases kept with
    | false =>
      obtain ⟨hresult, hwritten⟩ := ih ⟨counts.records + 1, counts.emitted⟩ hfront
      rw [keptFrom_cons_false hjudge, Run.after_result, Run.written_after, hresult, hwritten,
        show counts.records + (front.length + 1) = counts.records + 1 + front.length by omega]
      exact ⟨rfl, rfl⟩
    | true =>
      obtain ⟨hresult, hwritten⟩ := ih ⟨counts.records + 1, counts.emitted + 1⟩ hfront
      have hcounts : counts.emitted + (sieve.keptFrom (counts.records + 1) (line :: front)).length =
          counts.emitted + 1 + (sieve.keptFrom (counts.records + 1 + 1) front).length := by
        rw [keptFrom_cons_true hjudge, List.length_cons]
        omega
      rw [hcounts, keptFrom_cons_true hjudge,
        show counts.records + (front.length + 1) = counts.records + 1 + front.length by omega]
      refine ⟨hresult, ?_⟩
      change (Run.after _ (Run.after _ _)).written = _
      rw [Run.written_after, Run.written_after, hwritten]
      rfl

end Sieve

/-- A run over lines that are all decided. -/
theorem Sieve.run_of_decides {sieve : Sieve} {bytes : List UInt8}
    (h : sieve.Decides 1 (lines bytes)) :
    (sieve.run (.ofBytes bytes) .reliable).written = sieve.keptFrom 1 (lines bytes) ∧
      (sieve.run (.ofBytes bytes) .reliable).result =
        .ok ⟨(lines bytes).length, (sieve.keptFrom 1 (lines bytes)).length⟩ := by
  have hrun : sieve.run (.ofBytes bytes) .reliable =
      sieve.runLines .reliable none ⟨0, 0⟩ (lines bytes ++ []) := by
    rw [List.append_nil]
    exact sieve.run_eq_runLines _ _
  obtain ⟨hresult, hwritten⟩ := runLines_append none ⟨0, 0⟩ [] h
  rw [hrun, hresult, hwritten]
  simp only [runLines, Nat.zero_add]
  exact ⟨List.append_nil _, trivial⟩

/-- A run ends at the first line without a decision. -/
theorem Sieve.run_of_undecided {sieve : Sieve} {bytes line : List UInt8}
    {front rest : List (List UInt8)} {failure : Failure}
    (hlines : lines bytes = front ++ line :: rest) (hfront : sieve.Decides 1 front)
    (hjudge : sieve.judge line (front.length + 1) = .error failure) :
    (sieve.run (.ofBytes bytes) .reliable).written = sieve.keptFrom 1 front ∧
      (sieve.run (.ofBytes bytes) .reliable).result = .error failure := by
  have hrun : sieve.run (.ofBytes bytes) .reliable =
      sieve.runLines .reliable none ⟨0, 0⟩ (front ++ line :: rest) := by
    rw [← hlines]
    exact sieve.run_eq_runLines _ _
  obtain ⟨hresult, hwritten⟩ := runLines_append none ⟨0, 0⟩ (line :: rest) hfront
  rw [hrun, hresult, hwritten]
  simp only [runLines, Nat.zero_add, hjudge]
  exact ⟨List.append_nil _, rfl⟩

/-- A run without faults either decides all the lines, or ends at the first one without a
decision. -/
theorem Sieve.run_cases (sieve : Sieve) (bytes : List UInt8) :
    let run := sieve.run (.ofBytes bytes) .reliable
    (sieve.Decides 1 (lines bytes) ∧ run.written = sieve.keptFrom 1 (lines bytes) ∧
        run.result = .ok ⟨(lines bytes).length, (sieve.keptFrom 1 (lines bytes)).length⟩) ∨
      ∃ front line rest failure, lines bytes = front ++ line :: rest ∧ sieve.Decides 1 front ∧
        sieve.judge line (front.length + 1) = .error failure ∧
        run.written = sieve.keptFrom 1 front ∧ run.result = .error failure := by
  obtain ⟨front, back, hlines, hdecides, hback⟩ := sieve.exists_decided 1 (lines bytes)
  rcases hback with rfl | ⟨line, rest, failure, rfl, hjudge⟩
  · rw [List.append_nil] at hlines
    rw [← hlines] at hdecides
    exact .inl ⟨hdecides, run_of_decides hdecides⟩
  · rw [Nat.add_comm] at hjudge
    exact .inr ⟨front, line, rest, failure, hlines, hdecides, hjudge,
      run_of_undecided hlines hdecides hjudge⟩

/-- A run without faults that ends well has decided all the lines. -/
theorem Sieve.decides_of_run {sieve : Sieve} {bytes : List UInt8} {counts : Summary}
    (h : (sieve.run (.ofBytes bytes) .reliable).result = .ok counts) :
    sieve.Decides 1 (lines bytes) := by
  rcases sieve.run_cases bytes with ⟨hdecides, -, -⟩ | ⟨_, _, _, failure, -, -, -, -, hresult⟩
  · exact hdecides
  · rw [h] at hresult
    cases hresult

/-- The full meaning of a run without faults. With the input split behind every newline, the run
keeps the lines that the sieve keeps if each line has a decision. Otherwise it ends with the
failure of the first line that has none, which is the only line the failure may name, and keeps
what the sieve keeps of the lines in front. -/
theorem run_ofBytes_reliable (sieve : Sieve) (bytes : List UInt8) :
    ∃ ls, IsSplit bytes ls ∧ (∀ others, IsSplit bytes others → others = ls) ∧
      let run := sieve.run (.ofBytes bytes) .reliable
      ((∀ i (h : i < ls.length), ∃ kept, sieve.judge ls[i] (1 + i) = .ok kept) →
        run.result = .ok ⟨ls.length, (sieve.keptFrom 1 ls).length⟩ ∧
          run.output = (sieve.keptFrom 1 ls).flatten) ∧
      ∀ k (h : k < ls.length) failure, sieve.judge ls[k] (1 + k) = .error failure →
        (∀ i (h : i < k), ∃ kept, sieve.judge ls[i] (1 + i) = .ok kept) →
        run.result = .error failure ∧ (∀ n, failure.line? = some n → n = 1 + k) ∧
          run.output = (sieve.keptFrom 1 (ls.take k)).flatten := by
  refine ⟨lines bytes, isSplit_lines bytes, fun others h => isSplit_iff.1 h, ?_⟩
  have hrun : sieve.run (.ofBytes bytes) .reliable =
      sieve.runLines .reliable none ⟨0, 0⟩ (lines bytes) := sieve.run_eq_runLines _ _
  intro run
  constructor
  · intro hdecides
    obtain ⟨hresult, hwritten⟩ := Sieve.runLines_append none ⟨0, 0⟩ [] hdecides
    rw [List.append_nil, ← hrun] at hresult hwritten
    constructor
    · rw [hresult, Sieve.runLines, Nat.zero_add, Nat.zero_add]
    · rw [Run.output, hwritten, Sieve.runLines]
      simp [Run.written, Operation.written?]
  · intro k hk failure hjudge hfront
    -- The lines in front of the first without a decision are decided.
    have hdecides : sieve.Decides 1 ((lines bytes).take k) := by
      intro i hi
      rw [List.length_take] at hi
      rw [List.getElem_take]
      exact hfront i (by omega)
    obtain ⟨hresult, hwritten⟩ :=
      Sieve.runLines_append none ⟨0, 0⟩ ((lines bytes).drop k) hdecides
    rw [List.take_append_drop, ← hrun, List.drop_eq_getElem_cons hk] at hresult hwritten
    have hlength : ((lines bytes).take k).length = k := by
      rw [List.length_take]
      omega
    -- Behind the decided lines the run meets the one without a decision, and ends there.
    have hjudge' : sieve.judge (lines bytes)[k] (0 + ((lines bytes).take k).length + 1) =
        .error failure := by
      rw [hlength, Nat.zero_add, Nat.add_comm]
      exact hjudge
    simp only [Sieve.runLines, hjudge'] at hresult hwritten
    refine ⟨hresult, fun n hn => Sieve.line_of_judge_error hjudge hn, ?_⟩
    rw [Run.output, hwritten]
    simp [Run.written, Run.after, Run.stopped, Operation.written?]

end RecordSieve
