import RecordSieve.Proofs.Keys

/-!
# Inputs Joined at a Line End

An input that is cut behind a newline can be worked on piece by piece. What a run has done with the
lines in front matters for those behind only through its counts: they go on from there, and a
failure names a line that stands further on by as many lines.

## Main definitions

* `Run.raised`: a run that starts from other counts;
* `Joined`, `KeysJoined`: how a run, or the collection of keys, goes on from one piece of an input
  to the next.

## Main statements

* `Sieve.runLines_raised`: lines are run alike whatever the counts in front of them are;
* `Sieve.run_append_of_decides`: behind lines that are decided a run goes on as one over the rest;
* `joined_of_isFinished`: a run over both pieces is the run over one and then over the other;
* `joined_append`: the same for runs and for the collection of keys.
-/

namespace RecordSieve

/-- The run with the given counts in front of it. -/
def Run.raised (start : Summary) (run : Run) : Run :=
  { run with
    result := (run.result.map fun counts =>
      ⟨counts.records + start.records, counts.emitted + start.emitted⟩).mapError
        (Failure.raised start.records) }

@[simp]
theorem Run.raised_written (start : Summary) (run : Run) :
    (run.raised start).written = run.written := rfl

theorem Run.raised_after (start : Summary) (operations : List Operation) (run : Run) :
    (run.after operations).raised start = (run.raised start).after operations := rfl

/-- Lines are run alike whatever the counts in front of them are. -/
theorem Sieve.runLines_raised (sieve : Sieve) (failure : Option String) (counts start : Summary)
    (ls : List (List UInt8)) :
    sieve.runLines .reliable failure
        ⟨counts.records + start.records, counts.emitted + start.emitted⟩ ls =
      (sieve.runLines .reliable failure counts ls).raised start := by
  induction ls generalizing counts with
  | nil => cases failure <;> rfl
  | cons line ls ih =>
    have hjudge := sieve.judge_add line (counts.records + 1) start.records
    simp only [runLines, Nat.add_right_comm _ start.records 1, hjudge, Run.raised_after]
    rcases sieve.judge line (counts.records + 1) with cause | kept
    · rfl
    · cases kept with
      | false => exact congrArg _ (ih ⟨counts.records + 1, counts.emitted⟩)
      | true =>
        -- The line is written and flushed, since the output does not fail.
        have hrest := ih ⟨counts.records + 1, counts.emitted + 1⟩
        simp only [Nat.add_right_comm _ 1 start.emitted] at hrest
        exact congrArg (fun rest : Run =>
          (rest.after [.write line none, .flush none]).after [.read line]) hrest

/-- Where the lines of the first piece are decided, the run over both pieces ends as the run over
the second one does from the counts behind them, and writes the lines kept of the first piece in
front of what that run writes. -/
theorem Sieve.run_append_of_decides {sieve : Sieve} {front : List UInt8} (h : IsFinished front)
    (hdecides : sieve.Decides 1 (lines front)) (back : List UInt8) :
    let kept := sieve.keptFrom 1 (lines front)
    let whole := sieve.run (.ofBytes (front ++ back)) .reliable
    let rest := (sieve.run (.ofBytes back) .reliable).raised ⟨(lines front).length, kept.length⟩
    whole.result = rest.result ∧ whole.written = kept ++ rest.written := by
  intro kept whole rest
  have hwhole : whole = sieve.runLines .reliable none ⟨0, 0⟩ (lines front ++ lines back) := by
    rw [← lines_append h]
    exact sieve.run_eq_runLines _ _
  have hrest : rest = sieve.runLines .reliable none
      ⟨0 + (lines front).length, 0 + kept.length⟩ (lines back) := by
    rw [Sieve.runLines_raised sieve none ⟨0, 0⟩ ⟨_, _⟩]
    exact congrArg (Run.raised _) (sieve.run_eq_runLines _ _)
  rw [hwhole, hrest]
  exact Sieve.runLines_append none ⟨0, 0⟩ (lines back) hdecides

/-- How a run goes on from one piece of an input to the next: the runs over either of them, and the
run over both. -/
structure Joined (front back whole : Run) : Prop where
  /-- A failure in front ends the run. -/
  of_error : ∀ failure, front.result = .error failure →
    whole.result = .error failure ∧ whole.output = front.output
  output_eq : ∀ counts, front.result = .ok counts → whole.output = front.output ++ back.output
  of_ok : ∀ counts others, front.result = .ok counts → back.result = .ok others →
    whole.result = .ok ⟨counts.records + others.records, counts.emitted + others.emitted⟩
  /-- A failure behind is raised by the lines in front. -/
  of_ok_error : ∀ counts failure, front.result = .ok counts → back.result = .error failure →
    whole.result = .error (failure.raised counts.records)

/-- The run over finished bytes and more bytes is the run over the former, and then over the
latter. -/
theorem joined_of_isFinished (sieve : Sieve) {front : List UInt8} (h : IsFinished front)
    (back : List UInt8) :
    Joined (sieve.run (.ofBytes front) .reliable) (sieve.run (.ofBytes back) .reliable)
      (sieve.run (.ofBytes (front ++ back)) .reliable) := by
  rcases sieve.run_cases front with
    ⟨hdecides, hwritten, hresult⟩ | ⟨before, line, rest, failure, hfront, hdecides, hjudge,
      hwritten, hresult⟩
  · obtain ⟨hend, hlast⟩ := Sieve.run_append_of_decides h hdecides back
    have houtput : (sieve.run (.ofBytes (front ++ back)) .reliable).output =
        (sieve.run (.ofBytes front) .reliable).output ++
          (sieve.run (.ofBytes back) .reliable).output := by
      unfold Run.output
      rw [hlast, List.flatten_append, Run.raised_written, hwritten]
    refine ⟨?_, fun _ _ => houtput, ?_, ?_⟩
    · exact fun _ herror => nomatch hresult.symm.trans herror
    · intro counts others hok hothers
      obtain rfl := Except.ok.inj (hresult.symm.trans hok)
      rw [hend, Run.raised, hothers]
      simp [Except.map, Nat.add_comm]
    · intro counts failure hok herror
      obtain rfl := Except.ok.inj (hresult.symm.trans hok)
      rw [hend, Run.raised, herror]
      rfl
  · have hlines : lines (front ++ back) = before ++ line :: (rest ++ lines back) := by
      rw [lines_append h, hfront, List.append_assoc, List.cons_append]
    -- The failure in front ends the run over both pieces too, with the same lines written.
    obtain ⟨hlast, hend⟩ := Sieve.run_of_undecided hlines hdecides hjudge
    have hfails : ∀ counts, (sieve.run (.ofBytes front) .reliable).result ≠ .ok counts :=
      fun _ hok => nomatch hresult.symm.trans hok
    refine ⟨?_, fun counts hok => absurd hok (hfails counts),
      fun counts _ hok => absurd hok (hfails counts),
      fun counts _ hok => absurd hok (hfails counts)⟩
    intro cause herror
    obtain rfl := Except.error.inj (hresult.symm.trans herror)
    exact ⟨hend, congrArg List.flatten (hlast.trans hwritten.symm)⟩

/-- How the collection of keys goes on from one piece of an input to the next, with as many lines
as given in the first one. -/
structure KeysJoined (count : Nat) (front back whole : Except Failure (List String)) : Prop where
  of_error : ∀ failure, front = .error failure → whole = .error failure
  /-- A failure behind is raised by the lines in front. -/
  of_ok_error : ∀ keys failure, front = .ok keys → back = .error failure →
    whole = .error (failure.raised count)
  /-- Otherwise the keys are those of both pieces, each once and in ascending order. -/
  of_ok : ∀ keys others, front = .ok keys → back = .ok others →
    ∃ all, whole = .ok all ∧ all.Pairwise (· < ·) ∧ ∀ key, key ∈ all ↔ key ∈ keys ∨ key ∈ others

/-- The keys of finished bytes and more bytes are those of the former and the latter. -/
theorem keysJoined_of_isFinished {front : List UInt8} (h : IsFinished front) (back : List UInt8) :
    KeysJoined (lines front).length (collectKeys (.ofBytes front)) (collectKeys (.ofBytes back))
      (collectKeys (.ofBytes (front ++ back))) := by
  simp only [collectKeys_ofBytes, lines_append h, readRecords_append, readRecords_add 1]
  rcases readRecords 1 (lines front) with failure | records
  · exact ⟨fun _ => id, fun _ _ => nofun, fun _ _ => nofun⟩
  rcases readRecords 1 (lines back) with failure | others
  · refine ⟨fun _ => nofun, ?_, fun _ _ _ => nofun⟩
    rintro keys _ - ⟨⟩
    rfl
  · refine ⟨fun _ => nofun, fun _ _ _ => nofun, ?_⟩
    rintro _ _ ⟨⟩ ⟨⟩
    refine ⟨_, rfl, pairwise_insertKeys .nil _, ?_⟩
    intro key
    simp [mem_insertKeys, List.flatMap_append]

/-- An input cut at the end of a line is worked on piece by piece: by every run without faults, and
by the collection of keys. -/
theorem joined_append {front : List UInt8} (h : IsFinished front) (back : List UInt8) :
    (∀ sieve : Sieve,
      Joined (sieve.run (.ofBytes front) .reliable) (sieve.run (.ofBytes back) .reliable)
        (sieve.run (.ofBytes (front ++ back)) .reliable)) ∧
      KeysJoined (lines front).length (collectKeys (.ofBytes front)) (collectKeys (.ofBytes back))
        (collectKeys (.ofBytes (front ++ back))) :=
  ⟨fun sieve => joined_of_isFinished sieve h back, keysJoined_of_isFinished h back⟩

/-- A record in front of another one without a newline. -/
theorem joined_append_records :
    let front := Utf8.encode "\x7b\"size\":1\x7d\n".toList
    let back := Utf8.encode "\x7b\"name\":2\x7d".toList
    IsFinished front ∧
      (∀ sieve : Sieve,
        Joined (sieve.run (.ofBytes front) .reliable) (sieve.run (.ofBytes back) .reliable)
          (sieve.run (.ofBytes (front ++ back)) .reliable)) ∧
      KeysJoined (lines front).length (collectKeys (.ofBytes front)) (collectKeys (.ofBytes back))
        (collectKeys (.ofBytes (front ++ back))) := by
  intro front back
  have h : IsFinished front := .inr rfl
  exact ⟨h, joined_append h back⟩

end RecordSieve
