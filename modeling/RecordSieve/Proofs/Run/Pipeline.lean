import RecordSieve.Proofs.Run.Duality
import RecordSieve.Proofs.Run.Rerun

/-!
# Sieves in a Pipeline

A sieve that asks for all of some conditions does what two sieves do one behind the other, each of
which asks for some of them. The second one reads the lines that the first one has written, under
other numbers, and it does not matter which of them comes first.

## Main definitions

* `Sieve.Conjoins`: the decisions of a sieve are those of two others taken together;
* `Sieve.EqualsPipeline`: a run does what the runs of two sieves in a row do.

## Main statements

* `Sieve.conjoins_append`: more tests are a conjunction;
* `Sieve.Conjoins.equalsPipeline`: a conjunction is a pipeline on every input that it decides;
* `run_pipeline`: the same for the sieves that are built from conditions.
-/

namespace RecordSieve

namespace Sieve

variable {sieve first second : Sieve}

/-- The decisions of a sieve are those of two others taken together: it keeps what both of them
keep, and they have decisions wherever it has one. -/
def Conjoins (sieve first second : Sieve) : Prop :=
  ∀ line kept, sieve.judge line 1 = .ok kept →
    ∃ a b, first.judge line 1 = .ok a ∧ second.judge line 1 = .ok b ∧ kept = (a && b)

theorem Conjoins.symm (h : sieve.Conjoins first second) : sieve.Conjoins second first := by
  intro line kept hjudge
  obtain ⟨a, b, ha, hb, rfl⟩ := h line kept hjudge
  exact ⟨b, a, hb, ha, Bool.and_comm a b⟩

/-- Without a turn, a record is kept if all the tests say yes. -/
theorem keeps_all_eq_ok_iff {tests : List Test} {fields : Fields} {number : Nat} {kept : Bool} :
    keeps ⟨tests, .all, false⟩ fields number = .ok kept ↔
      ∃ answers, tests.mapM (·.run fields number) = .ok answers ∧ kept = answers.all id := by
  rw [keeps_eq, map_eq_ok_iff, answers]
  simp [eq_comm]

/-- More tests are a conjunction. -/
theorem conjoins_append (tests others : List Test) :
    Conjoins ⟨tests ++ others, .all, false⟩ ⟨tests, .all, false⟩ ⟨others, .all, false⟩ := by
  intro line kept hjudge
  rcases hread : readRecord line 1 with failure | fields
  · rw [judge_of_readRecord_error hread] at hjudge
    cases hjudge
  · rw [judge_of_readRecord hread] at hjudge
    obtain ⟨answers, hanswers, rfl⟩ := keeps_all_eq_ok_iff.1 hjudge
    obtain ⟨front, back, hfront, hback, rfl⟩ := exists_of_mapM_append hanswers
    refine ⟨front.all id, back.all id, ?_, ?_, List.all_append⟩
    · rw [judge_of_readRecord hread]
      exact keeps_all_eq_ok_iff.2 ⟨front, hfront, rfl⟩
    · rw [judge_of_readRecord hread]
      exact keeps_all_eq_ok_iff.2 ⟨back, hback, rfl⟩

/-- Lines that the conjunction decides are decided by both sieves. -/
theorem Conjoins.decides (h : sieve.Conjoins first second) {number : Nat}
    {ls : List (List UInt8)} (hdecides : sieve.Decides number ls) :
    first.Decides number ls ∧ second.Decides number ls := by
  simp only [decides_iff] at hdecides ⊢
  refine ⟨?_, ?_⟩
  · intro line hline
    obtain ⟨kept, hkept⟩ := hdecides line hline
    obtain ⟨a, -, ha, -, -⟩ := h line kept hkept
    exact ⟨a, ha⟩
  · intro line hline
    obtain ⟨kept, hkept⟩ := hdecides line hline
    obtain ⟨-, b, -, hb, -⟩ := h line kept hkept
    exact ⟨b, hb⟩

/-- The lines that the conjunction keeps are those that one sieve keeps of what the other one
keeps, whatever numbers they have there. -/
theorem Conjoins.keptFrom_keptFrom (h : sieve.Conjoins first second) {number : Nat} (other : Nat)
    {ls : List (List UInt8)} (hdecides : sieve.Decides number ls) :
    second.keptFrom other (first.keptFrom number ls) = sieve.keptFrom number ls := by
  rw [keptFrom_eq_filter, keptFrom_eq_filter, keptFrom_eq_filter, List.filter_filter]
  apply List.filter_congr
  intro line hline
  obtain ⟨kept, hkept⟩ := decides_iff.1 hdecides line hline
  obtain ⟨a, b, ha, hb, rfl⟩ := h line kept hkept
  simp [accepts, hkept, ha, hb, Except.toOption, Bool.and_comm]

/-- A run that ends well with the given counts does what two sieves do one behind the other: the
first one reads the same lines, the second one reads what the first one has written, and what is
left in the end is the output of the run. -/
def EqualsPipeline (sieve first second : Sieve) (bytes : List UInt8) (counts : Summary) : Prop :=
  let front := first.run (.ofBytes bytes) .reliable
  let back := second.run (.ofBytes front.output) .reliable
  ∃ passed, front.result = .ok ⟨counts.records, passed⟩ ∧
    back.result = .ok ⟨passed, counts.emitted⟩ ∧
    back.output = (sieve.run (.ofBytes bytes) .reliable).output

/-- A conjunction is a pipeline on every input that it decides. -/
theorem Conjoins.equalsPipeline (h : sieve.Conjoins first second) {bytes : List UInt8}
    {counts : Summary} (hrun : (sieve.run (.ofBytes bytes) .reliable).result = .ok counts) :
    sieve.EqualsPipeline first second bytes counts := by
  have hdecides := decides_of_run hrun
  obtain ⟨hfirst, hsecond⟩ := h.decides hdecides
  obtain ⟨hwritten, hresult⟩ := run_of_decides hdecides
  obtain ⟨hfront, hpassed⟩ := run_of_decides hfirst
  -- The second sieve reads the lines that the first one has written.
  have hlines : lines (first.run (.ofBytes bytes) .reliable).output =
      first.keptFrom 1 (lines bytes) := (lines_output _ _ _).trans hfront
  have hkept := h.keptFrom_keptFrom 1 hdecides
  rw [← hlines] at hkept hpassed
  have hrest : second.Decides 1 (lines (first.run (.ofBytes bytes) .reliable).output) := by
    rw [hlines, keptFrom_eq_filter, decides_iff]
    intro line hline
    exact decides_iff.1 hsecond line (List.mem_filter.1 hline).1
  obtain ⟨hback, hlast⟩ := run_of_decides hrest
  rw [hkept] at hback hlast
  rw [hresult] at hrun
  cases hrun
  refine ⟨_, hpassed, hlast, ?_⟩
  exact congrArg List.flatten (hback.trans hwritten.symm)

end Sieve

/-- A sieve that asks for all of some conditions and of others is a pipeline of the sieve for the
former and the sieve for the latter, in either order, on every input over which it ends well. -/
theorem run_pipeline {conditions others : List Condition} {sieve : Sieve}
    (h : Sieve.ofConditions (conditions ++ others) .all false = .ok sieve) :
    ∃ first second, Sieve.ofConditions conditions .all false = .ok first ∧
      Sieve.ofConditions others .all false = .ok second ∧
      ∀ bytes counts, (sieve.run (.ofBytes bytes) .reliable).result = .ok counts →
        sieve.EqualsPipeline first second bytes counts ∧
          sieve.EqualsPipeline second first bytes counts := by
  obtain ⟨tests, htests, rfl⟩ := Sieve.ofConditions_eq_ok_iff.1 h
  obtain ⟨front, back, hfront, hback, rfl⟩ := exists_of_mapM_append htests
  have hconjoins := Sieve.conjoins_append front back
  refine ⟨⟨front, .all, false⟩, ⟨back, .all, false⟩, ?_, ?_, ?_⟩
  · exact Sieve.ofConditions_eq_ok_iff.2 ⟨front, hfront, rfl⟩
  · exact Sieve.ofConditions_eq_ok_iff.2 ⟨back, hback, rfl⟩
  · intro bytes counts hrun
    exact ⟨hconjoins.equalsPipeline hrun, hconjoins.symm.equalsPipeline hrun⟩

/-- Large files, and files of one owner. The first record passes both conditions, and each of the
others passes one of them. -/
theorem run_pipeline_files :
    let bytes := Utf8.encode ("\x7b\"by\":\"root\",\"size\":4096\x7d\n" ++
      "\x7b\"by\":\"root\",\"size\":4\x7d\n" ++ "\x7b\"by\":\"me\",\"size\":4096\x7d").toList
    ∃ sieve first second,
      Sieve.ofConditions ([⟨"size", .ge, "1Ki"⟩] ++ [⟨"by", .eq, "\"root\""⟩]) .all false =
        .ok sieve ∧
      (sieve.run (.ofBytes bytes) .reliable).result = .ok ⟨3, 1⟩ ∧
      Sieve.ofConditions [⟨"size", .ge, "1Ki"⟩] .all false = .ok first ∧
      Sieve.ofConditions [⟨"by", .eq, "\"root\""⟩] .all false = .ok second ∧
      sieve.EqualsPipeline first second bytes ⟨3, 1⟩ ∧
      sieve.EqualsPipeline second first bytes ⟨3, 1⟩ := by
  intro bytes
  have hsieve : Sieve.ofConditions ([⟨"size", .ge, "1Ki"⟩] ++ [⟨"by", .eq, "\"root\""⟩]) .all
      false = .ok ⟨[.plain ⟨"size", .ge, "1Ki"⟩, .plain ⟨"by", .eq, "\"root\""⟩], .all, false⟩ :=
    rfl
  have hcounts : (Sieve.run ⟨[.plain ⟨"size", .ge, "1Ki"⟩, .plain ⟨"by", .eq, "\"root\""⟩], .all,
      false⟩ (.ofBytes bytes) .reliable).result.toOption = some ⟨3, 1⟩ := by decide +kernel
  have hrun := toOption_eq_some_iff.1 hcounts
  obtain ⟨first, second, hfirst, hsecond, hpipeline⟩ := run_pipeline hsieve
  exact ⟨_, first, second, hsieve, hrun, hfirst, hsecond, hpipeline bytes ⟨3, 1⟩ hrun⟩

end RecordSieve
