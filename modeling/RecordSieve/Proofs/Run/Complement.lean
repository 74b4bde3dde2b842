import RecordSieve.Proofs.Run.Reliable

/-!
# Complementary Runs

A sieve turned around keeps exactly what the sieve drops. Over one input the two runs stop at the
same place, and share the lines in front of it between them.

## Main definitions

* `marked`, `interleave`: the members of a list at the places that are marked, and two lists put
  together by marks;
* `Complementary`: two runs that share the lines of an input.

## Main statements

* `Sieve.judge_flipped`: turning a sieve around negates its decisions and keeps its failures;
* `interleave_marked`: a list can be put together from its marked members and the others;
* `exists_complementary`: the runs of a sieve and of the one turned around are complementary;
* `run_reverse`: so are those of the two sieves that are built from the same conditions.
-/

namespace RecordSieve

section Marks

variable {α : Type}

/-- The members of a list at the places that are marked, in order. -/
def marked (marks : List Bool) (l : List α) : List α := ((l.zip marks).filter (·.2)).map (·.1)

/-- Two lists put together: the mark of a place says which of them the next member is from. -/
def interleave : List Bool → List α → List α → List α
  | true :: marks, a :: first, second => a :: interleave marks first second
  | false :: marks, first, b :: second => b :: interleave marks first second
  | _, _, _ => []

@[simp]
theorem marked_nil (l : List α) : marked [] l = [] := by
  rw [marked, List.zip_nil_right]
  rfl

@[simp]
theorem marked_cons_true (marks : List Bool) (a : α) (l : List α) :
    marked (true :: marks) (a :: l) = a :: marked marks l := rfl

@[simp]
theorem marked_cons_false (marks : List Bool) (a : α) (l : List α) :
    marked (false :: marks) (a :: l) = marked marks l := rfl

/-- Marks say nothing about what is behind them. -/
theorem marked_append {marks : List Bool} {front : List α} (h : front.length = marks.length)
    (back : List α) : marked marks (front ++ back) = marked marks front := by
  have hzip : (front ++ back).zip (marks ++ []) = front.zip marks ++ back.zip [] :=
    List.zip_append h
  rw [List.append_nil, List.zip_nil_right, List.append_nil] at hzip
  rw [marked, hzip, marked]

/-- The marked members of a list and the others, put together by the marks, are the list as far
as it is marked. -/
theorem interleave_marked (marks : List Bool) (l : List α) (h : marks.length ≤ l.length) :
    interleave marks (marked marks l) (marked (marks.map not) l) = l.take marks.length := by
  -- Both lists are as long as needed, since every mark is for a member of one of them.
  induction marks generalizing l with
  | nil => rfl
  | cons mark marks ih =>
    obtain ⟨a, l, rfl⟩ := List.exists_cons_of_length_pos (Nat.lt_of_lt_of_le (Nat.succ_pos _) h)
    have hrest := ih l (Nat.le_of_succ_le_succ h)
    cases mark with
    | true => exact congrArg (a :: ·) hrest
    | false => exact congrArg (a :: ·) hrest

/-- Every place is either marked or not. -/
theorem length_marked_add (marks : List Bool) (l : List α) (h : marks.length ≤ l.length) :
    (marked marks l).length + (marked (marks.map not) l).length = marks.length := by
  induction marks generalizing l with
  | nil => simp
  | cons mark marks ih =>
    obtain ⟨a, l, rfl⟩ := List.exists_cons_of_length_pos (Nat.lt_of_lt_of_le (Nat.succ_pos _) h)
    have hrest := ih l (Nat.le_of_succ_le_succ h)
    cases mark with
    | true =>
      simp only [List.map_cons, Bool.not_true, marked_cons_true, marked_cons_false,
        List.length_cons]
      omega
    | false =>
      simp only [List.map_cons, Bool.not_false, marked_cons_true, marked_cons_false,
        List.length_cons]
      omega

end Marks

namespace Sieve

/-- The sieve that drops what the sieve keeps. -/
def flipped (sieve : Sieve) : Sieve := { sieve with reverse := !sieve.reverse }

/-- Turning a sieve around negates its decisions, and its failures stay as they are. -/
theorem judge_flipped (sieve : Sieve) (line : List UInt8) (number : Nat) :
    sieve.flipped.judge line number = (sieve.judge line number).map not := by
  rcases hread : readRecord line number with failure | fields
  · rw [judge_of_readRecord_error hread, judge_of_readRecord_error hread]
    rfl
  · rw [judge_of_readRecord hread, judge_of_readRecord hread, keeps_eq, keeps_eq]
    -- The answers are the same, and only what is made of them is turned around.
    show (sieve.answers fields number).map _ = _
    cases sieve.answers fields number with
    | error failure => rfl
    | ok answers => simp [Except.map, flipped]

/-- Both sieves decide on the same lines. -/
theorem decides_flipped {sieve : Sieve} {first : Nat} {ls : List (List UInt8)}
    (h : sieve.Decides first ls) : sieve.flipped.Decides first ls := by
  intro i hi
  obtain ⟨kept, hkept⟩ := h i hi
  refine ⟨!kept, ?_⟩
  rw [judge_flipped, hkept]
  rfl

/-- Of lines that are decided one sieve keeps those at some places, and the other one the rest. -/
theorem exists_marks {sieve : Sieve} {first : Nat} {ls : List (List UInt8)}
    (h : sieve.Decides first ls) :
    ∃ marks : List Bool, marks.length = ls.length ∧
      sieve.keptFrom first ls = marked marks ls ∧
      sieve.flipped.keptFrom first ls = marked (marks.map not) ls := by
  induction ls generalizing first with
  | nil => exact ⟨[], rfl, rfl, rfl⟩
  | cons line ls ih =>
    obtain ⟨⟨kept, hjudge⟩, hrest⟩ := decides_cons.1 h
    obtain ⟨marks, hlength, hkept, hflipped⟩ := ih hrest
    have hjudge' : sieve.flipped.judge line first = .ok !kept := by
      rw [judge_flipped, hjudge]
      rfl
    -- The decision on a line is its mark.
    refine ⟨kept :: marks, congrArg (· + 1) hlength, ?_⟩
    cases kept with
    | true =>
      rw [keptFrom_cons_true hjudge, keptFrom_cons_false hjudge', hkept, hflipped]
      exact ⟨rfl, rfl⟩
    | false =>
      rw [keptFrom_cons_false hjudge, keptFrom_cons_true hjudge', hkept, hflipped]
      exact ⟨rfl, rfl⟩

end Sieve

/-- Two runs over the lines of an input that share them between them, up to the first line that
has no decision. The marks say of each line in front of it which of the runs wrote it. -/
structure Complementary (sieve : Sieve) (ls : List (List UInt8)) (run other : Run)
    (marks : List Bool) : Prop where
  length_le : marks.length ≤ ls.length
  /-- One run writes the marked lines, in order. -/
  written_eq : run.written = marked marks ls
  /-- The other run writes the lines that are not marked, in order. -/
  written_other_eq : other.written = marked (marks.map not) ls
  /-- Put together by the marks, the lines of both runs are the lines of the input. -/
  merged : interleave marks run.written other.written = ls.take marks.length
  /-- Both runs succeed and count the same lines, all of which one of them wrote, or both fail
  with the failure of the first line without a decision. -/
  result_eq :
    marks.length = ls.length ∧ run.written.length + other.written.length = ls.length ∧
        run.result = .ok ⟨ls.length, run.written.length⟩ ∧
        other.result = .ok ⟨ls.length, other.written.length⟩ ∨
      ∃ line failure, ls[marks.length]? = some line ∧
        sieve.judge line (marks.length + 1) = .error failure ∧
        run.result = .error failure ∧ other.result = .error failure

/-- The runs of a sieve and of the sieve turned around share the lines of every input. -/
theorem exists_complementary (sieve : Sieve) (bytes : List UInt8) :
    ∃ marks, Complementary sieve (lines bytes) (sieve.run (.ofBytes bytes) .reliable)
      (sieve.flipped.run (.ofBytes bytes) .reliable) marks := by
  obtain ⟨front, back, hlines, hdecides, hback⟩ := sieve.exists_decided 1 (lines bytes)
  obtain ⟨marks, hlength, hkept, hflipped⟩ := Sieve.exists_marks hdecides
  -- Whatever the results are, the lines written are those that the sieves keep in front.
  have hshared {run other : Run} (hrun : run.written = sieve.keptFrom 1 front)
      (hother : other.written = sieve.flipped.keptFrom 1 front) :
      run.written = marked marks (lines bytes) ∧
        other.written = marked (marks.map not) (lines bytes) := by
    rw [hrun, hother, hkept, hflipped, hlines, marked_append hlength.symm,
      marked_append (by rw [List.length_map, hlength])]
    exact ⟨rfl, rfl⟩
  have hle : marks.length ≤ (lines bytes).length := by
    rw [hlines, hlength, List.length_append]
    exact Nat.le_add_right _ _
  have hmerged := interleave_marked marks (lines bytes) hle
  have hcount := length_marked_add marks (lines bytes) hle
  rcases hback with rfl | ⟨line, rest, failure, rfl, hjudge⟩
  · -- Without a failing line all lines are decided, by both sieves.
    rw [List.append_nil] at hlines
    rw [← hlines] at hdecides hlength hshared
    obtain ⟨hrun, hresult⟩ := Sieve.run_of_decides hdecides
    obtain ⟨hother, hresult'⟩ := Sieve.run_of_decides (Sieve.decides_flipped hdecides)
    rw [← hrun] at hresult
    rw [← hother] at hresult'
    obtain ⟨hwritten, hwritten'⟩ := hshared hrun hother
    refine ⟨marks, hle, hwritten, hwritten', ?_, .inl ⟨hlength, ?_, hresult, hresult'⟩⟩
    · rw [hwritten, hwritten', hmerged]
    · rw [hwritten, hwritten', hcount, hlength]
  · rw [Nat.add_comm] at hjudge
    have hjudge' : sieve.flipped.judge line (front.length + 1) = .error failure := by
      rw [Sieve.judge_flipped, hjudge]
      rfl
    obtain ⟨hrun, hresult⟩ := Sieve.run_of_undecided hlines hdecides hjudge
    obtain ⟨hother, hresult'⟩ :=
      Sieve.run_of_undecided hlines (Sieve.decides_flipped hdecides) hjudge'
    obtain ⟨hwritten, hwritten'⟩ := hshared hrun hother
    refine ⟨marks, hle, hwritten, hwritten', ?_,
      .inr ⟨line, failure, ?_, ?_, hresult, hresult'⟩⟩
    · rw [hwritten, hwritten', hmerged]
    · rw [hlines, hlength]
      simp
    · rw [hlength]
      exact hjudge

/-- Built from the same conditions, the sieve that keeps what passes and the one that drops it
either fail alike, or share the lines of every input between them. -/
theorem run_reverse (conditions : List Condition) (aggregation : Aggregation) :
    (∃ failure, Sieve.ofConditions conditions aggregation false = .error failure ∧
        Sieve.ofConditions conditions aggregation true = .error failure) ∨
      ∃ plain reversed, Sieve.ofConditions conditions aggregation false = .ok plain ∧
        Sieve.ofConditions conditions aggregation true = .ok reversed ∧
        ∀ bytes, ∃ marks, Complementary plain (lines bytes)
          (plain.run (.ofBytes bytes) .reliable) (reversed.run (.ofBytes bytes) .reliable)
          marks := by
  rw [Sieve.ofConditions_eq, Sieve.ofConditions_eq]
  rcases conditions.mapM Test.ofCondition with failure | tests
  · exact .inl ⟨failure, rfl, rfl⟩
  · refine .inr ⟨⟨tests, aggregation, false⟩, ⟨tests, aggregation, true⟩, rfl, rfl, ?_⟩
    intro bytes
    exact exists_complementary ⟨tests, aggregation, false⟩ bytes

end RecordSieve
