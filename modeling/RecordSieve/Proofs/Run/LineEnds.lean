import RecordSieve.Proofs.Json.LineEnds
import RecordSieve.Proofs.Run.Rerun

/-!
# Runs across Ends of Lines

How the lines of an input end carries no meaning. A carriage return in front of every newline, or a
newline that the last line lacked, changes neither which lines are kept nor how the run ends, but
for the place inside a line at which its decoder gave up. The lines that are written end as they do
in the input.

## Main definitions

* `withReturns`, `completed`: bytes with other ends of lines;
* `Failure.SameShown`: failures that differ at most in a diagnosis;
* `Run.WroteUnfinished`: a run that has written a last line without a newline;
* `BlindToLineEnds`: what a run makes of bytes with other ends of lines.

## Main statements

* `lines_withReturns`, `lines_completed`: the lines are the same up to their ends;
* `Sieve.alike_judge_append`: a line is decided alike whatever bytes end it;
* `Runs.map_lines`: lines that are decided alike are run alike;
* `blindToLineEnds_run`: no run sees how lines end.
-/

namespace RecordSieve

/-! ### Other ends of lines -/

/-- Bytes with a carriage return in front of every newline. -/
def withReturns (bytes : List UInt8) : List UInt8 :=
  bytes.flatMap fun b => if b = newline then [0x0d, newline] else [b]

instance (bytes : List UInt8) : Decidable (IsFinished bytes) :=
  inferInstanceAs (Decidable (_ ∨ _))

/-- Bytes with a newline behind the last line, if that line lacks it. -/
def completed (bytes : List UInt8) : List UInt8 :=
  if IsFinished bytes then bytes else bytes ++ [newline]

theorem withReturns_cons_newline (rest : List UInt8) :
    withReturns (newline :: rest) = 0x0d :: newline :: withReturns rest := rfl

theorem withReturns_cons {b : UInt8} (h : b ≠ newline) (rest : List UInt8) :
    withReturns (b :: rest) = b :: withReturns rest := by
  rw [withReturns, List.flatMap_cons, if_neg h]
  rfl

theorem withReturns_append (front back : List UInt8) :
    withReturns (front ++ back) = withReturns front ++ withReturns back :=
  List.flatMap_append

/-- Without a newline no return is put in. -/
theorem withReturns_of_newline_notMem {bytes : List UInt8} (h : newline ∉ bytes) :
    withReturns bytes = bytes := by
  induction bytes with
  | nil => rfl
  | cons b rest ih =>
    obtain ⟨hb, hrest⟩ := List.ne_and_not_mem_of_not_mem_cons h
    rw [withReturns_cons (Ne.symm hb), ih hrest]

/-- Returns are put into each line of its own. -/
theorem withReturns_flatten (ls : List (List UInt8)) :
    withReturns ls.flatten = (ls.map withReturns).flatten := by
  induction ls with
  | nil => rfl
  | cons line ls ih =>
    rw [List.flatten_cons, withReturns_append, ih, List.map_cons, List.flatten_cons]

/-- Carriage returns go to the ends of the lines. -/
theorem lines_withReturns (bytes : List UInt8) :
    lines (withReturns bytes) = (lines bytes).map withReturns := by
  induction bytes with
  | nil => rfl
  | cons b rest ih =>
    by_cases hb : b = newline
    -- There is no cut between a carriage return and its newline.
    · subst hb
      rw [withReturns_cons_newline, lines, if_neg (by decide), lines, if_pos rfl, ih, lines,
        if_pos rfl]
      rfl
    · rw [withReturns_cons hb, lines, if_neg hb, ih, lines, if_neg hb]
      rcases lines rest with _ | ⟨line, others⟩
      · simp [withReturns, hb]
      · simp [withReturns_cons hb]

/-- Finished bytes are complete. -/
theorem completed_of_isFinished {bytes : List UInt8} (h : IsFinished bytes) :
    completed bytes = bytes := if_pos h

/-- Otherwise a newline is put behind them. -/
theorem completed_of_not_isFinished {bytes : List UInt8} (h : ¬ IsFinished bytes) :
    completed bytes = bytes ++ [newline] := if_neg h

/-- Bytes in front of others do not change whether the last line is finished. -/
theorem completed_cons {bytes : List UInt8} (h : bytes ≠ []) (b : UInt8) :
    completed (b :: bytes) = b :: completed bytes := by
  have hiff : IsFinished (b :: bytes) ↔ IsFinished bytes := by
    unfold IsFinished
    rw [List.getLast?_cons_of_ne_nil h]
    simp [h]
  by_cases hfinished : IsFinished bytes
  · rw [completed_of_isFinished hfinished, completed_of_isFinished (hiff.2 hfinished)]
  · rw [completed_of_not_isFinished hfinished,
      completed_of_not_isFinished (hfinished ∘ hiff.1), List.cons_append]

/-- Only the last line is completed. -/
theorem lines_completed (bytes : List UInt8) :
    lines (completed bytes) = (lines bytes).map completed := by
  induction bytes with
  | nil => rfl
  | cons b rest ih =>
    -- The last byte decides whether there is a newline to add.
    by_cases hrest : rest = []
    · subst hrest
      by_cases hb : b = newline
      · subst hb
        rfl
      · have hcompleted : completed [b] = [b, newline] :=
          completed_of_not_isFinished (by simp [IsFinished, hb])
        rw [hcompleted]
        simp [lines, hb, hcompleted]
    · obtain ⟨line, others, hlines⟩ := List.exists_cons_of_ne_nil (lines_ne_nil hrest)
      rw [completed_cons hrest]
      by_cases hb : b = newline
      · subst hb
        simp only [lines, if_true, ih, List.map_cons]
        rfl
      · have hline : line ≠ [] := by
          apply (isSplit_lines rest).ne_nil line
          rw [hlines]
          exact List.mem_cons_self
        simp only [lines, if_neg hb, ih, hlines, List.map_cons, completed_cons hline]

/-! ### Decisions on lines with other ends -/

/-- Two failures show the same: they are equal, or they differ in the diagnosis of a line that is
no record. -/
inductive Failure.SameShown : Failure → Failure → Prop
  | refl (failure : Failure) : SameShown failure failure
  | notARecord (line : Nat) (shown : String) (diagnosis diagnosis' : Json.Diagnosis) :
      SameShown (.notARecord line shown diagnosis) (.notARecord line shown diagnosis')

section Decisions

variable {ends ends' : List UInt8}

/-- The record on a line is the same whatever bytes end the line, and so is the text that is shown
where there is none. -/
theorem alike_readRecord_append (hends : ∀ b ∈ ends, IsLineEnd b)
    (hends' : ∀ b ∈ ends', IsLineEnd b) (body : List UInt8) (number : Nat) :
    Alike Failure.SameShown (readRecord (body ++ ends) number)
      (readRecord (body ++ ends') number) := by
  have hok (fields : Fields) : Json.decodeObject (body ++ ends) = .ok fields ↔
      Json.decodeObject (body ++ ends') = .ok fields := by
    rw [Json.decodeObject_append hends, Json.decodeObject_append hends']
  unfold readRecord
  rw [shownLine_append hends, shownLine_append hends']
  rcases h : Json.decodeObject (body ++ ends) with diagnosis | fields
  · rcases h' : Json.decodeObject (body ++ ends') with diagnosis' | fields
    · exact .error (.notARecord number (shownLine body) diagnosis diagnosis')
    · rw [(hok fields).2 h'] at h
      cases h
  · rw [(hok fields).1 h]
    exact .ok fields

/-- A line is decided alike whatever bytes end it. -/
theorem Sieve.alike_judge_append (sieve : Sieve) (hends : ∀ b ∈ ends, IsLineEnd b)
    (hends' : ∀ b ∈ ends', IsLineEnd b) (body : List UInt8) (number : Nat) :
    Alike Failure.SameShown (sieve.judge (body ++ ends) number)
      (sieve.judge (body ++ ends') number) := by
  have hread := alike_readRecord_append hends hends' body number
  unfold judge
  generalize readRecord (body ++ ends) number = first at hread
  generalize readRecord (body ++ ends') number = second at hread
  cases hread with
  | error h => exact .error h
  | ok fields =>
    show Alike _ (sieve.keeps fields number) (sieve.keeps fields number)
    cases sieve.keeps fields number with
    | error failure => exact .error (.refl failure)
    | ok kept => exact .ok kept

end Decisions

/-! ### Runs over lines with other ends -/

/-- Lines that are decided alike are run alike: those written are the changed ones, and the runs
end the same way. -/
theorem Runs.map_lines {sieve : Sieve} {sink : Sink} {failure : Option String} {counts : Summary}
    {ls : List (List UInt8)} {run : Run} {change : List UInt8 → List UInt8}
    (hchange : ∀ line ∈ ls, ∀ number,
      Alike Failure.SameShown (sieve.judge line number) (sieve.judge (change line) number))
    (h : Runs sieve sink failure counts ls run) :
    ∃ run', Runs sieve sink failure counts (ls.map change) run' ∧
      Alike Failure.SameShown run.result run'.result ∧
      run'.written = run.written.map change := by
  have houtcome (fault : OutputFault) (counts : Summary) :
      Alike Failure.SameShown (fault.outcome counts) (fault.outcome counts) := by
    cases fault with
    | closed => exact .ok counts
    | failed reason => exact .error (.refl _)
  -- The induction is on the run over the lines as they are. The other run takes the same steps,
  -- since the faults of an output depend on the counts alone.
  induction h with
  | ended hfailure => exact ⟨_, .ended hfailure, .ok _, rfl⟩
  | failed hfailure => exact ⟨_, .failed hfailure, .error (.refl _), rfl⟩
  | @undecided counts line _ _ hjudge =>
    obtain ⟨cause', hjudge', hsame⟩ :=
      (hjudge ▸ hchange line List.mem_cons_self _).exists_eq_error
    exact ⟨_, .undecided hjudge', .error hsame, rfl⟩
  | @dropped counts line _ _ hjudge _ ih =>
    obtain ⟨hline, hrest⟩ := List.forall_mem_cons.1 hchange
    obtain ⟨run', hrun', hresult, hwritten⟩ := ih hrest
    exact ⟨_, .dropped (hjudge ▸ hline _).eq_ok hrun', hresult, hwritten⟩
  | @unwritten counts line _ _ hjudge hwrite =>
    have hjudge' := (hjudge ▸ hchange line List.mem_cons_self _).eq_ok
    exact ⟨_, .unwritten hjudge' hwrite, houtcome _ _, rfl⟩
  | @unflushed counts line _ _ hjudge hwrite hflush =>
    have hjudge' := (hjudge ▸ hchange line List.mem_cons_self _).eq_ok
    exact ⟨_, .unflushed hjudge' hwrite hflush, houtcome _ _, rfl⟩
  | @emitted counts line _ _ hjudge hwrite hflush _ ih =>
    obtain ⟨hline, hrest⟩ := List.forall_mem_cons.1 hchange
    obtain ⟨run', hrun', hresult, hwritten⟩ := ih hrest
    refine ⟨_, .emitted (hjudge ▸ hline _).eq_ok hwrite hflush hrun', hresult, ?_⟩
    rw [Run.written_emit, Run.written_emit, hwritten, List.map_cons]

/-- A run over an input whose lines are changed, but decided alike. -/
theorem Sieve.run_map_lines (sieve : Sieve) (sink : Sink) {bytes bytes' : List UInt8}
    {change : List UInt8 → List UInt8} (hlines : lines bytes' = (lines bytes).map change)
    (hchange : ∀ line ∈ lines bytes, ∀ number,
      Alike Failure.SameShown (sieve.judge line number) (sieve.judge (change line) number)) :
    Alike Failure.SameShown (sieve.run (.ofBytes bytes) sink).result
        (sieve.run (.ofBytes bytes') sink).result ∧
      (sieve.run (.ofBytes bytes') sink).written =
        (sieve.run (.ofBytes bytes) sink).written.map change := by
  obtain ⟨run', hrun', hresult, hwritten⟩ :=
    Runs.map_lines hchange (runs_run sieve (.ofBytes bytes) sink)
  have heq : run' = sieve.run (.ofBytes bytes') sink := by
    rw [Sieve.run_eq_runLines, hrun'.eq_runLines]
    show sieve.runLines sink none ⟨0, 0⟩ ((lines bytes).map change) =
      sieve.runLines sink none ⟨0, 0⟩ (lines bytes')
    rw [hlines]
  exact heq ▸ ⟨hresult, hwritten⟩

/-- Bytes are finished exactly if each of their lines ends with its newline. -/
theorem isFinished_iff_lines {bytes : List UInt8} :
    IsFinished bytes ↔ ∀ line ∈ lines bytes, line.getLast? = some newline := by
  refine ⟨(isSplit_lines bytes).getLast?_of_isFinished, fun h => ?_⟩
  rcases List.eq_nil_or_concat (lines bytes) with hnil | ⟨front, last, hlines⟩
  · rw [← flatten_lines bytes, hnil]
    exact .inl rfl
  · have hlast : last.getLast? = some newline := h last (by simp [hlines])
    rw [← flatten_lines bytes, hlines]
    exact .inr (by simp [List.getLast?_append, hlast])

/-- A line that lacks its newline is the last one. -/
theorem getLast?_lines_of_ne {bytes line : List UInt8} (hmem : line ∈ lines bytes)
    (hne : line.getLast? ≠ some newline) : (lines bytes).getLast? = some line := by
  have hended := (isSplit_lines bytes).ended
  rcases List.eq_nil_or_concat (lines bytes) with hnil | ⟨front, last, hlines⟩
  · rw [hnil] at hmem
    cases hmem
  · rw [hlines, List.concat_eq_append] at hmem hended ⊢
    rw [List.dropLast_concat] at hended
    rcases List.mem_append.1 hmem with hfront | hlast
    · exact absurd (hended line hfront) hne
    · rw [List.mem_singleton.1 hlast, List.getLast?_concat]

/-- The last line of the input lacks its newline, and the run has written it. -/
def Run.WroteUnfinished (run : Run) (bytes : List UInt8) : Prop :=
  ¬ IsFinished bytes ∧ ∃ line ∈ run.written, (lines bytes).getLast? = some line

/-- The output of a run is unfinished only where the input is, and the last line was written. -/
theorem isFinished_output_iff (sieve : Sieve) (bytes : List UInt8) (sink : Sink) :
    IsFinished (sieve.run (.ofBytes bytes) sink).output ↔
      ¬ (sieve.run (.ofBytes bytes) sink).WroteUnfinished bytes := by
  have hsublist := (runs_run sieve (.ofBytes bytes) sink).written_sublist
  rw [isFinished_iff_lines, lines_output, Run.WroteUnfinished]
  constructor
  · rintro hall ⟨hbytes, last, hmem, hlast⟩
    refine hbytes (isFinished_iff_lines.2 fun line hline => ?_)
    refine Decidable.of_not_not fun hne => ?_
    -- The line would be the last one, which was written and so ends with its newline.
    have heq : line = last := Option.some.inj ((getLast?_lines_of_ne hline hne).symm.trans hlast)
    exact hne (heq ▸ hall last hmem)
  · intro hnot line hmem
    refine Decidable.of_not_not fun hne => ?_
    have hline : line ∈ lines bytes := hsublist.subset hmem
    refine hnot ⟨fun hbytes => hne (isFinished_iff_lines.1 hbytes line hline), line, hmem, ?_⟩
    exact getLast?_lines_of_ne hline hne

/-- What a run makes of bytes whose lines end in other ways. -/
structure BlindToLineEnds (sieve : Sieve) (sink : Sink) (bytes : List UInt8) : Prop where
  result_withReturns : Alike Failure.SameShown (sieve.run (.ofBytes bytes) sink).result
    (sieve.run (.ofBytes (withReturns bytes)) sink).result
  /-- The lines that are written end as they do in the input. -/
  output_withReturns : (sieve.run (.ofBytes (withReturns bytes)) sink).output =
    withReturns (sieve.run (.ofBytes bytes) sink).output
  result_completed : Alike Failure.SameShown (sieve.run (.ofBytes bytes) sink).result
    (sieve.run (.ofBytes (completed bytes)) sink).result
  /-- The newline that the last line lacked is written with that line. -/
  output_completed_of_wrote : (sieve.run (.ofBytes bytes) sink).WroteUnfinished bytes →
    (sieve.run (.ofBytes (completed bytes)) sink).output =
      (sieve.run (.ofBytes bytes) sink).output ++ [newline]
  /-- Otherwise it is not written. -/
  output_completed_of_not_wrote : ¬ (sieve.run (.ofBytes bytes) sink).WroteUnfinished bytes →
    (sieve.run (.ofBytes (completed bytes)) sink).output =
      (sieve.run (.ofBytes bytes) sink).output

/-- A line is a body without a newline, and perhaps the newline that ends it. -/
theorem exists_body_of_mem_lines {bytes line : List UInt8} (h : line ∈ lines bytes) :
    ∃ body ends, newline ∉ body ∧ (ends = [] ∨ ends = [newline]) ∧ line = body ++ ends := by
  have hne := (isSplit_lines bytes).ne_nil line h
  have hbody := (isSplit_lines bytes).newline_last line h
  have hline := List.dropLast_concat_getLast hne
  by_cases hlast : line.getLast hne = newline
  · rw [hlast] at hline
    exact ⟨line.dropLast, [newline], hbody, .inr rfl, hline.symm⟩
  · refine ⟨line, [], ?_, .inl rfl, (List.append_nil line).symm⟩
    rw [← hline, List.mem_append, List.mem_singleton]
    exact not_or.2 ⟨hbody, Ne.symm hlast⟩

/-- A line is decided alike with and without a carriage return in front of its newline. -/
theorem Sieve.alike_judge_withReturns (sieve : Sieve) {bytes line : List UInt8}
    (h : line ∈ lines bytes) (number : Nat) :
    Alike Failure.SameShown (sieve.judge line number) (sieve.judge (withReturns line) number) := by
  obtain ⟨body, ends, hbody, hends, rfl⟩ := exists_body_of_mem_lines h
  rw [withReturns_append, withReturns_of_newline_notMem hbody]
  rcases hends with rfl | rfl
  · exact sieve.alike_judge_append (List.forall_mem_nil _) (List.forall_mem_nil _) body number
  · have hnewline : ∀ b ∈ [newline], IsLineEnd b := by simp [IsLineEnd]
    have hreturn : ∀ b ∈ withReturns [newline], IsLineEnd b := by simp [IsLineEnd, withReturns]
    exact sieve.alike_judge_append hnewline hreturn body number

/-- A line is decided alike with and without the newline that it may lack. -/
theorem Sieve.alike_judge_completed (sieve : Sieve) (line : List UInt8) (number : Nat) :
    Alike Failure.SameShown (sieve.judge line number) (sieve.judge (completed line) number) := by
  obtain ⟨ends, hends, hcompleted⟩ :
      ∃ ends : List UInt8, (∀ b ∈ ends, IsLineEnd b) ∧ completed line = line ++ ends := by
    by_cases hfinished : IsFinished line
    · exact ⟨[], List.forall_mem_nil _, by rw [completed_of_isFinished hfinished, List.append_nil]⟩
    · exact ⟨[newline], by simp [IsLineEnd], completed_of_not_isFinished hfinished⟩
  have hsame := sieve.alike_judge_append (List.forall_mem_nil _) hends line number
  rwa [List.append_nil, ← hcompleted] at hsame

/-- No run sees how the lines of its input end. -/
theorem blindToLineEnds_run (sieve : Sieve) (sink : Sink) (bytes : List UInt8) :
    BlindToLineEnds sieve sink bytes := by
  obtain ⟨hreturns, hwritten⟩ := sieve.run_map_lines sink (lines_withReturns bytes)
    fun _ hline => sieve.alike_judge_withReturns hline
  obtain ⟨hcompleted, hwritten'⟩ := sieve.run_map_lines sink (lines_completed bytes)
    fun line _ => sieve.alike_judge_completed line
  -- The lines written are a split too, so they are completed as the input is.
  have houtput : (sieve.run (.ofBytes (completed bytes)) sink).output =
      completed (sieve.run (.ofBytes bytes) sink).output := by
    rw [Run.output, hwritten', ← lines_output, ← lines_completed, flatten_lines]
  have hfinished := isFinished_output_iff sieve bytes sink
  constructor
  case result_withReturns => exact hreturns
  case output_withReturns => rw [Run.output, hwritten, ← withReturns_flatten, ← Run.output]
  case result_completed => exact hcompleted
  case output_completed_of_wrote =>
    intro hwrote
    rw [houtput, completed_of_not_isFinished fun h => hfinished.1 h hwrote]
  case output_completed_of_not_wrote =>
    intro hwrote
    rw [houtput, completed_of_isFinished (hfinished.2 hwrote)]

end RecordSieve
