import RecordSieve.Sieve.Source

/-!
# Lines and Reads

The split of bytes into lines, said without an algorithm, and the proof that repeated reads of a
source give exactly its lines.

## Main definitions

* `IsSplit`: some lines are the split of some bytes;
* `IsFinished`: every line of some bytes ends with its newline;
* `IsFinishedPart`: the longest part of some bytes, from their start, that is finished.

## Main statements

* `isSplit_iff`: bytes have one split, which is `lines`;
* `IsSplit.sublist`: some lines of a split are the split of what they hold;
* `lines_append`: finished bytes are split as if nothing followed them;
* `Source.lines_of_readLine`, `Source.lines_of_ended`, `Source.lines_of_failed`: what one read says
  about the lines of a source.
-/

namespace RecordSieve

/-- The lines are the split of the bytes: a cut behind every newline and nowhere else. -/
structure IsSplit (bytes : List UInt8) (ls : List (List UInt8)) : Prop where
  flatten_eq : ls.flatten = bytes
  ne_nil : ∀ line ∈ ls, line ≠ []
  /-- A newline is the last byte of its line. -/
  newline_last : ∀ line ∈ ls, newline ∉ line.dropLast
  /-- Every line but possibly the last one ends with a newline. -/
  ended : ∀ line ∈ ls.dropLast, line.getLast? = some newline

theorem lines_ne_nil {bytes : List UInt8} (h : bytes ≠ []) : lines bytes ≠ [] := by
  intro hlines
  rw [← flatten_lines bytes, hlines] at h
  exact h rfl

/-- The lines of bytes with a newline are the first line and those behind it. -/
theorem lines_of_cutLine? {bytes line rest : List UInt8} (h : cutLine? bytes = some (line, rest)) :
    lines bytes = line :: lines rest := by
  obtain ⟨body, hbody, rfl, rfl⟩ := cutLine?_eq_some_iff.1 h
  clear h
  induction body with
  | nil => simp [lines]
  | cons b body ih =>
    simp only [List.mem_cons, not_or] at hbody
    rw [List.cons_append, List.cons_append, lines, if_neg (Ne.symm hbody.1), ih hbody.2]

/-- Bytes without a newline are one line, unless there are none. -/
theorem lines_of_newline_notMem {bytes : List UInt8} (h : newline ∉ bytes) (hne : bytes ≠ []) :
    lines bytes = [bytes] := by
  induction bytes with
  | nil => exact absurd rfl hne
  | cons b rest ih =>
    simp only [List.mem_cons, not_or] at h
    rw [lines, if_neg (Ne.symm h.1)]
    cases rest with
    | nil => rfl
    | cons c rest => rw [ih h.2 (List.cons_ne_nil _ _)]

/-- The split of no bytes has no lines. -/
theorem isSplit_nil : IsSplit [] [] := by
  constructor <;> simp

/-- Bytes without a newline are split into themselves. -/
theorem isSplit_singleton {bytes : List UInt8} (h : newline ∉ bytes.dropLast) (hne : bytes ≠ []) :
    IsSplit bytes [bytes] := by
  constructor <;> simp [h, hne]

/-- Lines that are left out do not change where the others end. -/
theorem IsSplit.sublist {bytes : List UInt8} {ls kept : List (List UInt8)} (h : IsSplit bytes ls)
    (hsub : kept.Sublist ls) : IsSplit kept.flatten kept := by
  -- The last line kept may be unfinished only if it is the last line of all.
  have hfront : kept.dropLast.Sublist ls.dropLast := by simpa using hsub.reverse.tail.reverse
  refine ⟨rfl, ?_, ?_, ?_⟩
  · intro line hline
    exact h.ne_nil line (hsub.subset hline)
  · intro line hline
    exact h.newline_last line (hsub.subset hline)
  · intro line hline
    exact h.ended line (hfront.subset hline)

/-- The bytes hold finished lines only: none is left without its newline. -/
def IsFinished (bytes : List UInt8) : Prop := bytes = [] ∨ bytes.getLast? = some newline

/-- Every line of finished bytes ends with its newline, the last one too. -/
theorem IsSplit.getLast?_of_isFinished {bytes : List UInt8} {ls : List (List UInt8)}
    (h : IsSplit bytes ls) (hfinished : IsFinished bytes) :
    ∀ line ∈ ls, line.getLast? = some newline := by
  intro line hline
  rcases List.eq_nil_or_concat ls with rfl | ⟨front, last, rfl⟩
  · cases hline
  rw [List.concat_eq_append, List.mem_append, List.mem_singleton] at hline
  rcases hline with hline | rfl
  · exact h.ended line (by simpa using hline)
  · have hne : line ≠ [] := h.ne_nil line (by simp)
    have hbytes : front.flatten ++ line = bytes := by simpa using h.flatten_eq
    rcases hfinished with hnil | hlast
    · rw [hnil, List.append_eq_nil_iff] at hbytes
      exact absurd hbytes.2 hne
    · rwa [← hbytes, List.getLast?_append, List.getLast?_eq_some_getLast hne, Option.some_or,
        ← List.getLast?_eq_some_getLast hne] at hlast

/-- The split of finished bytes goes in front of the split of what follows. -/
theorem IsSplit.append {front back : List UInt8} {ls others : List (List UInt8)}
    (h : IsSplit front ls) (hfinished : IsFinished front) (hback : IsSplit back others) :
    IsSplit (front ++ back) (ls ++ others) := by
  refine ⟨?_, ?_, ?_, ?_⟩
  · rw [List.flatten_append, h.flatten_eq, hback.flatten_eq]
  · intro line hline
    exact (List.mem_append.1 hline).elim (h.ne_nil line) (hback.ne_nil line)
  · intro line hline
    exact (List.mem_append.1 hline).elim (h.newline_last line) (hback.newline_last line)
  · intro line hline
    -- Behind the lines in front only the last one of the others may lack its newline.
    have hmem : line ∈ ls ∨ line ∈ others.dropLast := by
      rw [List.dropLast_append] at hline
      split at hline
      · exact .inl (List.dropLast_subset _ hline)
      · exact List.mem_append.1 hline
    exact hmem.elim (h.getLast?_of_isFinished hfinished line) (hback.ended line)

/-- A line with its newline goes in front of a split. -/
theorem IsSplit.cons {body rest : List UInt8} {ls : List (List UInt8)} (hbody : newline ∉ body)
    (h : IsSplit rest ls) : IsSplit (body ++ [newline] ++ rest) ((body ++ [newline]) :: ls) := by
  have hline : IsSplit (body ++ [newline]) [body ++ [newline]] :=
    isSplit_singleton (by simpa using hbody) (by simp)
  exact hline.append (.inr (by simp)) h

theorem isSplit_lines (bytes : List UInt8) : IsSplit bytes (lines bytes) := by
  cases hcut : cutLine? bytes with
  | none =>
    rw [cutLine?_eq_none_iff] at hcut
    by_cases hne : bytes = []
    · subst hne
      exact isSplit_nil
    · rw [lines_of_newline_notMem hcut hne]
      exact isSplit_singleton (fun h => hcut (List.dropLast_subset _ h)) hne
  | some cut =>
    obtain ⟨line, rest⟩ := cut
    rw [lines_of_cutLine? hcut]
    obtain ⟨body, hbody, rfl, rfl⟩ := cutLine?_eq_some_iff.1 hcut
    exact (isSplit_lines rest).cons hbody
termination_by bytes.length
decreasing_by
  subst_vars
  simp only [List.length_append, List.length_singleton]
  omega

/-- Bytes have exactly one split. -/
theorem isSplit_iff {bytes : List UInt8} {ls : List (List UInt8)} :
    IsSplit bytes ls ↔ ls = lines bytes := by
  refine ⟨?_, fun h => h ▸ isSplit_lines bytes⟩
  intro h
  induction ls generalizing bytes with
  | nil =>
    rw [← h.flatten_eq]
    rfl
  | cons line ls ih =>
    have hne : line ≠ [] := h.ne_nil line List.mem_cons_self
    have hbody : newline ∉ line.dropLast := h.newline_last line List.mem_cons_self
    have hline : line.dropLast ++ [line.getLast hne] = line := List.dropLast_concat_getLast hne
    by_cases hend : line.getLast hne = newline
    · -- The line is what a cut gives, and the others are the split of what is behind it.
      have hcut : cutLine? bytes = some (line, ls.flatten) := by
        refine cutLine?_eq_some_iff.2 ⟨line.dropLast, hbody, ?_, ?_⟩
        · rw [← hend, hline]
        · rw [← h.flatten_eq, List.flatten_cons]
      have hrest : IsSplit ls.flatten ls := by
        refine ⟨rfl, fun l hl => h.ne_nil l (List.mem_cons_of_mem _ hl),
          fun l hl => h.newline_last l (List.mem_cons_of_mem _ hl), fun l hl => h.ended l ?_⟩
        cases ls with
        | nil => simp at hl
        | cons other ls => exact List.mem_cons_of_mem _ hl
      rw [lines_of_cutLine? hcut, ← ih hrest]
    · -- Only the last line may lack its newline, so there are no others.
      cases ls with
      | nil =>
        have hbytes : bytes = line := by simpa using h.flatten_eq.symm
        subst hbytes
        refine (lines_of_newline_notMem ?_ hne).symm
        rw [← hline, List.mem_append, List.mem_singleton]
        exact not_or.2 ⟨hbody, Ne.symm hend⟩
      | cons other ls =>
        have := h.ended line (by simp)
        rw [List.getLast?_eq_some_getLast hne, Option.some.injEq] at this
        exact absurd this hend

/-- The lines of finished bytes stay as they are when more bytes follow. -/
theorem lines_append {front : List UInt8} (h : IsFinished front) (back : List UInt8) :
    lines (front ++ back) = lines front ++ lines back :=
  (isSplit_iff.1 ((isSplit_lines front).append h (isSplit_lines back))).symm

/-- What is finished in front of a newline stays finished. -/
theorem finishedPart_append (front rest : List UInt8) :
    finishedPart (front ++ [newline] ++ rest) = front ++ [newline] ++ finishedPart rest := by
  have hdrop : ∀ back : List UInt8,
      (back ++ newline :: front.reverse).dropWhile (· ≠ newline) =
        back.dropWhile (· ≠ newline) ++ newline :: front.reverse := by
    intro back
    induction back with
    | nil => simp
    | cons b back ih =>
      rw [List.cons_append, List.dropWhile_cons, List.dropWhile_cons, ih]
      split <;> rfl
  have hreverse : (front ++ [newline] ++ rest).reverse =
      rest.reverse ++ newline :: front.reverse := by simp
  unfold finishedPart
  rw [hreverse, hdrop]
  simp

/-- Without a newline nothing is finished. -/
theorem finishedPart_of_newline_notMem {bytes : List UInt8} (h : newline ∉ bytes) :
    finishedPart bytes = [] := by
  have hall : bytes.reverse.dropWhile (· ≠ newline) = [] := by
    rw [← List.append_nil bytes.reverse, List.dropWhile_append_of_pos]
    · rfl
    · intro b hb
      have hne : b ≠ newline := fun heq => h (heq ▸ List.mem_reverse.1 hb)
      simpa using hne
  rw [finishedPart, hall, List.reverse_nil]

/-- The part is the longest one at the start of the bytes that holds finished lines only. -/
structure IsFinishedPart (bytes part : List UInt8) : Prop where
  starts : part <+: bytes
  isFinished : IsFinished part
  longest : ∀ other, other <+: bytes → IsFinished other → other.length ≤ part.length

theorem isFinishedPart_finishedPart (bytes : List UInt8) :
    IsFinishedPart bytes (finishedPart bytes) := by
  refine ⟨?_, ?_, ?_⟩
  · have hsuffix := List.dropWhile_suffix (l := bytes.reverse) (· ≠ newline)
    rwa [← List.reverse_prefix, List.reverse_reverse] at hsuffix
  · rw [IsFinished, finishedPart, List.getLast?_reverse, List.reverse_eq_nil_iff]
    -- What is dropped from the end stops in front of a newline, or nothing is left.
    have hhead := List.head?_dropWhile_not (· ≠ newline) bytes.reverse
    rcases hdrop : bytes.reverse.dropWhile (· ≠ newline) with _ | ⟨b, rest⟩
    · exact .inl rfl
    · rw [hdrop] at hhead
      simpa using hhead
  · rintro other ⟨rest, rfl⟩ hother
    rcases hother with rfl | hlast
    · exact Nat.zero_le _
    · obtain ⟨front, rfl⟩ := List.getLast?_eq_some_iff.1 hlast
      rw [finishedPart_append]
      exact (List.prefix_append _ _).length_le

namespace Source

/-- A read that gives a line gives the first one, and leaves the others. -/
theorem lines_of_readLine {source rest : Source} {line : List UInt8}
    (h : source.readLine = .line line rest) :
    source.lines = line :: rest.lines ∧ rest.failure = source.failure := by
  obtain ⟨bytes, failure⟩ := source
  unfold readLine at h
  split at h
  · next cut others hcut =>
    cases h
    simp only at hcut
    refine ⟨?_, rfl⟩
    cases failure with
    | none => exact lines_of_cutLine? hcut
    | some reason =>
      -- The line ends in front of the failure, so it is among the finished ones.
      obtain ⟨body, hbody, rfl, rfl⟩ := cutLine?_eq_some_iff.1 hcut
      have hcut' : cutLine? (body ++ [newline] ++ finishedPart others) =
          some (body ++ [newline], finishedPart others) :=
        cutLine?_eq_some_iff.2 ⟨body, hbody, rfl, rfl⟩
      simp only [lines]
      rw [finishedPart_append, lines_of_cutLine? hcut']
  · cases h
  · next hcut hfailure =>
    split at h
    · cases h
    · next hne =>
      cases h
      simp only at hcut hfailure hne
      subst hfailure
      exact ⟨lines_of_newline_notMem (cutLine?_eq_none_iff.1 hcut) hne, rfl⟩

/-- A read that finds the end of the input leaves no line, and no failure behind it. -/
theorem lines_of_ended {source : Source} (h : source.readLine = .ended) :
    source.lines = [] ∧ source.failure = none := by
  unfold readLine at h
  split at h
  · cases h
  · cases h
  · next hcut hfailure =>
    split at h
    · next hbytes => simp [lines, hfailure, hbytes, RecordSieve.lines]
    · cases h

/-- A read that fails leaves no line. -/
theorem lines_of_failed {source : Source} {reason : String}
    (h : source.readLine = .failed reason) :
    source.lines = [] ∧ source.failure = some reason := by
  unfold readLine at h
  split at h
  · cases h
  · next hcut hfailure =>
    cases h
    refine ⟨?_, hfailure⟩
    rw [lines, hfailure]
    simp only
    rw [finishedPart_of_newline_notMem (cutLine?_eq_none_iff.1 hcut)]
    rfl
  · split at h <;> cases h

end Source

end RecordSieve
