/-!
# Sets of Code Points

Sets of characters as closed ranges of code points, ascending and apart, with the operations of
a Boolean algebra, and the compact written forms in which the tables of this library are kept.

## Main definitions

* `CodePointSet.ofRanges`, `union`, `unionOf`, `complement`, `inter`, `diff`, `symmDiff`;
* `CodePointSet.ofRunLengths`: a set from the lengths of its runs;
* `Unicode.partition`, `Unicode.labelled`: labelled runs that cover the code points, and the
  sets that they make.

## Main statements

* `CodePointSet.contains_ofRanges`: a set made of ranges holds the characters in one of them;
* `CodePointSet.contains_union`, `contains_unionOf`, `contains_complement`, `contains_inter`,
  `contains_diff`: the operations are those of a Boolean algebra.
-/

namespace RecordSieve

/-- A set of characters: closed ranges of code points, ascending and apart. -/
structure CodePointSet where
  ranges : List (Nat × Nat)
deriving DecidableEq

namespace CodePointSet

/-- Whether a code point is in a closed range. -/
def inRange (n : Nat) (range : Nat × Nat) : Bool := range.1 ≤ n && n ≤ range.2

/-- Whether a character is in the set. -/
def contains (s : CodePointSet) (c : Char) : Bool := s.ranges.any (inRange c.toNat)

/-- The set without characters. -/
def empty : CodePointSet := ⟨[]⟩

/-- The first and the last code point that are no characters. -/
def surrogates : Nat × Nat := (0xd800, 0xdfff)

/-- The parts of a range in front of and behind the code points that are no characters. -/
def cutSurrogates (range : Nat × Nat) : List (Nat × Nat) :=
  [(range.1, min range.2 (surrogates.1 - 1)), (max range.1 (surrogates.2 + 1), range.2)].filter
    fun part => part.1 ≤ part.2

/-- Ranges in ascending order of their starts. -/
def sortRanges (ranges : List (Nat × Nat)) : List (Nat × Nat) :=
  ranges.mergeSort fun a b => a.1 ≤ b.1

/-- Joins a range with the ranges behind it that overlap or touch it, and those with each
other, all given in ascending order of their starts. -/
def joinFrom (range : Nat × Nat) : List (Nat × Nat) → List (Nat × Nat)
  | [] => [range]
  | next :: rest =>
      if next.1 ≤ range.2 + 1 then joinFrom (range.1, max range.2 next.2) rest
      else range :: joinFrom next rest

/-- Joins ranges that overlap or touch, given in ascending order of their starts. -/
def join : List (Nat × Nat) → List (Nat × Nat)
  | [] => []
  | range :: rest => joinFrom range rest

/-- The set of the characters in any of some ranges, in any order. -/
def ofRanges (ranges : List (Nat × Nat)) : CodePointSet :=
  ⟨join (sortRanges (ranges.flatMap cutSurrogates))⟩

/-- The set of one character. -/
def singleton (c : Char) : CodePointSet := ⟨[(c.toNat, c.toNat)]⟩

/-- The characters in either set. -/
def union (s t : CodePointSet) : CodePointSet := ofRanges (s.ranges ++ t.ranges)

/-- The characters in any of several sets. -/
def unionOf (sets : List CodePointSet) : CodePointSet := ofRanges (sets.flatMap (·.ranges))

/-- The gaps from a code point on between ranges in ascending order of their starts. -/
def gaps (start : Nat) : List (Nat × Nat) → List (Nat × Nat)
  | [] => if start ≤ 0x10ffff then [(start, 0x10ffff)] else []
  | range :: rest =>
      if start < range.1 then (start, range.1 - 1) :: gaps (max start (range.2 + 1)) rest
      else gaps (max start (range.2 + 1)) rest

/-- The characters outside of a set. -/
def complement (s : CodePointSet) : CodePointSet :=
  ⟨gaps 0 (sortRanges (surrogates :: s.ranges))⟩

/-- All characters. -/
def all : CodePointSet := empty.complement

/-- The characters in both sets. -/
def inter (s t : CodePointSet) : CodePointSet := (s.complement.union t.complement).complement

/-- The characters in the first set and not in the second. -/
def diff (s t : CodePointSet) : CodePointSet := (s.complement.union t).complement

/-- The characters in exactly one of two sets. -/
def symmDiff (s t : CodePointSet) : CodePointSet := (s.diff t).union (t.diff s)

/-- Whether the set holds ASCII characters only. -/
def isAscii (s : CodePointSet) : Bool := s.ranges.all fun range => range.2 ≤ 0x7f

/-- The set whose runs have the given lengths: first a run outside of the set, then one in it,
and so on in turn. -/
def ofRunLengths (lengths : List Nat) : CodePointSet :=
  let rec go (start : Nat) : List Nat → List (Nat × Nat)
    | skipped :: held :: rest =>
        (start + skipped, start + skipped + held - 1) :: go (start + skipped + held) rest
    | _ => []
  ⟨go 0 lengths⟩

/-! ### Membership -/

/-- No character is a surrogate. -/
theorem not_surrogate (c : Char) : ¬ (0xd800 ≤ c.toNat ∧ c.toNat ≤ 0xdfff) := by
  have h : c.toNat < 0xd800 ∨ 0xdfff < c.toNat ∧ c.toNat < 0x110000 := c.valid
  omega

/-- No character is behind the last code point. -/
theorem toNat_le (c : Char) : c.toNat ≤ 0x10ffff := by
  have h : c.toNat < 0xd800 ∨ 0xdfff < c.toNat ∧ c.toNat < 0x110000 := c.valid
  omega

/-- Without the surrogates a range has the same characters. -/
theorem any_cutSurrogates (c : Char) (range : Nat × Nat) :
    (cutSurrogates range).any (inRange c.toNat) = inRange c.toNat range := by
  have h := not_surrogate c
  rw [Bool.eq_iff_iff]
  simp only [inRange, surrogates, cutSurrogates, List.any_filter, List.any_cons, List.any_nil,
    Bool.or_false, Bool.or_eq_true, Bool.and_eq_true, decide_eq_true_eq]
  omega

/-- Sorted ranges have the same members. -/
theorem any_sortRanges (test : Nat × Nat → Bool) (ranges : List (Nat × Nat)) :
    (sortRanges ranges).any test = ranges.any test :=
  (List.mergeSort_perm ranges _).any_eq

/-- Sorted ranges stand in the order of their first code points. -/
theorem pairwise_sortRanges (ranges : List (Nat × Nat)) :
    (sortRanges ranges).Pairwise fun a b => a.1 ≤ b.1 := by
  have h := @List.pairwise_mergeSort _ (fun a b : Nat × Nat => decide (a.1 ≤ b.1))
    (by simp; omega) (by simp; omega) ranges
  simpa [sortRanges] using h

/-- A range joined with those behind it has the members of them all. -/
theorem any_joinFrom (n : Nat) (range : Nat × Nat) (ranges : List (Nat × Nat))
    (h : (range :: ranges).Pairwise fun a b => a.1 ≤ b.1) :
    (joinFrom range ranges).any (inRange n) = (range :: ranges).any (inRange n) := by
  induction ranges generalizing range with
  | nil => rfl
  | cons next rest ih =>
    simp only [List.pairwise_cons, List.mem_cons, forall_eq_or_imp] at h
    obtain ⟨⟨hnext, hrest⟩, hrest', hpair⟩ := h
    unfold joinFrom
    split
    · -- The next range begins inside of the first one or right behind it.
      rw [ih (range.1, max range.2 next.2) (List.pairwise_cons.2 ⟨hrest, hpair⟩),
        Bool.eq_iff_iff]
      simp only [List.any_cons, inRange, Bool.or_eq_true, Bool.and_eq_true, decide_eq_true_eq]
      constructor
      · rintro (h | h)
        · omega
        · exact .inr (.inr h)
      · rintro (h | h | h)
        · omega
        · omega
        · exact .inr h
    · simp only [List.any_cons, ih _ (List.pairwise_cons.2 ⟨hrest', hpair⟩)]

/-- Joined ranges have the same members. -/
theorem any_join (n : Nat) (ranges : List (Nat × Nat))
    (h : ranges.Pairwise fun a b => a.1 ≤ b.1) :
    (join ranges).any (inRange n) = ranges.any (inRange n) := by
  cases ranges with
  | nil => rfl
  | cons range rest => exact any_joinFrom n range rest h

/-- From some code point on, the gaps have the members that no range has. -/
theorem any_gaps (n start : Nat) (ranges : List (Nat × Nat)) (hn : n ≤ 0x10ffff)
    (h : ranges.Pairwise fun a b => a.1 ≤ b.1) :
    (gaps start ranges).any (inRange n) =
      (decide (start ≤ n) && !ranges.any (inRange n)) := by
  induction ranges generalizing start with
  | nil =>
    unfold gaps
    split
    · simp [inRange, hn]
    · have : ¬ start ≤ n := by omega
      simp [this]
  | cons range rest ih =>
    obtain ⟨hrange, hpair⟩ := List.pairwise_cons.1 h
    -- A code point in front of this range is in front of all that follow.
    have hfront : n < range.1 → rest.any (inRange n) = false := fun hlt => by
      rw [List.any_eq_false]
      intro r hr
      have := hrange r hr
      simp only [inRange, Bool.and_eq_true, decide_eq_true_eq, not_and]
      omega
    -- Whether a later range holds the code point decides if the gap in front of it can.
    rw [Bool.eq_iff_iff]
    unfold gaps
    cases hrest : rest.any (inRange n)
    · split <;>
        simp only [List.any_cons, ih _ hpair, hrest, inRange, Bool.or_eq_true, Bool.and_eq_true,
          decide_eq_true_eq, Bool.not_false, Bool.not_eq_true', Bool.or_false,
          Bool.and_eq_false_iff, decide_eq_false_iff_not, and_true] <;>
        omega
    · have : ¬ n < range.1 := fun hlt => by simp [hfront hlt] at hrest
      split
      · simp only [List.any_cons, ih _ hpair, hrest, inRange, Bool.or_eq_true, Bool.and_eq_true,
          decide_eq_true_eq, Bool.not_true, Bool.or_true, Bool.false_eq_true, and_false, or_false,
          iff_false, not_and, Nat.not_le]
        omega
      · simp only [ih _ hpair, List.any_cons, hrest, Bool.not_true, Bool.or_true, and_false,
          Bool.and_eq_true, Bool.false_eq_true]

/-- A set made of ranges holds exactly the characters in one of them. -/
theorem contains_ofRanges (ranges : List (Nat × Nat)) (c : Char) :
    (ofRanges ranges).contains c = ranges.any (inRange c.toNat) := by
  unfold contains ofRanges
  rw [any_join _ _ (pairwise_sortRanges _), any_sortRanges, List.any_flatMap]
  simp only [any_cutSurrogates]

/-- The union of two sets holds exactly the characters of either. -/
theorem contains_union (s t : CodePointSet) (c : Char) :
    (s.union t).contains c = (s.contains c || t.contains c) := by
  unfold union
  rw [contains_ofRanges, List.any_append]
  rfl

/-- The union of several sets holds exactly the characters of any of them. -/
theorem contains_unionOf (sets : List CodePointSet) (c : Char) :
    (unionOf sets).contains c = sets.any (·.contains c) := by
  unfold unionOf
  rw [contains_ofRanges, List.any_flatMap]
  rfl

/-- The complement of a set holds exactly the other characters. -/
theorem contains_complement (s : CodePointSet) (c : Char) :
    s.complement.contains c = !s.contains c := by
  unfold contains complement
  rw [any_gaps _ _ _ (toNat_le c) (pairwise_sortRanges _), any_sortRanges, List.any_cons]
  have h : inRange c.toNat surrogates = false := Bool.eq_false_iff.2 fun h => by
    simp only [inRange, Bool.and_eq_true, decide_eq_true_eq] at h
    exact not_surrogate c h
  simp [h]

/-- The intersection of two sets holds exactly the characters of both. -/
theorem contains_inter (s t : CodePointSet) (c : Char) :
    (s.inter t).contains c = (s.contains c && t.contains c) := by
  simp [inter, contains_union, contains_complement]

/-- The difference of two sets holds exactly the characters of the first alone. -/
theorem contains_diff (s t : CodePointSet) (c : Char) :
    (s.diff t).contains c = (s.contains c && !t.contains c) := by
  simp [diff, contains_union, contains_complement]

end CodePointSet

namespace Unicode

/-- The number that decimal digits write, one digit at a time. -/
def pushDigit (n : Nat) (c : Char) : Nat := 10 * n + (c.toNat - '0'.toNat)

/-- The decimal numbers of a table, which are separated by spaces. -/
def numbers (table : String) : List Nat :=
  ((table.splitOn " ").filter fun word => word ≠ "").map fun word =>
    word.toList.foldl pushDigit 0

/-- The runs of a table that gives each run as its decimal length and a label of letters, the
first run starting at the first code point: first and last code point and label of each. -/
def partition (table : String) : List (Nat × Nat × String) :=
  go 0 0 [] table.toList
where
  /-- A run that starts at a code point. -/
  run (start length : Nat) (label : List Char) : Nat × Nat × String :=
    (start, start + length - 1, String.ofList label.reverse)
  /-- The runs from a code point on, with the length and the reversed label read so far. -/
  go (start length : Nat) (label : List Char) : List Char → List (Nat × Nat × String)
    | [] => [run start length label]
    | c :: rest =>
        if c.isDigit then
          if label = [] then go start (pushDigit length c) [] rest
          else run start length label :: go (start + length) (pushDigit 0 c) [] rest
        else if c = ' ' then go start length label rest
        else go start length (c :: label) rest

/-- The characters in the runs whose label satisfies a test. -/
def labelled (runs : List (Nat × Nat × String)) (test : String → Bool) : CodePointSet :=
  .ofRanges ((runs.filter fun run => test run.2.2).map fun run => (run.1, run.2.1))

/-- What stands behind the entry of a list that has a name among its names. -/
def byName? {α : Type} (entries : List (List String × α)) (name : String) : Option α :=
  (entries.find? fun entry => entry.1.contains name).map (·.2)

end Unicode

end RecordSieve
