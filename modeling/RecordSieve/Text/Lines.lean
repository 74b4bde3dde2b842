/-!
# Lines of Bytes

The split of bytes into lines. A line keeps its newline, and only the last one may lack it.

## Main definitions

* `cutLine?`: the first line that ends with a newline, and the bytes behind it;
* `lines`: all the lines;
* `finishedPart`: the lines that end with a newline, as bytes.
-/

namespace RecordSieve

/-- The byte that ends a line. -/
def newline : UInt8 := 10

/-- The bytes up to and with the first newline, and those behind it, if there is a newline. -/
def cutLine? : List UInt8 → Option (List UInt8 × List UInt8)
  | [] => none
  | b :: rest =>
      if b = newline then some ([b], rest)
      else (cutLine? rest).map fun (line, others) => (b :: line, others)

/-- The lines of bytes: a cut after every newline. -/
def lines : List UInt8 → List (List UInt8)
  | [] => []
  | b :: rest =>
      if b = newline then [b] :: lines rest
      else
        match lines rest with
        | [] => [[b]]
        | line :: others => (b :: line) :: others

/-- The bytes up to and with the last newline: what is left when the unfinished line is lost. -/
def finishedPart (bytes : List UInt8) : List UInt8 :=
  (bytes.reverse.dropWhile (· ≠ newline)).reverse

@[simp]
theorem flatten_lines (bytes : List UInt8) : (lines bytes).flatten = bytes := by
  induction bytes with
  | nil => rfl
  | cons b rest ih =>
    unfold lines
    split
    · simp [ih]
    · split
      · next h => simp_all
      · next line others h =>
        rw [h] at ih
        simp [← ih]

/-- A cut line is the bytes up to a newline that none stands in front of. -/
theorem cutLine?_eq_some_iff {bytes line rest : List UInt8} :
    cutLine? bytes = some (line, rest) ↔
      ∃ body, newline ∉ body ∧ line = body ++ [newline] ∧ bytes = line ++ rest := by
  induction bytes generalizing line with
  | nil =>
    refine ⟨fun h => by simp [cutLine?] at h, ?_⟩
    rintro ⟨body, -, rfl, h⟩
    simp at h
  | cons b others ih =>
    unfold cutLine?
    split
    · next hb =>
      -- The line ends at once.
      constructor
      · rintro ⟨⟩
        exact ⟨[], by simp [hb]⟩
      · rintro ⟨body, hbody, rfl, h⟩
        cases body with
        | nil => simp_all
        | cons c body => simp_all
    · next hb =>
      rw [Option.map_eq_some_iff]
      constructor
      · rintro ⟨⟨line', rest'⟩, hcut, heq⟩
        simp only [Prod.mk.injEq] at heq
        obtain ⟨rfl, rfl⟩ := heq
        obtain ⟨body, hbody, rfl, rfl⟩ := ih.1 hcut
        exact ⟨b :: body, by simp [hbody, Ne.symm hb], by simp⟩
      · rintro ⟨body, hbody, rfl, h⟩
        cases body with
        | nil => simp_all
        | cons c body =>
          simp only [List.mem_cons, not_or] at hbody
          simp only [List.cons_append, List.cons.injEq] at h
          obtain ⟨rfl, rfl⟩ := h
          refine ⟨(body ++ [newline], rest), ih.2 ⟨body, hbody.2, rfl, by simp⟩, rfl⟩

/-- There is no line to cut exactly if there is no newline. -/
theorem cutLine?_eq_none_iff {bytes : List UInt8} :
    cutLine? bytes = none ↔ newline ∉ bytes := by
  induction bytes with
  | nil => simp [cutLine?]
  | cons b rest ih =>
    unfold cutLine?
    split
    · next hb => simp [hb]
    · next hb => simp [ih, Ne.symm hb]

end RecordSieve
