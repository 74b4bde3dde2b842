import RecordSieve.Proofs.Renumbering
import RecordSieve.Sieve.Keys

/-!
# Keys of Records

The keys of an input are collected line by line. Here this is taken apart: the records on the lines
are read first, and then their keys are put together, each once and in ascending order.

## Main definitions

* `readRecords`: the records on some lines;
* `insertKeys`: ascending keys with more keys.

## Main statements

* `mem_insertKeys`, `pairwise_insertKeys`: no key is lost or added, and the order is kept;
* `readRecords_append`, `readRecords_add`: lines behind others are read as if they stood alone, up
  to the line that a failure names;
* `keysFrom_eq`: the keys of what is left of a source, with a failure of the reader behind them;
* `collectKeys_ofBytes`: the keys of an input.
-/

namespace RecordSieve

/-! ### Ascending keys -/

/-- A key is inserted, and the others stay. -/
theorem mem_insertKey {key other : String} {keys : List String} :
    other ∈ insertKey key keys ↔ other ∈ keys ∨ other = key := by
  induction keys with
  | nil => simp [insertKey]
  | cons first rest ih =>
    unfold insertKey
    split
    · simp [or_comm]
    · split
      · next heq => simp [heq, or_right_comm]
      · simp [ih, or_assoc]

/-- A key takes its place among ascending keys. -/
theorem pairwise_insertKey (key : String) {keys : List String} (h : keys.Pairwise (· < ·)) :
    (insertKey key keys).Pairwise (· < ·) := by
  induction keys with
  | nil => exact List.pairwise_singleton _ _
  | cons first rest ih =>
    obtain ⟨hfirst, hrest⟩ := List.pairwise_cons.1 h
    unfold insertKey
    split
    · next hlt =>
      refine List.pairwise_cons.2 ⟨?_, h⟩
      exact List.forall_mem_cons.2 ⟨hlt, fun other hother => Std.lt_trans hlt (hfirst other hother)⟩
    · next hnlt =>
      split
      · exact h
      · next hne =>
        -- The key stands behind the first one, and so does what is behind it already.
        have hlt : first < key := Std.lt_of_le_of_ne (Std.not_lt.1 hnlt) (Ne.symm hne)
        refine List.pairwise_cons.2 ⟨?_, ih hrest⟩
        intro other hother
        exact (mem_insertKey.1 hother).elim (hfirst other) (fun heq => heq ▸ hlt)

/-- Ascending keys with more keys, each of which is new or already there. -/
def insertKeys (keys more : List String) : List String :=
  more.foldl (fun keys key => insertKey key keys) keys

/-- Keys are inserted one after the other. -/
theorem mem_insertKeys {key : String} {keys more : List String} :
    key ∈ insertKeys keys more ↔ key ∈ keys ∨ key ∈ more := by
  unfold insertKeys
  induction more generalizing keys with
  | nil => simp
  | cons first more ih => rw [List.foldl_cons, ih, mem_insertKey, List.mem_cons, or_assoc]

/-- Keys are inserted where they keep the ascending order. -/
theorem pairwise_insertKeys {keys : List String} (h : keys.Pairwise (· < ·))
    (more : List String) : (insertKeys keys more).Pairwise (· < ·) := by
  unfold insertKeys
  induction more generalizing keys with
  | nil => exact h
  | cons key more ih => exact ih (pairwise_insertKey key h)

/-! ### Records on lines -/

/-- The records on some lines, the first of which has the number `first`. -/
def readRecords (first : Nat) : List (List UInt8) → Except Failure (List Fields)
  | [] => .ok []
  | line :: rest => do
      let fields ← readRecord line first
      let others ← readRecords (first + 1) rest
      pure (fields :: others)

/-- Reading ends with the first line that is no record. -/
theorem readRecords_cons_of_error {line : List UInt8} {first : Nat} {failure : Failure}
    (h : readRecord line first = .error failure) (rest : List (List UInt8)) :
    readRecords first (line :: rest) = .error failure := by
  rw [readRecords, h]
  rfl

/-- Behind a line that is a record, the others are read under the next numbers. -/
theorem readRecords_cons_of_ok {line : List UInt8} {first : Nat} {fields : Fields}
    (h : readRecord line first = .ok fields) (rest : List (List UInt8)) :
    readRecords first (line :: rest) = (readRecords (first + 1) rest).map (fields :: ·) := by
  rw [readRecords, h]
  cases readRecords (first + 1) rest <;> rfl

/-- Lines behind others are read once those have been read. -/
theorem readRecords_append (first : Nat) (front back : List (List UInt8)) :
    readRecords first (front ++ back) = (readRecords first front).bind fun records =>
      (readRecords (first + front.length) back).map (records ++ ·) := by
  induction front generalizing first with
  | nil =>
    show readRecords first back = (readRecords (first + 0) back).map id
    rw [Except.map_id, Nat.add_zero, id]
  | cons line front ih =>
    rw [List.cons_append, List.length_cons, Nat.add_comm front.length, ← Nat.add_assoc]
    rcases hread : readRecord line first with failure | fields
    · rw [readRecords_cons_of_error hread, readRecords_cons_of_error hread]
      rfl
    · rw [readRecords_cons_of_ok hread, readRecords_cons_of_ok hread, ih]
      cases readRecords (first + 1) front with
      | error failure => rfl
      | ok records => cases readRecords (first + 1 + front.length) back <;> rfl

/-- Lines further on hold the same records, up to the line that a failure names. -/
theorem readRecords_add (first count : Nat) (ls : List (List UInt8)) :
    readRecords (first + count) ls =
      (readRecords first ls).mapError (Failure.raised count) := by
  induction ls generalizing first with
  | nil => rfl
  | cons line ls ih =>
    have hadd := readRecord_add line first count
    rcases hread : readRecord line first with failure | fields
    · rw [hread] at hadd
      rw [readRecords_cons_of_error hadd, readRecords_cons_of_error hread]
      rfl
    · rw [hread] at hadd
      rw [readRecords_cons_of_ok hadd, readRecords_cons_of_ok hread, Nat.add_right_comm, ih]
      cases readRecords (first + 1) ls <;> rfl

/-! ### Keys of an input -/

/-- The keys of what is left of a source are those of its records, unless the reader fails behind
them. -/
theorem keysFrom_eq (number : Nat) (keys : List String) (source : Source) :
    keysFrom number keys source =
      (readRecords (number + 1) source.lines).bind fun records =>
        match source.ending with
        | none => .ok (insertKeys keys (records.flatMap Fields.keys))
        | some failure => .error failure := by
  rw [keysFrom]
  split
  · next hread =>
    obtain ⟨hlines, hfailure⟩ := Source.lines_of_ended hread
    rw [hlines, Source.ending, hfailure]
    rfl
  · next reason hread =>
    obtain ⟨hlines, hfailure⟩ := Source.lines_of_failed hread
    rw [hlines, Source.ending, hfailure]
    rfl
  · next line rest hread =>
    obtain ⟨hlines, hfailure⟩ := Source.lines_of_readLine hread
    have hlt := Source.length_lt_of_readLine hread
    have hending : source.ending = rest.ending := by
      rw [Source.ending, Source.ending, hfailure]
    rw [hlines, hending]
    rcases hrecord : readRecord line (number + 1) with failure | fields
    · rw [readRecords_cons_of_error hrecord]
      rfl
    · -- The keys of the line are inserted in front of those of the others.
      rw [readRecords_cons_of_ok hrecord]
      show keysFrom (number + 1) (insertKeys keys fields.keys) rest = _
      rw [keysFrom_eq (number + 1) (insertKeys keys fields.keys) rest]
      cases readRecords (number + 1 + 1) rest.lines with
      | error failure => rfl
      | ok records => simp [Except.bind, Except.map, insertKeys, List.foldl_append]
termination_by source.bytes.length

/-- The keys of an input are those of its records. -/
theorem collectKeys_ofBytes (bytes : List UInt8) :
    collectKeys (.ofBytes bytes) = (readRecords 1 (lines bytes)).map fun records =>
      insertKeys [] (records.flatMap Fields.keys) := by
  rw [collectKeys, keysFrom_eq]
  show (readRecords 1 (lines bytes)).bind _ = _
  cases readRecords 1 (lines bytes) <;> rfl

end RecordSieve
