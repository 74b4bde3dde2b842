import RecordSieve.Unicode.CodePointSet

/-!
# Encoded Sets

The characters of a set as sequences of bytes. A range of characters whose encodings are equally
long and whose last bytes run through all values is one sequence of byte ranges; other ranges are
cut into such ones.

## Main definitions

* `CodePointSet.byteSequences`: the sequences of byte ranges of a set.
-/

namespace RecordSieve

/-- A range of bytes. -/
abbrev ByteRange := Nat × Nat

namespace Pattern

/-- The characters by the length of their encoding: the length and the first and last of them.
The surrogates in between are no characters. -/
def encodingLengths : List (Nat × Nat × Nat) :=
  [(1, 0, 0x7f), (2, 0x80, 0x7ff), (3, 0x800, 0xd7ff), (3, 0xe000, 0xffff),
    (4, 0x10000, 0x10ffff)]

/-- The parts of a range whose characters are encoded in equally many bytes, with that number. -/
def cutByLength (range : Nat × Nat) : List (Nat × Nat × Nat) :=
  (encodingLengths.map fun (length, low, high) =>
    (length, max low range.1, min high range.2)).filter fun (_, low, high) => low ≤ high

/-- The sequences of byte ranges for the numbers from `low` to `high`, given in `length` bytes
of six bits each. A range that does not fill the bytes behind the first is cut at their ends. -/
def sixBitSequences : (length low high : Nat) → List (List ByteRange)
  | 0, _, _ => [[]]
  | length + 1, low, high =>
      let block := Nat.pow 64 length
      let first := low / block
      let last := high / block
      if first = last then
        (sixBitSequences length (low % block) (high % block)).map ((first, first) :: ·)
      else
        let inner := sixBitSequences length 0 (block - 1)
        -- Where the bytes behind the first or last one are cut, it gets sequences of its own.
        let startCut := low % block ≠ 0
        let endCut := high % block ≠ block - 1
        let lowEnd := if startCut then first + 1 else first
        let highEnd := if endCut then last - 1 else last
        (if startCut then
            (sixBitSequences length (low % block) (block - 1)).map ((first, first) :: ·)
          else []) ++
          (if lowEnd ≤ highEnd then inner.map ((lowEnd, highEnd) :: ·) else []) ++
          if endCut then (sixBitSequences length 0 (high % block)).map ((last, last) :: ·)
          else []

/-- The mark that the first of several bytes carries beside its bits. -/
def leadMark (length : Nat) : Nat := if length = 1 then 0 else 0x100 - Nat.pow 2 (8 - length)

/-- A byte range with a mark on its bytes. -/
def markRange (mark : Nat) (range : ByteRange) : ByteRange := (range.1 + mark, range.2 + mark)

end Pattern

open Pattern in
/-- The sequences of byte ranges of a set, in ascending order. -/
def CodePointSet.byteSequences (s : CodePointSet) : List (List ByteRange) :=
  (s.ranges.flatMap cutByLength).flatMap fun (length, low, high) =>
    (sixBitSequences length low high).map fun
      | first :: rest => markRange (leadMark length) first :: rest.map (markRange 0x80)
      | [] => []

end RecordSieve
