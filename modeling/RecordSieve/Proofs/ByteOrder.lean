import RecordSieve.Proofs.Json.Decoding

/-!
# The Order of Texts as Bytes

Texts are compared character by character, and files byte by byte. Both orders agree: UTF-8 writes a
smaller character with fewer bytes and a smaller first one, or with as many bytes, of which the
first that differs is smaller.

## Main statements

* `Utf8.encodeChar_append_lt`: the bytes of a smaller character come first, whatever is behind them;
* `Utf8.encode_lt_encode_iff`: texts and their bytes are in the same order.
-/

namespace RecordSieve.Utf8

/-- A byte that is not larger goes in front of bytes that are smaller where it is the same. -/
theorem cons_lt_cons_of_le {m n : Nat} {front back : List UInt8} (hm : m < 256) (hn : n < 256)
    (hle : m ≤ n) (h : m = n → front < back) : UInt8.ofNat m :: front < UInt8.ofNat n :: back := by
  rcases Nat.lt_or_eq_of_le hle with hlt | rfl
  · refine List.cons_lt_cons_iff.2 (.inl ?_)
    rw [UInt8.lt_iff_toNat_lt, UInt8.toNat_ofNat_of_lt' hm, UInt8.toNat_ofNat_of_lt' hn]
    exact hlt
  · exact List.cons_lt_cons_iff.2 (.inr ⟨rfl, h rfl⟩)

/-- The bytes of a smaller character are smaller, whatever follows. -/
theorem encodeChar_append_lt {c d : Char} (h : c < d) (front back : List UInt8) :
    String.utf8EncodeChar c ++ front < String.utf8EncodeChar d ++ back := by
  have hlt : c.val.toNat < d.val.toNat := h
  have hd := d.valid
  simp only [UInt32.isValidChar, Nat.isValidChar] at hd
  unfold String.utf8EncodeChar
  simp only
  generalize c.val.toNat = v at hlt ⊢
  generalize d.val.toNat = w at hlt hd ⊢
  -- One case for each pair of lengths. If they differ, the first bytes do; if not, the bytes are
  -- digits to the base 64, the most important one first.
  repeat' split
  all_goals
    simp only [List.cons_append, List.nil_append]
    repeat refine cons_lt_cons_of_le (by omega) (by omega) (by omega) fun _ => ?_
    omega

/-- The encoding of a character has at least one byte. -/
theorem nil_lt_encodeChar_append (c : Char) (back : List UInt8) :
    [] < String.utf8EncodeChar c ++ back := by
  obtain ⟨b, rest, hbytes⟩ := List.exists_cons_of_ne_nil (l := String.utf8EncodeChar c) (by simp)
  rw [hbytes]
  exact List.nil_lt_cons b _

/-- The bytes of texts are in the order of the texts. -/
theorem encode_lt_encode {s t : List Char} (h : s < t) : encode s < encode t := by
  induction s generalizing t with
  | nil =>
    cases t with
    | nil => exact absurd h (List.not_lt_nil _)
    | cons d t => exact nil_lt_encodeChar_append d _
  | cons c s ih =>
    cases t with
    | nil => exact absurd h (List.not_lt_nil _)
    | cons d t =>
      rcases List.cons_lt_cons_iff.1 h with hlt | ⟨rfl, hlt⟩
      · exact encodeChar_append_lt hlt _ _
      · exact List.append_left_lt (ih hlt)

/-- Texts and their bytes are in the same order. -/
theorem encode_lt_encode_iff {s t : List Char} : encode s < encode t ↔ s < t := by
  refine ⟨fun h => ?_, encode_lt_encode⟩
  refine Decidable.of_not_not fun hlt => ?_
  by_cases heq : s = t
  · subst heq
    exact absurd h (List.lt_irrefl _)
  · have hgt : t < s := Std.lt_of_le_of_ne (Std.not_lt.1 hlt) (Ne.symm heq)
    exact absurd (Std.lt_trans h (encode_lt_encode hgt)) (List.lt_irrefl _)

end RecordSieve.Utf8
