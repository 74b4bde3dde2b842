import RecordSieve.Proofs.ByteOrder
import RecordSieve.Proofs.Comparisons
import RecordSieve.Proofs.Readings

/-!
# Quoted Literals

Quotes make a string of a literal, whatever stands between them. A string in a record is read again,
as if it were a literal: quotes around it are dropped, and without any it may turn out to be a
number or a truth value. Such a string is equal to no quoted literal, not even to one with the same
text, and has no order with it. All others are compared by their bytes.

## Main definitions

* `BareTyped`: the strings that are read as a number or a truth value;
* `Operator.OrdersBytes`: what an ordering operator asks of two texts;
* `ComparesWithQuoted`: what a comparison with a quoted literal gives.

## Main statements

* `bareTyped_iff`: these strings are no strings to coercion;
* `Operator.allows_compare_string`: the order of two texts is that of their bytes;
* `comparesWithQuoted`: every comparison of a string with a quoted literal.
-/

namespace RecordSieve

/-! ### Strings that are no strings -/

/-- A string without a quote in front that is the text of a truth value or of a number. -/
def BareTyped (text : String) : Prop :=
  text.toList.head? ≠ some '"' ∧ (text = "True" ∨ text = "False" ∨ IsNumericText text.toList)

theorem bareTyped_iff {text : String} : BareTyped text ↔ (Scalar.ofText text).kind ≠ .string := by
  rw [Scalar.kind_ofText_ne_string_iff, BareTyped, and_iff_right_iff_imp]
  rintro htyped hquote
  -- A text with a quote in front is a string.
  obtain ⟨inner, htext⟩ := List.head?_eq_some_iff.1 hquote
  refine Scalar.kind_ofText_ne_string_iff.2 htyped ?_
  rw [Scalar.ofText, htext]
  rfl

instance (text : String) : Decidable (BareTyped text) := decidable_of_iff _ bareTyped_iff.symm

namespace Scalar

/-- What is no string is not equal to one, and has no order with it. -/
theorem agrees_string {value : Scalar} (h : value.kind ≠ .string) (text : String) :
    value.agrees (.string text) = false := by
  cases value with
  | string => exact absurd rfl h
  | int | float | bool => rfl

theorem compare?_string {value : Scalar} (h : value.kind ≠ .string) (text : String) :
    value.compare? (.string text) = none := by
  cases value with
  | string => exact absurd rfl h
  | int | float | bool => rfl

end Scalar

/-! ### The order of bytes -/

namespace Operator

/-- What an ordering operator asks of the bytes of two texts. -/
def OrdersBytes : Operator → List UInt8 → List UInt8 → Prop
  | ge, a, b => b ≤ a
  | gt, a, b => b < a
  | le, a, b => a ≤ b
  | lt, a, b => a < b
  | _, _, _ => False

instance (op : Operator) (a b : List UInt8) : Decidable (op.OrdersBytes a b) :=
  match op with
  | ge => inferInstanceAs (Decidable (b ≤ a))
  | gt => inferInstanceAs (Decidable (b < a))
  | le => inferInstanceAs (Decidable (a ≤ b))
  | lt => inferInstanceAs (Decidable (a < b))
  | eq | ne | like => inferInstanceAs (Decidable False)

/-- The order of two texts is that of their bytes. -/
theorem allows_compare_string {op : Operator} (hop : op.isOrdering = true) (a b : String) :
    op.allows (compare a b) =
      decide (op.OrdersBytes (Utf8.encode a.toList) (Utf8.encode b.toList)) := by
  have hlt {s t : String} : compare s t = .lt ↔ Utf8.encode s.toList < Utf8.encode t.toList := by
    rw [Utf8.encode_lt_encode_iff]
    exact compareOfLessAndEq_eq_lt
  have hgt : compare a b = .gt ↔ Utf8.encode b.toList < Utf8.encode a.toList := by
    rw [← hlt]
    exact Std.OrientedCmp.gt_iff_lt
  rw [Bool.eq_iff_iff, decide_eq_true_eq]
  -- The bytes are ordered totally, so the operators with equality are the others turned around.
  cases op with
  | eq | ne | like => cases hop
  | lt => simp only [allows, holds, decide_eq_true_eq, hlt, OrdersBytes]
  | gt => simp only [allows, holds, decide_eq_true_eq, hgt, OrdersBytes]
  | ge => simp only [allows, holds, decide_eq_true_eq, ne_eq, hlt, OrdersBytes, List.not_lt]
  | le => simp only [allows, holds, decide_eq_true_eq, ne_eq, hgt, OrdersBytes, List.not_lt]

end Operator

/-! ### Comparisons -/

/-- What the operators answer about a string in a record and a quoted literal. -/
structure ComparesWithQuoted (text literal : String) (answer : Operator → Except Failure Bool) :
    Prop where
  existsUnique_stripped : ∃! stripped, Stripped text stripped
  /-- The string is equal to the literal if it has the same text and is not taken for another type.
  -/
  eq_iff : answer .eq = .ok true ↔ ¬ BareTyped text ∧ Stripped text literal
  ne_not : ∃ equal, answer .eq = .ok equal ∧ answer .ne = .ok (!equal)
  /-- There is no order with a string that is taken for another type. -/
  fails_iff : ∀ op, op.isOrdering = true →
    (answer op = .error (.incomparable op (Scalar.ofText text).kind .string) ↔ BareTyped text)
  /-- Any other string is compared by the bytes of its text. -/
  orders : ∀ op, op.isOrdering = true → ¬ BareTyped text → ∀ stripped, Stripped text stripped →
    answer op = .ok (decide (op.OrdersBytes (Utf8.encode stripped.toList)
      (Utf8.encode literal.toList)))

/-- The operators on the scalar of a string and on a string literal. -/
theorem comparesWithQuoted_evaluate (text literal : String) : ComparesWithQuoted text literal
    fun op => op.evaluate (Scalar.ofText text) (.string literal) := by
  obtain ⟨stripped, hstripped, hunique⟩ := existsUnique_stripped text
  have horder (hkind : ¬ BareTyped text) :
      InOrder (.ofText text) (.string literal) (compare stripped literal) := by
    rw [bareTyped_iff, not_not] at hkind
    rw [Scalar.ofText_of_stripped hstripped hkind]
    exact .strings stripped literal
  constructor
  case existsUnique_stripped => exact ⟨stripped, hstripped, hunique⟩
  case eq_iff =>
    by_cases hbare : BareTyped text
    · simp [Operator.evaluate, Scalar.agrees_string (bareTyped_iff.1 hbare), hbare]
    · have hliteral : Stripped text literal ↔ stripped = literal :=
        ⟨fun h => (hunique literal h).symm, fun h => h ▸ hstripped⟩
      simp [Operator.evaluate, (horder hbare).agrees_eq, hbare, hliteral]
  case ne_not => exact ⟨_, rfl, rfl⟩
  case fails_iff =>
    intro op hop
    constructor
    · intro herror
      by_contra hbare
      rw [Operator.evaluate_of_inOrder (Operator.ne_like_of_isOrdering hop) (horder hbare)]
        at herror
      cases herror
    · intro hbare
      rw [Operator.evaluate_of_isOrdering hop, Scalar.compare?_string (bareTyped_iff.1 hbare)]
      rfl
  case orders =>
    intro op hop hbare other hother
    rw [hunique other hother, ← Operator.allows_compare_string hop]
    exact Operator.evaluate_of_inOrder (Operator.ne_like_of_isOrdering hop) (horder hbare)

/-- Every comparison of a field with a quoted literal makes a sieve, and on a record with a string
in the field it decides by that string. -/
theorem comparesWithQuoted {field literal : String} (hfield : IsFieldName field)
    (hquote : '"' ∉ literal.toList) :
    ∃ sieve : Operator → Sieve,
      (∀ op ≠ .like, (Condition.parse (Condition.render ⟨field, op, "\"" ++ literal ++ "\""⟩) >>=
        fun condition => Sieve.ofConditions [condition] .all false) = .ok (sieve op)) ∧
      ∀ fields text line, fields.get? field = some (.string text) →
        ComparesWithQuoted text literal fun op => (sieve op).keeps fields line := by
  have hwellFormed (op : Operator) : Condition.WellFormed ⟨field, op, "\"" ++ literal ++ "\""⟩ := by
    refine ⟨hfield.1, hfield.2, isLiteral_iff.2 ?_⟩
    rw [Scalar.toList_between_quotes]
    exact .quoted hquote
  refine ⟨fun op => ⟨[Test.plain ⟨field, op, "\"" ++ literal ++ "\""⟩], .all, false⟩, ?_, ?_⟩
  · intro op hop
    exact Sieve.ofConditions_render (hwellFormed op) hop
  · intro fields text line hget
    -- Between quotes the literal is a string, so the sieve asks the operator about two strings.
    have hkeeps (op : Operator) :
        Sieve.keeps ⟨[Test.plain ⟨field, op, "\"" ++ literal ++ "\""⟩], .all, false⟩ fields line =
          op.evaluate (Scalar.ofText text) (.string literal) := by
      rw [Sieve.keeps_plain hget, Scalar.ofJson, Scalar.ofText_between_quotes]
    simp only [hkeeps]
    exact comparesWithQuoted_evaluate text literal

/-- A size is no string without quotes of its own, which a string in a record may have. -/
theorem comparesWithQuoted_sizes :
    IsFieldName "f" ∧ '"' ∉ "15K".toList ∧ ∃ sieve : Operator → Sieve,
      ∀ op ≠ .like, (Condition.parse (Condition.render ⟨"f", op, "\"15K\""⟩) >>=
        fun condition => Sieve.ofConditions [condition] .all false) = .ok (sieve op) ∧
      ∀ line,
        (sieve .eq).keeps [("f", .string "15K")] line ≠ .ok true ∧
        (sieve .lt).keeps [("f", .string "15K")] line = .error (.incomparable .lt .float .string) ∧
        (sieve .eq).keeps [("f", .string "\"15K\"")] line = .ok true ∧
        (sieve .lt).keeps [("f", .string "é")] line = .ok false := by
  have hfield : IsFieldName "f" := ⟨List.cons_ne_nil _ _, List.forall_mem_singleton.2 rfl⟩
  have hquote : '"' ∉ "15K".toList := by decide
  have hbare : BareTyped "15K" := by decide +kernel
  have hkind : (Scalar.ofText "15K").kind = .float := by decide +kernel
  have hquoted : ¬ BareTyped "\"15K\"" := by decide +kernel
  have hstripped : Stripped "\"15K\"" "15K" := by
    rw [← String.ofList_toList (s := "15K")]
    exact .quoted (.closed "15K".toList)
  have haccent : ¬ BareTyped "é" := by decide +kernel
  have hplain : Stripped "é" "é" := .plain (by decide)
  obtain ⟨sieve, hsieve, hcompares⟩ := @comparesWithQuoted "f" "15K" hfield hquote
  refine ⟨hfield, hquote, sieve, fun op hop => ⟨hsieve op hop, fun line => ?_⟩⟩
  have hsize := hcompares [("f", .string "15K")] "15K" line rfl
  have hown := hcompares [("f", .string "\"15K\"")] "\"15K\"" line rfl
  have hletter := hcompares [("f", .string "é")] "é" line rfl
  refine ⟨fun hequal => (hsize.eq_iff.1 hequal).1 hbare, ?_, hown.eq_iff.2 ⟨hquoted, hstripped⟩, ?_⟩
  · rw [(hsize.fails_iff .lt rfl).2 hbare, hkind]
  · rw [hletter.orders .lt rfl haccent "é" hplain]
    decide +kernel

end RecordSieve
