import Mathlib.Logic.ExistsUnique
import RecordSieve.Proofs.AskedFields

/-!
# The Comparison Operators

Equality is computed apart from the order, and integers and floats are compared in ways of their
own. Still the operators fit together: whichever scalars meet, either they have no order, and then
all four ordering operators refuse them, or they have one, and then the six operators read it. NaN
is the exception, which is equal to nothing and has no place among the numbers.

## Main definitions

* `InOrder`: the order of two scalars that have one;
* `Operator.allows`: what an operator makes of an order;
* `Coherent`: the operators fit together on three scalars;
* `NanApart`: what the operators say about NaN.

## Main statements

* `inOrder_iff`: the order that is computed is that of the ranks, or of the texts;
* `InOrder.swap`, `InOrder.trans`, `InOrder.agrees_eq`: it is a linear order, whose equality is
  `==`;
* `Operator.evaluate_of_inOrder`: each operator reads the order;
* `coherent`: the operators fit together on all scalars without NaN.
-/

namespace RecordSieve

/-! ### Scalars in order -/

/-- The order of two scalars that have one: numbers by rank and strings by their characters. -/
inductive InOrder : Scalar → Scalar → Ordering → Prop
  | numbers {a b : Scalar} {r s : Rank} : a.rank? = some r → b.rank? = some s →
      InOrder a b (r.compare s)
  | strings (text other : String) :
      InOrder (.string text) (.string other) (compare text other)

variable {a b c : Scalar} {ordering : Ordering}

/-- The order that is computed for two scalars. -/
theorem inOrder_iff : InOrder a b ordering ↔ a.compare? b = some (some ordering) := by
  constructor
  · rintro (⟨ha, hb⟩ | _)
    · rw [Scalar.compare?_eq_of_rank? ha]
      cases b with
      | int | float => rw [hb, Option.map_some]
      | string | bool => cases hb
    · rfl
  · intro h
    cases ha : a.rank? with
    | some r =>
      rw [Scalar.compare?_eq_of_rank? ha] at h
      cases b with
      | int | float =>
        obtain ⟨s, hb, rfl⟩ := Option.map_eq_some_iff.1 (Option.some.inj h)
        exact .numbers ha hb
      | string | bool => cases h
    | none =>
      -- Without ranks only strings have an order.
      cases a with
      | int value => cases ha
      | float value =>
        have hnone : (Scalar.float value).numericCompare? b = none := by
          rw [Scalar.numericCompare?_eq, ha]
          rfl
        cases b with
        | int | float =>
          rw [Scalar.compare?, hnone] at h
          cases h
        | string | bool => cases h
      | string text =>
        cases b with
        | string other =>
          cases h
          exact .strings text other
        | _ => cases h
      | bool value => cases b <;> cases h

namespace InOrder

/-- Turned around, the order is the reverse. -/
theorem swap (h : InOrder a b ordering) : InOrder b a ordering.swap := by
  rw [inOrder_iff] at h ⊢
  rw [← Scalar.compare?_swap, h]
  rfl

/-- The order is transitive. -/
theorem trans {next : Ordering} (hab : InOrder a b ordering) (hbc : InOrder b c next)
    (hle : ordering ≠ .gt) (hle' : next ≠ .gt) : ∃ last, InOrder a c last ∧ last ≠ .gt := by
  have hisLE := Ordering.ne_gt_iff_isLE.1 hle
  have hisLE' := Ordering.ne_gt_iff_isLE.1 hle'
  cases hab with
  | numbers ha hb =>
    cases hbc with
    | numbers hb' hc =>
      cases hb.symm.trans hb'
      exact ⟨_, .numbers ha hc, Ordering.ne_gt_iff_isLE.2 (Rank.isLE_compare_trans hisLE hisLE')⟩
    | strings text other => cases hb
  | strings text other =>
    cases hbc with
    | numbers hb hc => cases hb
    | strings _ last =>
      exact ⟨_, .strings text last,
        Ordering.ne_gt_iff_isLE.2 (Std.TransOrd.isLE_trans hisLE hisLE')⟩

/-- Scalars that have an order are equal if neither is in front of the other. -/
theorem agrees_eq (h : InOrder a b ordering) : a.agrees b = decide (ordering = .eq) := by
  cases h with
  | numbers ha hb =>
    rw [Scalar.agrees_eq_of_rank? ha, hb, decide_eq_decide, Option.some.injEq,
      Rank.compare_eq_eq_iff, eq_comm]
  | strings text other =>
    rw [Scalar.agrees, decide_eq_decide]
    exact Std.LawfulEqOrd.compare_eq_iff_eq.symm

/-- Scalars without NaN have an order if their kinds have one. -/
theorem exists_iff (ha : a ≠ .float .nan) (hb : b ≠ .float .nan) :
    (∃ ordering, InOrder a b ordering) ↔ Kind.Ordered a.kind b.kind := by
  have hnone : a.compare? b = none ↔ ¬ Kind.Ordered a.kind b.kind := Scalar.compare?_eq_none_iff
  simp only [inOrder_iff]
  rcases hcompare : a.compare? b with _ | _ | ordering
  · exact iff_of_false (by simp) (hnone.1 hcompare)
  · exact absurd hcompare (Scalar.compare?_ne_some_none ha hb)
  · rw [hcompare] at hnone
    exact iff_of_true ⟨ordering, rfl⟩ (Classical.not_not.1 (mt hnone.2 (by simp)))

end InOrder

/-! ### Operators -/

namespace Operator

/-- What an operator makes of an order. A pattern asks for none. -/
def allows (op : Operator) (ordering : Ordering) : Bool :=
  match op with
  | eq => ordering = .eq
  | ne => ordering ≠ .eq
  | like => false
  | op => op.holds (some ordering)

/-- Each operator reads the order of scalars that have one. -/
theorem evaluate_of_inOrder {op : Operator} (hop : op ≠ .like) (h : InOrder a b ordering) :
    op.evaluate a b = .ok (op.allows ordering) := by
  have hcompare := inOrder_iff.1 h
  cases op with
  | eq => rw [evaluate, h.agrees_eq, allows]
  | ne => rw [evaluate, h.agrees_eq, allows, ← decide_not]
  | like => exact absurd rfl hop
  | ge | gt | le | lt => simp only [evaluate, hcompare, allows]

/-- An operator says yes about two scalars. -/
def Accepts (op : Operator) (a b : Scalar) : Prop := op.evaluate a b = .ok true

/-- An operator does not apply to two scalars. -/
def Fails (op : Operator) (a b : Scalar) : Prop := ∃ failure, op.evaluate a b = .error failure

/-- On scalars in some order, an operator accepts what it allows of that order. -/
theorem accepts_of_inOrder {op : Operator} (hop : op ≠ .like) (h : InOrder a b ordering) :
    op.Accepts a b ↔ op.allows ordering = true := by
  rw [Accepts, evaluate_of_inOrder hop h, Except.ok.injEq]

/-- Equality is agreement. -/
theorem eq_accepts_iff : eq.Accepts a b ↔ a.agrees b = true := by
  rw [Accepts, evaluate, Except.ok.injEq]

/-- An ordering operator is not the match of patterns. -/
theorem ne_like_of_isOrdering {op : Operator} (hop : op.isOrdering = true) : op ≠ .like := by
  rintro rfl
  cases hop

/-- The ordering operators ask for the same order, and fail if there is none. -/
theorem evaluate_of_isOrdering {op : Operator} (hop : op.isOrdering = true) :
    op.evaluate a b =
      match a.compare? b with
      | some ordering => .ok (op.holds ordering)
      | none => .error (.incomparable op a.kind b.kind) := by
  cases op with
  | eq | ne | like => cases hop
  | ge | gt | le | lt => rfl

/-- The ordering operators accept scalars for the order that these have. -/
theorem accepts_iff_exists {op : Operator} (hop : op.isOrdering = true) :
    op.Accepts a b ↔ ∃ ordering, InOrder a b ordering ∧ op.allows ordering = true := by
  constructor
  · intro h
    rcases hcompare : a.compare? b with _ | _ | ordering
    · rw [Accepts, evaluate_of_isOrdering hop, hcompare] at h
      cases h
    · -- NaN has no place in the order, and no operator says yes to that.
      rw [Accepts, evaluate_of_isOrdering hop, hcompare] at h
      cases h
    · have horder := inOrder_iff.2 hcompare
      exact ⟨ordering, horder, (accepts_of_inOrder (ne_like_of_isOrdering hop) horder).1 h⟩
  · rintro ⟨ordering, horder, hallows⟩
    exact (accepts_of_inOrder (ne_like_of_isOrdering hop) horder).2 hallows

/-- The first is at most the second if they have an order and the second is not in front. -/
theorem le_accepts_iff :
    le.Accepts a b ↔ ∃ ordering, InOrder a b ordering ∧ ordering ≠ .gt := by
  rw [accepts_iff_exists rfl]
  simp only [allows, holds, decide_eq_true_eq]

/-- Swapped sides turn one ordering operator into the other. -/
theorem allows_le_swap (ordering : Ordering) : le.allows ordering.swap = ge.allows ordering := by
  cases ordering <;> rfl

/-- The ordering operators fail on the same scalars. -/
theorem fails_iff {op : Operator} (hop : op.isOrdering = true) :
    op.Fails a b ↔ ¬ Kind.Ordered a.kind b.kind := by
  have hlike := ne_like_of_isOrdering hop
  constructor
  · rintro ⟨failure, h⟩
    exact ((evaluate_eq_error_iff hlike).1 h).2.1
  · intro h
    exact ⟨_, (evaluate_eq_error_iff hlike).2 ⟨hop, h, rfl⟩⟩

/-- The operator that asks for one order and no other. -/
def ofOrdering : Ordering → Operator
  | .lt => lt
  | .eq => eq
  | .gt => gt

/-- Each order has an operator. -/
theorem ofOrdering_mem (ordering : Ordering) : ofOrdering ordering ∈ [lt, eq, gt] := by
  cases ordering <;> decide

/-- Of three operators, an order is allowed by its own. -/
theorem allows_iff_eq_ofOrdering {op : Operator} (hop : op ∈ [lt, eq, gt]) :
    op.allows ordering = true ↔ op = ofOrdering ordering := by
  simp only [List.mem_cons, List.not_mem_nil, or_false] at hop
  rcases hop with rfl | rfl | rfl <;> cases ordering <;> decide

/-- The operator does not apply to either of two pairs, whichever kinds it names. -/
inductive BothIncomparable (op : Operator) : Failure → Failure → Prop
  | intro (left right other last : Kind) :
      BothIncomparable op (.incomparable op left right) (.incomparable op other last)

/-- Pairs that compare alike get the same answers. -/
theorem alike_evaluate_of_eq {op : Operator} (hop : op ≠ .like) {d : Scalar}
    (hagrees : a.agrees c = b.agrees d) (hcompare : a.compare? c = b.compare? d) :
    Alike op.BothIncomparable (op.evaluate a c) (op.evaluate b d) := by
  cases op with
  | eq | ne =>
    rw [evaluate, evaluate, hagrees]
    exact .ok _
  | like => exact absurd rfl hop
  | ge | gt | le | lt =>
    rw [evaluate_of_isOrdering rfl, evaluate_of_isOrdering rfl, hcompare]
    cases b.compare? d with
    | none => exact .error (.intro _ _ _ _)
    | some ordering => exact .ok _

end Operator

/-! ### Coherence -/

/-- The comparison operators fit together on three scalars. -/
structure Coherent (a b c : Scalar) : Prop where
  eq_refl : Operator.eq.Accepts a a
  eq_symm : Operator.eq.Accepts a b → Operator.eq.Accepts b a
  eq_trans : Operator.eq.Accepts a b → Operator.eq.Accepts b c → Operator.eq.Accepts a c
  ne_not : ∃ answer, Operator.eq.evaluate a b = .ok answer ∧
    Operator.ne.evaluate a b = .ok (!answer)
  /-- The ordering operators fail together, and with the scalars turned around. -/
  fails_iff : ∀ op : Operator, op.isOrdering = true →
    (op.Fails a b ↔ ¬ Kind.Ordered a.kind b.kind) ∧ (op.Fails b a ↔ ¬ Kind.Ordered a.kind b.kind)
  /-- Of scalars that have an order one is in front of the other, or they are equal. -/
  trichotomy : Kind.Ordered a.kind b.kind →
    ∃! op, op ∈ [Operator.lt, .eq, .gt] ∧ op.Accepts a b
  le_iff : Kind.Ordered a.kind b.kind →
    (Operator.le.Accepts a b ↔ Operator.lt.Accepts a b ∨ Operator.eq.Accepts a b)
  ge_iff : Operator.ge.Accepts a b ↔ Operator.le.Accepts b a
  le_trans : Operator.le.Accepts a b → Operator.le.Accepts b c → Operator.le.Accepts a c
  /-- Equal scalars may stand for each other on either side. -/
  interchangeable : Operator.eq.Accepts a b → ∀ op : Operator, op ≠ .like →
    Alike op.BothIncomparable (op.evaluate a c) (op.evaluate b c) ∧
      Alike op.BothIncomparable (op.evaluate c a) (op.evaluate c b)

/-- NaN is equal to no scalar, itself included, and no number is in an order with it. -/
structure NanApart (a : Scalar) : Prop where
  eq : Operator.eq.evaluate (.float .nan) a = .ok false ∧
    Operator.eq.evaluate a (.float .nan) = .ok false
  ne : Operator.ne.evaluate (.float .nan) a = .ok true ∧
    Operator.ne.evaluate a (.float .nan) = .ok true
  ordering : a.kind.isNumeric = true → ∀ op : Operator, op.isOrdering = true →
    op.evaluate (.float .nan) a = .ok false ∧ op.evaluate a (.float .nan) = .ok false

/-- NaN is in order with nothing, whatever it is compared with. -/
theorem nanApart (a : Scalar) : NanApart a := by
  have hnone : (Scalar.float .nan).numericCompare? a = none := by
    rw [Scalar.numericCompare?_eq]
    rfl
  have hagrees : (Scalar.float .nan).agrees a = false := by
    have hnumeric : (Scalar.float .nan).agrees a =
        decide ((Scalar.float .nan).numericCompare? a = some .eq) := by
      cases a <;> rfl
    rw [hnumeric, hnone]
    rfl
  have hcompare (hnumeric : a.kind.isNumeric = true) :
      (Scalar.float .nan).compare? a = some none := by
    cases a with
    | int | float => rw [Scalar.compare?, hnone]
    | string | bool => cases hnumeric
  constructor
  case eq | ne =>
    rw [Operator.evaluate, Operator.evaluate, a.agrees_comm, hagrees]
    exact ⟨rfl, rfl⟩
  case ordering =>
    intro hnumeric op hop
    have hleft := hcompare hnumeric
    have hright : a.compare? (.float .nan) = some none := by
      rw [← Scalar.compare?_swap, hleft]
      rfl
    rw [Operator.evaluate_of_isOrdering hop, Operator.evaluate_of_isOrdering hop, hleft, hright]
    exact ⟨rfl, rfl⟩

/-- The comparison operators fit together on all scalars without NaN, and they keep NaN apart from
every scalar. The third scalar may be anything. -/
theorem coherent (ha : a ≠ .float .nan) (hb : b ≠ .float .nan) (c : Scalar) :
    Coherent a b c ∧ ∀ d, NanApart d := by
  have hexists := InOrder.exists_iff ha hb
  refine ⟨?_, nanApart⟩
  constructor
  case eq_refl => exact Operator.eq_accepts_iff.2 (Scalar.agrees_self ha)
  case eq_symm =>
    rw [Operator.eq_accepts_iff, Operator.eq_accepts_iff]
    exact Scalar.agrees_symm
  case eq_trans =>
    rw [Operator.eq_accepts_iff, Operator.eq_accepts_iff, Operator.eq_accepts_iff]
    intro hab hbc
    rwa [Scalar.agrees_congr hab]
  case ne_not => exact ⟨_, rfl, rfl⟩
  case fails_iff =>
    intro op hop
    rw [Operator.fails_iff hop, Operator.fails_iff hop, Kind.ordered_comm b.kind]
    exact ⟨Iff.rfl, Iff.rfl⟩
  case trichotomy =>
    intro hordered
    obtain ⟨ordering, horder⟩ := hexists.2 hordered
    -- Of the three operators only that of the order they are in accepts the scalars.
    have haccepts {op : Operator} (hmem : op ∈ [Operator.lt, .eq, .gt]) :
        op.Accepts a b ↔ op = .ofOrdering ordering := by
      have hlike : op ≠ .like := by
        rintro rfl
        exact absurd hmem (by decide)
      rw [Operator.accepts_of_inOrder hlike horder, Operator.allows_iff_eq_ofOrdering hmem]
    have hmem := Operator.ofOrdering_mem ordering
    refine ⟨.ofOrdering ordering, ⟨hmem, (haccepts hmem).2 rfl⟩, ?_⟩
    rintro op ⟨hop, h⟩
    exact (haccepts hop).1 h
  case le_iff =>
    intro hordered
    obtain ⟨ordering, horder⟩ := hexists.2 hordered
    rw [Operator.accepts_of_inOrder (by decide) horder,
      Operator.accepts_of_inOrder (by decide) horder,
      Operator.accepts_of_inOrder (by decide) horder]
    cases ordering <;> decide
  case ge_iff =>
    rw [Operator.accepts_iff_exists rfl, Operator.accepts_iff_exists rfl]
    constructor
    · rintro ⟨ordering, horder, hge⟩
      refine ⟨_, horder.swap, ?_⟩
      rwa [Operator.allows_le_swap]
    · rintro ⟨ordering, horder, hle⟩
      refine ⟨_, horder.swap, ?_⟩
      rwa [← Operator.allows_le_swap, Ordering.swap_swap]
  case le_trans =>
    rw [Operator.le_accepts_iff, Operator.le_accepts_iff, Operator.le_accepts_iff]
    rintro ⟨ordering, hab, hle⟩ ⟨next, hbc, hle'⟩
    exact hab.trans hbc hle hle'
  case interchangeable =>
    intro haccepts op hop
    have hagrees := Operator.eq_accepts_iff.1 haccepts
    refine ⟨Operator.alike_evaluate_of_eq hop (Scalar.agrees_congr hagrees c)
      (Scalar.compare?_congr hagrees c), Operator.alike_evaluate_of_eq hop ?_ ?_⟩
    · rw [c.agrees_comm, c.agrees_comm, Scalar.agrees_congr hagrees]
    · rw [← a.compare?_swap, ← b.compare?_swap, Scalar.compare?_congr hagrees]

/-- An integer, the float that is equal to it, and the next integer, which is no float. -/
theorem coherent_large :
    let whole : Scalar := .int 9007199254740992
    let float : Scalar := .float (Binary64.ofNat 9007199254740992)
    let next : Scalar := .int 9007199254740993
    whole ≠ .float .nan ∧ float ≠ .float .nan ∧ Operator.eq.Accepts whole float ∧
      Operator.lt.Accepts float next ∧ Coherent whole float next ∧ ∀ d, NanApart d := by
  intro whole float next
  have hwhole : whole ≠ .float .nan := by simp [whole]
  have hfloat : float ≠ .float .nan := Scalar.float_ne_nan.2 (Binary64.round_ne_nan _ _ _)
  have heq : whole.agrees float = true := by decide +kernel
  have hlt : float.compare? next = some (some .lt) := by decide +kernel
  exact ⟨hwhole, hfloat, Operator.eq_accepts_iff.2 heq,
    (Operator.accepts_of_inOrder (by decide) (inOrder_iff.2 hlt)).2 rfl,
    coherent hwhole hfloat next⟩

end RecordSieve
