import Mathlib.Data.List.Forall2
import RecordSieve.Sieve.Run

/-!
# Decisions

A sieve makes its tests of conditions, runs them in order, and then makes one result of their
answers. Here the steps are taken apart: each list fails with the failure of its first member that
has one, and otherwise the answers decide.

## Main definitions

* `Alike`: results that are the same value, or failures with something in common;
* `Aggregation.resultOf`: what is made of some answers;
* `Aggregation.Met`: the answers are what a mode asks for;
* `Sieve.answers`: the answers of the tests on a record;
* `AnswersDecide`: how the answers of the tests decide on a record.

## Main statements

* `mapM_eq_error_iff`, `mapM_eq_ok_iff`: how a list of steps fails, and what it leads to;
* `alike_mapM`: steps that are alike one by one are alike in a row;
* `Sieve.ofConditions_eq_ok_iff_conditions`: the tests of a sieve are those of its conditions;
* `Sieve.keeps_eq`: the decision on a record is made of the answers;
* `answersDecide`: every sieve decides by all the answers, or fails for want of the first one.
-/

namespace RecordSieve

section MapError

variable {α ε ε' : Type} {f : ε → ε'}

@[simp]
theorem mapError_ok (a : α) : (Except.ok a : Except ε α).mapError f = .ok a := rfl

@[simp]
theorem mapError_error (e : ε) : (Except.error e : Except ε α).mapError f = .error (f e) := rfl

/-- Failures are put in another form without a change of the values. -/
@[simp]
theorem mapError_eq_ok_iff {x : Except ε α} {a : α} : x.mapError f = .ok a ↔ x = .ok a := by
  cases x <;> simp

end MapError

section Map

variable {α β ε : Type} {x : Except ε α} {f : α → β}

/-- Values are put in another form without a change of the failures. -/
@[simp]
theorem map_eq_error_iff {e : ε} : x.map f = .error e ↔ x = .error e := by
  cases x <;> simp [Except.map]

/-- A value in another form comes from a value. -/
@[simp]
theorem map_eq_ok_iff {b : β} : x.map f = .ok b ↔ ∃ a, x = .ok a ∧ f a = b := by
  cases x <;> simp [Except.map]

end Map

/-- Without its failures, a result has the same values. -/
theorem toOption_eq_some_iff {α ε : Type} {x : Except ε α} {a : α} :
    x.toOption = some a ↔ x = .ok a := by
  cases x <;> simp [Except.toOption]

section Steps

variable {α β ε : Type} {f : α → Except ε β} {a : α} {l : List α}

/-- A traversal ends with a failure of the first member. -/
theorem mapM_cons_of_error {e : ε} (h : f a = .error e) : (a :: l).mapM f = .error e := by
  rw [List.mapM_cons, h]
  rfl

/-- Behind the first member a traversal goes on. -/
theorem mapM_cons_of_ok {b : β} (h : f a = .ok b) :
    (a :: l).mapM f = (l.mapM f).map (b :: ·) := by
  rw [List.mapM_cons, h]
  cases l.mapM f <;> rfl

/-- Steps in a row fail with the failure of the first one that has one. -/
theorem mapM_eq_error_iff {e : ε} :
    l.mapM f = .error e ↔
      ∃ front a back, l = front ++ a :: back ∧ (∀ b ∈ front, ∃ r, f b = .ok r) ∧
        f a = .error e := by
  -- The step that fails is the first one, or the first one that fails among the others.
  induction l with
  | nil => simp [pure, Except.pure]
  | cons a l ih =>
    rcases hstep : f a with e' | b
    · rw [mapM_cons_of_error hstep]
      constructor
      · rintro ⟨⟩
        exact ⟨[], a, l, rfl, by simp, hstep⟩
      · rintro ⟨_ | ⟨c, front⟩, d, back, hcons, hfront, herror⟩
        · cases hcons
          rw [hstep] at herror
          cases herror
          rfl
        · -- The first step fails, so none stands in front of the one that does.
          cases hcons
          obtain ⟨r, hr⟩ := hfront a List.mem_cons_self
          rw [hstep] at hr
          cases hr
    · rw [mapM_cons_of_ok hstep, map_eq_error_iff, ih]
      constructor
      · rintro ⟨front, d, back, rfl, hfront, herror⟩
        exact ⟨a :: front, d, back, rfl, List.forall_mem_cons.2 ⟨⟨b, hstep⟩, hfront⟩, herror⟩
      · rintro ⟨_ | ⟨c, front⟩, d, back, hcons, hfront, herror⟩
        · cases hcons
          rw [hstep] at herror
          cases herror
        · cases hcons
          exact ⟨front, d, back, rfl, (List.forall_mem_cons.1 hfront).2, herror⟩

/-- The failure of steps in a row is that of one of them. -/
theorem exists_of_mapM_eq_error {e : ε} (h : l.mapM f = .error e) : ∃ a ∈ l, f a = .error e := by
  obtain ⟨front, a, back, rfl, -, herror⟩ := mapM_eq_error_iff.1 h
  exact ⟨a, List.mem_append_right _ List.mem_cons_self, herror⟩

/-- Steps in a row that lead to results begin with a step that leads to the first of them. -/
theorem exists_of_mapM_cons {results : List β} (h : (a :: l).mapM f = .ok results) :
    ∃ b rest, f a = .ok b ∧ l.mapM f = .ok rest ∧ results = b :: rest := by
  rcases hstep : f a with e | b
  · rw [mapM_cons_of_error hstep] at h
    cases h
  · rw [mapM_cons_of_ok hstep, map_eq_ok_iff] at h
    obtain ⟨rest, hrest, rfl⟩ := h
    exact ⟨b, rest, rfl, hrest, rfl⟩

/-- Steps behind others that lead to results lead to them apart from each other too. -/
theorem exists_of_mapM_append {others : List α} {results : List β}
    (h : (l ++ others).mapM f = .ok results) :
    ∃ front back, l.mapM f = .ok front ∧ others.mapM f = .ok back ∧ results = front ++ back := by
  induction l generalizing results with
  | nil => exact ⟨[], results, rfl, h, rfl⟩
  | cons a l ih =>
    obtain ⟨b, rest, hstep, hrest, rfl⟩ := exists_of_mapM_cons h
    obtain ⟨front, back, hfront, hback, rfl⟩ := ih hrest
    refine ⟨b :: front, back, ?_, hback, rfl⟩
    rw [mapM_cons_of_ok hstep, hfront]
    rfl

/-- Steps in a row lead to the results of the single steps, in their order. -/
theorem mapM_eq_ok_iff {results : List β} :
    l.mapM f = .ok results ↔ List.Forall₂ (fun a b => f a = .ok b) l results := by
  constructor
  · intro h
    induction l generalizing results with
    | nil =>
      cases h
      exact .nil
    | cons a l ih =>
      obtain ⟨b, rest, hstep, hrest, rfl⟩ := exists_of_mapM_cons h
      exact .cons hstep (ih hrest)
  · intro h
    induction h with
    | nil => rfl
    | cons hstep _ ih =>
      rw [mapM_cons_of_ok hstep, ih]
      rfl

/-- Each result of steps in a row is the result of one of them. -/
theorem exists_of_mem_mapM {results : List β} (h : l.mapM f = .ok results) :
    ∀ b ∈ results, ∃ a ∈ l, f a = .ok b := by
  induction l generalizing results with
  | nil =>
    cases h
    simp
  | cons a l ih =>
    obtain ⟨b, rest, hstep, hrest, rfl⟩ := exists_of_mapM_cons h
    refine List.forall_mem_cons.2 ⟨⟨a, List.mem_cons_self, hstep⟩, ?_⟩
    intro c hc
    obtain ⟨d, hd, hresult⟩ := ih hrest c hc
    exact ⟨d, List.mem_cons_of_mem _ hd, hresult⟩

/-- Steps in a row lead to results exactly if each of them does. -/
theorem exists_mapM_eq_ok_iff :
    (∃ results, l.mapM f = .ok results) ↔ ∀ a ∈ l, ∃ b, f a = .ok b := by
  rcases hrow : l.mapM f with e | results
  · obtain ⟨a, hmem, herror⟩ := exists_of_mapM_eq_error hrow
    constructor
    · rintro ⟨_, ⟨⟩⟩
    · intro h
      obtain ⟨b, hb⟩ := h a hmem
      rw [herror] at hb
      cases hb
  · refine ⟨fun _ a hmem => ?_, fun _ => ⟨results, rfl⟩⟩
    obtain ⟨front, back, rfl⟩ := List.append_of_mem hmem
    obtain ⟨_, _, -, hback, -⟩ := exists_of_mapM_append hrow
    obtain ⟨b, _, hb, -⟩ := exists_of_mapM_cons hback
    exact ⟨b, hb⟩

/-- Steps in a row fail exactly if one of them does. -/
theorem exists_mapM_eq_error_iff :
    (∃ e, l.mapM f = .error e) ↔ ∃ a ∈ l, ∃ e, f a = .error e := by
  constructor
  · rintro ⟨e, hrow⟩
    obtain ⟨a, hmem, herror⟩ := exists_of_mapM_eq_error hrow
    exact ⟨a, hmem, e, herror⟩
  · rintro ⟨a, hmem, e, herror⟩
    rcases hrow : l.mapM f with e' | results
    · exact ⟨e', rfl⟩
    · obtain ⟨b, hb⟩ := exists_mapM_eq_ok_iff.1 ⟨results, hrow⟩ a hmem
      rw [herror] at hb
      cases hb

/-- The results of steps in a row are those of the single steps. -/
theorem mem_iff_of_mapM {results : List β} (h : l.mapM f = .ok results) {b : β} :
    b ∈ results ↔ ∃ a ∈ l, f a = .ok b := by
  constructor
  · exact exists_of_mem_mapM h b
  · rintro ⟨a, hmem, hb⟩
    obtain ⟨front, back, rfl⟩ := List.append_of_mem hmem
    obtain ⟨_, _, -, hback, rfl⟩ := exists_of_mapM_append h
    obtain ⟨c, _, hc, -, rfl⟩ := exists_of_mapM_cons hback
    rw [hb] at hc
    cases hc
    exact List.mem_append_right _ List.mem_cons_self

/-- If each result tells what it is the result of, the results tell the whole list. -/
theorem map_eq_of_mapM {results : List β} {origin : β → α}
    (horigin : ∀ {a b}, f a = .ok b → origin b = a) (h : l.mapM f = .ok results) :
    results.map origin = l := by
  induction l generalizing results with
  | nil =>
    cases h
    rfl
  | cons a l ih =>
    obtain ⟨b, rest, hstep, hrest, rfl⟩ := exists_of_mapM_cons h
    rw [List.map_cons, horigin hstep, ih hrest]

/-- Steps in a row that lead to changed results and failures. -/
theorem mapM_eq_mapError_map {g : α → Except ε β} {result : β → β} {failure : ε → ε}
    (h : ∀ a ∈ l, g a = ((f a).map result).mapError failure) :
    l.mapM g = ((l.mapM f).map (·.map result)).mapError failure := by
  induction l with
  | nil => rfl
  | cons a l ih =>
    obtain ⟨hstep, hrest⟩ := List.forall_mem_cons.1 h
    rcases ha : f a with e | b
    · rw [ha] at hstep
      rw [mapM_cons_of_error ha, mapM_cons_of_error hstep]
      rfl
    · rw [ha] at hstep
      rw [mapM_cons_of_ok ha, mapM_cons_of_ok hstep, ih hrest]
      cases l.mapM f <;> rfl

/-- Steps in a row with a running result are the steps, and then the results put together. -/
theorem foldlM_eq_map_mapM {γ : Type} (combine : γ → β → γ) (result : γ) :
    l.foldlM (fun result a => do
        let answer ← f a
        pure (combine result answer)) result =
      (l.mapM f).map (·.foldl combine result) := by
  -- The result is generalized, since every step hands on another one.
  induction l generalizing result with
  | nil => rfl
  | cons a l ih =>
    rw [List.foldlM_cons]
    rcases hstep : f a with e | b
    · rw [mapM_cons_of_error hstep]
      rfl
    · rw [mapM_cons_of_ok hstep]
      show l.foldlM _ (combine result b) = _
      rw [ih]
      cases l.mapM f <;> rfl

end Steps

/-! ### Results that are alike -/

/-- Two results are alike: they are the same value, or two failures that are related. -/
inductive Alike {α ε : Type} (R : ε → ε → Prop) : Except ε α → Except ε α → Prop
  | ok (value : α) : Alike R (.ok value) (.ok value)
  | error {e e' : ε} : R e e' → Alike R (.error e) (.error e')

section Alike

variable {α β ε : Type} {l : List α}

/-- A result that is alike to a value is that value. -/
theorem Alike.eq_ok {R : ε → ε → Prop} {value : α} {x : Except ε α}
    (h : Alike R (.ok value) x) : x = .ok value := by
  cases h
  rfl

/-- A result that is alike to a failure is a failure related to it. -/
theorem Alike.exists_eq_error {R : ε → ε → Prop} {e : ε} {x : Except ε α}
    (h : Alike R (.error e) x) : ∃ e', x = .error e' ∧ R e e' := by
  cases h with
  | error he => exact ⟨_, rfl, he⟩

/-- Results that are alike stay so when their values are put in another form. -/
theorem Alike.map {R : ε → ε → Prop} {x y : Except ε α} (h : Alike R x y) (f : α → β) :
    Alike R (x.map f) (y.map f) := by
  cases h with
  | ok value => exact .ok (f value)
  | error he => exact .error he

/-- Results stay alike in a relation that holds more often. -/
theorem Alike.mono {R S : ε → ε → Prop} {x y : Except ε α} (h : Alike R x y)
    (hRS : ∀ e e', R e e' → S e e') : Alike S x y := by
  cases h with
  | ok value => exact .ok value
  | error he => exact .error (hRS _ _ he)

/-- Steps that are alike one by one are alike in a row: both rows have the same results, or the
same member is the first one to fail in both of them. -/
theorem alike_mapM {f g : α → Except ε β} {R : α → ε → ε → Prop}
    (h : ∀ a ∈ l, Alike (R a) (f a) (g a)) :
    Alike (fun e e' => ∃ front a back, l = front ++ a :: back ∧
        (∀ b ∈ front, ∃ r, f b = .ok r ∧ g b = .ok r) ∧
        f a = .error e ∧ g a = .error e' ∧ R a e e')
      (l.mapM f) (l.mapM g) := by
  induction l with
  | nil => exact .ok []
  | cons a l ih =>
    obtain ⟨hfirst, hrest⟩ := List.forall_mem_cons.1 h
    generalize hf : f a = x at hfirst
    generalize hg : g a = y at hfirst
    cases hfirst with
    | error he =>
      rw [mapM_cons_of_error hf, mapM_cons_of_error hg]
      exact .error ⟨[], a, l, rfl, by simp, hf, hg, he⟩
    | ok b =>
      rw [mapM_cons_of_ok hf, mapM_cons_of_ok hg]
      -- What fails behind the first member fails in the longer row too.
      generalize l.mapM f = x at ih
      generalize l.mapM g = y at ih
      cases ih hrest with
      | ok results => exact .ok (b :: results)
      | error he =>
        obtain ⟨front, c, back, rfl, hfront, hc⟩ := he
        exact .error ⟨a :: front, c, back, rfl,
          List.forall_mem_cons.2 ⟨⟨b, hf, hg⟩, hfront⟩, hc⟩

end Alike

/-! ### Tests of conditions -/

namespace Test

variable {condition : Condition} {test : Test}

/-- The test of a condition without a pattern. -/
theorem ofCondition_of_ne_like (h : condition.operator ≠ .like) :
    ofCondition condition = .ok ⟨condition, Scalar.ofText condition.literal, none⟩ := by
  unfold ofCondition
  split
  next hlike => exact absurd hlike h
  next => rfl

/-- The test of a condition with a pattern, if there is one. -/
theorem ofCondition_like (h : condition.operator = .like) :
    ofCondition condition = (Scalar.ofText condition.literal).pattern?.map
      fun regex => ⟨condition, Scalar.ofText condition.literal, some regex⟩ := by
  simp only [ofCondition, h]
  cases (Scalar.ofText condition.literal).pattern? <;> rfl

/-- A test is one of the condition that it is made of. -/
theorem condition_of_ofCondition (h : ofCondition condition = .ok test) :
    test.condition = condition := by
  by_cases hlike : condition.operator = .like
  · rw [ofCondition_like hlike, map_eq_ok_iff] at h
    obtain ⟨regex, -, rfl⟩ := h
    rfl
  · rw [ofCondition_of_ne_like hlike] at h
    cases h
    rfl

end Test

namespace Sieve

variable {sieve : Sieve} {conditions : List Condition} {aggregation : Aggregation}
  {reverse : Bool}

/-- Only the tests of a sieve may be missing. -/
theorem ofConditions_eq (conditions : List Condition) (aggregation : Aggregation)
    (reverse : Bool) :
    ofConditions conditions aggregation reverse =
      (conditions.mapM Test.ofCondition).map (⟨·, aggregation, reverse⟩) := by
  rw [ofConditions]
  cases conditions.mapM Test.ofCondition <;> rfl

/-- Building a sieve fails where making its tests does. -/
theorem ofConditions_eq_error_iff_mapM {failure : Failure} :
    ofConditions conditions aggregation reverse = .error failure ↔
      conditions.mapM Test.ofCondition = .error failure := by
  rw [ofConditions_eq, map_eq_error_iff]

/-- A sieve is made if each condition makes a test, and it has these tests in their order. -/
theorem ofConditions_eq_ok_iff :
    ofConditions conditions aggregation reverse = .ok sieve ↔
      ∃ tests, conditions.mapM Test.ofCondition = .ok tests ∧
        sieve = ⟨tests, aggregation, reverse⟩ := by
  rw [ofConditions_eq, map_eq_ok_iff]
  exact exists_congr fun tests => and_congr_right fun _ => eq_comm

/-- The tests of a sieve are those of the conditions that it is built from, in their order. -/
theorem conditions_of_ofConditions (h : ofConditions conditions aggregation reverse = .ok sieve) :
    sieve.conditions = conditions ∧ ∀ test ∈ sieve.tests,
      Test.ofCondition test.condition = .ok test := by
  obtain ⟨tests, htests, rfl⟩ := ofConditions_eq_ok_iff.1 h
  -- A test holds the condition that it was made of.
  refine ⟨map_eq_of_mapM Test.condition_of_ofCondition htests, ?_⟩
  intro test hmem
  obtain ⟨condition, -, htest⟩ := exists_of_mem_mapM htests test hmem
  rw [Test.condition_of_ofCondition htest, htest]

/-- A sieve is built from its own conditions, if its tests are made of them, and from no others. -/
theorem ofConditions_eq_ok_iff_conditions :
    ofConditions conditions aggregation reverse = .ok sieve ↔
      sieve.conditions = conditions ∧
        (∀ test ∈ sieve.tests, Test.ofCondition test.condition = .ok test) ∧
        sieve.aggregation = aggregation ∧ sieve.reverse = reverse := by
  constructor
  · intro h
    obtain ⟨hconditions, htests⟩ := conditions_of_ofConditions h
    obtain ⟨tests, -, rfl⟩ := ofConditions_eq_ok_iff.1 h
    exact ⟨hconditions, htests, rfl, rfl⟩
  · rintro ⟨rfl, htests, rfl, rfl⟩
    refine ofConditions_eq_ok_iff.2 ⟨sieve.tests, ?_, rfl⟩
    rw [mapM_eq_ok_iff, conditions, List.forall₂_map_left_iff, List.forall₂_same]
    exact htests

end Sieve

/-! ### Answers -/

namespace Aggregation

/-- What is made of some answers. -/
def resultOf (aggregation : Aggregation) (answers : List Bool) : Bool :=
  answers.foldl aggregation.combine aggregation.identity

/-- Answers are combined to their conjunction. -/
theorem foldl_combine_all (result : Bool) (answers : List Bool) :
    answers.foldl all.combine result = (result && answers.all id) := by
  induction answers generalizing result with
  | nil => simp
  | cons answer answers ih =>
    rw [List.foldl_cons, ih, List.all_cons, combine, Bool.and_assoc]
    rfl

/-- Answers are combined to their disjunction. -/
theorem foldl_combine_any (result : Bool) (answers : List Bool) :
    answers.foldl any.combine result = (result || answers.any id) := by
  induction answers generalizing result with
  | nil => simp
  | cons answer answers ih =>
    rw [List.foldl_cons, ih, List.any_cons, combine, Bool.or_assoc]
    rfl

/-- All answers have to be yes, which holds of no answers. -/
@[simp]
theorem resultOf_all (answers : List Bool) : all.resultOf answers = answers.all id := by
  rw [resultOf, foldl_combine_all, identity, Bool.true_and]

/-- One answer has to be yes, which does not hold of no answers. -/
@[simp]
theorem resultOf_any (answers : List Bool) : any.resultOf answers = answers.any id := by
  rw [resultOf, foldl_combine_any, identity, Bool.false_or]

/-- The order of the answers and how often each is given make no difference. -/
theorem resultOf_congr (aggregation : Aggregation) {answers others : List Bool}
    (h : ∀ answer, answer ∈ answers ↔ answer ∈ others) :
    aggregation.resultOf answers = aggregation.resultOf others := by
  rw [Bool.eq_iff_iff]
  cases aggregation with
  | all => simp only [resultOf_all, List.all_eq_true, h]
  | any => simp only [resultOf_any, List.any_eq_true, h]

/-- The answers are what a mode asks for: all of them are yes, or one of them is. -/
def Met : Aggregation → List Bool → Prop
  | all, answers => ∀ answer ∈ answers, answer = true
  | any, answers => ∃ answer ∈ answers, answer = true

/-- The combined answer is true exactly if the aggregation is met. -/
theorem resultOf_eq_true_iff {aggregation : Aggregation} {answers : List Bool} :
    aggregation.resultOf answers = true ↔ aggregation.Met answers := by
  cases aggregation with
  | all => simp [Met]
  | any => simp [Met]

end Aggregation

namespace Sieve

/-- The answers of the tests on a record, which stands on the given line. -/
def answers (sieve : Sieve) (fields : Fields) (line : Nat) : Except Failure (List Bool) :=
  sieve.tests.mapM (·.run fields line)

/-- The decision on a record is made of the answers of the tests. -/
theorem keeps_eq (sieve : Sieve) (fields : Fields) (line : Nat) :
    sieve.keeps fields line = (sieve.answers fields line).map
      fun answers => sieve.aggregation.resultOf answers != sieve.reverse := by
  rw [keeps, foldlM_eq_map_mapM, ← answers]
  cases sieve.answers fields line <;> rfl

/-- A decision fails where the answers do. -/
theorem keeps_eq_error_iff_mapM {sieve : Sieve} {fields : Fields} {line : Nat}
    {failure : Failure} :
    sieve.keeps fields line = .error failure ↔
      sieve.tests.mapM (·.run fields line) = .error failure := by
  rw [keeps_eq, map_eq_error_iff, answers]

/-- A decision fails with the failure of the first test that has one. -/
theorem keeps_eq_error_iff {sieve : Sieve} {fields : Fields} {line : Nat} {failure : Failure} :
    sieve.keeps fields line = .error failure ↔
      ∃ front test back, sieve.tests = front ++ test :: back ∧
        (∀ other ∈ front, ∃ answer, other.run fields line = .ok answer) ∧
        test.run fields line = .error failure := by
  rw [keeps_eq_error_iff_mapM, mapM_eq_error_iff]

/-- A decision is made of answers to all of the tests. -/
theorem keeps_eq_ok_iff {sieve : Sieve} {fields : Fields} {line : Nat} {kept : Bool} :
    sieve.keeps fields line = .ok kept ↔
      ∃ answers, List.Forall₂ (fun test answer => test.run fields line = .ok answer)
        sieve.tests answers ∧ (sieve.aggregation.resultOf answers != sieve.reverse) = kept := by
  simp only [keeps_eq, map_eq_ok_iff, answers, mapM_eq_ok_iff]

end Sieve

/-- How the answers of the tests decide on a record. -/
structure AnswersDecide (sieve : Sieve) (fields : Fields) (line : Nat) : Prop where
  /-- There is no decision exactly if a test has no answer. -/
  exists_error_iff : (∃ failure, sieve.keeps fields line = .error failure) ↔
    ∃ test ∈ sieve.tests, ∃ failure, test.run fields line = .error failure
  /-- The first test without an answer tells why, whatever the answers in front of it have
  settled. -/
  eq_error_iff : ∀ failure, sieve.keeps fields line = .error failure ↔
    ∃ front test back, sieve.tests = front ++ test :: back ∧
      (∀ other ∈ front, ∃ answer, other.run fields line = .ok answer) ∧
      test.run fields line = .error failure
  /-- It is the same failure in both modes, and if the result is turned around. -/
  error_alike : ∀ aggregation reverse failure,
    Sieve.keeps ⟨sieve.tests, aggregation, reverse⟩ fields line = .error failure ↔
      sieve.keeps fields line = .error failure
  /-- Otherwise the answers are what the mode asks for or not, and a sieve that turns the result
  around keeps a record if they are not. -/
  eq_ok_iff : ∀ kept, sieve.keeps fields line = .ok kept ↔
    ∃ answers, List.Forall₂ (fun test answer => test.run fields line = .ok answer)
      sieve.tests answers ∧
        (kept = true ↔ (sieve.aggregation.Met answers ↔ sieve.reverse = false))
  /-- Without tests the answers are what is asked for if all of them are asked for, and are not if
  one of them is. -/
  of_no_tests : sieve.tests = [] →
    sieve.keeps fields line = .ok (decide (sieve.aggregation = .all) != sieve.reverse)

/-- Every sieve decides by the answers to all of its tests, or fails for want of the first one. -/
theorem answersDecide (sieve : Sieve) (fields : Fields) (line : Nat) :
    AnswersDecide sieve fields line := by
  constructor
  case exists_error_iff =>
    simp only [Sieve.keeps_eq_error_iff_mapM, exists_mapM_eq_error_iff]
  case eq_error_iff => exact fun _ => Sieve.keeps_eq_error_iff
  case error_alike =>
    -- The traversal that fails knows neither the mode nor the reversal.
    intro aggregation reverse failure
    rw [Sieve.keeps_eq_error_iff_mapM, Sieve.keeps_eq_error_iff_mapM]
  case eq_ok_iff =>
    intro kept
    rw [Sieve.keeps_eq_ok_iff]
    refine exists_congr fun answers => and_congr_right fun _ => ?_
    rw [← Aggregation.resultOf_eq_true_iff]
    cases sieve.aggregation.resultOf answers <;> cases sieve.reverse <;> cases kept <;> simp
  case of_no_tests =>
    intro htests
    rw [Sieve.keeps_eq_ok_iff, htests]
    refine ⟨[], .nil, ?_⟩
    cases sieve.aggregation with
    | all => rfl
    | any => rfl

/-- The first answer settles the matter, and still the second one is missed. -/
example :
    let tests : List Test := ["a", "b"].map fun field => ⟨⟨field, .eq, "1"⟩, .int 1, none⟩
    Sieve.keeps ⟨tests, .any, true⟩ [("a", .number (.integer 1))] 7 =
      .error (.missingField "b" 7) := rfl

/-! ### Lines -/

/-- A line that is no record fails with its number. -/
theorem exists_of_readRecord_eq_error {line : List UInt8} {number : Nat} {failure : Failure}
    (h : readRecord line number = .error failure) :
    ∃ shown diagnosis, failure = .notARecord number shown diagnosis := by
  unfold readRecord at h
  split at h
  · cases h
  next diagnosis _ =>
    cases h
    exact ⟨_, diagnosis, rfl⟩

namespace Sieve

/-- A line that is a record is judged by its fields. -/
theorem judge_of_readRecord {sieve : Sieve} {line : List UInt8} {number : Nat} {fields : Fields}
    (h : readRecord line number = .ok fields) :
    sieve.judge line number = sieve.keeps fields number := by
  rw [judge, h]
  rfl

/-- A sieve with one test decides as the test does. -/
theorem keeps_single (test : Test) (fields : Fields) (line : Nat) :
    keeps ⟨[test], .all, false⟩ fields line = test.run fields line := by
  have hanswers : answers ⟨[test], .all, false⟩ fields line =
      (test.run fields line).map fun answer => [answer] := by
    rw [answers, List.mapM_cons]
    cases test.run fields line <;> rfl
  rw [keeps_eq, hanswers]
  cases test.run fields line <;> simp [Except.map]

/-- A sieve of one test judges as the test does. -/
theorem judge_single {test : Test} {line : List UInt8} {number : Nat} {fields : Fields}
    (h : readRecord line number = .ok fields) :
    judge ⟨[test], .all, false⟩ line number = test.run fields number := by
  rw [judge_of_readRecord h, keeps_single]

/-- A line that is no record is not judged. -/
theorem judge_of_readRecord_error {sieve : Sieve} {line : List UInt8} {number : Nat}
    {failure : Failure} (h : readRecord line number = .error failure) :
    sieve.judge line number = .error failure := by
  rw [judge, h]
  rfl

end Sieve

end RecordSieve
