import RecordSieve.Proofs.Pattern.Correctness

/-!
# The Words of Expressions

An expression that does not look around itself matches the same words wherever they stand. So what
it matches is a language, and the language of an expression is put together from those of its parts.
An expression that closes with the end of the text asks that the rest of the text be such a word.

## Main definitions

* `Place.Spans`: the word between two places;
* `Regex.Spells`: an expression matches the words of a language, wherever they stand;
* `Regex.Closes`: an expression matches from a place where the rest of the text is in a language.

## Main statements

* `Regex.spells_char`, `Regex.Spells.seq`, `Regex.Spells.alt`, `Regex.Spells.option`,
  `Regex.spells_run`: the languages of the parts of expressions;
* `Regex.Closes.isMatch_iff`: an expression between the start and the end of a text has a match
  exactly in the texts of its language.
-/

namespace RecordSieve

open Pattern

/-- The words of one language with those of another behind them. -/
def InSequence (first second : List Char → Prop) (word : List Char) : Prop :=
  ∃ front back, first front ∧ second back ∧ front ++ back = word

/-- The empty word behind the words of a language changes none of them. -/
theorem inSequence_nil {language : List Char → Prop} {word : List Char} :
    InSequence language (· = []) word ↔ language word := by
  constructor
  · rintro ⟨front, _, hfront, rfl, rfl⟩
    rwa [List.append_nil]
  · intro h
    exact ⟨word, [], h, rfl, List.append_nil word⟩

/-- A set of one character contains that character and no other. -/
theorem CodePointSet.contains_singleton {c d : Char} :
    (singleton c).contains d = true ↔ d = c := by
  simp only [contains, singleton, inRange, List.any_cons, List.any_nil, Bool.or_false,
    Bool.and_eq_true, decide_eq_true_eq]
  constructor
  · rintro ⟨hlow, hhigh⟩
    exact Char.toNat_inj.1 (Nat.le_antisymm hhigh hlow)
  · rintro rfl
    exact ⟨Nat.le_refl _, Nat.le_refl _⟩

namespace Pattern.Place

/-- The word stands between two places. -/
structure Spans (word : List Char) (p q : Place) : Prop where
  rest : p.rest = word ++ q.rest
  index : q.index = p.index + word.length
  before : q.before = word.getLast?.or p.before

/-- The empty word stands between a place and itself. -/
theorem spans_nil {p q : Place} : Spans [] p q ↔ p = q := by
  constructor
  · rintro ⟨hrest, hindex, hbefore⟩
    cases p
    cases q
    simp_all
  · rintro rfl
    exact ⟨rfl, rfl, rfl⟩

/-- One word behind another stands between two places if there is a place between them. -/
theorem spans_append {front back : List Char} {p t : Place} :
    Spans (front ++ back) p t ↔ ∃ q, Spans front p q ∧ Spans back q t := by
  constructor
  · rintro ⟨hrest, hindex, hbefore⟩
    refine ⟨⟨p.index + front.length, front.getLast?.or p.before, back ++ t.rest⟩,
      ⟨?_, rfl, rfl⟩, ⟨rfl, ?_, ?_⟩⟩
    · rw [hrest, List.append_assoc]
    · rw [hindex, List.length_append, Nat.add_assoc]
    · rw [hbefore, List.getLast?_append, Option.or_assoc]
  · rintro ⟨q, hfront, hback⟩
    refine ⟨?_, ?_, ?_⟩
    · rw [hfront.rest, hback.rest, List.append_assoc]
    · rw [hback.index, hfront.index, List.length_append, Nat.add_assoc]
    · rw [hback.before, hfront.before, List.getLast?_append, Option.or_assoc]

/-- A place advances over one character of the set. -/
theorem advance?_eq_some_iff {set : CodePointSet} {p q : Place} :
    p.advance? set = some q ↔ ∃ c, set.contains c = true ∧ Spans [c] p q := by
  obtain ⟨index, before, rest⟩ := p
  constructor
  · intro h
    cases rest with
    | nil => cases h
    | cons c rest =>
      simp only [advance?, Option.ite_none_right_eq_some] at h
      obtain ⟨hc, ⟨⟩⟩ := h
      exact ⟨c, hc, rfl, rfl, rfl⟩
  · rintro ⟨c, hc, hrest, hindex, hbefore⟩
    obtain ⟨index', before', rest'⟩ := q
    simp only [List.cons_append, List.nil_append] at hrest
    subst hrest hindex hbefore
    simp [advance?, hc]

end Pattern.Place

namespace Regex

open Pattern.Place

variable {r s : Regex} {language other : List Char → Prop}

/-- The expression matches exactly the words of a language, wherever they stand. -/
def Spells (r : Regex) (language : List Char → Prop) : Prop :=
  ∀ p q, Matches r p q ↔ ∃ word, language word ∧ Spans word p q

/-- The expression matches from a place exactly if the rest of the text is in a language. -/
def Closes (r : Regex) (language : List Char → Prop) : Prop :=
  ∀ p, (∃ q, Matches r p q) ↔ language p.rest

/-- A language may be described in another way. -/
theorem Spells.congr (h : Spells r language) (heq : ∀ word, language word ↔ other word) :
    Spells r other := by
  intro p q
  simp only [h p q, heq]

/-- The language of the rest may be described in another way. -/
theorem Closes.congr (h : Closes r language) (heq : ∀ text, language text ↔ other text) :
    Closes r other := by
  intro p
  simp only [h p, heq]

/-- A set of characters spells the words of one character of the set. -/
theorem spells_char (unicode : Bool) (set : CodePointSet) :
    Spells (.char unicode set) fun word => ∃ c, set.contains c = true ∧ word = [c] := by
  intro p q
  constructor
  · intro h
    cases h with
    | char hadvance =>
      obtain ⟨c, hc, hspans⟩ := advance?_eq_some_iff.1 hadvance
      exact ⟨[c], ⟨c, hc, rfl⟩, hspans⟩
  · rintro ⟨_, ⟨c, hc, rfl⟩, hspans⟩
    exact .char (advance?_eq_some_iff.2 ⟨c, hc, hspans⟩)

/-- Expressions one behind the other spell the words of the first with those of the second
behind. -/
theorem Spells.seq (hr : Spells r language) (hs : Spells s other) :
    Spells (.seq r s) (InSequence language other) := by
  intro p t
  constructor
  · intro h
    cases h with
    | seq hfirst hsecond =>
      obtain ⟨front, hfront, hspans⟩ := (hr _ _).1 hfirst
      obtain ⟨back, hback, hspans'⟩ := (hs _ _).1 hsecond
      exact ⟨_, ⟨front, back, hfront, hback, rfl⟩, spans_append.2 ⟨_, hspans, hspans'⟩⟩
  · rintro ⟨_, ⟨front, back, hfront, hback, rfl⟩, hspans⟩
    obtain ⟨q, hspans, hspans'⟩ := spans_append.1 hspans
    exact .seq ((hr _ _).2 ⟨front, hfront, hspans⟩) ((hs _ _).2 ⟨back, hback, hspans'⟩)

/-- Alternatives spell the words of either. -/
theorem Spells.alt (hr : Spells r language) (hs : Spells s other) :
    Spells (.alt r s) fun word => language word ∨ other word := by
  intro p q
  constructor
  · intro h
    cases h with
    | altFirst h =>
      obtain ⟨word, hword, hspans⟩ := (hr _ _).1 h
      exact ⟨word, .inl hword, hspans⟩
    | altSecond h =>
      obtain ⟨word, hword, hspans⟩ := (hs _ _).1 h
      exact ⟨word, .inr hword, hspans⟩
  · rintro ⟨word, hword | hword, hspans⟩
    · exact .altFirst ((hr _ _).2 ⟨word, hword, hspans⟩)
    · exact .altSecond ((hs _ _).2 ⟨word, hword, hspans⟩)

/-- A group spells what is inside of it, whether or not it captures. -/
theorem Spells.group (h : Spells r language) (capturing : Bool) :
    Spells (.group capturing r) language := by
  intro p q
  rw [← h p q]
  constructor
  · intro hgroup
    cases hgroup with
    | group hinside => exact hinside
  · exact .group

/-- An expression that may be missing. -/
theorem Spells.option (h : Spells r language) (greedy : Bool) :
    Spells (.repeat r 0 (some 1) greedy) fun word => word = [] ∨ language word := by
  intro p q
  rw [matches_repeat_iff]
  constructor
  · rintro ⟨n, -, hhigh, hleads⟩
    have hn : n ≤ 1 := hhigh 1 rfl
    cases n with
    | zero => exact ⟨[], .inl rfl, spans_nil.2 hleads⟩
    | succ n =>
      obtain rfl : n = 0 := Nat.le_zero.1 (Nat.le_of_succ_le_succ hn)
      obtain ⟨t, hmatch, rfl⟩ := hleads
      obtain ⟨word, hword, hspans⟩ := (h _ _).1 hmatch
      exact ⟨word, .inr hword, hspans⟩
  · rintro ⟨word, rfl | hword, hspans⟩
    · refine ⟨0, Nat.le_refl 0, fun _ _ => Nat.zero_le _, spans_nil.1 hspans⟩
    · refine ⟨1, Nat.zero_le 1, ?_, q, (h _ _).2 ⟨word, hword, hspans⟩, rfl⟩
      rintro _ ⟨⟩
      exact Nat.le_refl 1

/-- Repeating a set of characters a number of times leads over as many characters of the set. -/
theorem leads_char_iff {unicode : Bool} {set : CodePointSet} {n : Nat} {p q : Place} :
    Leads (Matches (.char unicode set)) n p q ↔
      ∃ word, word.length = n ∧ (∀ c ∈ word, set.contains c = true) ∧ Spans word p q := by
  induction n generalizing p with
  | zero =>
    constructor
    · intro h
      exact ⟨[], rfl, List.forall_mem_nil _, spans_nil.2 h⟩
    · rintro ⟨word, hlength, -, hspans⟩
      obtain rfl := List.length_eq_zero_iff.1 hlength
      exact spans_nil.1 hspans
  | succ n ih =>
    constructor
    · rintro ⟨t, hmatch, hleads⟩
      -- One more character is in front of those that are led over behind it.
      obtain ⟨_, ⟨c, hc, rfl⟩, hspans⟩ := (spells_char unicode set _ _).1 hmatch
      obtain ⟨word, hlength, hword, hspans'⟩ := ih.1 hleads
      exact ⟨c :: word, congrArg (· + 1) hlength, List.forall_mem_cons.2 ⟨hc, hword⟩,
        spans_append.2 ⟨t, hspans, hspans'⟩⟩
    · rintro ⟨_ | ⟨c, word⟩, hlength, hword, hspans⟩
      · cases hlength
      · obtain ⟨hc, hword⟩ := List.forall_mem_cons.1 hword
        rw [← List.singleton_append] at hspans
        obtain ⟨t, hspans, hspans'⟩ := spans_append.1 hspans
        exact ⟨t, (spells_char unicode set _ _).2 ⟨[c], ⟨c, hc, rfl⟩, hspans⟩,
          ih.2 ⟨word, Nat.succ.inj hlength, hword, hspans'⟩⟩

/-- A run of characters of one set, which may be any number from some number on. -/
theorem spells_run (unicode : Bool) (set : CodePointSet) (low : Nat) (greedy : Bool) :
    Spells (.repeat (.char unicode set) low none greedy) fun word =>
      low ≤ word.length ∧ ∀ c ∈ word, set.contains c = true := by
  intro p q
  simp only [matches_repeat_iff, leads_char_iff]
  constructor
  · rintro ⟨n, hlow, -, word, rfl, hword, hspans⟩
    exact ⟨word, ⟨hlow, hword⟩, hspans⟩
  · rintro ⟨word, ⟨hlow, hword⟩, hspans⟩
    exact ⟨word.length, hlow, nofun, word, rfl, hword, hspans⟩

/-- The expression of one text: its characters one after the other. -/
def ofWord (unicode : Bool) : List Char → Regex
  | [] => .empty
  | [c] => .char unicode (.singleton c)
  | c :: rest => .seq (.char unicode (.singleton c)) (ofWord unicode rest)

/-- One character spells itself. -/
theorem spells_singleton (unicode : Bool) (c : Char) :
    Spells (.char unicode (.singleton c)) (· = [c]) :=
  (spells_char _ _).congr fun word => by simp [CodePointSet.contains_singleton]

/-- The expression of a text spells that text and no other word. -/
theorem spells_ofWord (unicode : Bool) (text : List Char) :
    Spells (ofWord unicode text) (· = text) := by
  induction text using ofWord.induct with
  | case1 =>
    intro p q
    constructor
    · rintro ⟨⟩
      exact ⟨[], rfl, spans_nil.2 rfl⟩
    · rintro ⟨_, rfl, hspans⟩
      obtain rfl := spans_nil.1 hspans
      exact .empty
  | case2 c => exact spells_singleton unicode c
  | case3 c rest hne ih =>
    rw [ofWord]
    · refine ((spells_singleton unicode c).seq ih).congr fun word => ?_
      simp [InSequence, eq_comm]
    · exact hne

/-! ### Whole texts -/

/-- The end of the text asks that nothing is left. -/
theorem closes_textEnd : Closes (.look .textEnd) (· = []) := by
  intro p
  have hlook : p.answers .textEnd = true ↔ p.rest = [] := by
    simp [answers, Look.holds]
  refine Iff.trans ?_ hlook
  constructor
  · rintro ⟨_, h⟩
    cases h with
    | look hanswers => exact hanswers
  · intro h
    exact ⟨p, .look h⟩

/-- An expression in front of one that closes puts its words in front of the rest. -/
theorem Spells.closes (hr : Spells r language) (hs : Closes s other) :
    Closes (.seq r s) (InSequence language other) := by
  intro p
  constructor
  · rintro ⟨t, h⟩
    cases h with
    | seq hfirst hsecond =>
      obtain ⟨front, hfront, hspans⟩ := (hr _ _).1 hfirst
      exact ⟨front, _, hfront, (hs _).1 ⟨t, hsecond⟩, hspans.rest.symm⟩
  · rintro ⟨front, back, hfront, hback, hrest⟩
    -- The place behind the front of the rest.
    obtain ⟨q, hspans, hspans'⟩ := (spans_append (p := p)
      (t := ⟨p.index + (front ++ back).length, (front ++ back).getLast?.or p.before, []⟩)).1
      ⟨by rw [List.append_nil, hrest], rfl, rfl⟩
    have hq : q.rest = back := by rw [hspans'.rest, List.append_nil]
    obtain ⟨t, hsecond⟩ := (hs q).2 (hq ▸ hback)
    exact ⟨t, .seq ((hr _ _).2 ⟨front, hfront, hspans⟩) hsecond⟩

/-- Between the start and the end of the text, an expression has a match exactly in the texts of
its language. -/
theorem Closes.isMatch_iff (h : Closes r language) (text : List Char) :
    (Regex.seq (.look .textStart) r).isMatch text = true ↔ language text :=
  (isMatch_textStart_iff r text).trans (h _)

end Regex

end RecordSieve
