import RecordSieve.Proofs.Grammar

/-!
# Reading Rendered Conditions

The text of a condition is read as that condition, and what is read as a condition is one that has
such a text. Other texts are read as the condition too, but they differ from its own text in the
blanks around the operator only. So a literal in quotes stays as it is, even if it looks like a part
of another condition.

## Main definitions

* `Condition.WrittenBy`: a text is put together from the parts of a condition;
* `SameButBlanks`: two texts differ in the blanks around the operator only;
* `RoundTrips`: what the text of a condition and the texts that are read as it have in common.

## Main statements

* `Condition.ofText?_render`: the condition that is read from the text of a condition;
* `Condition.wellFormed_of_parse`: the conditions that are read from texts;
* `sameButBlanks_iff`: texts that write the same condition differ in blanks only;
* `roundTrips`: rendering and reading are inverse to each other.
-/

namespace RecordSieve

/-- The names that conditions give to fields. -/
def IsFieldName (field : String) : Prop :=
  field.toList ≠ [] ∧ ∀ c ∈ field.toList, isFieldChar c = true

namespace Condition

/-- The conditions that texts can write. -/
structure WellFormed (c : Condition) : Prop where
  field_ne_nil : c.field.toList ≠ []
  field_chars : ∀ d ∈ c.field.toList, isFieldChar d = true
  literal : isLiteral c.literal.toList = true

/-- The parts of the text of a condition. -/
def spelling (c : Condition) : Spelling :=
  ⟨c.field.toList, [' '], c.operator, [' '], c.literal.toList⟩

theorem WellFormed.grammatical_spelling {c : Condition} (h : c.WellFormed) :
    c.spelling.Grammatical := by
  -- A space is the only blank in the text of a condition.
  have hspace : ∀ d ∈ [' '], isBlank d = true := by
    rw [List.forall_mem_singleton]
    decide
  refine ⟨h.field_ne_nil, ?_, hspace, hspace, isLiteral_iff.1 h.literal⟩
  intro d hd
  exact isFieldChar_iff.1 (h.field_chars d hd)

/-- The text of a condition is read as that condition. -/
theorem ofText?_render {c : Condition} (h : c.WellFormed) : ofText? c.render = some c := by
  have htext : c.render.toList = c.spelling.text := by
    simp [render, Spelling.text, spelling]
  rw [ofText?, htext, Spelling.ofChars?_text h.grammatical_spelling]
  simp [Spelling.condition, spelling]

theorem parse_render {c : Condition} (h : c.WellFormed) : parse c.render = .ok c := by
  rw [parse, ofText?_render h]

/-- What is read as a condition is well-formed. -/
theorem wellFormed_of_parse {text : String} {c : Condition} (h : parse text = .ok c) :
    c.WellFormed := by
  obtain ⟨s, hs, -, rfl⟩ := Spelling.exists_of_ofChars? (parse_eq_ok_iff.1 h)
  constructor
  · simpa [Spelling.condition] using hs.field_ne_nil
  · simpa [Spelling.condition] using hs.field_isFieldChar
  · simpa [Spelling.condition] using isLiteral_iff.2 hs.literal

/-- The conditions that texts can write are those whose own text is grammatical. -/
theorem wellFormed_iff {c : Condition} : c.WellFormed ↔ c.spelling.Grammatical := by
  constructor
  · exact WellFormed.grammatical_spelling
  · intro h
    exact ⟨h.field_ne_nil, h.field_isFieldChar, isLiteral_iff.2 h.literal⟩

/-- A text is put together from the parts of a condition. -/
def WrittenBy (c : Condition) (text : String) : Prop :=
  ∃ s : Spelling, s.Grammatical ∧ s.text = text.toList ∧ s.condition = c

/-- A condition is read from the texts that are put together from its parts. -/
theorem parse_eq_ok_iff_writtenBy {text : String} {c : Condition} :
    parse text = .ok c ↔ c.WrittenBy text := by
  rw [parse_eq_ok_iff]
  constructor
  · exact Spelling.exists_of_ofChars?
  · rintro ⟨s, hs, htext, rfl⟩
    rw [← htext]
    exact Spelling.ofChars?_text hs

/-- The parts of a condition are read as the condition with any blanks around the operator. -/
theorem WellFormed.parse_spaced {c : Condition} (h : c.WellFormed) {before behind : List Char}
    (hbefore : ∀ d ∈ before, isBlank d = true) (hbehind : ∀ d ∈ behind, isBlank d = true) :
    parse (String.ofList (c.field.toList ++ before ++ c.operator.symbol.toList ++ behind ++
      c.literal.toList)) = .ok c := by
  have hparts := h.grammatical_spelling
  apply parse_eq_ok_iff_writtenBy.2
  refine ⟨⟨c.field.toList, before, c.operator, behind, c.literal.toList⟩, ?_, ?_, ?_⟩
  · exact ⟨hparts.field_ne_nil, hparts.field_chars, hbefore, hbehind, hparts.literal⟩
  · rw [Spelling.text, String.toList_ofList]
  · simp [Spelling.condition]

/-- Any text without a quote may stand between the quotes of a literal. -/
theorem wellFormed_of_quoted {c : Condition} {inner : List Char} (hfield : IsFieldName c.field)
    (hinner : '"' ∉ inner) (hliteral : c.literal.toList = '"' :: (inner ++ ['"'])) :
    c.WellFormed := by
  refine ⟨hfield.1, hfield.2, ?_⟩
  rw [hliteral, isLiteral_iff]
  exact .quoted hinner

/-- Conditions that texts can write have texts of their own. -/
theorem render_inj {c d : Condition} (hc : c.WellFormed) (hd : d.WellFormed) :
    c.render = d.render ↔ c = d := by
  constructor
  · intro h
    -- Both are read from the text that they have in common.
    have hread := parse_render hd
    rw [← h, parse_render hc] at hread
    exact Except.ok.inj hread
  · rintro rfl
    rfl

end Condition

/-! ### Blanks around the operator -/

/-- The parts of two texts are the same but for the blanks. -/
structure Spelling.SameParts (s t : Spelling) : Prop where
  field_eq : s.field = t.field
  operator_eq : s.operator = t.operator
  literal_eq : s.literal = t.literal

theorem Spelling.sameParts_iff {s t : Spelling} : s.SameParts t ↔ s.condition = t.condition := by
  constructor
  · rintro ⟨hfield, hoperator, hliteral⟩
    rw [condition, condition, hfield, hoperator, hliteral]
  · intro h
    obtain ⟨hfield, hoperator, hliteral⟩ := Condition.mk.inj h
    exact ⟨String.ofList_injective hfield, hoperator, String.ofList_injective hliteral⟩

/-- Two texts of the grammar differ in the blanks around the operator only. -/
def SameButBlanks (text other : String) : Prop :=
  ∃ s t : Spelling, s.Grammatical ∧ t.Grammatical ∧ s.text = text.toList ∧
    t.text = other.toList ∧ s.SameParts t

/-- What a text writes is written by any other text that differs in blanks only. -/
theorem SameButBlanks.writtenBy {text other : String} {c : Condition}
    (h : SameButBlanks text other) (hc : c.WrittenBy text) : c.WrittenBy other := by
  obtain ⟨s, t, hs, ht, htext, hother, hsame⟩ := h
  obtain ⟨u, hu, hutext, rfl⟩ := hc
  -- A text has parts in one way only.
  obtain rfl : s = u := Spelling.eq_of_text_eq hs hu (htext.trans hutext.symm)
  exact ⟨t, ht, hother, (Spelling.sameParts_iff.1 hsame).symm⟩

/-- Texts write the same condition exactly if they differ in blanks only. -/
theorem sameButBlanks_iff {text other : String} {c d : Condition} (hc : c.WrittenBy text)
    (hd : d.WrittenBy other) : SameButBlanks text other ↔ c = d := by
  constructor
  · intro h
    have hread := Condition.parse_eq_ok_iff_writtenBy.2 (h.writtenBy hc)
    rw [Condition.parse_eq_ok_iff_writtenBy.2 hd] at hread
    exact (Except.ok.inj hread).symm
  · rintro rfl
    obtain ⟨s, hs, htext, hcondition⟩ := hc
    obtain ⟨t, ht, hother, hcondition'⟩ := hd
    exact ⟨s, t, hs, ht, htext, hother,
      Spelling.sameParts_iff.2 (hcondition.trans hcondition'.symm)⟩

/-- What the text of a condition and the texts that are read as it have in common. -/
structure RoundTrips (c : Condition) : Prop where
  /-- The text is read as the condition exactly if its parts are those of the grammar. -/
  parse_render_iff : Condition.parse c.render = .ok c ↔ c.spelling.Grammatical
  /-- So it is if the condition was read from any text. -/
  parse_render : ∀ text, Condition.parse text = .ok c → Condition.parse c.render = .ok c
  /-- The texts that are read as the condition have the parts of its own text. -/
  parse_iff : c.spelling.Grammatical → ∀ text,
    Condition.parse text = .ok c ↔ SameButBlanks c.render text
  /-- Different conditions that are read have different texts. -/
  eq_iff_render : ∀ text other d, Condition.parse text = .ok c →
    Condition.parse other = .ok d → (c = d ↔ c.render = d.render)
  /-- They are read from texts that differ in more than blanks. -/
  eq_iff_blanks : ∀ text other d, Condition.parse text = .ok c →
    Condition.parse other = .ok d → (c = d ↔ SameButBlanks text other)
  /-- Whatever stands between quotes is part of the literal, and stays what it is. -/
  quoted : ∀ inner before behind : List Char, IsFieldName c.field → '"' ∉ inner →
    c.literal.toList = '"' :: (inner ++ ['"']) → (∀ d ∈ before, isBlank d = true) →
    (∀ d ∈ behind, isBlank d = true) →
    Condition.parse (String.ofList (c.field.toList ++ before ++ c.operator.symbol.toList ++
      behind ++ '"' :: (inner ++ ['"']))) = .ok c

/-- Rendering and reading are inverse to each other, up to the blanks around the operator. -/
theorem roundTrips (c : Condition) : RoundTrips c := by
  have hrender (h : c.spelling.Grammatical) : Condition.parse c.render = .ok c :=
    Condition.parse_render (Condition.wellFormed_iff.2 h)
  have hparsed {text : String} {d : Condition} (h : Condition.parse text = .ok d) :
      d.WellFormed := Condition.wellFormed_of_parse h
  constructor
  case parse_render_iff => exact ⟨fun h => Condition.wellFormed_iff.1 (hparsed h), hrender⟩
  case parse_render =>
    intro text h
    exact Condition.parse_render (hparsed h)
  case parse_iff =>
    intro h text
    -- Both texts are written by conditions, and what they write differs in blanks only.
    have hwritten := Condition.parse_eq_ok_iff_writtenBy.1 (hrender h)
    rw [Condition.parse_eq_ok_iff_writtenBy]
    constructor
    · intro htext
      exact (sameButBlanks_iff hwritten htext).2 rfl
    · intro hsame
      exact hsame.writtenBy hwritten
  case eq_iff_render =>
    intro text other d hc hd
    exact (Condition.render_inj (hparsed hc) (hparsed hd)).symm
  case eq_iff_blanks =>
    intro text other d hc hd
    rw [Condition.parse_eq_ok_iff_writtenBy] at hc hd
    exact (sameButBlanks_iff hc hd).symm
  case quoted =>
    intro inner before behind hfield hinner hliteral hbefore hbehind
    have hcondition := Condition.wellFormed_of_quoted hfield hinner hliteral
    rw [← hliteral]
    exact hcondition.parse_spaced hbefore hbehind

/-- A literal that looks like a condition. -/
example : Condition.parse "name\t=~\n\"size >= 15K\n\"" =
    .ok ⟨"name", .like, "\"size >= 15K\n\""⟩ := rfl

end RecordSieve
