import RecordSieve.Condition.Reader
import RecordSieve.Proofs.Json.Numbers

/-!
# The Grammar of Conditions

Which texts write a condition, said as how they are put together and not as how they are read: a
field name, blanks, the token of an operator, blanks and a literal.

## Main definitions

* `IsDigits`, `IsFractionText`, `IsUnitText`, `IsLiteralText`: the texts of literals;
* `Spelling`: the parts of a text that writes a condition;
* `Spelling.Grammatical`: the parts that the grammar allows.

## Main statements

* `isLiteral_iff`: the texts that are read as literals are those of the grammar;
* `Spelling.eq_of_text_eq`: a text can be taken apart in at most one way;
* `Condition.parse_spelling`: the parser accepts exactly the texts of the grammar, reads off their
  parts, and refuses every other text with the text itself.
-/

namespace RecordSieve

/-- Characters of a kind are taken up to the first that is not of it. -/
theorem takeWhile_append_of_head? {α : Type} {p : α → Bool} {l rest : List α}
    (hl : ∀ b ∈ l, p b = true) (hrest : ∀ b, rest.head? = some b → p b = false) :
    (l ++ rest).takeWhile p = l := by
  rw [List.takeWhile_append_of_pos hl]
  cases rest with
  | nil => simp
  | cons a rest => simp [hrest a rfl]

/-- What is left begins with the first character that is not of the kind. -/
theorem dropWhile_append_of_head? {α : Type} {p : α → Bool} {l rest : List α}
    (hl : ∀ b ∈ l, p b = true) (hrest : ∀ b, rest.head? = some b → p b = false) :
    (l ++ rest).dropWhile p = rest := by
  rw [List.dropWhile_append_of_pos hl]
  cases rest with
  | nil => rfl
  | cons a rest => simp [hrest a rfl]

/-! ### Characters -/

/-- Visible ASCII characters are not blank. -/
theorem isBlank_eq_false_of_le {c : Char} (hlow : 0x21 ≤ c.toNat) (hhigh : c.toNat ≤ 0x7e) :
    isBlank c = false := by
  simp only [isBlank, blankRanges, List.any_cons, List.any_nil, Bool.or_false, Bool.or_eq_false_iff,
    Bool.and_eq_false_iff, decide_eq_false_iff_not]
  omega

/-- Digits are not blanks. -/
theorem isBlank_eq_false_of_isDigit {c : Char} (h : c.isDigit = true) : isBlank c = false := by
  simp only [Char.isDigit, Bool.and_eq_true, decide_eq_true_eq] at h
  have hlow := UInt32.le_iff_toNat_le.1 h.1
  have hhigh := UInt32.le_iff_toNat_le.1 h.2
  exact isBlank_eq_false_of_le (Nat.le_trans (by decide) hlow) (Nat.le_trans hhigh (by decide))

/-- The characters of field names: letters, digits, underscores and hyphens. -/
theorem isFieldChar_iff {c : Char} :
    isFieldChar c = true ↔ c.isAlphanum = true ∨ c = '_' ∨ c = '-' := by
  simp [isFieldChar, or_assoc]

/-- The code points of the characters of field names. -/
theorem isFieldChar_iff_toNat {c : Char} : isFieldChar c = true ↔
    (0x30 ≤ c.toNat ∧ c.toNat ≤ 0x39) ∨ (0x41 ≤ c.toNat ∧ c.toNat ≤ 0x5a) ∨
      (0x61 ≤ c.toNat ∧ c.toNat ≤ 0x7a) ∨ c.toNat = 0x5f ∨ c.toNat = 0x2d := by
  -- The classes of ASCII characters, spelled out as ranges of code points.
  have halpha : c.isAlpha = (c.isUpper || c.isLower) := rfl
  have hupper : c.isUpper = decide (c.val ≥ 0x41 ∧ c.val ≤ 0x5a) := rfl
  have hlower : c.isLower = (decide (c.val ≥ 0x61) && decide (c.val ≤ 0x7a)) := rfl
  have hcode {d : Char} : c = d ↔ c.toNat = d.toNat := Char.toNat_inj.symm
  simp only [isFieldChar, Char.isAlphanum, halpha, hupper, hlower, Char.isDigit, hcode,
    Bool.or_eq_true, Bool.and_eq_true, decide_eq_true_eq, ge_iff_le, UInt32.le_iff_toNat_le]
  constructor
  · rintro ((((hupper | hlower) | hdigit) | hline) | hdash)
    · exact .inr (.inl hupper)
    · exact .inr (.inr (.inl hlower))
    · exact .inl hdigit
    · exact .inr (.inr (.inr (.inl hline)))
    · exact .inr (.inr (.inr (.inr hdash)))
  · rintro (hdigit | hupper | hlower | hline | hdash)
    · exact .inl (.inl (.inr hdigit))
    · exact .inl (.inl (.inl (.inl hupper)))
    · exact .inl (.inl (.inl (.inr hlower)))
    · exact .inl (.inr hline)
    · exact .inr hdash

/-- A blank ends a field name. -/
theorem isFieldChar_eq_false_of_isBlank {c : Char} (h : isBlank c = true) :
    isFieldChar c = false := by
  rw [← Bool.not_eq_true]
  intro hfield
  have hrange := isFieldChar_iff_toNat.1 hfield
  rw [isBlank_eq_false_of_le (by omega) (by omega)] at h
  cases h

/-! ### Literals -/

/-- One or more ASCII digits. -/
def IsDigits (text : List Char) : Prop := text ≠ [] ∧ ∀ c ∈ text, c.isDigit = true

/-- A point and digits, or nothing. -/
inductive IsFractionText : List Char → Prop
  | none : IsFractionText []
  | digits {text : List Char} : IsDigits text → IsFractionText ('.' :: text)

/-- The letters that units start with. -/
def unitLetters : List Char := ['K', 'M', 'G', 'T', 'P', 'E']

/-- The letter of a unit, perhaps with an `i` behind it, or nothing. -/
inductive IsUnitText : List Char → Prop
  | none : IsUnitText []
  | decimal {c : Char} : c ∈ unitLetters → IsUnitText [c]
  | binary {c : Char} : c ∈ unitLetters → IsUnitText [c, 'i']

/-- The literals of conditions. -/
inductive IsLiteralText : List Char → Prop
  /-- Any text without a quote, between quotes. -/
  | quoted {inner : List Char} : '"' ∉ inner → IsLiteralText ('"' :: (inner ++ ['"']))
  | isTrue : IsLiteralText ['T', 'r', 'u', 'e']
  | isFalse : IsLiteralText ['F', 'a', 'l', 's', 'e']
  | number {whole fraction unit : List Char} : IsDigits whole → IsFractionText fraction →
      IsUnitText unit → IsLiteralText (whole ++ fraction ++ unit)

namespace Numeral

/-- The suffix of a unit is read as the unit, and no suffix as none. -/
theorem unitOfText?_suffix (unit : Option SizeUnit) :
    unitOfText? ((unit.map SizeUnit.suffix).getD []) = some unit := by
  cases unit with
  | none => rfl
  | some unit => cases unit <;> rfl

/-- The text of a unit starts with one of six letters. -/
theorem head?_suffix {unit : Option SizeUnit} {c : Char}
    (h : ((unit.map SizeUnit.suffix).getD []).head? = some c) :
    c.isDigit = false ∧ c ≠ '.' := by
  cases unit with
  | none => cases h
  | some unit => cases unit <;> cases h <;> exact ⟨by decide, by decide⟩

/-- The text of a well-formed numeral is read as that numeral. -/
theorem ofText?_toText {n : Numeral} (hn : n.WellFormed) : ofText? n.toText = some n := by
  obtain ⟨whole, fraction, unit⟩ := n
  obtain ⟨hne, hwhole, hfraction_ne, hfraction⟩ := hn
  have hunit := @head?_suffix unit
  rw [toText_eq]
  -- Where the digits end depends only on the character that the unit starts with.
  generalize hsuffix : (unit.map SizeUnit.suffix).getD [] = suffix at hunit
  have hread : unitOfText? suffix = some unit := by
    rw [← hsuffix]
    exact unitOfText?_suffix unit
  cases fraction with
  | none =>
    have hend : ∀ c, suffix.head? = some c → c.isDigit = false := fun c hc => (hunit hc).1
    simp only [Option.map_none, Option.getD_none, List.append_nil]
    rw [ofText?, takeWhile_append_of_head? hwhole hend, dropWhile_append_of_head? hwhole hend,
      if_neg hne]
    -- A unit does not start with a point, so the digits have no fraction.
    split
    next rest => exact absurd rfl (hunit (c := '.') rfl).2
    next => rw [hread, Option.map_some]
  | some fraction =>
    have hpoint : ∀ c, ('.' :: (fraction ++ suffix)).head? = some c → c.isDigit = false := by
      rintro _ ⟨⟩
      decide
    have hend : ∀ c, suffix.head? = some c → c.isDigit = false := fun c hc => (hunit hc).1
    have hfraction_ne' : fraction ≠ [] := by
      rintro rfl
      exact hfraction_ne rfl
    simp only [Option.map_some, Option.getD_some, List.append_assoc, List.cons_append]
    rw [ofText?, takeWhile_append_of_head? hwhole hpoint, dropWhile_append_of_head? hwhole hpoint,
      if_neg hne]
    have hfraction : ∀ c ∈ fraction, c.isDigit = true := hfraction
    simp only
    rw [takeWhile_append_of_head? hfraction hend, dropWhile_append_of_head? hfraction hend,
      if_neg hfraction_ne', hread, Option.map_some]

end Numeral

/-- The texts of units are those of the twelve units and the empty one. -/
theorem isUnitText_iff {text : List Char} :
    IsUnitText text ↔ ∃ unit : Option SizeUnit, (unit.map SizeUnit.suffix).getD [] = text := by
  -- Each of the letters is a unit, alone and with an `i`.
  have hall : unitLetters.all (fun c => (SizeUnit.ofSuffix? [c]).isSome &&
      (SizeUnit.ofSuffix? [c, 'i']).isSome) = true := by decide
  have hletters {c : Char} (hc : c ∈ unitLetters) : (∃ unit, SizeUnit.ofSuffix? [c] = some unit) ∧
      ∃ unit, SizeUnit.ofSuffix? [c, 'i'] = some unit := by
    have hboth := List.all_eq_true.1 hall c hc
    rwa [Bool.and_eq_true, Option.isSome_iff_exists, Option.isSome_iff_exists] at hboth
  constructor
  · rintro (_ | hc | hc)
    · exact ⟨none, rfl⟩
    · obtain ⟨unit, hunit⟩ := (hletters hc).1
      exact ⟨some unit, SizeUnit.suffix_of_ofSuffix? hunit⟩
    · obtain ⟨unit, hunit⟩ := (hletters hc).2
      exact ⟨some unit, SizeUnit.suffix_of_ofSuffix? hunit⟩
  · rintro ⟨unit, rfl⟩
    cases unit with
    | none => exact .none
    | some unit =>
      cases unit
      case kilo | mega | giga | tera | peta | exa => exact .decimal (by decide)
      all_goals exact .binary (by decide)

/-- The texts that are read as numerals. -/
theorem isSome_numeral_iff {text : List Char} :
    (Numeral.ofText? text).isSome = true ↔ ∃ whole fraction unit,
      IsDigits whole ∧ IsFractionText fraction ∧ IsUnitText unit ∧
        whole ++ fraction ++ unit = text := by
  rw [Option.isSome_iff_exists]
  constructor
  · rintro ⟨n, hread⟩
    obtain ⟨⟨hne, hwhole, hfraction_ne, hfraction⟩, rfl⟩ := Numeral.wellFormed_of_ofText? hread
    refine ⟨n.whole, _, _, ⟨hne, hwhole⟩, ?_, isUnitText_iff.2 ⟨n.unit, rfl⟩, n.toText_eq.symm⟩
    cases hcases : n.fraction with
    | none => exact .none
    | some fraction =>
      rw [hcases] at hfraction_ne hfraction
      exact .digits ⟨fun hnil => hfraction_ne (congrArg some hnil), hfraction⟩
  · rintro ⟨whole, fraction, unitText, ⟨hne, hwhole⟩, hfraction, hunit, rfl⟩
    obtain ⟨unit, rfl⟩ := isUnitText_iff.1 hunit
    -- The parts are those of a well-formed numeral, which is read back from its text.
    cases hfraction with
    | none =>
      have hread := Numeral.ofText?_toText (n := ⟨whole, none, unit⟩)
        ⟨hne, hwhole, by simp, by simp⟩
      exact ⟨_, by rwa [Numeral.toText_eq] at hread⟩
    | digits hdigits =>
      have hread := Numeral.ofText?_toText (n := ⟨whole, some _, unit⟩)
        ⟨hne, hwhole, by simpa using hdigits.1, hdigits.2⟩
      exact ⟨_, by rwa [Numeral.toText_eq] at hread⟩

/-- The texts that are read as literals are those of the grammar. -/
theorem isLiteral_iff {text : List Char} : isLiteral text = true ↔ IsLiteralText text := by
  constructor
  · intro h
    unfold isLiteral at h
    split at h
    next inner =>
      -- The closing quote is the last character and the only quote behind the first one.
      rw [Bool.and_eq_true, decide_eq_true_eq, Bool.not_eq_true', List.contains_eq_mem,
        decide_eq_false_iff_not] at h
      obtain ⟨body, rfl⟩ := List.getLast?_eq_some_iff.1 h.1
      rw [List.dropLast_concat] at h
      exact .quoted h.2
    next =>
      simp only [Bool.or_eq_true, decide_eq_true_eq, isSome_numeral_iff] at h
      rcases h with (rfl | rfl) | ⟨whole, fraction, unit, hwhole, hfraction, hunit, rfl⟩
      · exact .isTrue
      · exact .isFalse
      · exact .number hwhole hfraction hunit
  · rintro (hinner | _ | _ | ⟨hwhole, hfraction, hunit⟩)
    · simp [isLiteral, hinner]
    · decide
    · decide
    · have hsome := isSome_numeral_iff.2 ⟨_, _, _, hwhole, hfraction, hunit, rfl⟩
      unfold isLiteral
      split
      next hquote =>
        -- A number starts with a digit and not with a quote.
        rw [hquote] at hsome
        cases hsome
      next => simp only [hsome, Bool.or_true]

/-- A literal starts with a character that is not blank, nor the second one of an operator. -/
theorem IsLiteralText.head? {text : List Char} (h : IsLiteralText text) :
    ∃ c, text.head? = some c ∧ isBlank c = false ∧ c ≠ '=' := by
  cases h with
  | quoted | isTrue | isFalse => exact ⟨_, rfl, by decide, by decide⟩
  | number hwhole =>
    obtain ⟨c, rest, rfl⟩ := List.exists_cons_of_ne_nil hwhole.1
    have hc : c.isDigit = true := hwhole.2 c List.mem_cons_self
    refine ⟨c, rfl, isBlank_eq_false_of_isDigit hc, ?_⟩
    rintro rfl
    cases hc

/-! ### Operators -/

namespace Operator

/-- A token starts with a character that is neither blank nor one of a field name. -/
theorem head?_symbol (op : Operator) :
    ∃ c, op.symbol.toList.head? = some c ∧ isBlank c = false ∧ isFieldChar c = false := by
  cases op <;> exact ⟨_, rfl, by decide, by decide⟩

/-- The token of an operator is read where it does not go on. -/
theorem split?_symbol (op : Operator) {rest : List Char} (hrest : rest.head? ≠ some '=') :
    split? (op.symbol.toList ++ rest) = some (op, rest) := by
  cases op
  -- Only these two tokens are the first character of others.
  case gt | lt =>
    cases rest with
    | nil => rfl
    | cons c rest =>
      have hc : c ≠ '=' := by simpa using hrest
      simp [symbol, split?, hc]
  all_goals rfl

/-- What is read as an operator is its token. -/
theorem eq_of_split? {text rest : List Char} {op : Operator} (h : split? text = some (op, rest)) :
    text = op.symbol.toList ++ rest := by
  unfold split? at h
  split at h <;> cases h <;> rfl

end Operator

/-! ### Spellings -/

/-- The parts of a text that writes a condition. -/
structure Spelling where
  field : List Char
  /-- What stands between the field and the operator. -/
  before : List Char
  operator : Operator
  /-- What stands between the operator and the literal. -/
  behind : List Char
  literal : List Char

namespace Spelling

/-- The parts behind each other. -/
def text (s : Spelling) : List Char :=
  s.field ++ s.before ++ s.operator.symbol.toList ++ s.behind ++ s.literal

/-- The condition that the parts write. -/
def condition (s : Spelling) : Condition :=
  ⟨String.ofList s.field, s.operator, String.ofList s.literal⟩

/-- The parts are those of the grammar. -/
structure Grammatical (s : Spelling) : Prop where
  field_ne_nil : s.field ≠ []
  field_chars : ∀ c ∈ s.field, c.isAlphanum = true ∨ c = '_' ∨ c = '-'
  before_blank : ∀ c ∈ s.before, isBlank c = true
  behind_blank : ∀ c ∈ s.behind, isBlank c = true
  literal : IsLiteralText s.literal

namespace Grammatical

variable {s : Spelling}

/-- The field of a spelling has characters of field names only. -/
theorem field_isFieldChar (h : s.Grammatical) : ∀ c ∈ s.field, isFieldChar c = true :=
  fun c hc => isFieldChar_iff.2 (h.field_chars c hc)

/-- What follows the field starts with a blank or with the operator. -/
theorem isFieldChar_head? (h : s.Grammatical) {c : Char}
    (hc : (s.before ++ (s.operator.symbol.toList ++ (s.behind ++ s.literal))).head? = some c) :
    isFieldChar c = false := by
  obtain ⟨d, hd, -, hfield⟩ := s.operator.head?_symbol
  cases hbefore : s.before with
  | nil =>
    rw [hbefore, List.nil_append, List.head?_append, hd] at hc
    cases hc
    exact hfield
  | cons b before =>
    rw [hbefore] at hc
    cases hc
    exact isFieldChar_eq_false_of_isBlank (h.before_blank _ (hbefore ▸ List.mem_cons_self))

/-- Neither an operator nor what follows it begins with a blank. -/
theorem isBlank_head? (s : Spelling) {c : Char}
    (hc : (s.operator.symbol.toList ++ (s.behind ++ s.literal)).head? = some c) :
    isBlank c = false := by
  obtain ⟨d, hd, hblank, -⟩ := s.operator.head?_symbol
  rw [List.head?_append, hd] at hc
  cases hc
  exact hblank

/-- What follows the operator starts with a blank or with the literal. -/
theorem head?_behind_ne (h : s.Grammatical) : (s.behind ++ s.literal).head? ≠ some '=' := by
  intro heq
  obtain ⟨d, hd, -, hne⟩ := h.literal.head?
  cases hbehind : s.behind with
  | nil =>
    rw [hbehind, List.nil_append, hd] at heq
    exact hne (Option.some.inj heq)
  | cons b behind =>
    rw [hbehind] at heq
    cases heq
    exact absurd (h.behind_blank '=' (hbehind ▸ List.mem_cons_self)) (by decide)

/-- The field of a spelling is taken from its text. -/
theorem takeWhile_text (h : s.Grammatical) :
    s.text.takeWhile isFieldChar = s.field := by
  simp only [text, List.append_assoc]
  exact takeWhile_append_of_head? h.field_isFieldChar fun _ hc => h.isFieldChar_head? hc

/-- Behind the field the other parts of the spelling are left. -/
theorem dropWhile_text (h : s.Grammatical) :
    s.text.dropWhile isFieldChar =
      s.before ++ (s.operator.symbol.toList ++ (s.behind ++ s.literal)) := by
  simp only [text, List.append_assoc]
  exact dropWhile_append_of_head? h.field_isFieldChar fun _ hc => h.isFieldChar_head? hc

/-- The blanks in front of the operator are those that are skipped there. -/
theorem takeWhile_before (h : s.Grammatical) :
    (s.text.dropWhile isFieldChar).takeWhile isBlank = s.before := by
  rw [h.dropWhile_text]
  exact takeWhile_append_of_head? h.before_blank fun _ hc => isBlank_head? s hc

/-- The operator is read off the text, and what is left are the parts behind it. -/
theorem split?_text (h : s.Grammatical) :
    Operator.split? ((s.text.dropWhile isFieldChar).dropWhile isBlank) =
      some (s.operator, s.behind ++ s.literal) := by
  rw [h.dropWhile_text,
    dropWhile_append_of_head? h.before_blank fun _ hc => isBlank_head? s hc]
  exact s.operator.split?_symbol h.head?_behind_ne

/-- The blanks behind the operator are those that are skipped there. -/
theorem takeWhile_behind (h : s.Grammatical) :
    (s.behind ++ s.literal).takeWhile isBlank = s.behind := by
  obtain ⟨d, hd, hblank, -⟩ := h.literal.head?
  refine takeWhile_append_of_head? h.behind_blank ?_
  intro c hc
  rw [hd] at hc
  cases hc
  exact hblank

/-- Behind the operator and the blanks the literal is left. -/
theorem dropWhile_behind (h : s.Grammatical) :
    (s.behind ++ s.literal).dropWhile isBlank = s.literal := by
  have hcut := List.takeWhile_append_dropWhile (p := isBlank) (l := s.behind ++ s.literal)
  rw [h.takeWhile_behind] at hcut
  exact List.append_cancel_left hcut

end Grammatical

/-- A text can be taken apart in at most one way. -/
theorem eq_of_text_eq {s other : Spelling} (h : s.Grammatical) (hother : other.Grammatical)
    (htext : s.text = other.text) : s = other := by
  -- Each part is cut off the text that both have, and then off the rest that both have.
  have hfield : s.field = other.field := by
    rw [← h.takeWhile_text, htext, hother.takeWhile_text]
  have hbefore : s.before = other.before := by
    rw [← h.takeWhile_before, htext, hother.takeWhile_before]
  have hsplit : some (s.operator, s.behind ++ s.literal) =
      some (other.operator, other.behind ++ other.literal) := by
    rw [← h.split?_text, htext, hother.split?_text]
  have hrest : s.behind ++ s.literal = other.behind ++ other.literal :=
    congrArg Prod.snd (Option.some.inj hsplit)
  have hbehind : s.behind = other.behind := by
    rw [← h.takeWhile_behind, hrest, hother.takeWhile_behind]
  have hliteral : s.literal = other.literal := by
    rw [← h.dropWhile_behind, hrest, hother.dropWhile_behind]
  have hoperator : s.operator = other.operator := congrArg Prod.fst (Option.some.inj hsplit)
  cases s
  cases other
  simp_all

/-- The text of a grammatical spelling is read as its condition. -/
theorem ofChars?_text {s : Spelling} (h : s.Grammatical) :
    Condition.ofChars? s.text = some s.condition := by
  rw [Condition.ofChars?, h.takeWhile_text, if_neg h.field_ne_nil, h.split?_text]
  simp [h.dropWhile_behind, isLiteral_iff.2 h.literal, condition]

/-- A text that is read as a condition is put together from the parts of a grammatical one. -/
theorem exists_of_ofChars? {chars : List Char} {c : Condition}
    (h : Condition.ofChars? chars = some c) :
    ∃ s : Spelling, s.Grammatical ∧ s.text = chars ∧ s.condition = c := by
  rw [Condition.ofChars?] at h
  simp only at h
  split at h
  · cases h
  next hfield =>
    obtain ⟨⟨operator, rest⟩, hsplit, h⟩ := Option.bind_eq_some_iff.1 h
    simp only at h
    split at h
    next hliteral =>
      cases h
      -- The four cuts of the reader give the five parts.
      have hcuts : chars.takeWhile isFieldChar ++
          ((chars.dropWhile isFieldChar).takeWhile isBlank ++
            (operator.symbol.toList ++
              (rest.takeWhile isBlank ++ rest.dropWhile isBlank))) = chars := by
        rw [List.takeWhile_append_dropWhile, ← Operator.eq_of_split? hsplit,
          List.takeWhile_append_dropWhile, List.takeWhile_append_dropWhile]
      refine ⟨⟨chars.takeWhile isFieldChar,
        (chars.dropWhile isFieldChar).takeWhile isBlank, operator,
        rest.takeWhile isBlank, rest.dropWhile isBlank⟩, ⟨hfield, ?_, ?_, ?_, ?_⟩, ?_, rfl⟩
      · intro c hc
        exact isFieldChar_iff.1 (of_mem_takeWhile hc)
      · exact fun _ => of_mem_takeWhile
      · exact fun _ => of_mem_takeWhile
      · exact isLiteral_iff.1 hliteral
      · simpa only [text, List.append_assoc] using hcuts
    next => cases h

end Spelling

namespace Condition

/-- A text is parsed as the condition that its characters are read as. -/
theorem parse_eq_ok_iff {text : String} {c : Condition} :
    parse text = .ok c ↔ ofChars? text.toList = some c := by
  rw [parse, ofText?]
  cases ofChars? text.toList <;> simp

/-- A text that is read as no condition is refused, and named as it is. -/
theorem parse_eq_error {text : String} (h : ofChars? text.toList = none) :
    parse text = .error (.notACondition text) := by
  rw [parse, ofText?, h]

/-- The parser accepts exactly the texts of the grammar. A text is put together in at most one
way, and the condition has the field, the operator and the literal that it is put together from.
Every other text is refused as it stands. -/
theorem parse_spelling (text : String) :
    (∀ c, parse text = .ok c ↔
        ∃ s : Spelling, s.Grammatical ∧ s.text = text.toList ∧ s.condition = c) ∧
      (∀ s other : Spelling, s.Grammatical → other.Grammatical → s.text = text.toList →
        other.text = text.toList → s = other) ∧
      ((¬ ∃ s : Spelling, s.Grammatical ∧ s.text = text.toList) →
        parse text = .error (.notACondition text)) := by
  refine ⟨?_, ?_, ?_⟩
  · intro c
    rw [parse_eq_ok_iff]
    constructor
    · exact Spelling.exists_of_ofChars?
    · rintro ⟨s, hs, htext, rfl⟩
      rw [← htext]
      exact Spelling.ofChars?_text hs
  · intro s other hs hother htext hotherText
    exact Spelling.eq_of_text_eq hs hother (htext.trans hotherText.symm)
  · intro hnone
    -- A condition that is read would have grammatical parts.
    refine parse_eq_error (Option.eq_none_iff_forall_ne_some.2 ?_)
    intro c hc
    obtain ⟨s, hs, htext, -⟩ := Spelling.exists_of_ofChars? hc
    exact hnone ⟨s, hs, htext⟩

end Condition

end RecordSieve
