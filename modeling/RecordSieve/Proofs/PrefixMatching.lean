import RecordSieve.Proofs.Pattern.Correctness
import RecordSieve.Proofs.Conditions
import RecordSieve.Proofs.Pattern.Wrapping
import RecordSieve.Sieve.Basic

/-!
# Matching at the Start

A condition with `=~` asks for a match of its pattern at the start of a field. The pattern is put
into a group as text, and a text can leave that group.

## Main definitions

* `likeSieve`: the sieve of one condition with a pattern;
* `MatchesAtStart`: the patterns that are accepted if they are regular expressions, and then are
  held against the start of the field.

## Main statements

* `matchesAtStart_iff`: these are the patterns that neither close the group around them nor hide
  its end in a comment.
-/

namespace RecordSieve

open Pattern

/-- A pattern between quotes, as the literal of a condition. -/
def quotedPattern (pattern : List Char) : String := String.ofList ('"' :: (pattern ++ ['"']))

/-- The sieve of one condition that holds a field against a pattern. -/
def likeSieve (field : String) (pattern : List Char) : Except Failure Sieve :=
  Condition.parse (field ++ " =~ " ++ quotedPattern pattern) >>= fun condition =>
    Sieve.ofConditions [condition] .all false

/-- Whether a pattern keeps to the limits on nesting and room. -/
def KeepsLimits (pattern : List Char) : Prop :=
  ∀ tree regex, parse? (anchored pattern) = some (tree, regex) → fits tree regex = true

theorem keepsLimits_of_all {pattern : List Char}
    (h : (parse? (anchored pattern)).all (fun (tree, regex) => fits tree regex) = true) :
    KeepsLimits pattern := by
  intro tree regex hparse
  rw [hparse] at h
  exact h

/-- A pattern is one regular expression that is held against the start of a field. -/
structure MatchesAtStart (pattern : List Char) : Prop where
  /-- It is accepted exactly if it is a regular expression by itself. -/
  accepted_iff : ∀ field, IsFieldName field →
    ((∃ sieve, likeSieve field pattern = .ok sieve) ↔ (parse? pattern).isSome = true)
  /-- Exactly those records are kept where it has a match at the start of the field. -/
  keeps_iff : ∀ field sieve tree regex fields value line, IsFieldName field →
    likeSieve field pattern = .ok sieve → parse? pattern = some (tree, regex) →
    fields.get? field = some value →
      ∃ kept, sieve.keeps fields line = .ok kept ∧
        (kept = true ↔ ∃ stop, Regex.Matches regex
          (Place.start (Test.subject value (Scalar.ofJson value)).toList) stop)

variable {pattern : List Char} {field : String}

/-- The sieve of a pattern whose expression keeps to the limits, or the failure that names the
pattern. -/
theorem likeSieve_eq (hquote : '"' ∉ pattern) (hfield : IsFieldName field) :
    likeSieve field pattern =
      match compile? (String.ofList pattern) with
      | some regex => .ok ⟨[⟨⟨field, .like, quotedPattern pattern⟩,
          .string (String.ofList pattern), some regex⟩], .all, false⟩
      | none => .error (.invalidPattern (String.ofList pattern)) := by
  -- The literal is read back from the text of the condition, and the pattern from the literal.
  have hliteral : isLiteral (quotedPattern pattern).toList = true := by
    simp [quotedPattern, isLiteral, hquote]
  have hscalar : Scalar.ofText (quotedPattern pattern) = .string (String.ofList pattern) := by
    simp [quotedPattern, Scalar.ofText, Scalar.ofChars, Scalar.unquote]
  have hparse : Condition.parse (field ++ " =~ " ++ quotedPattern pattern) =
      .ok ⟨field, .like, quotedPattern pattern⟩ := by
    have hread := Condition.parse_render (c := ⟨field, .like, quotedPattern pattern⟩)
      ⟨hfield.1, hfield.2, hliteral⟩
    simpa [Condition.render, Operator.symbol, String.append_assoc] using hread
  rw [likeSieve, hparse]
  show Sieve.ofConditions [⟨field, .like, quotedPattern pattern⟩] .all false = _
  simp only [Sieve.ofConditions, List.mapM_cons, List.mapM_nil, Test.ofCondition, hscalar,
    Scalar.pattern?]
  cases compile? (String.ofList pattern) <;> rfl

/-- The expression of a pattern behind the start of the value, which the limits do not refuse. -/
theorem compile?_eq (hlimits : KeepsLimits pattern) :
    compile? (String.ofList pattern) = (parse? (anchored pattern)).map Prod.snd := by
  rw [compile?, String.toList_ofList, Regex.ofText?]
  cases hparse : parse? (anchored pattern) with
  | none => rfl
  | some parsed =>
    have hfits := hlimits parsed.1 parsed.2 hparse
    simp [hfits]

/-- A condition is accepted exactly if its pattern is one behind the start of the value. -/
theorem exists_likeSieve_iff (hquote : '"' ∉ pattern) (hlimits : KeepsLimits pattern)
    (hfield : IsFieldName field) :
    (∃ sieve, likeSieve field pattern = .ok sieve) ↔
      (parse? (anchored pattern)).isSome = true := by
  rw [likeSieve_eq hquote hfield, compile?_eq hlimits]
  cases parse? (anchored pattern) with
  | none => simp
  | some parsed => simp

/-- The decision of a sieve with one pattern on a record that has the field. -/
theorem keeps_eq {condition : Condition} {literal : Scalar} {regex : Regex} {fields : Fields}
    {value : Json} (hvalue : fields.get? condition.field = some value) (line : Nat) :
    Sieve.keeps ⟨[⟨condition, literal, some regex⟩], .all, false⟩ fields line =
      .ok (regex.isMatch (Test.subject value (Scalar.ofJson value)).toList) := by
  have hrun : Test.run ⟨condition, literal, some regex⟩ fields line =
      .ok (regex.isMatch (Test.subject value (Scalar.ofJson value)).toList) := by
    simp only [Test.run, hvalue]
  rw [Sieve.keeps, List.foldlM_cons, hrun]
  show Except.ok ((true && _) != false) = _
  simp [Aggregation.identity]

/-- An expression in a group behind the start of the text has a match exactly if it has one at
the start. -/
theorem isMatch_wrapped_iff (regex : Regex) (text : List Char) :
    (Regex.seq (.look .textStart) (.group false regex)).isMatch text = true ↔
      ∃ stop, Regex.Matches regex (Place.start text) stop := by
  rw [Regex.isMatch_textStart_iff]
  -- The group itself matches exactly what is in it.
  constructor
  · rintro ⟨stop, h⟩
    cases h with
    | group h => exact ⟨stop, h⟩
  · rintro ⟨stop, h⟩
    exact ⟨stop, .group h⟩

/-- A pattern that is refused and no regular expression by itself. -/
theorem matchesAtStart_of_none (hquote : '"' ∉ pattern) (hlimits : KeepsLimits pattern)
    (halone : parse? pattern = none) (hanchored : parse? (anchored pattern) = none) :
    MatchesAtStart pattern := by
  constructor
  · intro field hfield
    rw [exists_likeSieve_iff hquote hlimits hfield, halone, hanchored]
  · intro field sieve tree regex fields value line hfield hsieve hparse
    rw [halone] at hparse
    cases hparse

/-- A pattern that the group around it keeps as it is. -/
theorem matchesAtStart_of_wrapped (hquote : '"' ∉ pattern) (hlimits : KeepsLimits pattern)
    (hwrapped : parse? (anchored pattern) = (parse? pattern).map fun (tree, regex) =>
      (Node.wrapped tree, .seq (.look .textStart) (.group false regex))) :
    MatchesAtStart pattern := by
  constructor
  · intro field hfield
    rw [exists_likeSieve_iff hquote hlimits hfield, hwrapped, Option.isSome_map]
  · intro field sieve tree regex fields value line hfield hsieve hparse hvalue
    rw [likeSieve_eq hquote hfield, compile?_eq hlimits, hwrapped, hparse] at hsieve
    cases hsieve
    exact ⟨_, keeps_eq hvalue line, isMatch_wrapped_iff regex _⟩

/-- What is accepted is a regular expression by itself. -/
theorem MatchesAtStart.isSome_iff (h : MatchesAtStart pattern) (hquote : '"' ∉ pattern)
    (hlimits : KeepsLimits pattern) :
    (parse? (anchored pattern)).isSome = true ↔ (parse? pattern).isSome = true := by
  have hfield : IsFieldName "f" := ⟨List.cons_ne_nil _ _, List.forall_mem_singleton.2 rfl⟩
  rw [← exists_likeSieve_iff hquote hlimits hfield]
  exact h.accepted_iff "f" hfield

/-- A pattern is held against the start of a field, unless it closes the group around it and is
accepted all the same, or hides the end of that group in a comment and is refused for it. -/
theorem matchesAtStart_iff (hquote : '"' ∉ pattern) (hlimits : KeepsLimits pattern) :
    MatchesAtStart pattern ↔
      ¬ (HasStrayParenthesis pattern ∧ (parse? (anchored pattern)).isSome = true) ∧
        ¬ (EndsInComment pattern ∧ (parse? pattern).isSome = true) := by
  have hparse := parse?_anchored pattern
  unfold HasStrayParenthesis EndsInComment
  cases hending : Token.ending [false] pattern with
  | closed =>
    rw [hending] at hparse
    exact iff_of_true (matchesAtStart_of_wrapped hquote hlimits hparse)
      ⟨fun h => (nomatch h.1), fun h => (nomatch h.1)⟩
  | inComment =>
    rw [hending] at hparse
    -- The pattern is always refused, so the law asks that it is no regular expression.
    constructor
    · intro h
      refine ⟨fun h => (nomatch h.1), ?_⟩
      intro hvalid
      have hanchored := (h.isSome_iff hquote hlimits).2 hvalid.2
      rw [show parse? (anchored pattern) = none from hparse] at hanchored
      cases hanchored
    · rintro ⟨-, hinvalid⟩
      refine matchesAtStart_of_none hquote hlimits ?_ hparse
      apply Option.not_isSome_iff_eq_none.1
      intro hvalid
      exact hinvalid ⟨rfl, hvalid⟩
  | broken =>
    rw [hending] at hparse
    exact iff_of_true (matchesAtStart_of_none hquote hlimits hparse.1 hparse.2)
      ⟨fun h => (nomatch h.1), fun h => (nomatch h.1)⟩
  | stray =>
    rw [hending] at hparse
    -- The pattern is no regular expression, so the law asks that it is refused.
    constructor
    · intro h
      refine ⟨?_, fun h => (nomatch h.1)⟩
      intro haccepted
      have hvalid := (h.isSome_iff hquote hlimits).1 haccepted.2
      rw [show parse? pattern = none from hparse] at hvalid
      cases hvalid
    · rintro ⟨haccepted, -⟩
      refine matchesAtStart_of_none hquote hlimits hparse ?_
      apply Option.not_isSome_iff_eq_none.1
      intro hanchored
      exact haccepted ⟨rfl, hanchored⟩

/-- The group around a pattern keeps its branches together. -/
theorem matchesAtStart_branches :
    '"' ∉ "ab|c".toList ∧ KeepsLimits "ab|c".toList ∧ MatchesAtStart "ab|c".toList := by
  have hquote : '"' ∉ "ab|c".toList := by decide
  have hlimits : KeepsLimits "ab|c".toList := keepsLimits_of_all (by decide +kernel)
  have hending : Token.ending [false] "ab|c".toList = .closed := by decide +kernel
  refine ⟨hquote, hlimits, (matchesAtStart_iff hquote hlimits).2 ⟨?_, ?_⟩⟩
  · rintro ⟨hstray, -⟩
    exact absurd (hending.symm.trans hstray) (by decide)
  · rintro ⟨hcomment, -⟩
    exact absurd (hending.symm.trans hcomment) (by decide)

/-- A pattern that closes the group around it is accepted though it is no regular expression, and
its second branch matches behind the start of a field. A pattern that ends in a comment is refused
though it is a regular expression. -/
theorem not_matchesAtStart_stray :
    (∃ sieve, likeSieve "f" "a)|(?:b".toList = .ok sieve ∧
      sieve.keeps [("f", .string "xb")] 1 = .ok true) ∧
      ¬ MatchesAtStart "a)|(?:b".toList ∧ ¬ MatchesAtStart "(?x)a # c".toList := by
  have hfield : IsFieldName "f" := ⟨List.cons_ne_nil _ _, List.forall_mem_singleton.2 rfl⟩
  have hlimits : KeepsLimits "a)|(?:b".toList := keepsLimits_of_all (by decide +kernel)
  have hstray : (parse? (anchored "a)|(?:b".toList)).isSome = true ∧
      (parse? "a)|(?:b".toList).isSome = false := by decide +kernel
  have hlimits' : KeepsLimits "(?x)a # c".toList := keepsLimits_of_all (by decide +kernel)
  have hcomment : (parse? (anchored "(?x)a # c".toList)).isSome = false ∧
      (parse? "(?x)a # c".toList).isSome = true := by decide +kernel
  refine ⟨?_, ?_, ?_⟩
  · -- The second alternative of what is spliced is free to match anywhere.
    have hmatch : (compile? (String.ofList "a)|(?:b".toList)).map (·.isMatch "xb".toList) =
        some true := by decide +kernel
    obtain ⟨regex, hregex, hmatches⟩ := Option.map_eq_some_iff.1 hmatch
    rw [likeSieve_eq (by decide) hfield, hregex]
    refine ⟨_, rfl, ?_⟩
    have hvalue : Fields.get? [("f", .string "xb")] "f" = some (.string "xb") := rfl
    have hsubject : Test.subject (.string "xb") (Scalar.ofJson (.string "xb")) = "xb" := rfl
    rw [keeps_eq hvalue, hsubject, hmatches]
  · intro h
    have hvalid := (h.isSome_iff (by decide) hlimits).1 hstray.1
    rw [hstray.2] at hvalid
    cases hvalid
  · intro h
    have haccepted := (h.isSome_iff (by decide) hlimits').2 hcomment.2
    rw [hcomment.1] at haccepted
    cases haccepted

end RecordSieve
