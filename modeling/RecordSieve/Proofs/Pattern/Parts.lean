import RecordSieve.Pattern.Token

/-!
# Parts in front of a Closing Parenthesis

What a closing parenthesis behind a text changes when a part of the text is read. A part that is
complete is read as before, with the parenthesis left behind it. A part that is not complete is not
completed by the parenthesis, or takes it as the last that it lacks, so that nothing is left to be
read. Only a comment may hide the parenthesis.

## Main definitions

* `Kept`: the two results of reading a part, without and with the parenthesis;
* `Loose`: the same for parts behind which blanks are skipped;
* `openComment`: blanks are skipped up to the end of a text, inside of a comment.

## Main statements

* `Kept.bind`, `Loose.bind`: reading on behind a part;
* `skip_append_closing`: skipping blanks in front of the parenthesis.
-/

namespace RecordSieve.Pattern

variable {α β : Type}

/-- The results of reading a part of a text without and with a closing parenthesis behind it. -/
inductive Kept : Option (α × List Char) → Option (α × List Char) → Prop
  /-- The same is read, and the parenthesis is left. -/
  | same (x : α) (rest : List Char) : Kept (some (x, rest)) (some (x, rest ++ [')']))
  | refused : Kept none none
  /-- The parenthesis is taken for what is missing, and nothing is left. -/
  | completed (x : α) : Kept none (some (x, []))

/-- The same, where the parenthesis may also be lost in a comment behind the part. -/
inductive Loose : Option (α × List Char) → Option (α × List Char) → Prop
  | same (x : α) (rest : List Char) : Loose (some (x, rest)) (some (x, rest ++ [')']))
  | refused : Loose none none
  | completed (x : α) : Loose none (some (x, []))
  /-- The parenthesis is in a comment that reaches up to the end. -/
  | lost (x : α) : Loose (some (x, [])) (some (x, []))

namespace Kept

variable {a b : Option (α × List Char)}

/-- A part that is complete is read as it was. -/
theorem eq_of_some {x : α} {rest : List Char} (h : Kept (some (x, rest)) b) :
    b = some (x, rest ++ [')']) := by
  cases h
  rfl

/-- What is kept without blanks behind it is kept with them. -/
theorem loose (h : Kept a b) : Loose a b := by
  cases h with
  | same x rest => exact .same x rest
  | refused => exact .refused
  | completed x => exact .completed x

/-- The value that is read may be put in another form. -/
theorem map (h : Kept a b) (f : α → β) :
    Kept (a.map fun (x, rest) => (f x, rest)) (b.map fun (x, rest) => (f x, rest)) := by
  cases h with
  | same x rest => exact .same (f x) rest
  | refused => exact .refused
  | completed x => exact .completed (f x)

/-- A part that is read may be refused for what it holds, or be read on from. -/
theorem bind (h : Kept a b) {g : α × List Char → Option (β × List Char)}
    (hg : ∀ x rest, Kept (g (x, rest)) (g (x, rest ++ [')'])))
    (hend : ∀ x, Kept none (g (x, []))) : Kept (a >>= g) (b >>= g) := by
  cases h with
  | same x rest => exact hg x rest
  | refused => exact .refused
  | completed x => exact hend x

/-- A check of the value that is read leaves what stands behind it. -/
theorem check (check : Option α) (f : α → β) (rest : List Char) :
    Kept (check >>= fun x => some (f x, rest)) (check >>= fun x => some (f x, rest ++ [')'])) := by
  cases check with
  | none => exact .refused
  | some x => exact .same (f x) rest

/-- A check of a value that the parenthesis completed. -/
theorem completed_check (check : Option α) (f : α → β) :
    Kept none (check >>= fun x => some (f x, [])) := by
  cases check with
  | none => exact .refused
  | some x => exact .completed (f x)

end Kept

namespace Loose

variable {a b : Option (α × List Char)}

theorem map (h : Loose a b) (f : α → β) :
    Loose (a.map fun (x, rest) => (f x, rest)) (b.map fun (x, rest) => (f x, rest)) := by
  cases h with
  | same x rest => exact .same (f x) rest
  | refused => exact .refused
  | completed x => exact .completed (f x)
  | lost x => exact .lost (f x)

/-- A part behind which something has to follow is read with what follows. -/
theorem bind_kept (h : Loose a b) {g : α × List Char → Option (β × List Char)}
    (hg : ∀ x rest, Kept (g (x, rest)) (g (x, rest ++ [')'])))
    (hend : ∀ x, g (x, []) = none) : Kept (a >>= g) (b >>= g) := by
  cases h with
  | same x rest => exact hg x rest
  | refused => exact .refused
  | completed x =>
    -- Nothing is left for what has to follow.
    show Kept none (g (x, []))
    rw [hend x]
    exact .refused
  | lost x =>
    show Kept (g (x, [])) (g (x, []))
    rw [hend x]
    exact .refused

/-- A part behind which something may follow is read with what follows. -/
theorem bind (h : Loose a b) {g : α × List Char → Option (β × List Char)}
    (hg : ∀ x rest, Loose (g (x, rest)) (g (x, rest ++ [')'])))
    (hend : ∀ x, Loose none (g (x, [])) ∧ Loose (g (x, [])) (g (x, []))) :
    Loose (a >>= g) (b >>= g) := by
  cases h with
  | same x rest => exact hg x rest
  | refused => exact .refused
  | completed x => exact (hend x).1
  | lost x => exact (hend x).2

/-- A check of the value in front of a comment that reaches up to the end. -/
theorem lost_check (check : Option α) (f : α → β) :
    Loose (check >>= fun x => some (f x, [])) (check >>= fun x => some (f x, [])) := by
  cases check with
  | none => exact .refused
  | some x => exact .lost (f x)

end Loose

/-! ### Blanks -/

/-- Whether dropping blanks and comments ends inside of a comment. -/
def endsInComment (inComment : Bool) : List Char → Bool
  | [] => inComment
  | c :: rest =>
      if inComment then endsInComment (c ≠ '\n') rest
      else if isBlank c then endsInComment false rest
      else if c = '#' then endsInComment true rest
      else false

/-- Whether blanks are skipped up to the end of a text, inside of a comment. -/
def openComment (verbose : Bool) (text : List Char) : Bool := verbose && endsInComment false text

/-- The parenthesis is dropped with a comment that reaches up to the end. -/
theorem dropComments_append_closing (inComment : Bool) (text : List Char) :
    dropComments inComment (text ++ [')']) =
      if endsInComment inComment text then [] else dropComments inComment text ++ [')'] := by
  -- The line end of a comment decides whether what follows is part of it.
  induction text generalizing inComment with
  | nil =>
    cases inComment
    · rfl
    · rfl
  | cons c rest ih =>
    simp only [List.cons_append, dropComments, endsInComment]
    split
    · exact ih _
    · split
      · exact ih _
      · split
        · exact ih _
        · rfl

/-- In front of a comment that reaches up to the end, nothing is left. -/
theorem dropComments_of_endsInComment {inComment : Bool} {text : List Char}
    (h : endsInComment inComment text = true) : dropComments inComment text = [] := by
  induction text generalizing inComment with
  | nil => rfl
  | cons c rest ih =>
    simp only [dropComments, endsInComment] at h ⊢
    split at h
    next hcomment => rw [if_pos hcomment, ih h]
    next hcomment =>
      rw [if_neg hcomment]
      split at h
      next hblank => rw [if_pos hblank, ih h]
      next hblank =>
        rw [if_neg hblank]
        split at h
        next hsign => rw [if_pos hsign, ih h]
        next => cases h

/-- A parenthesis stays behind what is left when blanks are skipped, but not in a comment. -/
theorem skip_append_closing (verbose : Bool) (text : List Char) :
    skip verbose (text ++ [')']) =
      if openComment verbose text then [] else skip verbose text ++ [')'] := by
  cases verbose with
  | false => rfl
  | true => exact dropComments_append_closing false text

/-- Where blanks are skipped up to the end, nothing is left. -/
theorem skip_of_openComment {verbose : Bool} {text : List Char}
    (h : openComment verbose text = true) : skip verbose text = [] := by
  cases verbose with
  | false => cases h
  | true => exact dropComments_of_endsInComment h

/-- The two cases of skipping blanks in front of a parenthesis. -/
theorem skip_cases (verbose : Bool) (text : List Char) :
    skip verbose (text ++ [')']) = skip verbose text ++ [')'] ∨
      skip verbose text = [] ∧ skip verbose (text ++ [')']) = [] := by
  rw [skip_append_closing]
  cases h : openComment verbose text with
  | false => exact .inl rfl
  | true => exact .inr ⟨skip_of_openComment h, rfl⟩

/-- An empty text has no blanks. -/
theorem skip_nil (verbose : Bool) : skip verbose [] = [] := by
  cases verbose <;> rfl

/-- What is read behind blanks is read alike if nothing is read from an empty text. -/
theorem kept_skip {f : List Char → Option (α × List Char)} (verbose : Bool)
    (hf : ∀ text, Kept (f text) (f (text ++ [')']))) (hend : f [] = none) (text : List Char) :
    Kept (f (skip verbose text)) (f (skip verbose (text ++ [')']))) := by
  rcases skip_cases verbose text with h | ⟨h, h'⟩
  · rw [h]
    exact hf _
  · rw [h, h', hend]
    exact .refused

/-- A part may be read behind blanks. -/
theorem loose_skip {f : List Char → Option (α × List Char)} (verbose : Bool)
    (hf : ∀ text, Loose (f text) (f (text ++ [')']))) (hend : Loose (f []) (f []))
    (text : List Char) : Loose (f (skip verbose text)) (f (skip verbose (text ++ [')']))) := by
  rcases skip_cases verbose text with h | ⟨h, h'⟩
  · rw [h]
    exact hf _
  · rw [h, h']
    exact hend

/-- Blanks behind a part are skipped. -/
theorem loose_skip_behind (verbose : Bool) {a b : Option (α × List Char)} (h : Loose a b) :
    Loose (a.map fun (x, rest) => (x, skip verbose rest))
      (b.map fun (x, rest) => (x, skip verbose rest)) := by
  cases h with
  | same x rest =>
    simp only [Option.map_some]
    rcases skip_cases verbose rest with h | ⟨h, h'⟩
    · rw [h]
      exact .same x _
    · rw [h, h']
      exact .lost x
  | refused => exact .refused
  | completed x =>
    simp only [Option.map_some, skip_nil]
    exact .completed x
  | lost x =>
    simp only [Option.map_some, skip_nil]
    exact .lost x

end RecordSieve.Pattern
