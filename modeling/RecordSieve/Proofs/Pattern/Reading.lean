import RecordSieve.Proofs.Pattern.Parts

/-!
# Reading Tokens in front of a Closing Parenthesis

For each function that reads a part of a pattern, what a closing parenthesis behind the text
changes: the parts inside of brackets, braces and groups, and from them the tokens.

## Main statements

* `kept_escape?`, `kept_set?`, `kept_group?`, `kept_counted?`: the parts that begin with a sign of
  their own;
* `kept_read?`: reading a token in front of the parenthesis.
-/

namespace RecordSieve.Pattern

/-! ### Numbers and names -/

/-- A run of characters that the parenthesis does not belong to ends where it did. -/
theorem takeWhile_append_closing {p : Char → Bool} (hp : p ')' = false) (text : List Char) :
    (text ++ [')']).takeWhile p = text.takeWhile p := by
  induction text with
  | nil => simp [hp]
  | cons c rest ih => simp only [List.cons_append, List.takeWhile_cons, ih]

/-- Behind such a run the parenthesis is left with the rest. -/
theorem dropWhile_append_closing {p : Char → Bool} (hp : p ')' = false) (text : List Char) :
    (text ++ [')']).dropWhile p = text.dropWhile p ++ [')'] := by
  induction text with
  | nil => simp [hp]
  | cons c rest ih =>
    simp only [List.cons_append, List.dropWhile_cons, ih]
    split <;> rfl

/-- Nothing is taken from an empty text. -/
theorem takeSpaced_nil (kind : Char → Bool) (verbose : Bool) :
    takeSpaced kind verbose [] = ([], []) := by
  rw [takeSpaced]

/-- Characters of a kind are taken alike if the parenthesis is not of that kind. -/
theorem loose_takeSpaced (kind : Char → Bool) (hclosing : kind ')' = false) (verbose : Bool)
    (text : List Char) :
    Loose (some (takeSpaced kind verbose text))
      (some (takeSpaced kind verbose (text ++ [')']))) := by
  -- Induction on the characters that are taken; the parenthesis ends them in any case.
  fun_induction takeSpaced kind verbose text with
  | case1 c rest hkind taken others hbehind ih =>
    rw [List.cons_append, takeSpaced, if_pos hkind]
    rw [hbehind] at ih
    rcases skip_cases verbose rest with h | ⟨h, h'⟩
    · rw [h]
      exact ih.map (c :: ·)
    · -- A comment reaches up to the end, so this was the last character of the kind.
      rw [h, takeSpaced_nil] at hbehind
      rw [h', takeSpaced_nil]
      cases hbehind
      exact .lost [c]
  | case2 c rest hkind =>
    rw [List.cons_append, takeSpaced, if_neg hkind]
    exact .same [] (c :: rest)
  | case3 =>
    rw [List.nil_append, takeSpaced, if_neg (ne_true_of_eq_false hclosing)]
    exact .same [] []

/-- A number of repetitions is not missing. -/
theorem count?_nil (verbose : Bool) : count? verbose [] = none := by
  simp [count?, takeSpaced_nil]

/-- The digits of a number are told from the parenthesis, which only a comment behind them can
hide. -/
theorem loose_count? (verbose : Bool) (text : List Char) :
    Loose (count? verbose text) (count? verbose (text ++ [')'])) := by
  have hdigits := loose_takeSpaced Char.isDigit rfl verbose (text.dropWhile isBlank)
  unfold count?
  -- The digits are the same, so that only what stands behind them is to be looked at.
  rw [dropWhile_append_closing (by decide) text]
  generalize takeSpaced Char.isDigit verbose (text.dropWhile isBlank) = a at hdigits ⊢
  generalize takeSpaced Char.isDigit verbose (text.dropWhile isBlank ++ [')']) = b at hdigits ⊢
  cases hdigits with
  | same digits rest =>
    simp only [dropWhile_append_closing (p := isBlank) (by decide) rest]
    split
    · exact loose_skip_behind verbose (.same _ (rest.dropWhile isBlank))
    · exact .refused
  | lost digits =>
    simp only [List.dropWhile_nil, skip_nil]
    split
    · exact .lost _
    · exact .refused

/-- A name ends in front of an angle bracket, which a parenthesis is not. -/
theorem kept_groupName? (text : List Char) :
    Kept (groupName? text) (groupName? (text ++ [')'])) := by
  have hspan := text.takeWhile_append_dropWhile (p := (· ≠ '>'))
  unfold groupName?
  rw [List.dropWhile_append, List.takeWhile_append]
  cases hrest : text.dropWhile (· ≠ '>') with
  | nil =>
    -- Without an angle bracket the parenthesis belongs to the name, which does not end.
    exact .refused
  | cons c rest =>
    have hshort : (text.takeWhile (· ≠ '>')).length ≠ text.length := by
      intro hlength
      rw [hrest] at hspan
      have := congrArg List.length hspan
      simp only [List.length_append, List.length_cons] at this
      omega
    rw [if_neg hshort]
    cases text.takeWhile (· ≠ '>') with
    | nil => exact .refused
    | cons first others =>
      simp only [List.isEmpty_cons, Bool.false_eq_true, if_false, List.cons_append]
      split
      · exact .same _ rest
      · exact .refused

/-! ### Escapes -/

/-- The parenthesis is no digit, so it does not complete a character that is written in digits. -/
theorem kept_fixedHex? (verbose : Bool) (n : Nat) (text : List Char) :
    Kept (fixedHex? verbose n text) (fixedHex? verbose n (text ++ [')'])) := by
  induction n generalizing text with
  | zero => exact .same [] text
  | succ n ih =>
    simp only [fixedHex?]
    rcases skip_cases verbose text with h | ⟨h, h'⟩
    · rw [h]
      cases skip verbose text with
      | nil =>
        -- The parenthesis is no digit.
        exact .refused
      | cons c rest =>
        simp only [List.cons_append]
        split
        · exact (ih rest).map (c :: ·)
        · exact .refused
    · rw [h, h']
      exact .refused

/-- What braces hold in front of a character that is not a blank. -/
theorem braced?_of_skip {verbose : Bool} {text rest : List Char} {c : Char}
    (h : skip verbose text = c :: rest) :
    braced? verbose text =
      if c = '\x7d' then some ([], rest)
      else (braced? verbose rest).map fun (inner, rest) => (c :: inner, rest) := by
  rw [braced?]
  split
  next h' => rw [h] at h'; cases h'
  next c' rest' h' =>
    rw [h] at h'
    cases h'
    rfl

/-- Braces are not closed by the end of the text. -/
theorem braced?_of_skip_nil {verbose : Bool} {text : List Char} (h : skip verbose text = []) :
    braced? verbose text = none := by
  rw [braced?]
  split
  next => rfl
  next h' => rw [h] at h'; cases h'

/-- The parenthesis may stand in braces, but it does not close them. -/
theorem kept_braced? (verbose : Bool) (text : List Char) :
    Kept (braced? verbose text) (braced? verbose (text ++ [')'])) := by
  -- Induction on the length, as blanks are skipped in front of each character.
  induction hlength : text.length using Nat.strongRecOn generalizing text with
  | ind n ih =>
    rcases skip_cases verbose text with h | ⟨h, h'⟩
    · cases hskip : skip verbose text with
      | nil =>
        -- The parenthesis is read as part of the inside, which has no closing brace.
        rw [hskip] at h
        rw [braced?_of_skip_nil hskip, braced?_of_skip h, if_neg (by decide),
          braced?_of_skip_nil (skip_nil verbose)]
        exact .refused
      | cons c rest =>
        rw [hskip] at h
        rw [braced?_of_skip hskip, braced?_of_skip h]
        split
        · exact .same [] rest
        · exact (ih _ (hlength ▸ length_lt_of_skip_eq hskip) rest rfl).map (c :: ·)
    · rw [braced?_of_skip_nil h, braced?_of_skip_nil h']
      exact .refused

/-- A character is written in braces or in a fixed number of digits, and the parenthesis ends
neither. -/
theorem kept_hexLiteral? (verbose : Bool) (digits : Nat) (text : List Char) :
    Kept (hexLiteral? verbose digits text) (hexLiteral? verbose digits (text ++ [')'])) := by
  -- A fixed number of digits is read from the text with the blanks in front of it.
  have hfixed : Kept
      (fixedHex? verbose digits text >>= fun (inner, rest) =>
        charOfHex? inner >>= fun c => some (Primitive.literal ⟨c, digits = 2⟩, rest))
      (fixedHex? verbose digits (text ++ [')']) >>= fun (inner, rest) =>
        charOfHex? inner >>= fun c => some (Primitive.literal ⟨c, digits = 2⟩, rest)) :=
    (kept_fixedHex? verbose digits text).bind (fun inner rest => .check _ _ rest)
      fun inner => .completed_check _ _
  unfold hexLiteral?
  rcases skip_cases verbose text with h | ⟨h, h'⟩
  · rw [h]
    cases skip verbose text with
    | nil => exact hfixed
    | cons c behind =>
      rw [List.cons_append]
      by_cases hbrace : c = '\x7b'
      · subst hbrace
        refine (kept_braced? verbose behind).bind (fun inner rest => ?_) fun inner => ?_
        · dsimp only
          split
          · exact .check _ _ rest
          · exact .refused
        · dsimp only
          split
          · exact .completed_check _ _
          · exact .refused
      · split
        next heq => exact absurd (List.cons.inj heq).1 hbrace
        next =>
          split
          next heq => exact absurd (List.cons.inj heq).1 hbrace
          next => exact hfixed
  · rw [h, h']
    exact hfixed

/-- The parenthesis may be taken for the name of a property of one letter. -/
theorem kept_property? (verbose negated : Bool) (text : List Char) :
    Kept (property? verbose negated text) (property? verbose negated (text ++ [')'])) := by
  unfold property?
  rcases skip_cases verbose text with h | ⟨h, h'⟩
  · rw [h]
    cases skip verbose text with
    | nil =>
      -- The parenthesis is the name of a property; that there is none comes out later.
      exact .completed _
    | cons c behind =>
      rw [List.cons_append]
      by_cases hbrace : c = '\x7b'
      · subst hbrace
        exact (kept_braced? verbose behind).bind (fun inner rest => .same _ rest)
          fun inner => .completed _
      · simp only
        split
        · exact .refused
        · exact .same _ behind
  · rw [h, h']
    exact .refused

/-- The name of a side of a word is closed by a brace only. -/
theorem kept_closedSide? (name rest : List Char) :
    Kept (closedSide? (name, rest)) (closedSide? (name, rest ++ [')'])) := by
  cases rest with
  | nil => exact .refused
  | cons c behind =>
    by_cases hbrace : c = '\x7d'
    · subst hbrace
      exact .check (wordSide? name) id behind
    · have hnone (rest : List Char) : closedSide? (name, c :: rest) = none := by
        simp [closedSide?, hbrace]
      rw [List.cons_append, hnone, hnone]
      exact .refused

/-- A boundary of words ends at once or with the brace that names a side of the word. -/
theorem kept_boundary? (verbose : Bool) (text : List Char) :
    Kept (boundary? verbose text) (boundary? verbose (text ++ [')'])) := by
  cases text with
  | nil => exact .same _ []
  | cons c inner =>
    by_cases hbrace : c = '\x7b'
    · subst hbrace
      simp only [boundary?, List.cons_append]
      rcases skip_cases verbose inner with h | ⟨h, h'⟩
      · rw [h]
        cases skip verbose inner with
        | nil => exact .same _ _
        | cons c rest =>
          simp only [List.cons_append]
          split
          · -- A name is behind the brace, so a closing brace has to follow.
            exact (loose_takeSpaced isBoundaryChar rfl verbose (c :: rest)).bind_kept
              kept_closedSide? fun name => rfl
          · exact .same _ _
      · rw [h, h']
        exact .same _ _
    · have hplain (rest : List Char) :
          boundary? verbose (c :: rest) = some (.wordBoundary, c :: rest) := by
        simp [boundary?, hbrace]
      rw [List.cons_append, hplain, hplain]
      exact .same _ (c :: inner)

/-- A backslash at the end of the text escapes the parenthesis; any other escape is read alike. -/
theorem kept_escape? (verbose : Bool) (text : List Char) :
    Kept (escape? verbose text) (escape? verbose (text ++ [')'])) := by
  cases text with
  | nil =>
    -- A backslash at the end takes the parenthesis as a literal.
    exact .completed _
  | cons c rest =>
    simp only [escape?, List.cons_append]
    split
    · exact .same _ rest
    · split
      all_goals first
        | exact .same _ rest
        | exact kept_hexLiteral? verbose _ rest
        | exact kept_property? verbose _ rest
        | exact (kept_boundary? verbose rest).map _
        | exact .refused

/-! ### Bracketed classes -/

/-- The parenthesis is no colon, so a text is cut at the same place. -/
theorem cutAt?_append_closing (text : List Char) :
    cutAt? [':'] (text ++ [')']) =
      (cutAt? [':'] text).map fun (before, behind) => (before, behind ++ [')']) := by
  induction text with
  | nil => rfl
  | cons c rest ih =>
    by_cases hcolon : c = ':'
    · subst hcolon
      rfl
    · have hcut (rest : List Char) : cutAt? [':'] (c :: rest) =
          (cutAt? [':'] rest).map fun (before, behind) => (c :: before, behind) := by
        simp [cutAt?, Ne.symm hcolon]
      rw [List.cons_append, hcut, hcut, ih]
      cases cutAt? [':'] rest <;> rfl

/-- The name of a class is read alike between its brackets. -/
theorem asciiName?_append_closing (negated : Bool) (inner : List Char) :
    asciiName? negated (inner ++ [')']) =
      (asciiName? negated inner).map fun (item, rest) => (item, rest ++ [')']) := by
  unfold asciiName?
  rw [cutAt?_append_closing]
  rcases cutAt? [':'] inner with _ | ⟨name, _ | ⟨c, rest⟩⟩
  · rfl
  · rfl
  · by_cases hbracket : c = ']'
    · subst hbracket
      cases h : asciiClasses.lookup (String.ofList name) <;> simp [h]
    · simp [hbracket]

/-- A named class is told from an open bracket alike. -/
theorem asciiClass?_append_closing (text : List Char) :
    asciiClass? (text ++ [')']) =
      (asciiClass? text).map fun (item, rest) => (item, rest ++ [')']) := by
  rcases text with _ | ⟨c, _ | ⟨d, inner⟩⟩
  · rfl
  · by_cases hcolon : c = ':'
    · subst hcolon
      rfl
    · simp [asciiClass?, hcolon]
  · by_cases hcolon : c = ':'
    · subst hcolon
      by_cases hsign : d = '^'
      · subst hsign
        exact asciiName?_append_closing true inner
      · have hname := asciiName?_append_closing false (d :: inner)
        simpa [asciiClass?, hsign] using hname
    · simp [asciiClass?, hcolon]

/-- In front of the first character that is no blank, blanks and comments are passed over alike. -/
theorem peekBehind_go_append_closing {c : Char} (hclosing : c ≠ ')') (behind : List Char)
    (hhead : behind.head? ≠ some c) (inComment : Bool) (text : List Char) :
    peekBehind.go (behind ++ [')']) inComment (text ++ [')']) = some c ↔
      peekBehind.go behind inComment text = some c := by
  induction text generalizing inComment with
  | nil =>
    -- Nothing but blanks stands behind the hyphen: the parenthesis is found, and without it the
    -- character at the start.
    have hstop : peekBehind.go (behind ++ [')']) inComment [')'] = some ')' := by
      simp [peekBehind.go, show isBlank ')' = false by decide]
    rw [List.nil_append, hstop, peekBehind.go]
    exact ⟨fun h => absurd (Option.some.inj h).symm hclosing, fun h => absurd h hhead⟩
  | cons d rest ih =>
    simp only [List.cons_append, peekBehind.go]
    split
    · exact ih _
    · split
      · exact ih _
      · rfl

/-- What stands behind a hyphen is told alike, unless it is the parenthesis. -/
theorem peekBehind_append_closing (verbose : Bool) (behind : List Char) {c : Char}
    (hclosing : c ≠ ')') (hblank : isBlank c = false) (hsign : c ≠ '#') :
    peekBehind verbose ('-' :: behind ++ [')']) = some c ↔
      peekBehind verbose ('-' :: behind) = some c := by
  cases verbose with
  | false =>
    show (behind ++ [')']).head? = some c ↔ behind.head? = some c
    cases behind with
    | nil => simpa using Ne.symm hclosing
    | cons d rest => rfl
  | true =>
    show peekBehind.go (behind ++ [')']) false (behind ++ [')']) = some c ↔
      peekBehind.go behind false behind = some c
    by_cases hhead : behind.head? = some c
    · -- The character is found at once, with or without the parenthesis.
      cases behind with
      | nil => cases hhead
      | cons d rest =>
        cases hhead
        simp [peekBehind.go, hblank, hsign]
    · exact peekBehind_go_append_closing hclosing behind hhead false behind

/-- A first character of a class is the parenthesis only if the text is empty. -/
theorem kept_setPrimitive? (verbose : Bool) (text : List Char) :
    Kept (setPrimitive? verbose text) (setPrimitive? verbose (text ++ [')'])) := by
  cases text with
  | nil => exact .completed _
  | cons c rest =>
    by_cases hslash : c = '\\'
    · subst hslash
      exact kept_escape? verbose rest
    · have hliteral (rest : List Char) :
          setPrimitive? verbose (c :: rest) = some (.literal ⟨c, false⟩, rest) := by
        simp [setPrimitive?]
      rw [List.cons_append, hliteral, hliteral]
      exact .same _ rest

/-- Whether a hyphen makes a range is decided alike, and the parenthesis may be its second end. -/
theorem kept_itemFrom? (verbose : Bool) (first : Primitive) (text : List Char) :
    Kept (itemFrom? verbose first text) (itemFrom? verbose first (text ++ [')'])) := by
  cases text with
  | nil => exact .check _ _ []
  | cons c behind =>
    by_cases hhyphen : c = '-'
    · subst hhyphen
      have hbracket := peekBehind_append_closing verbose behind (c := ']') (by decide)
        (by decide) (by decide)
      have hagain := peekBehind_append_closing verbose behind (c := '-') (by decide)
        (by decide) (by decide)
      rw [List.cons_append] at hbracket hagain ⊢
      simp only [itemFrom?, hbracket, hagain]
      -- Whether the hyphen makes a range is decided alike.
      split
      · exact .check _ _ ('-' :: behind)
      · exact (kept_skip verbose (kept_setPrimitive? verbose) rfl behind).bind
          (fun second rest => .check _ _ rest) fun second => .completed_check _ _
    · have hsingle (rest : List Char) : itemFrom? verbose first (c :: rest) =
          (SetItem.ofPrimitive? first >>= fun item => some (item, c :: rest)) := by
        simp [itemFrom?, hhyphen]
      rw [List.cons_append, hsingle, hsingle]
      exact .check _ _ (c :: behind)

/-- A member of a class is read alike, with the blanks behind its first character. -/
theorem loose_setItem? (verbose : Bool) (text : List Char) :
    Loose (setItem? verbose text) (setItem? verbose (text ++ [')'])) := by
  refine (kept_setPrimitive? verbose text).loose.bind (fun first rest => ?_) fun first => ?_
  · exact loose_skip verbose (fun text => (kept_itemFrom? verbose first text).loose)
      (.lost_check _ _) rest
  · -- Nothing is left behind the first primitive, which then is the member.
    simp only [skip_nil]
    exact ⟨(Kept.completed_check _ _).loose, .lost_check _ _⟩

/-- The sign of a negated class is read alike. -/
theorem loose_negation (verbose : Bool) (text : List Char) :
    Loose (some (negation verbose text)) (some (negation verbose (text ++ [')']))) := by
  unfold negation
  rcases skip_cases verbose text with h | ⟨h, h'⟩
  · rw [h]
    cases skip verbose text with
    | nil => exact .same false []
    | cons c rest =>
      rw [List.cons_append]
      by_cases hsign : c = '^'
      · subst hsign
        exact loose_skip_behind verbose (.same true rest)
      · simpa [hsign] using Loose.same false (c :: rest)
  · rw [h, h']
    exact .lost false

/-- At the end of the text only the hyphens are members. -/
theorem firstMembers_nil (verbose : Bool) (hyphens : List Char) :
    firstMembers verbose (hyphens, []) =
      (hyphens.map fun c => .item (.literal ⟨c, false⟩), []) := by
  cases hyphens <;> rfl

/-- A closing bracket that comes first is a member, and the parenthesis is none. -/
theorem loose_firstMembers (verbose : Bool) (hyphens text : List Char) :
    Loose (some (firstMembers verbose (hyphens, text)))
      (some (firstMembers verbose (hyphens, text ++ [')']))) := by
  cases hyphens with
  | cons hyphen hyphens => exact .same _ text
  | nil =>
    cases text with
    | nil => exact .same _ []
    | cons c rest =>
      rw [List.cons_append]
      by_cases hbracket : c = ']'
      · subst hbracket
        exact loose_skip_behind verbose (.same _ rest)
      · have hother (rest : List Char) :
            firstMembers verbose ([], c :: rest) = ([], c :: rest) := by
          simp [firstMembers, hbracket]
        rw [hother, hother]
        exact .same [] (c :: rest)

/-- A class is opened alike: its sign, the hyphens in front and a bracket that comes first. -/
theorem loose_openSet (verbose : Bool) (text : List Char) :
    Loose (some (openSet verbose text)) (some (openSet verbose (text ++ [')']))) := by
  -- The three parts of the start are read one behind the other.
  refine (loose_negation verbose text).bind (g := fun start =>
    some (takeSpaced (· = '-') verbose start.2) >>= fun hyphens =>
      some (firstMembers verbose hyphens) >>= fun members =>
        some (SetToken.opening start.1 :: members.1, members.2)) (fun negated text => ?_)
    fun negated => ?_
  · refine (loose_takeSpaced (· = '-') rfl verbose text).bind (fun hyphens rest => ?_)
      fun hyphens => ?_
    · exact (loose_firstMembers verbose hyphens rest).map (SetToken.opening negated :: ·)
    · rw [firstMembers_nil]
      exact ⟨.completed _, .lost _⟩
  · simp only [takeSpaced_nil]
    exact ⟨.completed _, .lost _⟩

/-- The parenthesis is no sign of an operation between classes. -/
theorem setOperation?_append_closing (text : List Char) :
    setOperation? (text ++ [')']) =
      (setOperation? text).map fun (operation, rest) => (operation, rest ++ [')']) := by
  rcases text with _ | ⟨c, _ | ⟨d, rest⟩⟩
  · rfl
  · by_cases h : c = ')'
    · subst h
      rfl
    · simp [setOperation?, h]
  · by_cases h : c = d
    · simp [setOperation?, h, Function.comp_def]
    · simp [setOperation?, h]

/-- An operation or a member is read alike. -/
theorem loose_setToken? (verbose : Bool) (text : List Char) :
    Loose (setToken? verbose text) (setToken? verbose (text ++ [')'])) := by
  unfold setToken?
  rw [setOperation?_append_closing]
  cases setOperation? text with
  | some operation => exact .same _ operation.2
  | none => exact (loose_setItem? verbose text).map SetToken.item

/-- A text whose first character is not a bracket goes on with an operation or a member. -/
theorem setTokens?_of_ne (verbose : Bool) (depth : Nat) {c : Char} (rest : List Char)
    (hopening : c ≠ '[') (hclosing : c ≠ ']') :
    setTokens? verbose depth (c :: rest) =
      (setToken? verbose (c :: rest)).map fun (token, rest) => (([token], depth + 1), rest) := by
  simp [setTokens?, hopening, hclosing]

/-- The next tokens of a class open or close a bracket alike, or are one operation or member. -/
theorem loose_setTokens? (verbose : Bool) (depth : Nat) (text : List Char) :
    Loose (setTokens? verbose depth text) (setTokens? verbose depth (text ++ [')'])) := by
  have htoken (text : List Char) :=
    (loose_setToken? verbose text).map fun token => ([token], depth + 1)
  cases text with
  | nil => exact htoken []
  | cons c rest =>
    rw [List.cons_append]
    by_cases hopening : c = '['
    · subst hopening
      -- A named class is told from an open bracket without the parenthesis.
      simp only [setTokens?, asciiClass?_append_closing]
      cases asciiClass? rest with
      | some item => exact .same _ item.2
      | none => exact (loose_openSet verbose rest).map fun tokens => (tokens, depth + 2)
    · by_cases hclosing : c = ']'
      · subst hclosing
        exact .same _ rest
      · rw [setTokens?_of_ne verbose depth rest hopening hclosing,
          setTokens?_of_ne verbose depth _ hopening hclosing]
        exact htoken (c :: rest)

/-- The last open bracket is closed by a closing bracket only. -/
theorem eq_closing_of_setTokens? {verbose : Bool} {depth : Nat} {text rest : List Char}
    {tokens : List SetToken} (h : setTokens? verbose depth text = some ((tokens, 0), rest)) :
    text = ']' :: rest := by
  cases text with
  | nil => cases h
  | cons c behind =>
    by_cases hopening : c = '['
    · subst hopening
      simp only [setTokens?] at h
      split at h
      · cases h
      · cases h
    · by_cases hclosing : c = ']'
      · subst hclosing
        cases h
        rfl
      · rw [setTokens?_of_ne verbose depth behind hopening hclosing] at h
        obtain ⟨token, -, htoken⟩ := Option.map_eq_some_iff.1 h
        cases htoken

/-- Open brackets are not closed by the end of the text. -/
theorem restOfSet?_nil (verbose : Bool) {depth : Nat} (hdepth : depth ≠ 0) :
    restOfSet? verbose depth [] = none := by
  cases depth with
  | zero => exact absurd rfl hdepth
  | succ depth =>
    rw [restOfSet?, skip_nil]
    rfl

/-- In front of the parenthesis the last open bracket is not closed by what ends the text. -/
theorem depth_ne_zero_of_setTokens? {verbose : Bool} {depth : Nat} {text : List Char}
    {tokens : List SetToken × Nat}
    (h : setTokens? verbose depth (skip verbose (text ++ [')'])) = some (tokens, [])) :
    tokens.2 ≠ 0 := by
  obtain ⟨tokens, depth'⟩ := tokens
  rintro rfl
  have hclosing := eq_closing_of_setTokens? h
  rcases skip_cases verbose text with hskip | ⟨-, hskip⟩
  · -- The text ends with the parenthesis and would be the closing bracket alone.
    rw [hskip] at hclosing
    have hlast := congrArg List.getLast? hclosing
    simp at hlast
  · rw [hskip] at hclosing
    cases hclosing

/-- A class whose brackets are open is read on behind the next tokens. -/
theorem kept_restOfSet? (verbose : Bool) (depth : Nat) (text : List Char) :
    Kept (restOfSet? verbose depth text) (restOfSet? verbose depth (text ++ [')'])) := by
  -- Induction on the length, for every number of open brackets.
  induction hlength : text.length using Nat.strongRecOn generalizing depth text with
  | ind n ih =>
    cases depth with
    | zero =>
      rw [restOfSet?, restOfSet?]
      exact .same [] text
    | succ depth =>
      rw [restOfSet?, restOfSet?]
      have hloose := loose_skip verbose (loose_setTokens? verbose depth) .refused text
      generalize hb : setTokens? verbose depth (skip verbose (text ++ [')'])) = b at hloose ⊢
      generalize setTokens? verbose depth (skip verbose text) = a at hloose ⊢
      cases hloose with
      | same tokens rest =>
        -- Both texts are read on, or neither is shorter than before.
        have hshort : (rest ++ [')']).length < (text ++ [')']).length ↔
            rest.length < text.length := by simp
        simp only [Option.bind_eq_bind, Option.bind_some, hshort]
        split
        next hrest =>
          exact (ih rest.length (hlength ▸ hrest) tokens.2 rest rfl).bind
            (fun others rest => .same _ rest) fun others => .completed _
        next => exact .refused
      | refused => exact .refused
      | completed tokens =>
        -- Brackets are still open, and nothing is left that could close them.
        have hnone := restOfSet?_nil verbose (depth_ne_zero_of_setTokens? hb)
        simp only [Option.bind_eq_bind, Option.bind_some, Option.bind_none, hnone]
        split <;> exact .refused
      | lost tokens =>
        have hnone := restOfSet?_nil verbose (depth_ne_zero_of_setTokens? hb)
        simp only [Option.bind_eq_bind, Option.bind_some, Option.bind_none, hnone]
        split <;> split <;> exact .refused

/-- A class in brackets is read alike: it is opened alike, and its brackets are closed alike. -/
theorem kept_set? (verbose : Bool) (text : List Char) :
    Kept (set? verbose text) (set? verbose (text ++ [')'])) :=
  (loose_openSet verbose text).bind_kept (g := fun start =>
      restOfSet? verbose 1 start.2 >>= fun others =>
        some (Token.set (start.1 ++ others.1), others.2))
    (fun tokens rest => (kept_restOfSet? verbose 1 rest).bind
      (fun others rest => .same _ rest) fun others => .completed _)
    fun tokens => by simp only [restOfSet?_nil verbose Nat.one_ne_zero]; rfl

/-! ### Groups and repetitions -/

/-- The name of a group ends with its angle bracket. -/
theorem kept_namedGroup? (text : List Char) :
    Kept (namedGroup? text) (namedGroup? (text ++ [')'])) :=
  (kept_groupName? text).bind (fun _ rest => .same _ rest) fun _ => .completed _

/-- A parenthesis ends the letters of flags, so it may complete a setting of flags. -/
theorem kept_flaggedGroup? (text : List Char) :
    Kept (flaggedGroup? text) (flaggedGroup? (text ++ [')'])) := by
  unfold flaggedGroup?
  rw [takeWhile_append_closing (by decide), dropWhile_append_closing (by decide)]
  generalize text.takeWhile _ = letters
  generalize text.dropWhile _ = behind
  cases hsettings : flagSettings? letters with
  | none =>
    simp only [hsettings]
    exact .refused
  | some settings =>
    simp only [hsettings, Option.bind_eq_bind, Option.bind_some]
    cases behind with
    | nil =>
      -- The parenthesis ends the letters, and a setting of no flags is refused.
      show Kept none (if letters = [] then none else some (Token.flags settings, []))
      split
      · exact .refused
      · exact .completed _
    | cons c rest =>
      rw [List.cons_append]
      by_cases hcolon : c = ':'
      · subst hcolon
        exact .same _ rest
      · by_cases hclosing : c = ')'
        · subst hclosing
          show Kept (if letters = [] then none else some (Token.flags settings, rest))
            (if letters = [] then none else some (Token.flags settings, rest ++ [')']))
          split
          · exact .refused
          · exact .same _ rest
        · simpa [hcolon, hclosing] using Kept.refused

/-- Whether a question mark begins a name or flags is decided alike, on up to two characters. -/
theorem kept_markedGroup? (text : List Char) :
    Kept (markedGroup? text) (markedGroup? (text ++ [')'])) := by
  -- Up to two characters tell a name from flags.
  rcases text with _ | ⟨c, _ | ⟨d, rest⟩⟩
  · exact kept_flaggedGroup? []
  · by_cases hbracket : c = '<'
    · subst hbracket
      exact kept_namedGroup? []
    · simpa [markedGroup?, hbracket] using kept_flaggedGroup? [c]
  · by_cases hbracket : c = '<'
    · subst hbracket
      exact kept_namedGroup? (d :: rest)
    · by_cases hnamed : c = 'P' ∧ d = '<'
      · obtain ⟨rfl, rfl⟩ := hnamed
        exact kept_namedGroup? rest
      · have hflagged (rest : List Char) :
            markedGroup? (c :: d :: rest) = flaggedGroup? (c :: d :: rest) := by
          rw [markedGroup?]
          · rintro rest heq
            cases heq
            exact hnamed ⟨rfl, rfl⟩
          · rintro rest heq
            cases heq
            exact hbracket rfl
        rw [List.cons_append, List.cons_append, hflagged, hflagged]
        exact kept_flaggedGroup? (c :: d :: rest)

/-- A group without a question mark is opened by its parenthesis alone. -/
theorem kept_group? (verbose : Bool) (text : List Char) :
    Kept (group? verbose text) (group? verbose (text ++ [')'])) := by
  unfold group?
  rcases skip_cases verbose text with h | ⟨h, h'⟩
  · rw [h]
    cases skip verbose text with
    | nil => exact .same _ text
    | cons c rest =>
      rw [List.cons_append]
      by_cases hmark : c = '?'
      · subst hmark
        exact kept_markedGroup? rest
      · simpa [hmark] using Kept.same (Token.opening true none []) text
  · rw [h, h']
    exact .same _ text

/-- The sign of a repetition that is not greedy is read alike. -/
theorem kept_repeated (verbose : Bool) (low : Nat) (high : Option Nat) (text : List Char) :
    Kept (some (repeated verbose low high text))
      (some (repeated verbose low high (text ++ [')']))) := by
  unfold repeated
  rcases skip_cases verbose text with h | ⟨h, h'⟩
  · rw [h]
    cases skip verbose text with
    | nil => exact .same _ text
    | cons c rest =>
      rw [List.cons_append]
      by_cases hmark : c = '?'
      · subst hmark
        exact .same _ rest
      · simpa [hmark] using Kept.same (Token.repetition low high false) text
  · rw [h, h']
    exact .same _ text

/-- The last number of a repetition is closed by a brace only. -/
theorem kept_closedCount? (count : Nat) (text : List Char) :
    Kept (closedCount? (count, text)) (closedCount? (count, text ++ [')'])) := by
  cases text with
  | nil => exact .refused
  | cons c rest =>
    by_cases hbrace : c = '\x7d'
    · subst hbrace
      exact .same _ rest
    · simpa [closedCount?, hbrace] using Kept.refused

/-- A bound of repetitions is not closed by the end of the text. -/
theorem highCount?_nil (verbose : Bool) : highCount? verbose [] = none := by
  simp [highCount?, count?_nil]

/-- The upper bound of a repetition is closed at once or behind a number. -/
theorem kept_highCount? (verbose : Bool) (text : List Char) :
    Kept (highCount? verbose text) (highCount? verbose (text ++ [')'])) := by
  have hcount := (loose_count? verbose text).bind_kept kept_closedCount? fun _ => rfl
  cases text with
  | nil => simpa [highCount?] using hcount
  | cons c rest =>
    by_cases hbrace : c = '\x7d'
    · subst hbrace
      exact .same none rest
    · simpa [highCount?, hbrace] using hcount

/-- Behind the lower bound stands a brace, or a comma with the upper bound. -/
theorem kept_countsBehind? (verbose : Bool) (low : Nat) (text : List Char) :
    Kept (countsBehind? verbose low text) (countsBehind? verbose low (text ++ [')'])) := by
  cases text with
  | nil => exact .refused
  | cons c rest =>
    by_cases hbrace : c = '\x7d'
    · subst hbrace
      exact .same _ rest
    · by_cases hcomma : c = ','
      · subst hcomma
        exact kept_skip verbose (kept_highCount? verbose) (highCount?_nil verbose) rest
      · simpa [countsBehind?, hbrace, hcomma] using Kept.refused

/-- A repetition in braces is read alike: its lower bound, and what stands behind that. -/
theorem kept_counted? (verbose : Bool) (text : List Char) :
    Kept (counted? verbose text) (counted? verbose (text ++ [')'])) := by
  have hlow : Loose (count? verbose (skip verbose text))
      (count? verbose (skip verbose (text ++ [')']))) := by
    refine loose_skip verbose (loose_count? verbose) ?_ text
    rw [count?_nil]
    exact .refused
  refine hlow.bind_kept (fun low rest => ?_) fun low => rfl
  refine (kept_countsBehind? verbose low rest).bind (fun high rest => ?_) fun high => ?_
  · dsimp only
    split
    · exact kept_repeated verbose low high rest
    · exact .refused
  · dsimp only
    split
    · rw [repeated, skip_nil]
      exact .completed _
    · exact .refused

/-! ### Tokens -/

/-- A token is read alike in front of a closing parenthesis, unless the parenthesis itself is
the last character of the token. -/
theorem kept_read? (verbose : Bool) {text : List Char} (htext : text ≠ []) :
    Kept (Token.read? verbose text) (Token.read? verbose (text ++ [')'])) := by
  cases text with
  | nil => exact absurd rfl htext
  | cons c rest =>
    simp only [Token.read?, List.cons_append]
    -- One case for each sign that begins a token; the others are single characters.
    split
    case h_1 => exact kept_group? verbose rest
    case h_4 => exact kept_set? verbose rest
    case h_5 | h_6 | h_7 => exact kept_repeated false _ _ rest
    case h_8 => exact kept_counted? verbose rest
    case h_9 => exact (kept_escape? verbose rest).map Token.primitive
    all_goals exact .same _ rest

end RecordSieve.Pattern
