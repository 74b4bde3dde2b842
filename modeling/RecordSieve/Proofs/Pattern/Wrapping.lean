import RecordSieve.Pattern.Basic
import RecordSieve.Proofs.Pattern.Reading

/-!
# Patterns in a Group

The pattern of a condition is read with a group around it. What that changes depends on how the
pattern ends when it is read by itself. If all of its groups are closed, the group around it is
closed by its own parenthesis and is one part of the whole. If the pattern ends in a comment, the
parenthesis is lost. If the pattern has a parenthesis too much, that one closes the group around
it, and the rest of the pattern stands outside.

## Main definitions

* `Ending`, `Token.ending`: how a pattern ends;
* `HasStrayParenthesis`, `EndsInComment`: the two ways out of the group.

## Main statements

* `Token.tokens_of_ending`: the tokens of a text by itself and in a group;
* `Node.ofTokens?_wrapped`: the tree of a pattern in a group;
* `parse?_anchored`: a pattern with all groups closed is one part of the whole.
-/

namespace RecordSieve.Pattern

/-- How a pattern ends when it is read by itself. -/
inductive Ending where
  /-- All groups are closed. -/
  | closed
  /-- All groups are closed, but the pattern ends in a comment. -/
  | inComment
  /-- A part cannot be read, or a group is open. -/
  | broken
  /-- A closing parenthesis stands where no group is open. -/
  | stray
deriving DecidableEq

/-- How a text ends, given the verbose modes of the open groups. -/
def Token.ending (scopes : List Bool) (text : List Char) : Ending :=
  let verbose := scopes.headD false
  match skip verbose text with
  | [] =>
      if scopes.length = 1 then if openComment verbose text then .inComment else .closed
      else .broken
  | next =>
      match Token.read? verbose next with
      | none => .broken
      | some (token, rest) =>
          match token.scopes? scopes with
          | none => .stray
          | some scopes => if rest.length < text.length then Token.ending scopes rest else .broken
termination_by text.length

/-- What is read of a text with an ending, by itself and in a group that a parenthesis behind it
closes. Nothing is said about what is read behind a parenthesis too much. -/
def Ending.Tokens (alone inGroup : Option (List Token)) : Ending → Prop
  | closed => ∃ tokens, alone = some tokens ∧ inGroup = some (tokens ++ [.closing])
  | inComment => inGroup = none
  | broken => alone = none ∧ inGroup = none
  | stray => alone = none

/-- One more token in front of a text does not change how it ends. -/
theorem Ending.Tokens.cons {alone inGroup : Option (List Token)} {ending : Ending}
    (h : ending.Tokens alone inGroup) (token : Token) :
    ending.Tokens (alone.map (token :: ·)) (inGroup.map (token :: ·)) := by
  cases ending with
  | closed =>
    obtain ⟨tokens, rfl, rfl⟩ := h
    exact ⟨token :: tokens, rfl, rfl⟩
  | inComment =>
    obtain rfl := h
    rfl
  | broken =>
    obtain ⟨rfl, rfl⟩ := h
    exact ⟨rfl, rfl⟩
  | stray =>
    obtain rfl := h
    rfl

/-- Whether a pattern closes a group that it does not open. -/
def HasStrayParenthesis (pattern : List Char) : Prop := Token.ending [false] pattern = .stray

/-- Whether the end of a pattern is in a comment. -/
def EndsInComment (pattern : List Char) : Prop := Token.ending [false] pattern = .inComment

instance (pattern : List Char) : Decidable (HasStrayParenthesis pattern) :=
  inferInstanceAs (Decidable (_ = _))

instance (pattern : List Char) : Decidable (EndsInComment pattern) :=
  inferInstanceAs (Decidable (_ = _))

/-! ### Tokens -/

theorem ne_closing_of_group? {verbose : Bool} {text rest : List Char} {token : Token}
    (h : group? verbose text = some (token, rest)) : token ≠ .closing := by
  -- A parenthesis that opens begins a group or a setting of flags.
  have hnamed {text : List Char} (h : namedGroup? text = some (token, rest)) :
      token ≠ .closing := by
    obtain ⟨name, -, htoken⟩ := Option.bind_eq_some_iff.1 h
    cases htoken
    exact Token.noConfusion
  simp only [group?] at h
  split at h
  next text _ =>
    simp only [markedGroup?] at h
    split at h
    next => exact hnamed h
    next => exact hnamed h
    next =>
      obtain ⟨settings, -, htoken⟩ := Option.bind_eq_some_iff.1 h
      split at htoken
      next =>
        cases htoken
        exact Token.noConfusion
      next =>
        split at htoken
        · cases htoken
        · cases htoken
          exact Token.noConfusion
      next => cases htoken
  next =>
    cases h
    exact Token.noConfusion

theorem ne_closing_of_set? {verbose : Bool} {text rest : List Char} {token : Token}
    (h : set? verbose text = some (token, rest)) : token ≠ .closing := by
  obtain ⟨others, -, htoken⟩ := Option.bind_eq_some_iff.1 h
  cases htoken
  exact Token.noConfusion

theorem repeated_fst_ne_closing (verbose : Bool) (low : Nat) (high : Option Nat)
    (text : List Char) : (repeated verbose low high text).1 ≠ .closing := by
  unfold repeated
  split <;> exact Token.noConfusion

theorem ne_closing_of_counted? {verbose : Bool} {text rest : List Char} {token : Token}
    (h : counted? verbose text = some (token, rest)) : token ≠ .closing := by
  obtain ⟨low, -, h⟩ := Option.bind_eq_some_iff.1 h
  obtain ⟨high, -, h⟩ := Option.bind_eq_some_iff.1 h
  dsimp only at h
  split at h
  · have hfst : (repeated verbose low.1 high.1 high.2).1 = token :=
      congrArg Prod.fst (Option.some.inj h)
    rw [← hfst]
    exact repeated_fst_ne_closing _ _ _ _
  · cases h

/-- The token of a closing parenthesis is read from nothing else. -/
theorem eq_closing_of_read? {verbose : Bool} {c : Char} {text rest : List Char}
    (h : Token.read? verbose (c :: text) = some (.closing, rest)) : c = ')' := by
  have hrepeated {low : Nat} {high : Option Nat}
      (h : some (repeated false low high text) = some (.closing, rest)) : False :=
    repeated_fst_ne_closing false low high text (congrArg Prod.fst (Option.some.inj h))
  simp only [Token.read?] at h
  split at h
  case h_1 => exact absurd rfl (ne_closing_of_group? h)
  case h_2 => rfl
  case h_4 => exact absurd rfl (ne_closing_of_set? h)
  case h_5 | h_6 | h_7 => exact (hrepeated h).elim
  case h_8 => exact absurd rfl (ne_closing_of_counted? h)
  case h_9 =>
    obtain ⟨primitive, -, htoken⟩ := Option.map_eq_some_iff.1 h
    cases htoken
  all_goals cases h

namespace Token

/-- A group around the others has no part in what a token does to the open groups. -/
theorem scopes?_append {token : Token} {scopes scopes' : List Bool} (hscopes : scopes ≠ [])
    (h : token.scopes? scopes = some scopes') (outer : Bool) :
    token.scopes? (scopes ++ [outer]) = some (scopes' ++ [outer]) := by
  obtain ⟨verbose, inner, rfl⟩ := List.exists_cons_of_ne_nil hscopes
  cases token with
  | closing =>
    -- The closing bracket leaves a group open, and the one around it as well.
    cases inner with
    | nil => cases h
    | cons verbose' inner =>
      cases h
      rfl
  | _ =>
    cases h
    rfl

/-- Only a closing parenthesis leaves fewer groups open. -/
theorem length_le_of_scopes? {token : Token} {scopes scopes' : List Bool}
    (h : token.scopes? scopes = some scopes') (htoken : token ≠ .closing) :
    scopes.length ≤ scopes'.length := by
  cases token with
  | closing => exact absurd rfl htoken
  | opening capturing name settings =>
    cases scopes with
    | nil => exact Nat.zero_le _
    | cons verbose outer =>
      cases h
      simp
  | flags settings =>
    cases scopes with
    | nil => exact Nat.zero_le _
    | cons verbose outer =>
      cases h
      simp
  | _ =>
    cases h
    exact Nat.le_refl _

/-- Some group is open as long as a text is read. -/
theorem scopes_ne_nil_of_scopes? {token : Token} {scopes scopes' : List Bool}
    (hscopes : scopes ≠ []) (h : token.scopes? scopes = some scopes') : scopes' ≠ [] := by
  obtain ⟨verbose, inner, rfl⟩ := List.exists_cons_of_ne_nil hscopes
  cases token with
  | closing =>
    cases inner with
    | nil => cases h
    | cons verbose' inner =>
      cases h
      exact List.cons_ne_nil _ _
  | _ =>
    cases h
    exact List.cons_ne_nil _ _

/-- A text of blanks has no token, and all groups have to be closed. -/
theorem readFrom?_of_skip_nil {scopes : List Bool} {text : List Char}
    (hskip : skip (scopes.headD false) text = []) :
    readFrom? scopes text = if scopes.length = 1 then some [] else none := by
  rw [readFrom?]
  simp only [hskip]

/-- Behind blanks a token is read. -/
theorem readFrom?_of_skip {scopes : List Bool} {text next : List Char}
    (hskip : skip (scopes.headD false) text = next) (hnext : next ≠ []) :
    readFrom? scopes text =
      (read? (scopes.headD false) next).bind fun (token, rest) =>
        (token.scopes? scopes).bind fun scopes =>
          if rest.length < text.length then (readFrom? scopes rest).map (token :: ·) else none := by
  rw [readFrom?]
  simp only [hskip, Option.map_eq_bind]
  rfl

theorem readFrom?_nil_of_lt {scopes : List Bool} (h : 1 < scopes.length) :
    readFrom? scopes [] = none := by
  rw [readFrom?_of_skip_nil (skip_nil _), if_neg (Nat.ne_of_gt h)]

/-- The mode in force is that of the innermost group. -/
theorem headD_append {scopes : List Bool} (hscopes : scopes ≠ []) (outer : Bool) :
    (scopes ++ [outer]).headD false = scopes.headD false := by
  obtain ⟨verbose, inner, rfl⟩ := List.exists_cons_of_ne_nil hscopes
  rfl

variable {scopes : List Bool} {text : List Char}

/-- If nothing but a comment is left, the parenthesis is part of it. -/
theorem readFrom?_append_of_openComment (hscopes : scopes ≠ []) (outer : Bool)
    (h : openComment (scopes.headD false) text = true) :
    readFrom? (scopes ++ [outer]) (text ++ [')']) = none := by
  have hlength := List.length_pos_iff.2 hscopes
  rw [readFrom?_of_skip_nil, if_neg]
  · rw [List.length_append, List.length_singleton]
    omega
  · rw [headD_append hscopes, skip_append_closing, if_pos h]

/-- If nothing but blanks is left, the parenthesis closes the innermost group. -/
theorem readFrom?_append_of_skip_nil (verbose : Bool) (outer : List Bool)
    (hskip : skip verbose text = []) (hcomment : openComment verbose text = false) :
    readFrom? (verbose :: outer) (text ++ [')']) =
      if outer.length = 1 then some [.closing] else none := by
  have hclosing : skip ((verbose :: outer).headD false) (text ++ [')']) = [')'] := by
    rw [List.headD_cons, skip_append_closing, hcomment, hskip]
    rfl
  rw [readFrom?_of_skip hclosing (List.cons_ne_nil _ _)]
  cases outer with
  | nil => rfl
  | cons verbose' outer =>
    have hrest : readFrom? (verbose' :: outer) [] =
        if (verbose' :: outer).length = 1 then some [] else none :=
      readFrom?_of_skip_nil (skip_nil _)
    simp only [read?, scopes?, Option.bind_some, hrest, List.length_append, List.length_nil,
      List.length_singleton, Nat.zero_lt_succ, if_true]
    split <;> rfl

/-- The next token in a group around the others. -/
theorem readFrom?_append_of_skip (hscopes : scopes ≠ []) (outer : Bool)
    (hnext : skip (scopes.headD false) text ≠ []) :
    readFrom? (scopes ++ [outer]) (text ++ [')']) =
      (read? (scopes.headD false) (skip (scopes.headD false) text ++ [')'])).bind
        fun (token, rest) =>
          (token.scopes? (scopes ++ [outer])).bind fun scopes =>
            if rest.length < (text ++ [')']).length then
              (readFrom? scopes rest).map (token :: ·)
            else none := by
  have hskip : skip ((scopes ++ [outer]).headD false) (text ++ [')']) =
      skip (scopes.headD false) text ++ [')'] := by
    rw [headD_append hscopes]
    rcases skip_cases (scopes.headD false) text with h | ⟨h, -⟩
    · exact h
    · exact absurd h hnext
  rw [readFrom?_of_skip hskip (List.append_ne_nil_of_left_ne_nil hnext _), headD_append hscopes]

/-- A parenthesis that completes a token leaves the group around it open. -/
theorem readFrom?_append_of_read?_none (hscopes : scopes ≠ []) (outer : Bool)
    (hnext : skip (scopes.headD false) text ≠ [])
    (hread : read? (scopes.headD false) (skip (scopes.headD false) text) = none) :
    readFrom? (scopes ++ [outer]) (text ++ [')']) = none := by
  have hkept := kept_read? (scopes.headD false) hnext
  rw [readFrom?_append_of_skip hscopes outer hnext]
  rw [hread] at hkept
  generalize hclosing : read? (scopes.headD false) (skip (scopes.headD false) text ++ [')']) = b
    at hkept ⊢
  cases hkept with
  | refused => rfl
  | completed token =>
    -- The token is no closing bracket, as that could be read without the parenthesis.
    have htoken : token ≠ .closing := by
      rintro rfl
      obtain ⟨c, rest, hcons⟩ := List.exists_cons_of_ne_nil hnext
      rw [hcons, List.cons_append] at hclosing
      rw [hcons, eq_closing_of_read? hclosing] at hread
      cases hread
    have hlength := List.length_pos_iff.2 hscopes
    cases hscope : token.scopes? (scopes ++ [outer]) with
    | none => simp only [Option.bind_some, hscope, Option.bind_none]
    | some scopes' =>
      have hle := length_le_of_scopes? hscope htoken
      rw [List.length_append, List.length_singleton] at hle
      simp only [Option.bind_some, hscope, readFrom?_nil_of_lt (Nat.lt_of_lt_of_le
        (Nat.lt_add_of_pos_left hlength) hle), Option.map_none, ite_self]

/-- The tokens of a text by itself and in a group that a parenthesis behind it closes. -/
theorem tokens_of_ending (hscopes : scopes ≠ []) (text : List Char) (outer : Bool) :
    (ending scopes text).Tokens (readFrom? scopes text)
      (readFrom? (scopes ++ [outer]) (text ++ [')'])) := by
  -- The ending is found by the same recursion as the tokens, case by case.
  fun_induction ending scopes text with
  | case1 scopes text verbose hskip hlength hcomment =>
    exact readFrom?_append_of_openComment hscopes outer hcomment
  | case2 scopes text verbose hskip hlength hcomment =>
    obtain ⟨mode, rfl⟩ := List.length_eq_one_iff.1 hlength
    refine ⟨[], ?_, ?_⟩
    · rw [readFrom?_of_skip_nil hskip, if_pos hlength]
    · exact readFrom?_append_of_skip_nil mode [outer] hskip (eq_false_of_ne_true hcomment)
  | case3 scopes text verbose hskip hlength =>
    refine ⟨?_, ?_⟩
    · rw [readFrom?_of_skip_nil hskip, if_neg hlength]
    · obtain ⟨mode, others, rfl⟩ := List.exists_cons_of_ne_nil hscopes
      cases hcomment : openComment mode text with
      | true => exact readFrom?_append_of_openComment hscopes outer hcomment
      | false =>
        -- The parenthesis closes one of the open groups, but not all of them.
        rw [List.cons_append, readFrom?_append_of_skip_nil mode _ hskip hcomment, if_neg]
        rw [List.length_append, List.length_singleton]
        rw [List.length_cons] at hlength
        omega
  | case4 scopes text verbose hskip hread =>
    refine ⟨?_, readFrom?_append_of_read?_none hscopes outer hskip hread⟩
    rw [readFrom?_of_skip rfl hskip, hread]
    rfl
  | case5 scopes text verbose token rest hscope hskip hread =>
    show readFrom? scopes text = none
    rw [readFrom?_of_skip rfl hskip, hread]
    simp only [Option.bind_some, hscope, Option.bind_none]
  | case6 scopes text verbose token rest scopes' hscope hshort hskip hread ih =>
    -- Both texts are read on behind the same token, with the same groups open.
    have hkept := kept_read? verbose hskip
    rw [hread] at hkept
    have hshort' : (rest ++ [')']).length < (text ++ [')']).length := by simpa using hshort
    rw [readFrom?_of_skip rfl hskip, readFrom?_append_of_skip hscopes outer hskip, hread,
      hkept.eq_of_some]
    simp only [Option.bind_some, hscope, scopes?_append hscopes hscope, if_pos hshort,
      if_pos hshort']
    exact (ih (scopes_ne_nil_of_scopes? hscopes hscope)).cons token
  | case7 scopes text verbose token rest scopes' hscope hlong hskip hread =>
    -- The recursion stops alike on both sides.
    have hkept := kept_read? verbose hskip
    rw [hread] at hkept
    have hlong' : ¬ (rest ++ [')']).length < (text ++ [')']).length := by simpa using hlong
    rw [readFrom?_of_skip rfl hskip, readFrom?_append_of_skip hscopes outer hskip, hread,
      hkept.eq_of_some]
    simp only [Option.bind_some, hscope, scopes?_append hscopes hscope, if_neg hlong, if_neg hlong']
    exact ⟨rfl, rfl⟩

/-- Tokens that close the open groups but the last, and all that they open themselves. -/
inductive Balanced : List Bool → List Token → Prop
  | nil {scopes : List Bool} (h : scopes.length = 1) : Balanced scopes []
  | cons {scopes scopes' : List Bool} {token : Token} {tokens : List Token}
      (h : token.scopes? scopes = some scopes') (htokens : Balanced scopes' tokens) :
      Balanced scopes (token :: tokens)

theorem balanced_of_readFrom? {tokens : List Token} (h : readFrom? scopes text = some tokens) :
    Balanced scopes tokens := by
  induction hlength : text.length using Nat.strongRecOn generalizing scopes text tokens with
  | ind n ih =>
    by_cases hskip : skip (scopes.headD false) text = []
    · rw [readFrom?_of_skip_nil hskip] at h
      split at h
      next hone =>
        cases h
        exact .nil hone
      next => cases h
    · rw [readFrom?_of_skip rfl hskip] at h
      obtain ⟨⟨token, rest⟩, -, h⟩ := Option.bind_eq_some_iff.1 h
      obtain ⟨scopes', hscope, h⟩ := Option.bind_eq_some_iff.1 h
      split at h
      next hshort =>
        obtain ⟨others, hothers, rfl⟩ := Option.map_eq_some_iff.1 h
        exact .cons hscope (ih rest.length (hlength ▸ hshort) hothers rfl)
      next => cases h

end Token

/-! ### Trees -/

namespace Node

/-- Whether a group remembers its text, and the settings that it starts with. -/
def Open.kind (o : Open) : Bool × FlagSettings := (o.capturing, o.settings)

variable {scopes scopes' : List Bool} {token : Token} {stack stack' : List Open}

/-- A group below the open ones has no part in what a token does to them. -/
theorem step_append (hlength : stack.length = scopes.length) (hscopes : scopes ≠ [])
    (hscope : token.scopes? scopes = some scopes') (base : Open) :
    step (stack ++ [base]) token = (step stack token).map (· ++ [base]) := by
  obtain ⟨top, below, rfl⟩ : ∃ top below, stack = top :: below := by
    apply List.exists_cons_of_ne_nil
    intro hnil
    apply hscopes
    rw [hnil] at hlength
    exact List.length_eq_zero_iff.1 hlength.symm
  cases token with
  | closing =>
    cases below with
    | nil =>
      -- With one open group only, the closing bracket is one too much.
      obtain ⟨verbose, rfl⟩ := List.length_eq_one_iff.1 hlength.symm
      cases hscope
    | cons next below => rfl
  | set tokens =>
    -- The inside of a class has nothing to do with the open groups.
    show (SetTree.ofTokens? tokens >>= fun tree =>
        some (top.push (set tree.1 tree.2) :: (below ++ [base]))) = Option.map _
      (SetTree.ofTokens? tokens >>= fun tree =>
        some (top.push (set tree.1 tree.2) :: below))
    cases SetTree.ofTokens? tokens <;> rfl
  | repetition low high isLazy =>
    simp only [step, List.cons_append]
    split <;> rfl
  | _ => rfl

/-- A group in the place of the innermost one leaves the kind of the outermost. -/
theorem kind_getLast?_cons {top top' : Open} (h : top'.kind = top.kind) (below : List Open) :
    (top' :: below).getLast?.map Open.kind = (top :: below).getLast?.map Open.kind := by
  cases below with
  | nil => simp [h]
  | cons next below => rw [List.getLast?_cons_cons, List.getLast?_cons_cons]

/-- A token leaves as many groups open as there are scopes, and the kind of the outermost. -/
theorem step_spec (hlength : stack.length = scopes.length)
    (hscope : token.scopes? scopes = some scopes') (hstep : step stack token = some stack') :
    stack'.length = scopes'.length ∧
      stack'.getLast?.map Open.kind = stack.getLast?.map Open.kind := by
  cases stack with
  | nil => cases hstep
  | cons top below =>
    obtain ⟨verbose, outer, rfl⟩ := List.exists_cons_of_length_eq_add_one hlength.symm
    have hbelow : below.length = outer.length := Nat.succ.inj hlength
    cases token with
    | closing =>
      cases below with
      | nil => cases hstep
      | cons next below =>
        -- The group is closed, and what it holds is a part of the one around it.
        obtain ⟨verbose', outer, rfl⟩ := List.exists_cons_of_length_eq_add_one hbelow.symm
        cases hstep
        cases hscope
        refine ⟨hbelow, ?_⟩
        rw [List.getLast?_cons_cons]
        exact kind_getLast?_cons (by rfl) below
    | opening capturing name settings =>
      cases hstep
      cases hscope
      refine ⟨congrArg Nat.succ hlength, ?_⟩
      rw [List.getLast?_cons_cons]
    | set tokens =>
      obtain ⟨parts, -, hparts⟩ := Option.bind_eq_some_iff.1 hstep
      cases hparts
      cases hscope
      exact ⟨hlength, kind_getLast?_cons (by rfl) below⟩
    | repetition low high isLazy =>
      -- There has to be something in front that is repeated.
      simp only [step] at hstep
      split at hstep
      · cases hstep
      · cases hstep
      · cases hstep
        cases hscope
        exact ⟨hlength, kind_getLast?_cons (by rfl) below⟩
    | _ =>
      cases hstep
      cases hscope
      exact ⟨hlength, kind_getLast?_cons (by rfl) below⟩

/-- A group below the open ones has no part in the trees of balanced tokens. -/
theorem foldlM_step_append {tokens : List Token} (htokens : Token.Balanced scopes tokens)
    (hlength : stack.length = scopes.length) (hscopes : scopes ≠ []) (base : Open) :
    tokens.foldlM step (stack ++ [base]) = (tokens.foldlM step stack).map (· ++ [base]) := by
  -- Along the tokens there are as many open groups as scopes, so the base is never reached.
  induction htokens generalizing stack with
  | nil => rfl
  | cons hscope htokens ih =>
    rw [List.foldlM_cons, List.foldlM_cons, step_append hlength hscopes hscope base]
    cases hstep : step stack _ with
    | none => rfl
    | some stack' =>
      exact ih (step_spec hlength hscope hstep).1 (Token.scopes_ne_nil_of_scopes? hscopes hscope)

/-- Balanced tokens leave one group, whose kind is that of the outermost. -/
theorem foldlM_step_spec {tokens : List Token} (htokens : Token.Balanced scopes tokens)
    (hlength : stack.length = scopes.length) (hfold : tokens.foldlM step stack = some stack') :
    ∃ whole, stack' = [whole] ∧ some whole.kind = stack.getLast?.map Open.kind := by
  induction htokens generalizing stack with
  | nil hone =>
    cases hfold
    obtain ⟨whole, rfl⟩ := List.length_eq_one_iff.1 (hlength.trans hone)
    exact ⟨whole, rfl, rfl⟩
  | cons hscope htokens ih =>
    rw [List.foldlM_cons] at hfold
    obtain ⟨stack₁, hstep, hfold⟩ := Option.bind_eq_some_iff.1 hfold
    obtain ⟨hlength₁, hkind⟩ := step_spec hlength hscope hstep
    obtain ⟨whole, rfl, hwhole⟩ := ih hlength₁ hfold
    exact ⟨whole, rfl, hwhole.trans hkind⟩

/-- The tree of a pattern in a group at the start of a line. -/
def wrapped (tree : Node) : Node :=
  sequence [primitive (.anchor .lineStart), group false [] tree]

/-- Balanced tokens in a group are one part of the whole. -/
theorem ofTokens?_wrapped {tokens : List Token} (htokens : Token.Balanced [false] tokens) :
    ofTokens? (.primitive (.anchor .lineStart) :: .opening false none [] ::
        (tokens ++ [.closing])) = (ofTokens? tokens).map wrapped := by
  let base : Open := ⟨false, [], [], [primitive (.anchor .lineStart)]⟩
  let inner : Open := ⟨false, [], [], []⟩
  have hnames : (Token.primitive (.anchor .lineStart) :: .opening false none [] ::
      (tokens ++ [.closing])).filterMap Token.name? = tokens.filterMap Token.name? := by
    rw [List.filterMap_cons_none rfl, List.filterMap_cons_none rfl, List.filterMap_append,
      List.filterMap_cons_none rfl, List.filterMap_nil, List.append_nil]
  have hfold : (Token.primitive (.anchor .lineStart) :: .opening false none [] ::
      (tokens ++ [.closing])).foldlM step [⟨false, [], [], []⟩] =
        ((tokens.foldlM step [inner]).map (· ++ [base])).bind (step · .closing) := by
    have hlength : [inner].length = [false].length := rfl
    rw [← foldlM_step_append htokens hlength (List.cons_ne_nil _ _) base]
    show (tokens ++ [Token.closing]).foldlM step [inner, base] = _
    rw [List.foldlM_append]
    simp only [List.foldlM_cons, List.foldlM_nil, bind_pure]
    rfl
  rw [ofTokens?, ofTokens?, hnames, hfold]
  split
  next =>
    cases hinner : tokens.foldlM step [inner] with
    | none => rfl
    | some stack =>
      -- The group that is left is the one around the pattern.
      obtain ⟨⟨capturing, settings, branches, parts⟩, rfl, hkind⟩ :=
        foldlM_step_spec htokens rfl hinner
      cases hkind
      rfl
  next => rfl

end Node

/-! ### Expressions -/

/-- The expression of a pattern in a group at the start of the text. -/
theorem toRegex?_wrapped (tree : Node) :
    (Node.wrapped tree).toRegex? {} =
      (tree.toRegex? {}).map fun (regex, _) =>
        (.seq (.look .textStart) (.group false regex), {}) := by
  have hstart : ({} : Modes).primitive? (.anchor .lineStart) = some (.look .textStart) := rfl
  have hmodes : ({} : Modes).apply [] = {} := rfl
  simp only [Node.wrapped, Node.toRegex?, Node.sequence?, hstart, Option.map_some, hmodes,
    Option.bind_eq_bind, Option.bind_some]
  cases tree.toRegex? {} <;> rfl

/-- The first token of a text without verbose mode. -/
theorem Token.readFrom?_of_read? {scopes : List Bool} {text rest : List Char} {token : Token}
    (hread : Token.read? false text = some (token, rest))
    (hscope : token.scopes? [false] = some scopes) (hshort : rest.length < text.length) :
    Token.readFrom? [false] text = (Token.readFrom? scopes rest).map (token :: ·) := by
  have htext : text ≠ [] := by
    rintro rfl
    cases hread
  have hskip : skip ([false].headD false) text = text := rfl
  rw [Token.readFrom?_of_skip hskip htext]
  show (Token.read? false text).bind _ = _
  rw [hread, Option.bind_some]
  simp only [hscope, Option.bind_some, if_pos hshort]

/-- The tokens in front of a pattern are those of the start of a line and of a group. -/
theorem readAll?_anchored (pattern : List Char) :
    Token.readAll? (anchored pattern) =
      (Token.readFrom? [false, false] (pattern ++ [')'])).map fun tokens =>
        .primitive (.anchor .lineStart) :: .opening false none [] :: tokens := by
  have hstart : Token.read? false (anchored pattern) =
      some (.primitive (.anchor .lineStart), "(?:".toList ++ (pattern ++ [')'])) := rfl
  have hgroup : Token.read? false ("(?:".toList ++ (pattern ++ [')'])) =
      some (.opening false none [], pattern ++ [')']) := rfl
  rw [Token.readAll?, Token.readFrom?_of_read? hstart rfl (by simp [anchored]),
    Token.readFrom?_of_read? hgroup rfl (by simp), Option.map_map]
  rfl

/-- What is read of a pattern by itself and behind the start of the value. -/
theorem parse?_anchored (pattern : List Char) :
    match Token.ending [false] pattern with
    | .closed => parse? (anchored pattern) = (parse? pattern).map fun (tree, regex) =>
        (Node.wrapped tree, .seq (.look .textStart) (.group false regex))
    | .inComment => parse? (anchored pattern) = none
    | .broken => parse? pattern = none ∧ parse? (anchored pattern) = none
    | .stray => parse? pattern = none := by
  have htokens : (Token.ending [false] pattern).Tokens (Token.readFrom? [false] pattern)
      (Token.readFrom? [false, false] (pattern ++ [')'])) :=
    Token.tokens_of_ending (List.cons_ne_nil false []) pattern false
  have hnone (h : Token.readFrom? [false, false] (pattern ++ [')']) = none) :
      parse? (anchored pattern) = none := by
    rw [parse?, readAll?_anchored, h]
    rfl
  have hnone' (h : Token.readFrom? [false] pattern = none) : parse? pattern = none := by
    rw [parse?, Token.readAll?, h]
    rfl
  cases hending : Token.ending [false] pattern with
  | closed =>
    rw [hending] at htokens
    obtain ⟨tokens, halone, hgroup⟩ := htokens
    -- The tokens, the tree and the expression are each one part of those of the whole.
    have htree := Node.ofTokens?_wrapped (Token.balanced_of_readFrom? halone)
    show parse? (anchored pattern) = _
    rw [parse?, parse?, readAll?_anchored, hgroup, Token.readAll?, halone]
    simp only [Option.map_some, Option.bind_eq_bind, Option.bind_some, htree]
    cases Node.ofTokens? tokens with
    | none => rfl
    | some tree =>
      simp only [Option.map_some, Option.bind_some, toRegex?_wrapped]
      cases tree.toRegex? {} <;> rfl
  | inComment =>
    rw [hending] at htokens
    exact hnone htokens
  | broken =>
    rw [hending] at htokens
    exact ⟨hnone' htokens.1, hnone htokens.2⟩
  | stray =>
    rw [hending] at htokens
    exact hnone' htokens

end RecordSieve.Pattern
