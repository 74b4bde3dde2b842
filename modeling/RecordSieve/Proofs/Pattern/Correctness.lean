import RecordSieve.Pattern.Matcher

/-!
# Correctness of Matching

The places that `Regex.ends` finds are exactly those where matches end, so `Regex.isMatch` says
whether there is a match. Rounds are cut short when nothing changes and bounded by the number of
places, and neither loses a match: there are no more places than characters and one, and each
round but the last reaches a new one.

## Main definitions

* `Place.IsOf`, `Place.AreOf`: a place of a text, and a list of such places in order;
* `Place.Follows`: a step on lists of places takes exactly the steps of a relation.

## Main statements

* `Regex.matches_repeat_iff`: a repetition is a number of matches in a row;
* `Regex.follows_ends`: `Regex.ends` finds exactly the ends of matches;
* `Regex.isMatch_iff`: `Regex.isMatch` says whether there is a match;
* `Regex.isMatch_textStart_iff`: an anchored expression matches if the rest of it matches from the
  start of the text.
-/

namespace RecordSieve

namespace Pattern

namespace Place

/-- The place lies in a text. -/
def IsOf (text : List Char) (p : Place) : Prop :=
  ∃ front, text = front ++ p.rest ∧ p.index = front.length ∧ p.before = front.getLast?

/-- The places lie in a text, the last one first and none twice. -/
def AreOf (text : List Char) (ps : List Place) : Prop :=
  (∀ p ∈ ps, p.IsOf text) ∧ ps.Pairwise fun p q => q.index < p.index

/-- The start of a text is one of its places. -/
theorem isOf_start (text : List Char) : (start text).IsOf text := ⟨[], rfl, rfl, rfl⟩

/-- A text has one place behind each number of characters. -/
theorem eq_of_index_eq {text : List Char} {p q : Place} (hp : p.IsOf text) (hq : q.IsOf text)
    (h : p.index = q.index) : p = q := by
  obtain ⟨front, htext, hindex, hbefore⟩ := hp
  obtain ⟨front', htext', hindex', hbefore'⟩ := hq
  have hlength : front.length = front'.length := by omega
  obtain ⟨hfront, hrest⟩ := List.append_inj (htext.symm.trans htext') hlength
  cases p
  cases q
  simp_all

/-- No place has more characters in front of it than there are. -/
theorem index_le {text : List Char} {p : Place} (hp : p.IsOf text) :
    p.index ≤ text.length := by
  obtain ⟨front, htext, hindex, -⟩ := hp
  rw [htext, List.length_append]
  omega

/-- The place behind the next character is in the same text, one further on. -/
theorem isOf_advance {text : List Char} {set : CodePointSet} {p q : Place} (hp : p.IsOf text)
    (h : p.advance? set = some q) : q.IsOf text ∧ q.index = p.index + 1 := by
  obtain ⟨front, htext, hindex, -⟩ := hp
  unfold advance? at h
  split at h
  · cases h
  · rename_i c rest hrest
    split at h
    · cases h
      exact ⟨⟨front ++ [c], by simp [htext, hrest], by simp [hindex], by simp⟩, rfl⟩
    · cases h

theorem AreOf.filter {text : List Char} {ps : List Place} (h : AreOf text ps)
    (test : Place → Bool) : AreOf text (ps.filter test) :=
  ⟨fun p hp => h.1 p (List.mem_filter.1 hp).1, h.2.sublist List.filter_sublist⟩

/-- Places are in order if the first is behind all others and those are in order. -/
theorem areOf_cons {text : List Char} {p : Place} {ps : List Place} :
    AreOf text (p :: ps) ↔ p.IsOf text ∧ (∀ q ∈ ps, q.index < p.index) ∧ AreOf text ps := by
  simp only [AreOf, List.forall_mem_cons, List.pairwise_cons]
  constructor
  · rintro ⟨⟨hp, hps⟩, hlt, hpair⟩
    exact ⟨hp, hlt, hps, hpair⟩
  · rintro ⟨hp, hlt, hps, hpair⟩
    exact ⟨⟨hp, hps⟩, hlt, hpair⟩

/-- The places behind a certain one stand at the front of the list. -/
theorem takeWhile_eq_filter {text : List Char} {ps : List Place} (h : AreOf text ps) (k : Nat) :
    ps.takeWhile (k < ·.index) = ps.filter (k < ·.index) := by
  induction ps with
  | nil => rfl
  | cons p ps ih =>
    obtain ⟨-, hlt, hps⟩ := areOf_cons.1 h
    by_cases hk : k < p.index
    · simp [hk, ih hps]
    · have : ∀ q ∈ ps, ¬ k < q.index := fun q hq => by
        have := hlt q hq
        omega
      simpa [hk] using this

/-- The places in front of a certain one stand at the end of the list. -/
theorem dropWhile_eq_filter {text : List Char} {ps : List Place} (h : AreOf text ps) (k : Nat) :
    ps.dropWhile (k ≤ ·.index) = ps.filter (·.index < k) := by
  induction ps with
  | nil => rfl
  | cons p ps ih =>
    obtain ⟨-, hlt, hps⟩ := areOf_cons.1 h
    by_cases hk : k ≤ p.index
    · have : ¬ p.index < k := by omega
      simp [hk, this, ih hps]
    · have hall : ∀ q ∈ ps, q.index < k := fun q hq => by
        have := hlt q hq
        omega
      have hp : p.index < k := by omega
      rw [List.dropWhile_cons, List.filter_cons, List.filter_eq_self.2 (by simpa using hall)]
      simp [hk, hp]

/-- A merged list holds exactly the places of either list. -/
theorem mem_merge {text : List Char} {ps qs : List Place} (hp : AreOf text ps)
    (hq : AreOf text qs) (t : Place) : t ∈ merge ps qs ↔ t ∈ ps ∨ t ∈ qs := by
  induction ps generalizing qs with
  | nil => simp [merge]
  | cons p ps ih =>
    obtain ⟨hof, -, hps⟩ := areOf_cons.1 hp
    unfold merge
    rw [takeWhile_eq_filter hq, dropWhile_eq_filter hq]
    simp only [List.mem_append, List.mem_filter, decide_eq_true_eq, List.mem_cons,
      ih hps (hq.filter _)]
    constructor
    · rintro (⟨h, -⟩ | h | h | ⟨h, -⟩)
      · exact .inr h
      · exact .inl (.inl h)
      · exact .inl (.inr h)
      · exact .inr h
    · rintro ((h | h) | h)
      · exact .inr (.inl h)
      · exact .inr (.inr (.inl h))
      · -- A place of the second list is cut from it only if it is the first of the other.
        rcases Nat.lt_trichotomy p.index t.index with hlt | heq | hgt
        · exact .inl ⟨h, hlt⟩
        · exact .inr (.inl (eq_of_index_eq hof (hq.1 t h) heq).symm)
        · exact .inr (.inr (.inr ⟨h, hgt⟩))

/-- A merged list is in order again. -/
theorem areOf_merge {text : List Char} {ps qs : List Place} (hp : AreOf text ps)
    (hq : AreOf text qs) : AreOf text (merge ps qs) := by
  constructor
  · intro t ht
    rcases (mem_merge hp hq t).1 ht with h | h
    · exact hp.1 t h
    · exact hq.1 t h
  · induction ps generalizing qs with
    | nil => exact hq.2
    | cons p ps ih =>
      obtain ⟨-, hlt, hps⟩ := areOf_cons.1 hp
      -- What is merged behind the head lies in front of it in the text.
      have hlow : ∀ t ∈ merge ps (qs.filter (·.index < p.index)), t.index < p.index := by
        intro t ht
        rcases (mem_merge hps (hq.filter _) t).1 ht with h | h
        · exact hlt t h
        · simpa using (List.mem_filter.1 h).2
      unfold merge
      rw [takeWhile_eq_filter hq, dropWhile_eq_filter hq]
      refine List.pairwise_append.2 ⟨(hq.filter _).2,
        List.pairwise_cons.2 ⟨hlow, ih hps (hq.filter _)⟩, fun a ha b hb => ?_⟩
      have hap : p.index < a.index := by simpa using (List.mem_filter.1 ha).2
      rcases List.mem_cons.1 hb with rfl | hb
      · exact hap
      · exact Nat.lt_trans (hlow b hb) hap

/-- Once the places behind a certain one are skipped, the next shows whether it is in the list. -/
theorem head_dropWhile {text : List Char} {ps : List Place} (h : AreOf text ps) {p : Place}
    (hp : p.IsOf text) :
    (ps.dropWhile (p.index < ·.index)).head?.any (·.index = p.index) = true ↔ p ∈ ps := by
  induction ps with
  | nil => simp
  | cons q ps ih =>
    obtain ⟨hq, hlt, hps⟩ := areOf_cons.1 h
    -- The indices fall, so the place is further on, here, or nowhere.
    rcases Nat.lt_trichotomy p.index q.index with hk | hk | hk
    · have hne : p ≠ q := fun h => by simp [h] at hk
      simp [hk, ih hps, hne]
    · simp [eq_of_index_eq hp hq hk]
    · have hne : p ≠ q := fun h => by simp [h] at hk
      have hnot : p ∉ ps := fun h => by
        have := hlt p h
        omega
      have hk' : ¬ p.index < q.index := by omega
      have hk'' : q.index ≠ p.index := by omega
      simp [hk', hk'', hne, hnot]

/-- Skipping the places behind a certain one loses none in front of it. -/
theorem mem_dropWhile {text : List Char} {ps : List Place} (h : AreOf text ps) {p q : Place}
    (hlt : q.index < p.index) : q ∈ ps.dropWhile (p.index < ·.index) ↔ q ∈ ps := by
  induction ps with
  | nil => simp
  | cons t ps ih =>
    obtain ⟨-, -, hps⟩ := areOf_cons.1 h
    by_cases hk : p.index < t.index
    · have hne : q ≠ t := fun h => by
        subst h
        omega
      simp [hk, ih hps, hne]
    · simp [hk]

/-- What is left without the places of another list are those that are not in it. -/
theorem without_eq_filter {text : List Char} {ps qs : List Place} (hp : AreOf text ps)
    (hq : AreOf text qs) : without ps qs = ps.filter fun p => !decide (p ∈ qs) := by
  induction ps generalizing qs with
  | nil => rfl
  | cons p ps ih =>
    obtain ⟨hof, hlt, hps⟩ := areOf_cons.1 hp
    have hdrop : AreOf text (qs.dropWhile (p.index < ·.index)) :=
      ⟨fun t ht => hq.1 t (List.dropWhile_subset _ ht), hq.2.sublist (List.dropWhile_sublist _)⟩
    -- The places that are skipped lie behind all that are still to be looked up.
    have hrest : ps.filter (fun t => !decide (t ∈ qs.dropWhile (p.index < ·.index))) =
        ps.filter fun t => !decide (t ∈ qs) :=
      List.filter_congr fun t ht => by simp only [mem_dropWhile hq (hlt t ht)]
    simp only [without, ih hps hdrop, hrest, List.filter_cons]
    by_cases hmem : p ∈ qs
    · rw [if_pos ((head_dropWhile hq hof).2 hmem)]
      simp [hmem]
    · rw [if_neg (fun h => hmem ((head_dropWhile hq hof).1 h))]
      simp [hmem]

/-- One place leads to another in exactly `n` steps. -/
def Leads (R : Place → Place → Prop) : Nat → Place → Place → Prop
  | 0, p, q => p = q
  | n + 1, p, q => ∃ t, R p t ∧ Leads R n t q

/-- A step on places of a text takes all the single steps of a relation. -/
def Follows (text : List Char) (step : List Place → List Place) (R : Place → Place → Prop) :
    Prop :=
  ∀ ps, AreOf text ps → AreOf text (step ps) ∧ ∀ q, q ∈ step ps ↔ ∃ p ∈ ps, R p q

/-- Lists of places with the same numbers are the same. -/
theorem eq_of_map_index_eq {text : List Char} {ps qs : List Place} (hp : AreOf text ps)
    (hq : AreOf text qs) (h : ps.map index = qs.map index) : ps = qs := by
  induction ps generalizing qs with
  | nil => simpa using h.symm
  | cons p ps ih =>
    cases qs with
    | nil => simp at h
    | cons q qs =>
      obtain ⟨hpof, -, hps⟩ := areOf_cons.1 hp
      obtain ⟨hqof, -, hqs⟩ := areOf_cons.1 hq
      simp only [List.map_cons, List.cons.injEq] at h
      rw [eq_of_index_eq hpof hqof h.1, ih hps hqs h.2]

/-- A number of rounds takes that many steps of the relation. -/
theorem follows_rounds {text : List Char} {step : List Place → List Place}
    {R : Place → Place → Prop} (h : Follows text step R) (n : Nat) :
    Follows text (rounds step n) (Leads R n) := by
  induction n with
  | zero => exact fun ps hps => ⟨hps, by simp [rounds, Leads]⟩
  | succ n ih =>
    intro ps hps
    obtain ⟨hnext, hmem⟩ := h ps hps
    -- One step more from these places is one step fewer from the next ones.
    have hleads : ∀ m q, (∃ p ∈ ps, Leads R (m + 1) p q) ↔ ∃ t ∈ step ps, Leads R m t q := by
      intro m q
      simp only [hmem, Leads]
      constructor
      · rintro ⟨p, hp, t, hR, ht⟩
        exact ⟨t, ⟨p, hp, hR⟩, ht⟩
      · rintro ⟨t, ⟨p, hp, hR⟩, ht⟩
        exact ⟨p, hp, t, hR, ht⟩
    unfold rounds
    dsimp only
    split
    · rename_i heq
      have hsame := eq_of_map_index_eq hnext hps heq
      refine ⟨hps, ?_⟩
      intro q
      -- No number of rounds changes anything.
      have : ∀ m, (∃ p ∈ ps, Leads R m p q) ↔ q ∈ ps := by
        intro m
        induction m with
        | zero => simp [Leads]
        | succ m ihm => rw [hleads, hsame, ihm]
      exact (this _).symm
    · obtain ⟨hlist, hmem'⟩ := ih (step ps) hnext
      exact ⟨hlist, fun q => (hmem' q).trans (hleads n q).symm⟩

/-- Steps can be taken one after the other. -/
theorem leads_trans {R : Place → Place → Prop} {m n : Nat} {p q t : Place}
    (h : Leads R m p q) (h' : Leads R n q t) : Leads R (m + n) p t := by
  induction m generalizing p with
  | zero =>
    cases h
    simpa using h'
  | succ m ih =>
    obtain ⟨u, hR, hu⟩ := h
    rw [Nat.succ_add]
    exact ⟨u, hR, ih hu⟩

/-- Many steps can be taken in two parts. -/
theorem exists_of_leads_add {R : Place → Place → Prop} {m n : Nat} {p t : Place}
    (h : Leads R (m + n) p t) : ∃ q, Leads R m p q ∧ Leads R n q t := by
  induction m generalizing p with
  | zero => exact ⟨p, rfl, by simpa using h⟩
  | succ m ih =>
    rw [Nat.succ_add] at h
    obtain ⟨u, hR, hu⟩ := h
    obtain ⟨q, hq, ht⟩ := ih hu
    exact ⟨q, ⟨u, hR, hq⟩, ht⟩

/-- The places that have been seen are closed under a relation, but for the fresh ones. -/
def Explored (R : Place → Place → Prop) (seen fresh : List Place) : Prop :=
  (∀ p ∈ fresh, p ∈ seen) ∧ ∀ p ∈ seen, p ∉ fresh → ∀ q, R p q → q ∈ seen

/-- Steps do not lead out of a closed list. -/
theorem mem_of_leads {R : Place → Place → Prop} {seen : List Place}
    (h : ∀ p ∈ seen, ∀ q, R p q → q ∈ seen) {n : Nat} {p q : Place} (hp : p ∈ seen)
    (hq : Leads R n p q) : q ∈ seen := by
  induction n generalizing p with
  | zero => exact hq ▸ hp
  | succ n ih =>
    obtain ⟨t, hR, ht⟩ := hq
    exact ih (h p hp t hR) ht

/-- A place is left if it is in the first list and not in the second. -/
theorem mem_without {text : List Char} {ps qs : List Place} (hp : AreOf text ps)
    (hq : AreOf text qs) (t : Place) : t ∈ without ps qs ↔ t ∈ ps ∧ t ∉ qs := by
  rw [without_eq_filter hp hq, List.mem_filter]
  simp

/-- What is left is still in order. -/
theorem areOf_without {text : List Char} {ps qs : List Place} (hp : AreOf text ps)
    (hq : AreOf text qs) : AreOf text (without ps qs) :=
  without_eq_filter hp hq ▸ hp.filter _

/-- A step from a place that has been seen leads to another one or to a new place. -/
theorem mem_or_mem_without {text : List Char} {step : List Place → List Place}
    {R : Place → Place → Prop} (h : Follows text step R) {seen fresh : List Place}
    (hseen : AreOf text seen) (hfresh : AreOf text fresh) (hexp : Explored R seen fresh)
    {p q : Place} (hp : p ∈ seen) (hR : R p q) : q ∈ seen ∨ q ∈ without (step fresh) seen := by
  obtain ⟨hnext, hmem⟩ := h fresh hfresh
  by_cases hq : q ∈ seen
  · exact .inl hq
  · refine .inr ((mem_without hnext hseen q).2 ⟨(hmem q).2 ?_, hq⟩)
    by_cases hpf : p ∈ fresh
    · exact ⟨p, hpf, hR⟩
    · exact absurd (hexp.2 p hp hpf q hR) hq

/-- The places that have been seen together with the new ones are closed but for these. -/
theorem explored_merge {text : List Char} {step : List Place → List Place}
    {R : Place → Place → Prop} (h : Follows text step R) {seen fresh : List Place}
    (hseen : AreOf text seen) (hfresh : AreOf text fresh) (hexp : Explored R seen fresh) :
    Explored R (merge (without (step fresh) seen) seen) (without (step fresh) seen) := by
  have hmerge := mem_merge (areOf_without (h fresh hfresh).1 hseen) hseen
  refine ⟨fun p hp => (hmerge p).2 (.inl hp), ?_⟩
  intro p hp hpn q hR
  have hpseen : p ∈ seen := ((hmerge p).1 hp).resolve_left hpn
  exact (hmerge q).2 (mem_or_mem_without h hseen hfresh hexp hpseen hR).symm

/-- Up to `n` rounds find exactly the places within `n` steps. -/
theorem mem_roundsUpTo {text : List Char} {step : List Place → List Place}
    {R : Place → Place → Prop} (h : Follows text step R) (n : Nat) {seen fresh : List Place}
    (hseen : AreOf text seen) (hfresh : AreOf text fresh) (hexp : Explored R seen fresh) :
    AreOf text (roundsUpTo step n seen fresh) ∧
      ∀ q, q ∈ roundsUpTo step n seen fresh ↔ ∃ p ∈ seen, ∃ m ≤ n, Leads R m p q := by
  induction n generalizing seen fresh with
  | zero => exact ⟨hseen, by simp [roundsUpTo, Leads]⟩
  | succ n ih =>
    obtain ⟨hnext, hmem⟩ := h fresh hfresh
    have hmore := fun {p q} => @mem_or_mem_without _ _ _ h _ _ hseen hfresh hexp p q
    unfold roundsUpTo
    split
    · rename_i hnil
      -- Without new places those that have been seen are closed.
      have hclosed : ∀ p ∈ seen, ∀ q, R p q → q ∈ seen := fun p hp q hR => by
        simpa [hnil] using hmore hp hR
      refine ⟨hseen, ?_⟩
      intro q
      constructor
      · intro hq
        exact ⟨q, hq, 0, Nat.zero_le _, rfl⟩
      · rintro ⟨p, hp, m, -, hm⟩
        exact mem_of_leads hclosed hp hm
    · have hnew := areOf_without hnext hseen
      have hmerge := mem_merge hnew hseen
      obtain ⟨hlist, hiff⟩ :=
        ih (areOf_merge hnew hseen) hnew (explored_merge h hseen hfresh hexp)
      refine ⟨hlist, ?_⟩
      intro q
      rw [hiff q]
      constructor
      · rintro ⟨p, hp, m, hm, hlead⟩
        rcases (hmerge p).1 hp with hp | hp
        · obtain ⟨t, ht, hR⟩ := (hmem p).1 ((mem_without hnext hseen p).1 hp).1
          exact ⟨t, hexp.1 t ht, m + 1, Nat.succ_le_succ hm, p, hR, hlead⟩
        · exact ⟨p, hp, m, Nat.le_succ_of_le hm, hlead⟩
      · rintro ⟨p, hp, m, hm, hlead⟩
        cases m with
        | zero => exact ⟨p, (hmerge p).2 (.inr hp), 0, Nat.zero_le _, hlead⟩
        | succ m =>
          obtain ⟨t, hR, ht⟩ := hlead
          exact ⟨t, (hmerge t).2 (hmore hp hR).symm, m, Nat.le_of_succ_le_succ hm, ht⟩

/-- Merging lists that share no place loses none. -/
theorem length_merge {text : List Char} {ps qs : List Place} (hp : AreOf text ps)
    (hq : AreOf text qs) (h : ∀ p ∈ ps, p ∉ qs) :
    (merge ps qs).length = ps.length + qs.length := by
  induction ps generalizing qs with
  | nil => simp [merge]
  | cons p ps ih =>
    obtain ⟨hof, -, hps⟩ := areOf_cons.1 hp
    have hne : ∀ q ∈ qs, decide (¬ decide (p.index < q.index) = true) =
        decide (q.index < p.index) := by
      intro q hq'
      have : p.index ≠ q.index := fun heq =>
        h p List.mem_cons_self (eq_of_index_eq hof (hq.1 q hq') heq ▸ hq')
      by_cases hlt : p.index < q.index
      · have : ¬ q.index < p.index := by omega
        simp [hlt, this]
      · have : q.index < p.index := by omega
        simp [hlt, this]
    -- The head is not in the second list, which it splits in two.
    have hsplit := List.length_eq_countP_add_countP (fun q : Place => p.index < q.index) (l := qs)
    rw [List.countP_eq_length_filter, List.countP_eq_length_filter, List.filter_congr hne] at hsplit
    unfold merge
    rw [takeWhile_eq_filter hq, dropWhile_eq_filter hq, List.length_append, List.length_cons,
      ih hps (hq.filter _) fun t ht ht' =>
        h t (List.mem_cons_of_mem _ ht) (List.mem_filter.1 ht').1, List.length_cons]
    omega

/-- There are at most as many places as there are numbers for them. -/
theorem length_le_of_lt {ps : List Place} (h : ps.Pairwise fun p q => q.index < p.index)
    {k : Nat} (hk : ∀ p ∈ ps, p.index < k) : ps.length ≤ k := by
  induction ps generalizing k with
  | nil => exact Nat.zero_le _
  | cons p ps ih =>
    obtain ⟨hlt, hpair⟩ := List.pairwise_cons.1 h
    have := ih hpair hlt
    have := hk p List.mem_cons_self
    rw [List.length_cons]
    omega

/-- Where there are as many places as numbers, each number has its place. -/
theorem exists_index_eq {ps : List Place} (h : ps.Pairwise fun p q => q.index < p.index)
    {k : Nat} (hk : ∀ p ∈ ps, p.index < k) (hlength : k ≤ ps.length) {i : Nat} (hi : i < k) :
    ∃ p ∈ ps, p.index = i := by
  induction ps generalizing k with
  | nil =>
    rw [List.length_nil] at hlength
    omega
  | cons p ps ih =>
    obtain ⟨hlt, hpair⟩ := List.pairwise_cons.1 h
    rw [List.length_cons] at hlength
    have hbound := length_le_of_lt hpair hlt
    have hp := hk p List.mem_cons_self
    -- The head has the greatest of the numbers, and the others have all that are below it.
    by_cases hip : i = p.index
    · exact ⟨p, List.mem_cons_self, hip.symm⟩
    · obtain ⟨q, hq, hqi⟩ := ih hpair hlt (by omega) (by omega : i < p.index)
      exact ⟨q, List.mem_cons_of_mem _ hq, hqi⟩

/-- A list as long as there are places holds them all. -/
theorem mem_of_length {text : List Char} {ps : List Place} (h : AreOf text ps)
    (hlength : text.length + 1 ≤ ps.length) {p : Place} (hp : p.IsOf text) : p ∈ ps := by
  obtain ⟨q, hq, heq⟩ := exists_index_eq h.2
    (fun q hq => Nat.lt_succ_of_le (index_le (h.1 q hq))) hlength
    (Nat.lt_succ_of_le (index_le hp))
  exact eq_of_index_eq (h.1 q hq) hp heq ▸ hq

/-- As many rounds as there are places leave nothing to be reached. -/
theorem closed_roundsUpTo {text : List Char} {step : List Place → List Place}
    {R : Place → Place → Prop} (h : Follows text step R) (n : Nat) {seen fresh : List Place}
    (hseen : AreOf text seen) (hfresh : AreOf text fresh) (hexp : Explored R seen fresh)
    (hn : text.length + 1 ≤ n + seen.length) :
    ∀ p ∈ roundsUpTo step n seen fresh, ∀ q, R p q → q ∈ roundsUpTo step n seen fresh := by
  induction n generalizing seen fresh with
  | zero =>
    intro p hp q hR
    -- By now all the places of the text have been seen.
    obtain ⟨hlist, hmem⟩ := h seen hseen
    exact mem_of_length hseen (by omega) (hlist.1 q ((hmem q).2 ⟨p, hp, hR⟩))
  | succ n ih =>
    have hnext := (h fresh hfresh).1
    have hnew := areOf_without hnext hseen
    unfold roundsUpTo
    split
    · rename_i hnil
      intro p hp q hR
      simpa [hnil] using mem_or_mem_without h hseen hfresh hexp hp hR
    · rename_i hne
      -- A round that goes on has seen a new place, which makes up for the round.
      refine ih (areOf_merge hnew hseen) hnew (explored_merge h hseen hfresh hexp) ?_
      rw [length_merge hnew hseen fun p hp => ((mem_without hnext hseen p).1 hp).2]
      have := List.length_pos_iff.2 hne
      omega

/-- Following the text from a place lists it and all that are behind it. -/
theorem areOf_follow {text : List Char} (rest : List Char) {index : Nat} {before : Option Char}
    {places : List Place} (hp : IsOf text ⟨index, before, rest⟩) (h : AreOf text places)
    (hlt : ∀ p ∈ places, p.index < index) :
    AreOf text (follow index before rest places) ∧
      ∀ p, p ∈ follow index before rest places ↔
        p ∈ places ∨ p.IsOf text ∧ index ≤ p.index := by
  induction rest generalizing index before places with
  | nil =>
    -- At the end of the text the place is the last one.
    have hindex : index = text.length := by
      obtain ⟨front, htext, hindex, -⟩ := hp
      simp_all
    refine ⟨areOf_cons.2 ⟨hp, hlt, h⟩, ?_⟩
    intro p
    simp only [follow, List.mem_cons]
    constructor
    · rintro (rfl | hmem)
      · exact .inr ⟨hp, Nat.le_refl _⟩
      · exact .inl hmem
    · rintro (hmem | ⟨hof, hle⟩)
      · exact .inr hmem
      · have := index_le hof
        exact .inl (eq_of_index_eq hof hp (by simp only; omega))
  | cons c rest ih =>
    have hnext : IsOf text ⟨index + 1, some c, rest⟩ := by
      obtain ⟨front, htext, hindex, -⟩ := hp
      exact ⟨front ++ [c], by simpa using htext, by simpa using hindex, by simp⟩
    obtain ⟨hlist, hmem⟩ := ih hnext (areOf_cons.2 ⟨hp, hlt, h⟩) fun p hp' => by
      rcases List.mem_cons.1 hp' with rfl | hp'
      · exact Nat.lt_succ_self _
      · exact Nat.lt_succ_of_lt (hlt p hp')
    refine ⟨hlist, ?_⟩
    intro p
    apply (hmem p).trans
    simp only [List.mem_cons]
    constructor
    · rintro ((rfl | hmem) | ⟨hof, hle⟩)
      · exact .inr ⟨hp, Nat.le_refl _⟩
      · exact .inl hmem
      · exact .inr ⟨hof, Nat.le_of_succ_le hle⟩
    · rintro (hmem | ⟨hof, hle⟩)
      · exact .inl (.inr hmem)
      · rcases Nat.eq_or_lt_of_le hle with heq | hlt'
        · exact .inl (.inl (eq_of_index_eq hof hp heq.symm))
        · exact .inr ⟨hof, hlt'⟩

/-- All the places of a text are listed. -/
theorem areOf_all (text : List Char) :
    AreOf text (all text) ∧ ∀ p, p ∈ all text ↔ p.IsOf text := by
  obtain ⟨hlist, hmem⟩ := @areOf_follow text text 0 none [] (isOf_start text)
    ⟨by simp, List.Pairwise.nil⟩ (by simp)
  exact ⟨hlist, fun p => (hmem p).trans (by simp)⟩

end Place

end Pattern

namespace Regex

open Pattern Place

/-- A repetition matches by a number of matches in a row that lies between its bounds. -/
theorem matches_repeat_iff {r : Regex} {low : Nat} {high : Option Nat} {greedy : Bool}
    {p q : Place} :
    Matches (.repeat r low high greedy) p q ↔
      ∃ n, low ≤ n ∧ (∀ h, high = some h → n ≤ max low h) ∧ Leads (Matches r) n p q := by
  constructor
  · intro h
    -- The rules of a repetition lead to the same one with other bounds, so these are generalized.
    generalize he : Regex.repeat r low high greedy = e at h
    induction h generalizing low high with
    | repeatNone =>
      cases he
      exact ⟨0, Nat.le_refl _, fun _ _ => Nat.zero_le _, rfl⟩
    | repeatRequired hfirst _ _ ih =>
      cases he
      obtain ⟨n, hlow, hhigh, hn⟩ := ih rfl
      refine ⟨n + 1, Nat.succ_le_succ hlow, fun h heq => ?_, _, hfirst, hn⟩
      have := hhigh (h - 1) (by simp [heq])
      omega
    | repeatMore hne hfirst _ _ ih =>
      cases he
      obtain ⟨n, hlow, hhigh, hn⟩ := ih rfl
      refine ⟨n + 1, Nat.zero_le _, fun h heq => ?_, _, hfirst, hn⟩
      have := hhigh (h - 1) (by simp [heq])
      have : h ≠ 0 := fun h0 => hne (h0 ▸ heq)
      omega
    | _ => cases he
  · rintro ⟨n, hlow, hhigh, hn⟩
    induction n generalizing low high p with
    | zero =>
      obtain rfl := Nat.le_zero.1 hlow
      cases hn
      exact .repeatNone
    | succ n ih =>
      obtain ⟨t, hR, ht⟩ := hn
      cases low with
      | zero =>
        refine .repeatMore (fun h0 => ?_) hR (ih (Nat.zero_le _) (fun h heq => ?_) ht)
        · have := hhigh 0 h0
          omega
        · cases high with
          | none => simp at heq
          | some h' =>
            have := hhigh h' rfl
            simp only [Option.map_some, Option.some.injEq] at heq
            omega
      | succ low =>
        refine .repeatRequired hR (ih (Nat.le_of_succ_le_succ hlow) (fun h heq => ?_) ht)
        cases high with
        | none => simp at heq
        | some h' =>
          have := hhigh h' rfl
          simp only [Option.map_some, Option.some.injEq] at heq
          omega

/-- The places that `ends` finds are exactly those where matches from the starts end. -/
theorem follows_ends (text : List Char) (r : Regex) :
    Follows text (r.ends (text.length + 1)) (Matches r) := by
  induction r with
  | empty =>
    intro ps hps
    refine ⟨hps, ?_⟩
    intro q
    constructor
    · intro hq
      exact ⟨q, hq, .empty⟩
    · rintro ⟨p, hp, h⟩
      cases h
      exact hp
  | char unicode set =>
    intro ps hps
    refine ⟨⟨?_, ?_⟩, ?_⟩
    · intro q hq
      obtain ⟨p, hp, h⟩ := List.mem_filterMap.1 hq
      exact (isOf_advance (hps.1 p hp) h).1
    · -- Each place moves on by one, so their order stays.
      apply List.pairwise_filterMap.2
      refine hps.2.imp_of_mem ?_
      intro p q hp hq hlt p' hp' q' hq'
      have := (isOf_advance (hps.1 p hp) hp').2
      have := (isOf_advance (hps.1 q hq) hq').2
      omega
    · intro q
      rw [ends, List.mem_filterMap]
      constructor
      · rintro ⟨p, hp, h⟩
        exact ⟨p, hp, .char h⟩
      · rintro ⟨p, hp, h⟩
        cases h with
        | char h => exact ⟨p, hp, h⟩
  | look l =>
    intro ps hps
    refine ⟨hps.filter _, ?_⟩
    intro q
    rw [ends, List.mem_filter]
    constructor
    · rintro ⟨hq, h⟩
      exact ⟨q, hq, .look h⟩
    · rintro ⟨p, hp, h⟩
      cases h with
      | look h => exact ⟨hp, h⟩
  | seq r s hr hs =>
    intro ps hps
    obtain ⟨hlist, hmem⟩ := hr ps hps
    obtain ⟨hlist', hmem'⟩ := hs _ hlist
    refine ⟨hlist', ?_⟩
    intro q
    apply (hmem' q).trans
    constructor
    · rintro ⟨t, ht, h⟩
      obtain ⟨p, hp, h'⟩ := (hmem t).1 ht
      exact ⟨p, hp, .seq h' h⟩
    · rintro ⟨p, hp, h⟩
      cases h with
      | seq h h' => exact ⟨_, (hmem _).2 ⟨p, hp, h⟩, h'⟩
  | alt r s hr hs =>
    intro ps hps
    obtain ⟨hlist, hmem⟩ := hr ps hps
    obtain ⟨hlist', hmem'⟩ := hs ps hps
    refine ⟨areOf_merge hlist hlist', ?_⟩
    intro q
    apply (mem_merge hlist hlist' q).trans
    rw [hmem, hmem']
    constructor
    · rintro (⟨p, hp, h⟩ | ⟨p, hp, h⟩)
      · exact ⟨p, hp, .altFirst h⟩
      · exact ⟨p, hp, .altSecond h⟩
    · rintro ⟨p, hp, h⟩
      cases h with
      | altFirst h => exact .inl ⟨p, hp, h⟩
      | altSecond h => exact .inr ⟨p, hp, h⟩
  | «repeat» r low high greedy hr =>
    intro ps hps
    obtain ⟨hlist, hmem⟩ := follows_rounds hr low ps hps
    -- Behind the rounds that are due every place is fresh.
    have hexp : Explored (Matches r) (rounds (r.ends (text.length + 1)) low ps)
        (rounds (r.ends (text.length + 1)) low ps) :=
      ⟨fun _ h => h, fun p hp hnot => absurd hp hnot⟩
    cases high with
    | none =>
      obtain ⟨hlist', hmem'⟩ := mem_roundsUpTo hr (text.length + 1) hlist hlist hexp
      -- As many rounds as there are places find all that can be reached.
      have hclosed := closed_roundsUpTo hr (text.length + 1) hlist hlist hexp (by omega)
      refine ⟨hlist', ?_⟩
      intro q
      simp only [matches_repeat_iff]
      constructor
      · intro hq
        obtain ⟨t, ht, m, -, hm⟩ := (hmem' q).1 hq
        obtain ⟨p, hp, hlead⟩ := (hmem t).1 ht
        exact ⟨p, hp, low + m, Nat.le_add_right _ _, by simp, leads_trans hlead hm⟩
      · rintro ⟨p, hp, n, hlow, -, hn⟩
        obtain ⟨m, rfl⟩ := Nat.exists_eq_add_of_le hlow
        obtain ⟨t, ht, hm⟩ := exists_of_leads_add hn
        exact mem_of_leads hclosed
          ((hmem' t).2 ⟨t, (hmem t).2 ⟨p, hp, ht⟩, 0, Nat.zero_le _, rfl⟩) hm
    | some high =>
      obtain ⟨hlist', hmem'⟩ := mem_roundsUpTo hr (high - low) hlist hlist hexp
      refine ⟨hlist', ?_⟩
      intro q
      apply (hmem' q).trans
      simp only [matches_repeat_iff, Option.some.injEq, forall_eq']
      constructor
      · rintro ⟨t, ht, m, hm, hlead⟩
        obtain ⟨p, hp, hlead'⟩ := (hmem t).1 ht
        exact ⟨p, hp, low + m, Nat.le_add_right _ _, by omega, leads_trans hlead' hlead⟩
      · rintro ⟨p, hp, n, hlow, hhigh, hn⟩
        obtain ⟨m, rfl⟩ := Nat.exists_eq_add_of_le hlow
        obtain ⟨t, ht, hm⟩ := exists_of_leads_add hn
        exact ⟨t, (hmem t).2 ⟨p, hp, ht⟩, m, by omega, hm⟩
  | group capturing r hr =>
    intro ps hps
    obtain ⟨hlist, hmem⟩ := hr ps hps
    refine ⟨hlist, ?_⟩
    intro q
    apply (hmem q).trans
    constructor
    · rintro ⟨p, hp, h⟩
      exact ⟨p, hp, .group h⟩
    · rintro ⟨p, hp, h⟩
      cases h with
      | group h => exact ⟨p, hp, h⟩

/-- A text has a match exactly if the expression matches between two of its places. -/
theorem isMatch_iff (r : Regex) (text : List Char) :
    r.isMatch text = true ↔ ∃ p q : Place, p.IsOf text ∧ Matches r p q := by
  obtain ⟨hlist, hmem⟩ := areOf_all text
  have hends := (follows_ends text r (all text) hlist).2
  simp only [isMatch, Bool.not_eq_true', List.isEmpty_eq_false_iff_exists_mem]
  constructor
  · rintro ⟨q, hq⟩
    obtain ⟨p, hp, h⟩ := (hends q).1 hq
    exact ⟨p, q, (hmem p).1 hp, h⟩
  · rintro ⟨p, q, hp, h⟩
    exact ⟨q, (hends q).2 ⟨p, (hmem p).2 hp, h⟩⟩

/-- Behind the start of the text, an expression has a match exactly if it matches from there. -/
theorem isMatch_textStart_iff (r : Regex) (text : List Char) :
    (Regex.seq (.look .textStart) r).isMatch text = true ↔
      ∃ q, Matches r (Place.start text) q := by
  rw [isMatch_iff]
  constructor
  · rintro ⟨p, q, ⟨front, htext, hindex, hbefore⟩, h⟩
    cases h with
    | seq hlook h =>
      cases hlook with
      | look hlook =>
        -- The start of the text is the place with nothing in front.
        have hfront : front = [] := by
          rw [← List.getLast?_eq_none_iff, ← hbefore]
          simpa [answers, Look.holds] using hlook
        have hp : p = Place.start text := by
          cases p
          simp_all [Place.start]
        exact ⟨q, hp ▸ h⟩
  · rintro ⟨q, h⟩
    exact ⟨Place.start text, q, isOf_start text, .seq (.look rfl) h⟩

end Regex

end RecordSieve
