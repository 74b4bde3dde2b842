import RecordSieve.Proofs.Json.Decoding
import RecordSieve.Sieve.Record

/-!
# Ends of Lines behind a Document

The newline that ends a line, and a carriage return in front of it, are blanks to the decoding
machine. So they follow a complete object without a trace, and they do not complete one either: that
takes a closing brace. Nor are they shown in messages.

## Main definitions

* `IsLineEnd`: the bytes that may end a line;
* `Json.Phase.holdsObject`, `Json.Decoder.Follows`: what phase may stand behind a byte;
* `Utf8.State.RefusesAscii`: the states of the text machine.

## Main statements

* `Json.Decoder.follows_step`: a byte completes an object only if it is a closing brace;
* `Json.decodeObject_append`: bytes that end a line do not change what is decoded in front of them;
* `Utf8.decodeLossyFrom_append`, `shownLine_append`: nor do they change what is shown.
-/

namespace RecordSieve

/-- The bytes that may end a line: the newline and the carriage return. -/
def IsLineEnd (b : UInt8) : Prop := b = newline ∨ b = 0x0d

namespace IsLineEnd

variable {b : UInt8}

theorem isBlank (h : IsLineEnd b) : Json.Decoder.isBlank b = true := by
  rcases h with rfl | rfl
  · rfl
  · rfl

theorem ne_closingBrace (h : IsLineEnd b) : b ≠ 0x7d := by
  rcases h with rfl | rfl
  · decide
  · decide

theorem isAscii (h : IsLineEnd b) : b < 0x80 := by
  rcases h with rfl | rfl
  · decide
  · decide

/-- Messages show no text that ends with the character of the byte. -/
theorem isDropped (h : IsLineEnd b) :
    (Char.ofNat b.toNat = '\n' || Char.ofNat b.toNat = '\r') = true := by
  rcases h with rfl | rfl
  · rfl
  · rfl

end IsLineEnd

namespace Json

/-- Whether a phase holds an object: as the document, or as what a word stands for. -/
def Phase.holdsObject : Phase → Bool
  | .word _ (.object _) | .done (.object _) => true
  | _ => false

namespace Decoder

variable {decoder next : Decoder} {b : UInt8} {fields : Fields}

/-- What may stand behind a byte. A word that is being read does not stand for an object, and an
object that is the whole document was so before, or the byte is a closing brace. -/
structure Follows (b : UInt8) (before after : Phase) : Prop where
  word_ne : ∀ rest fields, after ≠ .word rest (.object fields)
  done : ∀ fields, after = .done (.object fields) → before = .done (.object fields) ∨ b = 0x7d

/-- A phase that holds no object may stand behind any byte. -/
theorem follows_of_holdsObject {before after : Phase} (h : after.holdsObject = false) :
    Follows b before after := by
  refine ⟨?_, ?_⟩
  · rintro rest fields rfl
    cases h
  · rintro fields rfl
    cases h

/-- Phases follow one another over any number of bytes. -/
theorem Follows.trans {first second third : Phase} (h : Follows b first second)
    (h' : Follows b second third) : Follows b first third :=
  ⟨h'.word_ne, fun fields hdone => (h'.done fields hdone).elim (h.done fields) .inr⟩

/-- A value that is delivered is not read as a word, and it is an object only behind a brace. -/
theorem follows_deliver {value : Json} {finish : Nat} {before : Phase}
    (h : decoder.deliver value finish = .ok next)
    (hvalue : ∀ fields, value = .object fields → b = 0x7d) : Follows b before next.phase := by
  unfold deliver at h
  split at h
  · split at h
    -- Outside all containers the value is the document, and otherwise the container goes on.
    · cases h
      exact ⟨fun _ _ => Phase.noConfusion,
        fun fields hdone => .inr (hvalue fields (Phase.done.inj hdone))⟩
    · cases h
      exact follows_of_holdsObject rfl
    · cases h
      exact follows_of_holdsObject rfl
  · cases h

/-- A value begins with a word only if it is null or a truth value. -/
theorem follows_startValue {before : Phase} (h : decoder.startValue b = .ok next) :
    Follows b before next.phase := by
  unfold startValue openArray opening at h
  repeat' split at h
  all_goals
    cases h
  all_goals
    exact follows_of_holdsObject rfl

/-- A byte that is taken completes an object only if it is a closing brace. -/
theorem follows_take (hword : ∀ rest fields, decoder.phase ≠ .word rest (.object fields))
    (h : decoder.take b = .ok next) : Follows b decoder.phase next.phase := by
  obtain ⟨objectsOnly, offset, frames, phase⟩ := decoder
  -- In each phase the byte is passed over, or leads to another phase, or completes a value.
  cases phase with
  | value place =>
    simp only [take] at h
    split at h
    · cases h
      exact follows_of_holdsObject rfl
    split at h
    · split at h
      · exact follows_deliver h (by rintro _ ⟨⟩)
      · cases h
    split at h
    · cases h
    · exact follows_startValue h
  | key first fields =>
    simp only [take] at h
    split at h
    · cases h
      exact follows_of_holdsObject rfl
    split at h
    · cases h
      exact follows_of_holdsObject rfl
    split at h
    -- An object without members is complete, and the byte is its brace.
    next hbrace =>
      split at h
      · exact follows_deliver h fun _ _ => hbrace
      · cases h
    next => cases h
  | keyText fields reader =>
    simp only [take] at h
    split at h
    · cases h
      exact follows_of_holdsObject rfl
    · cases h
      exact follows_of_holdsObject rfl
    · cases h
  | colon fields key =>
    simp only [take] at h
    split at h
    · cases h
      exact follows_of_holdsObject rfl
    split at h
    · cases h
      exact follows_of_holdsObject rfl
    · cases h
  | word rest value =>
    -- The value is known from the first letter on.
    have hvalue : ∀ fields, value ≠ .object fields := by
      rintro fields rfl
      exact hword rest fields rfl
    rcases rest with _ | ⟨letter, _ | ⟨other, rest⟩⟩
    · cases h
    · simp only [take] at h
      split at h
      · exact follows_deliver h fun fields heq => absurd heq (hvalue fields)
      · cases h
    · simp only [take] at h
      split at h
      · cases h
        exact ⟨fun _ fields heq => hvalue fields (Phase.word.inj heq).2,
          fun _ => Phase.noConfusion⟩
      · cases h
  | number reader =>
    simp only [take] at h
    split at h
    · cases h
      exact follows_of_holdsObject rfl
    · cases h
      exact follows_of_holdsObject rfl
    · cases h
  | string reader =>
    simp only [take] at h
    split at h
    · cases h
      exact follows_of_holdsObject rfl
    · exact follows_deliver h (by rintro _ ⟨⟩)
    · cases h
  | afterItem items =>
    simp only [take] at h
    split at h
    · cases h
      exact follows_of_holdsObject rfl
    split at h
    · cases h
      exact follows_of_holdsObject rfl
    split at h
    · exact follows_deliver h (by rintro _ ⟨⟩)
    · cases h
  | afterMember fields =>
    simp only [take] at h
    split at h
    · cases h
      exact follows_of_holdsObject rfl
    split at h
    · cases h
      exact follows_of_holdsObject rfl
    split at h
    -- The brace behind the last member.
    next hbrace => exact follows_deliver h fun _ _ => hbrace
    next => cases h
  | done value =>
    simp only [take] at h
    split at h
    · cases h
      exact ⟨hword, fun _ => .inl⟩
    · cases h

/-- A number that ends in front of a byte is no object. -/
theorem follows_settle (hword : ∀ rest fields, decoder.phase ≠ .word rest (.object fields))
    (h : decoder.settle b = .ok next) : Follows b decoder.phase next.phase := by
  have hself : Follows b decoder.phase decoder.phase := ⟨hword, fun _ => .inl⟩
  unfold settle at h
  split at h
  · split at h
    · split at h
      · exact follows_deliver h (by rintro _ ⟨⟩)
      · cases h
    · cases h
      exact hself
  · cases h
    exact hself

/-- A byte completes an object only if it is a closing brace. -/
theorem follows_step (hword : ∀ rest fields, decoder.phase ≠ .word rest (.object fields))
    (h : decoder.step b = .ok next) : Follows b decoder.phase next.phase := by
  rcases hsettle : decoder.settle b with fault | settled
  · rw [step_eq_error_of_settle hsettle] at h
    cases h
  · have hsettled := follows_settle hword hsettle
    rcases htake : settled.take b with fault | taken
    · rw [step_eq_error_of_take htake hsettle] at h
      cases h
    · have htaken := follows_take hsettled.word_ne htake
      rw [step_eq_ok htake hsettle] at h
      cases h
      exact hsettled.trans htaken

/-- A run over more bytes passes a decoder behind each of them. -/
theorem exists_of_run_cons {rest : List UInt8} (h : decoder.run (b :: rest) = .ok next) :
    ∃ middle, decoder.step b = .ok middle ∧ middle.run rest = .ok next := by
  rcases hstep : decoder.step b with fault | middle
  · rw [run, List.foldlM_cons, hstep] at h
    cases h
  · exact ⟨middle, rfl, (run_cons hstep rest).symm.trans h⟩

/-- A decoder that has read two parts has read the first one. -/
theorem exists_of_run_append {front back : List UInt8}
    (h : decoder.run (front ++ back) = .ok next) :
    ∃ middle, decoder.run front = .ok middle ∧ middle.run back = .ok next := by
  rcases hfront : decoder.run front with fault | middle
  · rw [run, List.foldlM_append, ← run, hfront] at h
    cases h
  · exact ⟨middle, rfl, (run_append hfront back).symm.trans h⟩

/-- No word that is being read stands for an object. -/
theorem word_ne_of_run (hword : ∀ rest fields, decoder.phase ≠ .word rest (.object fields))
    {bytes : List UInt8} (h : decoder.run bytes = .ok next) :
    ∀ rest fields, next.phase ≠ .word rest (.object fields) := by
  induction bytes generalizing decoder with
  | nil =>
    cases h
    exact hword
  | cons b bytes ih =>
    obtain ⟨middle, hstep, hrun⟩ := exists_of_run_cons h
    exact ih (follows_step hword hstep).word_ne hrun

/-- Bytes that end a line do not complete an object. -/
theorem done_of_run_lineEnds {ends : List UInt8} (hends : ∀ b ∈ ends, IsLineEnd b)
    (hword : ∀ rest fields, decoder.phase ≠ .word rest (.object fields))
    (h : decoder.run ends = .ok next) (hdone : next.phase = .done (.object fields)) :
    decoder.phase = .done (.object fields) := by
  induction ends generalizing decoder with
  | nil =>
    cases h
    exact hdone
  | cons b ends ih =>
    obtain ⟨hb, hends⟩ := List.forall_mem_cons.1 hends
    obtain ⟨middle, hstep, hrun⟩ := exists_of_run_cons h
    have hfollows := follows_step hword hstep
    -- The object was there in front of the byte, since the byte does not close it.
    exact (hfollows.done fields (ih hends hfollows.word_ne hrun)).resolve_right hb.ne_closingBrace

/-- Bytes that end a line may follow a document. -/
theorem exists_run_lineEnds {ends : List UInt8} (hends : ∀ b ∈ ends, IsLineEnd b) {value : Json}
    (hdone : decoder.phase = .done value) :
    ∃ next, decoder.run ends = .ok next ∧ next.phase = .done value := by
  induction ends generalizing decoder with
  | nil => exact ⟨decoder, rfl, hdone⟩
  | cons b ends ih =>
    obtain ⟨hb, hends⟩ := List.forall_mem_cons.1 hends
    have hsettle : decoder.settle b = .ok decoder := by
      simp only [settle, hdone]
    have htake : decoder.take b = .ok decoder := by
      simp only [take, hdone, hb.isBlank, if_true]
    -- The decoder is where it was, one byte further on.
    have hbehind : { decoder with offset := decoder.offset + 1 }.phase = .done value := hdone
    obtain ⟨next, hrun, hnext⟩ := ih hends hbehind
    exact ⟨next, (run_cons (step_eq_ok htake hsettle) ends).trans hrun, hnext⟩

/-- The bytes write an object exactly if it has been delivered as the document. -/
theorem finish_eq_ok_object_iff :
    decoder.finish = .ok (.object fields) ↔ decoder.phase = .done (.object fields) := by
  obtain ⟨objectsOnly, offset, frames, phase⟩ := decoder
  constructor
  · intro h
    cases phase with
    | done value =>
      cases h
      rfl
    | number reader =>
      simp only [finish] at h
      split at h
      · cases h
      next number _ =>
        split at h
        · cases h
        next delivered hdelivered =>
          -- The end completes the number, which makes no object of it.
          have hfollows : Follows 0 (.number reader) delivered.phase :=
            follows_deliver hdelivered (by rintro _ ⟨⟩)
          split at h
          next hdone =>
            cases h
            rcases hfollows.done fields hdone with heq | heq
            · cases heq
            · cases heq
          · cases h
          · cases h
    | value place => cases place <;> cases h
    | key first fields => cases first <;> cases h
    | _ => cases h
  · rintro rfl
    rfl

end Decoder

/-- The decoder after the last byte holds the object that bytes write. -/
theorem decodeObject_eq_ok_iff {bytes : List UInt8} {fields : Fields} :
    decodeObject bytes = .ok fields ↔
      ∃ decoder, (Decoder.start true).run bytes = .ok decoder ∧
        decoder.phase = .done (.object fields) := by
  unfold decodeObject
  rcases hrun : (Decoder.start true).run bytes with fault | decoder
  · constructor
    · nofun
    · rintro ⟨_, ⟨⟩, -⟩
  · have hfinish : (Except.ok decoder >>= Decoder.finish) = decoder.finish := rfl
    rw [hfinish]
    constructor
    · intro h
      refine ⟨decoder, rfl, Decoder.finish_eq_ok_object_iff.1 ?_⟩
      -- Of what a decoder ends with only an object has fields.
      split at h
      next hobject =>
        cases h
        exact hobject
      · cases h
      · cases h
    · rintro ⟨_, ⟨⟩, hdone⟩
      rw [Decoder.finish_eq_ok_object_iff.2 hdone]

/-- Bytes that end a line do not change what is decoded in front of them. -/
theorem decodeObject_append {ends : List UInt8} (hends : ∀ b ∈ ends, IsLineEnd b)
    (bytes : List UInt8) {fields : Fields} :
    decodeObject (bytes ++ ends) = .ok fields ↔ decodeObject bytes = .ok fields := by
  rw [decodeObject_eq_ok_iff, decodeObject_eq_ok_iff]
  constructor
  · rintro ⟨decoder, hrun, hdone⟩
    obtain ⟨middle, hbytes, hrest⟩ := Decoder.exists_of_run_append hrun
    have hstart : ∀ rest fields, (Decoder.start true).phase ≠ .word rest (.object fields) := nofun
    have hword := Decoder.word_ne_of_run hstart hbytes
    exact ⟨middle, hbytes, Decoder.done_of_run_lineEnds hends hword hrest hdone⟩
  · rintro ⟨decoder, hrun, hdone⟩
    obtain ⟨next, hrest, hnext⟩ := Decoder.exists_run_lineEnds hends hdone
    exact ⟨next, (Decoder.run_append hrun ends).trans hrest, hnext⟩

end Json

/-! ### Shown lines -/

namespace Utf8

/-- No byte of an ASCII character continues what has been seen of a character. -/
def State.RefusesAscii : State → Prop
  | .boundary => True
  | .inside _ low _ _ => 0x80 ≤ low

theorem refusesAscii_boundary : State.boundary.RefusesAscii := trivial

/-- A sequence that has begun does not go on with an ASCII byte. -/
theorem refusesAscii_of_start {b : UInt8} {state : State} (h : start b = .more state) :
    state.RefusesAscii := by
  unfold start at h
  simp only at h
  repeat' split at h
  all_goals
    cases h
  all_goals
    show (0x80 : UInt8) ≤ _
    decide

/-- Nor does one that has gone on. -/
theorem refusesAscii_of_step {b : UInt8} {state next : State} (h : step state b = .more next) :
    next.RefusesAscii := by
  cases state with
  | boundary => exact refusesAscii_of_start h
  | inside missing low high value =>
    simp only [step] at h
    split at h
    · split at h
      · cases h
      · cases h
        exact UInt8.le_refl _
    · cases h

/-- An ASCII byte is a character of its own. -/
theorem start_of_ascii {b : UInt8} (h : b < 0x80) : start b = .char (Char.ofNat b.toNat) := by
  have hlt : b.toNat < 0x80 := UInt8.lt_iff_toNat_lt.1 h
  unfold start
  exact if_pos hlt

/-- Bytes of ASCII characters stand for themselves. -/
theorem decodeLossyFrom_ascii {ends : List UInt8} (hends : ∀ b ∈ ends, b < 0x80) {state : State}
    (hstate : state.RefusesAscii) :
    decodeLossyFrom state ends =
      decodeLossyFrom state [] ++ ends.map fun b => Char.ofNat b.toNat := by
  induction ends generalizing state with
  | nil => rw [List.map_nil, List.append_nil]
  | cons b ends ih =>
    obtain ⟨hb, hends⟩ := List.forall_mem_cons.1 hends
    have hrest := ih hends refusesAscii_boundary
    cases state with
    | boundary =>
      have hchar : step .boundary b = .char (Char.ofNat b.toNat) := start_of_ascii hb
      simp only [decodeLossyFrom, hchar, hrest, List.nil_append, List.map_cons]
    | inside missing low high value =>
      -- The sequence is cut off in front of the byte, as it is at the end.
      have hcut : step (.inside missing low high value) b = .cut := by
        rw [step, if_neg]
        intro hrange
        exact absurd (UInt8.le_trans hstate hrange.1) (UInt8.not_le.2 hb)
      simp only [decodeLossyFrom, hcut, start_of_ascii hb, hrest, List.nil_append, List.map_cons,
        List.cons_append]

/-- Bytes of ASCII characters end the character in front of them, and stand for themselves. -/
theorem decodeLossyFrom_append {ends : List UInt8} (hends : ∀ b ∈ ends, b < 0x80)
    {state : State} (hstate : state.RefusesAscii) (bytes : List UInt8) :
    decodeLossyFrom state (bytes ++ ends) =
      decodeLossyFrom state bytes ++ ends.map fun b => Char.ofNat b.toNat := by
  induction bytes generalizing state with
  | nil => exact decodeLossyFrom_ascii hends hstate
  | cons b bytes ih =>
    have hboundary := ih refusesAscii_boundary
    simp only [List.cons_append, decodeLossyFrom]
    -- A character is complete, goes on, or is refused; a byte that cuts one off may begin another.
    rcases hstep : step state b with c | next | _ | _
    · simp only [hboundary, List.cons_append]
    · exact ih (refusesAscii_of_step hstep)
    · simp only [hboundary, List.cons_append]
    · rcases hstart : start b with c | next | _ | _
      · simp only [hboundary, List.cons_append]
      · simp only [ih (refusesAscii_of_start hstart), List.cons_append]
      · simp only [hboundary, List.cons_append]
      · simp only [hboundary, List.cons_append]

end Utf8

/-- Bytes that end a line are not shown. -/
theorem shownLine_append {ends : List UInt8} (hends : ∀ b ∈ ends, IsLineEnd b)
    (bytes : List UInt8) : shownLine (bytes ++ ends) = shownLine bytes := by
  have hdropped : ∀ c ∈ (ends.map fun b => Char.ofNat b.toNat).reverse,
      (c = '\n' || c = '\r') = true := by
    intro c hc
    obtain ⟨b, hb, rfl⟩ := List.mem_map.1 (List.mem_reverse.1 hc)
    exact (hends b hb).isDropped
  unfold shownLine Utf8.decodeLossy
  simp only
  rw [Utf8.decodeLossyFrom_append (fun b hb => (hends b hb).isAscii) Utf8.refusesAscii_boundary,
    List.reverse_append, List.dropWhile_append_of_pos hdropped]

end RecordSieve
