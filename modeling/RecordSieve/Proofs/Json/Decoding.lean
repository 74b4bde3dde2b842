import RecordSieve.Json.Decoder

/-!
# Decoding Plain Texts and Numbers

What the decoding machine does with plain strings, with numbers, and with an object that holds
one of them.

## Main definitions

* `IsPlain`: the characters of a string that need no escape and one byte;
* `Json.NumberReader.steps?`: the machine of numbers over bytes that all belong to a number;
* `fieldLine`: the line of an object with one field.

## Main statements

* `Json.decodeObject_fieldLine_string`, `Json.decodeObject_fieldLine_number`: an object with one
  field is decoded to that field;
* `Json.steps?_of_decode`: a text of digits and points that is decoded as a number is
  a number from its first byte to its last.
-/

namespace RecordSieve

/-- A character of one byte that stands for itself between the quotes of a string. -/
def IsPlain (c : Char) : Prop := 0x20 ≤ c.toNat ∧ c.toNat < 0x80 ∧ c ≠ '"' ∧ c ≠ '\\'

/-- An ASCII character is one byte of its own code point. -/
theorem toNat_toUInt8 {c : Char} (h : c.toNat < 0x80) : c.toUInt8.toNat = c.toNat := by
  rw [Char.toUInt8, UInt32.toNat_toUInt8]
  exact Nat.mod_eq_of_lt (Nat.lt_trans h (by decide))

/-- The empty text has no bytes. -/
@[simp]
theorem Utf8.encode_nil : Utf8.encode [] = [] := rfl

/-- Texts are encoded one after the other. -/
theorem Utf8.encode_append (first second : List Char) :
    Utf8.encode (first ++ second) = Utf8.encode first ++ Utf8.encode second :=
  List.flatMap_append

/-- An ASCII character is encoded as one byte. -/
theorem Utf8.encode_cons {c : Char} (h : c.toNat < 0x80) (rest : List Char) :
    Utf8.encode (c :: rest) = c.toUInt8 :: Utf8.encode rest := by
  have hsize : c.utf8Size = 1 := Char.utf8Size_eq_one_iff.2 (by
    rw [UInt32.le_iff_toNat_le]
    exact Nat.le_of_lt_succ h)
  rw [Utf8.encode, List.flatMap_cons, String.utf8EncodeChar_eq_singleton hsize]
  rfl

namespace Json

namespace StringReader

/-- The string reader behind plain characters. -/
def behind (text : List Char) : StringReader :=
  ⟨text.reverse, text.length, .boundary, 0, none, .outside⟩

/-- A plain character is taken as it stands. -/
theorem step_behind {c : Char} (h : IsPlain c) (text : List Char) (offset : Nat) :
    (behind text).step offset c.toUInt8 = .more (behind (text ++ [c])) := by
  obtain ⟨hblank, hascii, hquote, hbackslash⟩ := h
  have hbyte : c.toUInt8.toNat = c.toNat := toNat_toUInt8 hascii
  -- Different ASCII characters have different bytes.
  have hne {d : Char} {b : UInt8} (hd : b.toNat = d.toNat) (hcd : c ≠ d) : c.toUInt8 ≠ b := by
    intro hb
    rw [hb] at hbyte
    exact hcd (Char.toNat_inj.1 (hbyte.symm.trans hd))
  have hcontrol : ¬ c.toUInt8 < 0x20 := by
    rw [UInt8.lt_iff_toNat_lt, hbyte]
    exact Nat.not_lt.2 hblank
  have hstart : Utf8.start c.toUInt8 = .char c := by
    simp [Utf8.start, hbyte, hascii]
  simp [step, behind, hne (d := '"') (b := 0x22) rfl hquote,
    hne (d := '\\') (b := 0x5c) rfl hbackslash, hcontrol, takeByte, takeUnescaped, hstart, push]

/-- The closing quote behind plain characters. -/
theorem step_behind_quote (text : List Char) (offset : Nat) :
    (behind text).step offset 0x22 = .closed (String.ofList text) := by
  simp [step, behind, cutShort]

end StringReader

namespace NumberReader

/-- The machine over bytes that all belong to the number. -/
def steps? (reader : NumberReader) : List UInt8 → Option NumberReader
  | [] => some reader
  | b :: rest =>
      match reader.step b with
      | .more next => next.steps? rest
      | _ => none

/-- Bytes of a number are read in two parts as they are in one. -/
theorem steps?_append (reader : NumberReader) (first second : List UInt8) :
    reader.steps? (first ++ second) = (reader.steps? first).bind (·.steps? second) := by
  induction first generalizing reader with
  | nil => rfl
  | cons b rest ih =>
    simp only [List.cons_append, steps?]
    cases reader.step b with
    | more next => exact ih next
    | ended => rfl
    | wrong _ => rfl

/-- The digits and the point. -/
def IsNumeric (b : UInt8) : Prop := 0x30 ≤ b ∧ b ≤ 0x39 ∨ b = 0x2e

/-- The bytes of numbers are not blanks. -/
theorem IsNumeric.isBlank_eq_false {b : UInt8} (h : IsNumeric b) :
    Decoder.isBlank b = false := by
  -- All blanks are below the point, and digits are above it.
  have hne {blank : UInt8} (hblank : blank < 0x2e) : b ≠ blank := by
    rintro rfl
    rcases h with ⟨hle, -⟩ | rfl
    · rw [UInt8.lt_iff_toNat_lt] at hblank
      rw [UInt8.le_iff_toNat_le] at hle
      exact absurd (Nat.lt_of_le_of_lt hle hblank) (by decide)
    · exact absurd hblank (by decide)
  have hspace : b ≠ 0x20 := hne (by decide)
  have htab : b ≠ 0x09 := hne (by decide)
  have hfeed : b ≠ 0x0a := hne (by decide)
  have hreturn : b ≠ 0x0d := hne (by decide)
  simp [Decoder.isBlank, hspace, htab, hfeed, hreturn]

end NumberReader

namespace Decoder

variable {objectsOnly : Bool} {offset : Nat} {frames : List Frame}

/-- A decoder that has read some bytes goes on with those behind them. -/
theorem run_append {decoder middle : Decoder} {first : List UInt8}
    (h : decoder.run first = .ok middle) (second : List UInt8) :
    decoder.run (first ++ second) = middle.run second := by
  rw [run, List.foldlM_append]
  show (decoder.run first >>= _) = _
  rw [h]
  rfl

/-- A decoder goes on behind one byte. -/
theorem run_cons {decoder middle : Decoder} {b : UInt8} (h : decoder.step b = .ok middle)
    (rest : List UInt8) : decoder.run (b :: rest) = middle.run rest := by
  rw [run, List.foldlM_cons, h]
  rfl

/-- A byte is taken behind what it ends, and counted. -/
theorem step_eq_ok {decoder settled next : Decoder} {b : UInt8}
    (htake : settled.take b = .ok next) (hsettle : decoder.settle b = .ok settled) :
    decoder.step b = .ok { next with offset := next.offset + 1 } := by
  rw [step, hsettle]
  show (settled.take b >>= _) = _
  rw [htake]
  rfl

/-- What a byte ends may be refused. -/
theorem step_eq_error_of_settle {decoder : Decoder} {b : UInt8} {fault : Fault}
    (h : decoder.settle b = .error fault) : decoder.step b = .error fault := by
  rw [step, h]
  rfl

/-- A byte may be refused behind what it ends. -/
theorem step_eq_error_of_take {decoder settled : Decoder} {b : UInt8} {fault : Fault}
    (htake : settled.take b = .error fault) (hsettle : decoder.settle b = .ok settled) :
    decoder.step b = .error fault := by
  rw [step, hsettle]
  show (settled.take b >>= _) = _
  rw [htake]
  rfl

/-- A phase that collects a string. -/
inductive IsText : (StringReader → Phase) → Prop
  | keyText (fields : Fields) : IsText (.keyText fields)
  | string : IsText .string

/-- A byte of a string stays with the string. -/
theorem step_text {phase : StringReader → Phase} (hphase : IsText phase)
    {reader next : StringReader} {b : UInt8} (h : reader.step offset b = .more next) :
    Decoder.step ⟨objectsOnly, offset, frames, phase reader⟩ b =
      .ok ⟨objectsOnly, offset + 1, frames, phase next⟩ := by
  have htake : take ⟨objectsOnly, offset, frames, phase reader⟩ b =
      .ok ⟨objectsOnly, offset, frames, phase next⟩ := by
    cases hphase <;> simp only [take, h]
  refine step_eq_ok htake ?_
  cases hphase <;> rfl

/-- Plain characters are collected. -/
theorem run_text {phase : StringReader → Phase} (hphase : IsText phase) {text : List Char}
    (htext : ∀ c ∈ text, IsPlain c) (before : List Char) :
    Decoder.run ⟨objectsOnly, offset, frames, phase (.behind before)⟩ (Utf8.encode text) =
      .ok ⟨objectsOnly, offset + text.length, frames, phase (.behind (before ++ text))⟩ := by
  induction text generalizing before offset with
  | nil =>
    rw [List.append_nil]
    rfl
  | cons c rest ih =>
    rw [List.forall_mem_cons] at htext
    have hreader := StringReader.step_behind htext.1 before offset
    rw [Utf8.encode_cons htext.1.2.1, run_cons (step_text hphase hreader), ih htext.2]
    rw [List.append_assoc, List.singleton_append, List.length_cons, Nat.add_assoc, Nat.add_comm 1]

/-- The opening quote of a value. -/
theorem step_quote (place : Place) :
    Decoder.step ⟨objectsOnly, offset, frames, .value place⟩ '"'.toUInt8 =
      .ok ⟨objectsOnly, offset + 1, frames, .string (.behind [])⟩ := rfl

/-- The closing quote of a key. -/
theorem step_keyText_quote (fields : Fields) (text : List Char) :
    Decoder.step ⟨objectsOnly, offset, frames, .keyText fields (.behind text)⟩ 0x22 =
      .ok ⟨objectsOnly, offset + 1, frames, .colon fields (String.ofList text)⟩ := by
  have htake : take ⟨objectsOnly, offset, frames, .keyText fields (.behind text)⟩ 0x22 =
      .ok ⟨objectsOnly, offset, frames, .colon fields (String.ofList text)⟩ := by
    simp only [take, StringReader.step_behind_quote]
  exact step_eq_ok htake rfl

/-- The closing quote of a value in an object. -/
theorem step_string_quote (fields : Fields) (key : String) (text : List Char) :
    Decoder.step ⟨objectsOnly, offset, .object fields key :: frames, .string (.behind text)⟩ 0x22 =
      .ok ⟨objectsOnly, offset + 1, frames,
        .afterMember (fields.insert key (.string (String.ofList text)))⟩ := by
  have htake :
      take ⟨objectsOnly, offset, .object fields key :: frames, .string (.behind text)⟩ 0x22 =
        .ok ⟨objectsOnly, offset, frames,
          .afterMember (fields.insert key (.string (String.ofList text)))⟩ := by
    simp [take, StringReader.step_behind_quote, deliver, admits]
  exact step_eq_ok htake rfl

/-- A byte of a number stays with the number. -/
theorem step_number {reader next : NumberReader} {b : UInt8} (h : reader.step b = .more next) :
    Decoder.step ⟨objectsOnly, offset, frames, .number reader⟩ b =
      .ok ⟨objectsOnly, offset + 1, frames, .number next⟩ := by
  have htake : take ⟨objectsOnly, offset, frames, .number reader⟩ b =
      .ok ⟨objectsOnly, offset, frames, .number next⟩ := by
    simp only [take, h]
  refine step_eq_ok htake ?_
  simp only [settle, h]

/-- The bytes of a number are handed to the machine of numbers. -/
theorem run_number {reader next : NumberReader} {bytes : List UInt8}
    (h : reader.steps? bytes = some next) :
    Decoder.run ⟨objectsOnly, offset, frames, .number reader⟩ bytes =
      .ok ⟨objectsOnly, offset + bytes.length, frames, .number next⟩ := by
  induction bytes generalizing reader offset with
  | nil =>
    cases h
    rfl
  | cons b rest ih =>
    rw [NumberReader.steps?] at h
    split at h
    · next middle hmore =>
      rw [run_cons (step_number hmore), ih h]
      rw [List.length_cons, Nat.add_assoc, Nat.add_comm 1]
    · cases h

/-- Bytes of a number that the machine of numbers refuses, or in front of which a number ends,
are refused. -/
theorem run_number_eq_error {reader : NumberReader} {bytes : List UInt8}
    (hbytes : ∀ b ∈ bytes, NumberReader.IsNumeric b) (h : reader.steps? bytes = none) :
    ∃ fault, Decoder.run ⟨false, offset, [], .number reader⟩ bytes = .error fault := by
  induction bytes generalizing reader offset with
  | nil => cases h
  | cons b rest ih =>
    rw [List.forall_mem_cons] at hbytes
    have hblank : isBlank b = false := hbytes.1.isBlank_eq_false
    rw [NumberReader.steps?] at h
    cases hstep : reader.step b with
    | more next =>
      rw [hstep] at h
      rw [run_cons (step_number hstep)]
      exact ih hbytes.2 h
    | wrong cause =>
      have htake : take ⟨false, offset, [], .number reader⟩ b = .error ⟨cause, offset + 1⟩ := by
        simp only [take, hstep]
      rw [run, List.foldlM_cons, step_eq_error_of_take htake (by simp only [settle, hstep])]
      exact ⟨_, rfl⟩
    | ended =>
      -- The number is complete, and nothing but blanks may follow it.
      cases hfinish : reader.finish with
      | error cause =>
        have hsettle : settle ⟨false, offset, [], .number reader⟩ b = .error ⟨cause, offset⟩ := by
          simp only [settle, hstep, hfinish]
        rw [run, List.foldlM_cons, step_eq_error_of_settle hsettle]
        exact ⟨_, rfl⟩
      | ok value =>
        have htake : take ⟨false, offset, [], .done (.number value)⟩ b =
            .error ⟨.trailingCharacters, offset + 1⟩ := by
          simp [take, hblank]
        have hsettle : settle ⟨false, offset, [], .number reader⟩ b =
            .ok ⟨false, offset, [], .done (.number value)⟩ := by
          simp [settle, hstep, hfinish, deliver, admits]
        rw [run, List.foldlM_cons, step_eq_error_of_take htake hsettle]
        exact ⟨_, rfl⟩

/-- The first byte of a number opens it wherever a value is due. -/
theorem step_start {reader : NumberReader} {b : UInt8} (h : NumberReader.start? b = some reader)
    (place : Place) :
    Decoder.step ⟨objectsOnly, offset, frames, .value place⟩ b =
      .ok ⟨objectsOnly, offset + 1, frames, .number reader⟩ := by
  -- None of the other bytes that mean something in front of a value starts a number.
  have hnone : ([0x20, 0x09, 0x0a, 0x0d, 0x5d, 0x7b, 0x5b, 0x22, 0x6e, 0x74, 0x66] :
      List UInt8).all (fun other => NumberReader.start? other = none) = true := by decide
  have hne : ∀ other ∈ ([0x20, 0x09, 0x0a, 0x0d, 0x5d, 0x7b, 0x5b, 0x22, 0x6e, 0x74, 0x66] :
      List UInt8), b ≠ other := by
    rintro other hmem rfl
    rw [of_decide_eq_true (List.all_eq_true.1 hnone _ hmem)] at h
    cases h
  simp only [List.forall_mem_cons] at hne
  have htake : take ⟨objectsOnly, offset, frames, .value place⟩ b =
      .ok ⟨objectsOnly, offset, frames, .number reader⟩ := by
    simp [take, startValue, isBlank, hne, h]
  exact step_eq_ok htake rfl

/-- A number ends in front of a closing brace if nothing of it is missing. -/
theorem step_closingBrace {reader : NumberReader} {value : JsonNumber}
    (h : reader.finish = .ok value) : reader.step 0x7d = .ended := by
  -- A reader that a digit must follow has no value.
  cases reader <;> first | rfl | cases h

/-- A complete number goes to the object it is in, and a closing brace completes the object. -/
theorem run_number_closingBrace {reader : NumberReader} {value : JsonNumber} {key : String}
    (h : reader.finish = .ok value) :
    Decoder.run ⟨objectsOnly, offset, [.object [] key], .number reader⟩ [0x7d, 0x0a] =
      .ok ⟨objectsOnly, offset + 2, [], .done (.object [(key, .number value)])⟩ := by
  have hsettle : settle ⟨objectsOnly, offset, [.object [] key], .number reader⟩ 0x7d =
      .ok ⟨objectsOnly, offset, [], .afterMember [(key, .number value)]⟩ := by
    simp [settle, step_closingBrace h, h, deliver, admits, Fields.insert]
  have htake : take ⟨objectsOnly, offset, [], .afterMember [(key, .number value)]⟩ 0x7d =
      .ok ⟨objectsOnly, offset, [], .done (.object [(key, .number value)])⟩ := rfl
  rw [run_cons (step_eq_ok htake hsettle)]
  rfl

end Decoder

/-- A document that opens with a number is decoded from the number on. -/
theorem decode_cons {b : UInt8} {reader : NumberReader}
    (hstart : NumberReader.start? b = some reader) (rest : List UInt8) :
    decode (b :: rest) = (Decoder.run ⟨false, 1, [], .number reader⟩ rest >>=
      Decoder.finish).mapError (·.diagnosis (b :: rest)) := by
  rw [decode, Decoder.start, Decoder.run_cons (Decoder.step_start hstart _)]

/-- A text that is one number is decoded as the reader of numbers ends. -/
theorem decode_of_steps?_eq_some {b : UInt8} {rest : List UInt8} {reader next : NumberReader}
    (hstart : NumberReader.start? b = some reader) (hsteps : reader.steps? rest = some next) :
    decode (b :: rest) =
      (Decoder.finish ⟨false, 1 + rest.length, [], .number next⟩).mapError
        (·.diagnosis (b :: rest)) := by
  rw [decode_cons hstart, Decoder.run_number hsteps]
  rfl

/-- A text that is one number is decoded as that number. -/
theorem decode_of_steps? {b : UInt8} {rest : List UInt8} {value : JsonNumber}
    {reader next : NumberReader} (hstart : NumberReader.start? b = some reader)
    (hsteps : reader.steps? rest = some next) (hfinish : next.finish = .ok value) :
    decode (b :: rest) = .ok (.number value) := by
  have hend : Decoder.finish ⟨false, 1 + rest.length, [], .number next⟩ = .ok (.number value) := by
    simp [Decoder.finish, hfinish, Decoder.deliver, Decoder.admits]
  rw [decode_of_steps?_eq_some hstart hsteps, hend]
  rfl

/-- A text of digits and points that is decoded as a number is a number from its first byte to
its last. -/
theorem steps?_of_decode {b : UInt8} {rest : List UInt8} {value : JsonNumber}
    {reader : NumberReader} (hstart : NumberReader.start? b = some reader)
    (hrest : ∀ b ∈ rest, NumberReader.IsNumeric b)
    (h : decode (b :: rest) = .ok (.number value)) :
    ∃ next, reader.steps? rest = some next ∧ next.finish = .ok value := by
  cases hsteps : reader.steps? rest with
  | none =>
    -- A byte that is not taken by the number is refused by the document.
    obtain ⟨fault, hfault⟩ := Decoder.run_number_eq_error hrest hsteps
    rw [decode_cons hstart, hfault] at h
    cases h
  | some next =>
    refine ⟨next, rfl, ?_⟩
    cases hfinish : next.finish with
    | ok other =>
      rw [decode_of_steps? hstart hsteps hfinish] at h
      cases h
      rfl
    | error cause =>
      have hend : Decoder.finish ⟨false, 1 + rest.length, [], .number next⟩ =
          .error ⟨cause, 1 + rest.length⟩ := by
        simp [Decoder.finish, hfinish]
      rw [decode_of_steps?_eq_some hstart hsteps, hend] at h
      cases h

end Json

/-- The line of an object with one field. -/
def fieldLine (field value : List Char) : List UInt8 :=
  Utf8.encode ("\x7b\"".toList ++ field ++ "\":".toList ++ value ++ "\x7d\n".toList)

namespace Json

variable {field : List Char}

/-- The line of an object with one field is decoded up to its value. -/
theorem run_fieldLine (hfield : ∀ c ∈ field, IsPlain c) (value : List Char) :
    (Decoder.start true).run (fieldLine field value) =
      Decoder.run ⟨true, field.length + 4, [.object [] (String.ofList field)], .value .member⟩
        (Utf8.encode value ++ [0x7d, 0x0a]) := by
  -- The line is read in parts: the opening, the field, the colon, and then the value.
  have hopen : (Decoder.start true).run (Utf8.encode "\x7b\"".toList) =
      .ok ⟨true, 2, [], .keyText [] (.behind [])⟩ := rfl
  have hkey : Decoder.run ⟨true, 2, [], .keyText [] (.behind [])⟩ (Utf8.encode field) =
      .ok ⟨true, 2 + field.length, [], .keyText [] (.behind field)⟩ :=
    Decoder.run_text (.keyText []) hfield []
  have hclose : Decoder.run ⟨true, 2 + field.length, [], .keyText [] (.behind field)⟩
      (Utf8.encode "\":".toList) =
        .ok ⟨true, field.length + 4, [.object [] (String.ofList field)], .value .member⟩ := by
    have hbytes : Utf8.encode "\":".toList = [0x22, 0x3a] := rfl
    rw [hbytes, Decoder.run_cons (Decoder.step_keyText_quote _ _), Nat.add_comm 2]
    rfl
  have hend : Utf8.encode "\x7d\n".toList = [0x7d, 0x0a] := rfl
  rw [fieldLine]
  simp only [Utf8.encode_append, List.append_assoc, hend]
  rw [Decoder.run_append hopen, Decoder.run_append hkey, Decoder.run_append hclose]

/-- An object with a plain text. -/
theorem decodeObject_fieldLine_string {text : List Char} (hfield : ∀ c ∈ field, IsPlain c)
    (htext : ∀ c ∈ text, IsPlain c) :
    decodeObject (fieldLine field ('"' :: text ++ ['"'])) =
      .ok [(String.ofList field, .string (String.ofList text))] := by
  have hread (n : Nat) : Decoder.run
      ⟨true, n, [.object [] (String.ofList field)], .string (.behind [])⟩ (Utf8.encode text) =
        .ok ⟨true, n + text.length, [.object [] (String.ofList field)],
          .string (.behind text)⟩ :=
    Decoder.run_text .string htext []
  have hquote : Utf8.encode ['"'] = [0x22] := rfl
  -- The quote, the text, the quote, and then the brace and the end of the line.
  have hrun : (Decoder.start true).run (fieldLine field ('"' :: text ++ ['"'])) =
      .ok ⟨true, field.length + 4 + 1 + text.length + 1 + 2, [],
        .done (.object [(String.ofList field, .string (String.ofList text))])⟩ := by
    rw [run_fieldLine hfield, List.cons_append, Utf8.encode_cons (by decide), Utf8.encode_append,
      hquote, List.cons_append, Decoder.run_cons (Decoder.step_quote _), List.append_assoc,
      Decoder.run_append (hread _), List.singleton_append,
      Decoder.run_cons (Decoder.step_string_quote _ _ _)]
    rfl
  rw [decodeObject, hrun]
  rfl

/-- An object with a number. -/
theorem decodeObject_fieldLine_number {c : Char} {digits : List Char} {reader next : NumberReader}
    {value : JsonNumber} (hfield : ∀ c ∈ field, IsPlain c) (hc : c.toNat < 0x80)
    (hstart : NumberReader.start? c.toUInt8 = some reader)
    (hsteps : reader.steps? (Utf8.encode digits) = some next) (hfinish : next.finish = .ok value) :
    decodeObject (fieldLine field (c :: digits)) =
      .ok [(String.ofList field, .number value)] := by
  have hrun : (Decoder.start true).run (fieldLine field (c :: digits)) =
      .ok ⟨true, field.length + 4 + 1 + (Utf8.encode digits).length + 2, [],
        .done (.object [(String.ofList field, .number value)])⟩ := by
    rw [run_fieldLine hfield, Utf8.encode_cons hc, List.cons_append,
      Decoder.run_cons (Decoder.step_start hstart _),
      Decoder.run_append (Decoder.run_number hsteps)]
    exact Decoder.run_number_closingBrace hfinish
  rw [decodeObject, hrun]
  rfl

end Json

end RecordSieve
