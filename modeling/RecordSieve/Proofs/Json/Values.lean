import RecordSieve.Proofs.Coercion
import RecordSieve.Proofs.Json.Decoding
import RecordSieve.Sieve.Record

/-!
# Numbers of Decoded Values

The numbers of a document come from the machine of numbers, however deep they stand in it. So
what holds of every number that the machine completes holds of every number in a decoded value.
None of them is NaN.

## Main definitions

* `Json.AllNumbers`: all numbers of a value, at any depth, have a property;
* `Json.Decoder.AllNumbers`: the same for everything that a decoder holds.

## Main statements

* `Json.Decoder.keeps_step`, `Json.Decoder.keeps_run`: a decoder keeps what holds of every number
  that is completed;
* `Json.allNumbers_of_decodeObject`: so it holds of all numbers in the fields of an object;
* `Scalar.ofJson_ne_nan_of_readRecord`: no field of a record is NaN.
-/

namespace RecordSieve

namespace Json

/-- All numbers of a value, at any depth, have a property. -/
inductive AllNumbers (P : JsonNumber → Prop) : Json → Prop
  | null : AllNumbers P .null
  | bool (value : Bool) : AllNumbers P (.bool value)
  | number {value : JsonNumber} : P value → AllNumbers P (.number value)
  | string (text : String) : AllNumbers P (.string text)
  | array {items : List Json} : (∀ item ∈ items, AllNumbers P item) → AllNumbers P (.array items)
  | object {fields : List (String × Json)} :
      (∀ field ∈ fields, AllNumbers P field.2) → AllNumbers P (.object fields)

variable {P : JsonNumber → Prop}

/-- A new field adds only its own value. -/
theorem allNumbers_insert {fields : Fields} {key : String} {value : Json}
    (hfields : ∀ field ∈ fields, field.2.AllNumbers P) (hvalue : value.AllNumbers P) :
    ∀ field ∈ fields.insert key value, field.2.AllNumbers P := by
  induction fields with
  | nil => simpa [Fields.insert] using hvalue
  | cons field rest ih =>
    obtain ⟨hfield, hrest⟩ := List.forall_mem_cons.1 hfields
    rw [Fields.insert]
    split
    · exact List.forall_mem_cons.2 ⟨hvalue, hfields⟩
    · split
      · exact List.forall_mem_cons.2 ⟨hvalue, hrest⟩
      · exact List.forall_mem_cons.2 ⟨hfield, ih hrest⟩

/-- All numbers in front of a value that is due have a property. -/
def Frame.AllNumbers (P : JsonNumber → Prop) : Frame → Prop
  | .array items => ∀ item ∈ items, item.AllNumbers P
  | .object fields _ => ∀ field ∈ fields, field.2.AllNumbers P

/-- All numbers of a phase have a property. A number that is still being read is none yet. -/
def Phase.AllNumbers (P : JsonNumber → Prop) : Phase → Prop
  | .value _ | .number _ | .string _ => True
  | .key _ fields | .keyText fields _ | .colon fields _ | .afterMember fields =>
      ∀ field ∈ fields, field.2.AllNumbers P
  | .word _ written | .done written => written.AllNumbers P
  | .afterItem items => ∀ item ∈ items, item.AllNumbers P

namespace Decoder

/-- All numbers that a decoder holds have a property. -/
structure AllNumbers (P : JsonNumber → Prop) (decoder : Decoder) : Prop where
  frames : ∀ frame ∈ decoder.frames, frame.AllNumbers P
  phase : decoder.phase.AllNumbers P

/-- All numbers that the next decoder holds have a property, if there is a next one. -/
def Keeps (P : JsonNumber → Prop) : Except Fault Decoder → Prop
  | .ok next => next.AllNumbers P
  | .error _ => True

variable {decoder : Decoder} {b : UInt8}

/-- A complete value is put into the frame it belongs to. -/
theorem keeps_deliver {value : Json} {finish : Nat}
    (hframes : ∀ frame ∈ decoder.frames, frame.AllNumbers P) (hvalue : value.AllNumbers P) :
    Keeps P (decoder.deliver value finish) := by
  rw [deliver]
  split
  · -- The value is the document, or it goes to the innermost frame.
    split
    next hnil => exact ⟨hframes, hvalue⟩
    next items frames hcons =>
      rw [hcons, List.forall_mem_cons] at hframes
      exact ⟨hframes.2, List.forall_mem_cons.2 ⟨hvalue, hframes.1⟩⟩
    next fields key frames hcons =>
      rw [hcons, List.forall_mem_cons] at hframes
      exact ⟨hframes.2, allNumbers_insert hframes.1 hvalue⟩
  · trivial

/-- A bracket that is opened adds no number. -/
theorem keeps_opening {opened : Decoder} (hopened : opened.AllNumbers P) :
    Keeps P (decoder.opening opened) := by
  rw [opening]
  split
  · exact hopened
  · trivial

/-- A value begins without numbers. -/
theorem keeps_startValue (hframes : ∀ frame ∈ decoder.frames, frame.AllNumbers P) :
    Keeps P (decoder.startValue b) := by
  have hfields : ∀ field ∈ ([] : Fields), field.2.AllNumbers P := by simp
  have hitems : (Frame.array []).AllNumbers P := by simp [Frame.AllNumbers]
  unfold startValue
  -- One case for each byte that a value may begin with.
  split
  · exact keeps_opening ⟨hframes, hfields⟩
  split
  · rw [openArray]
    split
    · exact keeps_opening ⟨List.forall_mem_cons.2 ⟨hitems, hframes⟩, trivial⟩
    · trivial
  split
  · exact ⟨hframes, trivial⟩
  split
  · exact ⟨hframes, .null⟩
  split
  · exact ⟨hframes, .bool _⟩
  split
  · exact ⟨hframes, .bool _⟩
  split
  · exact ⟨hframes, trivial⟩
  · trivial

/-- A byte only moves values that the decoder holds, or begins a new one. -/
theorem keeps_take (hdecoder : decoder.AllNumbers P) : Keeps P (decoder.take b) := by
  have hreverse {items : List Json} (h : ∀ item ∈ items, item.AllNumbers P) :
      (Json.array items.reverse).AllNumbers P := .array (by simpa using h)
  obtain ⟨objectsOnly, offset, frames, phase⟩ := decoder
  have ⟨hframes, hphase⟩ := hdecoder
  -- In each phase the values stay where they are, move to a frame, or are delivered.
  cases phase with
  | value place =>
    simp only [take]
    split
    · exact hdecoder
    split
    · split
      next items rest hcons =>
        obtain ⟨hitems, hrest⟩ := List.forall_mem_cons.1 hframes
        exact keeps_deliver hrest (hreverse hitems)
      next => trivial
    split
    · trivial
    · exact keeps_startValue hframes
  | key first fields =>
    simp only [take]
    split
    · exact hdecoder
    split
    · exact ⟨hframes, hphase⟩
    split
    · split
      · exact keeps_deliver hframes (.object hphase)
      · trivial
    · trivial
  | keyText fields reader =>
    simp only [take]
    split
    · exact ⟨hframes, hphase⟩
    · exact ⟨hframes, hphase⟩
    · trivial
  | colon fields key =>
    simp only [take]
    split
    · exact hdecoder
    split
    · exact ⟨List.forall_mem_cons.2 ⟨hphase, hframes⟩, trivial⟩
    · trivial
  | word rest value =>
    rcases rest with _ | ⟨letter, _ | ⟨other, rest⟩⟩
    · trivial
    · simp only [take]
      split
      · exact keeps_deliver hframes hphase
      · trivial
    · simp only [take]
      split
      · exact ⟨hframes, hphase⟩
      · trivial
  | number reader =>
    simp only [take]
    split
    · exact ⟨hframes, trivial⟩
    · exact hdecoder
    · trivial
  | string reader =>
    simp only [take]
    split
    · exact ⟨hframes, trivial⟩
    · exact keeps_deliver hframes (.string _)
    · trivial
  | afterItem items =>
    simp only [take]
    split
    · exact hdecoder
    split
    · exact ⟨List.forall_mem_cons.2 ⟨hphase, hframes⟩, trivial⟩
    split
    · exact keeps_deliver hframes (hreverse hphase)
    · trivial
  | afterMember fields =>
    simp only [take]
    split
    · exact hdecoder
    split
    · exact ⟨hframes, hphase⟩
    split
    · exact keeps_deliver hframes (.object hphase)
    · trivial
  | done value =>
    simp only [take]
    split
    · exact hdecoder
    · trivial

variable (hfinish : ∀ {reader : NumberReader} {value}, reader.finish = .ok value → P value)

include hfinish

/-- A number is new when it is complete. -/
theorem keeps_settle (hdecoder : decoder.AllNumbers P) : Keeps P (decoder.settle b) := by
  rw [settle]
  split
  next reader hnumber =>
    split
    next hended =>
      split
      next value hvalue => exact keeps_deliver hdecoder.frames (.number (hfinish hvalue))
      next => trivial
    next => exact hdecoder
  next => exact hdecoder

/-- One byte keeps the numbers that are read, and a number that it completes is as all are. -/
theorem keeps_step (hdecoder : decoder.AllNumbers P) : Keeps P (decoder.step b) := by
  -- A step settles the number that the byte ends, and then takes the byte.
  have hsettle := keeps_settle hfinish hdecoder (b := b)
  rcases hsettled : decoder.settle b with fault | settled
  · rw [step_eq_error_of_settle hsettled]
    trivial
  · rw [hsettled] at hsettle
    have htake := keeps_take hsettle (b := b)
    rcases hnext : settled.take b with fault | next
    · rw [step_eq_error_of_take hnext hsettled]
      trivial
    · rw [hnext] at htake
      rw [step_eq_ok hnext hsettled]
      exact ⟨htake.frames, htake.phase⟩

/-- What holds of every number when it is complete holds of all numbers of a decoder. -/
theorem keeps_run (hdecoder : decoder.AllNumbers P) (bytes : List UInt8) :
    Keeps P (decoder.run bytes) := by
  induction bytes generalizing decoder with
  | nil => exact hdecoder
  | cons b rest ih =>
    have hstep := keeps_step hfinish hdecoder (b := b)
    rcases hnext : decoder.step b with fault | next
    · rw [run, List.foldlM_cons, hnext]
      trivial
    · rw [hnext] at hstep
      rw [run_cons hnext]
      exact ih hstep

/-- The value at the end of the text holds what was read. -/
theorem allNumbers_of_finish (hdecoder : decoder.AllNumbers P) {value : Json}
    (h : decoder.finish = .ok value) : value.AllNumbers P := by
  obtain ⟨objectsOnly, offset, frames, phase⟩ := decoder
  cases phase with
  | done other =>
    cases h
    exact hdecoder.phase
  | number reader =>
    simp only [finish] at h
    split at h
    · cases h
    next number hcomplete =>
      -- The number is delivered at last, and it is the document if nothing is open around it.
      have hdeliver : Keeps P (deliver ⟨objectsOnly, offset, frames, .number reader⟩
          (.number number) offset) :=
        keeps_deliver hdecoder.frames (.number (hfinish hcomplete))
      split at h
      · cases h
      next delivered hdelivered =>
        rw [hdelivered] at hdeliver
        have hphase := hdeliver.phase
        split at h
        next other hdone =>
          cases h
          rw [hdone] at hphase
          exact hphase
        · cases h
        · cases h
  | value place => cases place <;> cases h
  | key first fields => cases first <;> cases h
  | _ => cases h

end Decoder

/-- What holds of every number when it is complete holds of all numbers in the fields of a
decoded object. -/
theorem allNumbers_of_decodeObject
    (hfinish : ∀ {reader : NumberReader} {value}, reader.finish = .ok value → P value)
    {bytes : List UInt8} {fields : Fields} (h : decodeObject bytes = .ok fields) :
    ∀ field ∈ fields, field.2.AllNumbers P := by
  have hstart : (Decoder.start true).AllNumbers P := ⟨by simp [Decoder.start], trivial⟩
  have hrun := Decoder.keeps_run hfinish hstart bytes
  unfold decodeObject at h
  rcases hdecoder : (Decoder.start true).run bytes with fault | decoder
  · rw [hdecoder] at h
    cases h
  · rw [hdecoder] at h hrun
    split at h
    next decoded hdecoded =>
      cases h
      -- What holds of the numbers of the object holds of those of its fields.
      have hobject := Decoder.allNumbers_of_finish hfinish hrun hdecoded
      cases hobject with
      | object hfields => exact hfields
    · cases h
    · cases h

/-! ### No NaN -/

namespace Scaled

/-- The powers of ten that are multiplied by are factors. -/
theorem isFactor_powerOfTen {n : Nat} (h : n ≤ maxPower) : (powerOfTen n).isFactor = true := by
  have hmax : Nat.pow 10 maxPower < Binary64.greatest := by decide +kernel
  have hmono {few many : Nat} (hle : few ≤ many) : Nat.pow 10 few ≤ Nat.pow 10 many :=
    Nat.pow_le_pow_right (by decide) hle
  exact Binary64.isFactor_ofNat (Nat.pow_pos (by decide)) (Nat.lt_of_le_of_lt (hmono h) hmax)

/-- Scaling does not lead to NaN. -/
theorem scale?_ne_nan {x y : Binary64} {exponent : Int} (h : scale? x exponent = some y)
    (hx : x ≠ .nan) : y ≠ .nan := by
  -- Large exponents take several divisions, each by a power that is a safe divisor.
  fun_induction scale? x exponent with
  | case1 x exponent hsmall _ product hfinite =>
    rw [← Option.some.inj h]
    exact Binary64.mul_ne_nan hx (isFactor_powerOfTen hsmall)
  | case2 => cases h
  | case3 x exponent hsmall =>
    cases h
    exact Binary64.div_ne_nan hx (isFactor_powerOfTen hsmall)
  | case4 x exponent =>
    cases h
    exact hx
  | case5 => cases h
  | case6 x exponent _ _ _ ih =>
    exact ih h (Binary64.div_ne_nan hx (isFactor_powerOfTen (Nat.le_refl _)))

/-- Decimal parts do not make NaN. -/
theorem toBinary64?_ne_nan {parts : Scaled} {x : Binary64} (h : parts.toBinary64? = some x) :
    x ≠ .nan := by
  obtain ⟨y, hy, rfl⟩ := Option.map_eq_some_iff.1 h
  have hne := scale?_ne_nan hy (Binary64.round_ne_nan _ _ _)
  split
  · exact Binary64.neg_ne_nan hne
  · exact hne

end Scaled

namespace NumberReader

/-- A number that is read as a float is not NaN. -/
theorem float_ne_nan {parts : Scaled} {value : JsonNumber} (h : float parts = .ok value) :
    value ≠ .float .nan := by
  rw [float] at h
  split at h
  next x hx =>
    cases h
    simpa using Scaled.toBinary64?_ne_nan hx
  next => cases h

/-- Digits without a point are not read as NaN. -/
theorem wholeNumber_ne_nan (negative : Bool) (significand : Nat) :
    wholeNumber negative significand ≠ .float .nan := by
  rw [wholeNumber]
  split
  · split
    · simpa using Binary64.round_ne_nan _ _ _
    · simp
  · simp

/-- No number of a document is NaN. -/
theorem finish_ne_nan {reader : NumberReader} {value : JsonNumber} (h : reader.finish = .ok value) :
    value ≠ .float .nan := by
  cases reader with
  | zero negative =>
    cases h
    exact wholeNumber_ne_nan _ _
  | whole negative significand =>
    cases h
    exact wholeNumber_ne_nan _ _
  | longWhole parts => exact float_ne_nan h
  | fraction parts => exact float_ne_nan h
  | longFraction parts => exact float_ne_nan h
  | exponent parts below value => exact float_ne_nan h
  | vanishing negative =>
    cases h
    simp [Binary64.zero]
  | _ => cases h

end NumberReader

end Json

namespace Scalar

/-- A number of a record is NaN as a scalar only if it is NaN itself. -/
theorem ofNumber_ne_nan {value : JsonNumber} (h : value ≠ .float .nan) :
    ofNumber value ≠ .float .nan := by
  cases value with
  | integer n =>
    rw [ofNumber]
    split
    · simp
    · exact float_ne_nan.2 (Binary64.round_ne_nan _ _ _)
  | float x => simpa [ofNumber] using h

/-- No field of a record without NaN is coerced to NaN. -/
theorem ofJson_ne_nan {value : Json} (h : value.AllNumbers (· ≠ .float .nan)) :
    ofJson value ≠ .float .nan := by
  cases h with
  | number hvalue => exact ofNumber_ne_nan hvalue
  | string text => exact ofText_ne_nan text
  | _ => simp [ofJson]

end Scalar

/-- A field is one of the fields. -/
theorem Fields.mem_of_get? {fields : Fields} {key : String} {value : Json}
    (h : fields.get? key = some value) : (key, value) ∈ fields := by
  rw [get?, List.lookup_eq_some_iff] at h
  obtain ⟨front, back, rfl, -⟩ := h
  exact List.mem_append_right _ List.mem_cons_self

/-- No field of a record is NaN. -/
theorem Scalar.ofJson_ne_nan_of_readRecord {line : List UInt8} {number : Nat} {fields : Fields}
    {key : String} {value : Json} (h : readRecord line number = .ok fields)
    (hget : fields.get? key = some value) : ofJson value ≠ .float .nan := by
  unfold readRecord at h
  split at h
  next decoded hdecode =>
    cases h
    have hnumbers := Json.allNumbers_of_decodeObject Json.NumberReader.finish_ne_nan hdecode
    exact ofJson_ne_nan (hnumbers _ (Fields.mem_of_get? hget))
  next => cases h

end RecordSieve
