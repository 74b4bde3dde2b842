import RecordSieve.Proofs.Json.Decoding
import RecordSieve.Scalar.Numeral

/-!
# Numerals in Documents

What the machine of numbers makes of a bare numeral: digits, perhaps a point and more digits.

## Main definitions

* `Json.Scaled.takeWhole`, `Json.Scaled.takeFraction`: the significand and the exponent that are
  gathered from digits;
* `Numeral.WellFormed`: the numerals that texts write;
* `Numeral.jsonNumber`: the number of a document that a numeral without a unit writes.

## Main statements

* `Json.Scaled.takeWhole_of_lt`, `Json.Scaled.takeFraction_of_lt`: nothing is dropped from digits
  whose value is small;
* `Numeral.wellFormed_of_ofText?`: what is read as a numeral is the text of a well-formed one;
* `Numeral.reads_of_decode`: a numeral that is decoded as a number is decoded as the number of its
  digits.
-/

namespace RecordSieve

/-- The number that digits write behind the digits of another number. -/
def valueFrom (start : Nat) (digits : List Nat) : Nat :=
  digits.foldl (fun n digit => 10 * n + digit) start

/-- No digits leave the value as it is. -/
@[simp]
theorem valueFrom_nil (start : Nat) : valueFrom start [] = start := rfl

/-- A digit goes behind those that are read. -/
@[simp]
theorem valueFrom_cons (start digit : Nat) (digits : List Nat) :
    valueFrom start (digit :: digits) = valueFrom (10 * start + digit) digits := rfl

/-- Digits are read in two parts as they are in one. -/
theorem valueFrom_append (start : Nat) (first second : List Nat) :
    valueFrom start (first ++ second) = valueFrom (valueFrom start first) second :=
  List.foldl_append

/-- The value of digits as characters is that of their values, read from zero. -/
theorem digitsValue_eq_valueFrom (digits : List Char) :
    digitsValue digits = valueFrom 0 (digits.map digitValue) := by
  rw [digitsValue, valueFrom, List.foldl_map]

/-- Digits behind a value do not make it smaller. -/
theorem le_valueFrom (start : Nat) (digits : List Nat) : start ≤ valueFrom start digits := by
  induction digits generalizing start with
  | nil => exact Nat.le_refl _
  | cons digit digits ih =>
    have := ih (10 * start + digit)
    rw [valueFrom_cons]
    omega

namespace Json

namespace Scaled

variable {negative : Bool} {significand : Nat} {exponent : Int} {digits : List Nat}

/-- More whole digits: from the first that does not fit the significand on, they only raise the
exponent. -/
def takeWhole (parts : Scaled) : List Nat → Scaled
  | [] => parts
  | digit :: rest =>
      match parts.push? digit with
      | some longer => longer.takeWhole rest
      | none => { parts with exponent := parts.exponent + (rest.length + 1) }

/-- More digits behind the point: the first that does not fit the significand is dropped, and so
are all behind it. -/
def takeFraction (parts : Scaled) : List Nat → Scaled
  | [] => parts
  | digit :: rest =>
      match parts.push? digit with
      | some longer => takeFraction { longer with exponent := longer.exponent - 1 } rest
      | none => parts

/-- A digit is taken as long as the significand is within its bound. -/
theorem push?_of_lt {digit : Nat} (h : 10 * significand + digit < significandBound) :
    push? ⟨negative, significand, exponent⟩ digit =
      some ⟨negative, 10 * significand + digit, exponent⟩ := by
  rw [push?, if_pos h]

/-- Whole digits whose value fits the significand are its digits. -/
theorem takeWhole_of_lt (h : valueFrom significand digits < significandBound) :
    takeWhole ⟨negative, significand, exponent⟩ digits =
      ⟨negative, valueFrom significand digits, exponent⟩ := by
  induction digits generalizing significand with
  | nil => rfl
  | cons digit rest ih =>
    rw [valueFrom_cons] at h
    have hpush : 10 * significand + digit < significandBound :=
      Nat.lt_of_le_of_lt (le_valueFrom _ _) h
    simp only [takeWhole, push?_of_lt hpush]
    exact ih h

/-- Whole digits whose value does not fit the significand raise the exponent. -/
theorem exponent_lt_takeWhole (hsignificand : significand < significandBound)
    (h : significandBound ≤ valueFrom significand digits) :
    exponent < (takeWhole ⟨negative, significand, exponent⟩ digits).exponent := by
  induction digits generalizing significand with
  | nil => exact absurd h (Nat.not_le.2 hsignificand)
  | cons digit rest ih =>
    rw [valueFrom_cons] at h
    rw [takeWhole]
    by_cases hpush : 10 * significand + digit < significandBound
    · simp only [push?_of_lt hpush]
      exact ih hpush h
    · simp only [push?, if_neg hpush]
      omega

/-- Digits behind the point whose value fits the significand are its digits. -/
theorem takeFraction_of_lt (h : valueFrom significand digits < significandBound) :
    takeFraction ⟨negative, significand, exponent⟩ digits =
      ⟨negative, valueFrom significand digits, exponent - digits.length⟩ := by
  induction digits generalizing significand exponent with
  | nil => simp [takeFraction]
  | cons digit rest ih =>
    rw [valueFrom_cons] at h
    have hpush : 10 * significand + digit < significandBound :=
      Nat.lt_of_le_of_lt (le_valueFrom _ _) h
    simp only [takeFraction, push?_of_lt hpush]
    rw [ih h, List.length_cons, valueFrom_cons]
    congr 1
    omega

/-- Digits in front of the point do not change the sign. -/
theorem negative_takeWhole (parts : Scaled) (digits : List Nat) :
    (parts.takeWhole digits).negative = parts.negative := by
  fun_induction takeWhole parts digits with
  | case1 => rfl
  | case2 parts digit rest longer h ih =>
    rw [ih]
    grind [push?]
  | case3 => rfl

/-- Digits behind the point do not change the sign. -/
theorem negative_takeFraction (parts : Scaled) (digits : List Nat) :
    (parts.takeFraction digits).negative = parts.negative := by
  fun_induction takeFraction parts digits with
  | case1 => rfl
  | case2 parts digit rest longer h ih =>
    rw [ih]
    grind [push?]
  | case3 => rfl

end Scaled

namespace NumberReader

variable {bytes : List UInt8} {digits : List Nat}

/-- The bytes are these digits. -/
inductive AreDigits : List UInt8 → List Nat → Prop
  | nil : AreDigits [] []
  | cons {b : UInt8} {digit : Nat} {bytes : List UInt8} {digits : List Nat}
      (hdigit : digit? b = some digit) (hrest : AreDigits bytes digits) :
      AreDigits (b :: bytes) (digit :: digits)

/-- The machine behind whole digits. -/
def ofWhole (parts : Scaled) : NumberReader :=
  if parts.exponent = 0 then .whole parts.negative parts.significand else .longWhole parts

/-- Behind an overflow, each digit in front of the point raises the exponent. -/
theorem steps?_longWhole (h : AreDigits bytes digits) (parts : Scaled) :
    (longWhole parts).steps? bytes =
      some (longWhole { parts with exponent := parts.exponent + digits.length }) := by
  induction h generalizing parts with
  | nil => simp [steps?]
  | cons hdigit _ ih =>
    simp only [steps?, step, hdigit]
    rw [ih]
    simp only [List.length_cons, Int.natCast_add, Int.natCast_one, Int.add_assoc, Int.add_comm 1]

/-- Whole digits are gathered. -/
theorem steps?_whole (h : AreDigits bytes digits) (negative : Bool) (significand : Nat) :
    (whole negative significand).steps? bytes =
      some (ofWhole (Scaled.takeWhole ⟨negative, significand, 0⟩ digits)) := by
  induction h generalizing significand with
  | nil => rfl
  | @cons b digit bytes digits hdigit hrest ih =>
    simp only [steps?, step, hdigit, Scaled.takeWhole]
    by_cases hpush : 10 * significand + digit < Scaled.significandBound
    · simp only [Scaled.push?_of_lt hpush]
      exact ih _
    · -- The first digit without room is the one of the exponent one.
      have hexponent : (0 : Int) + (digits.length + 1) ≠ 0 := by omega
      simp only [Scaled.push?, if_neg hpush]
      rw [steps?_longWhole hrest, ofWhole, if_neg hexponent, Int.add_comm 1, Int.zero_add]

/-- Behind an overflow, digits behind the point are passed over. -/
theorem steps?_longFraction (h : AreDigits bytes digits) (parts : Scaled) :
    (longFraction parts).steps? bytes = some (longFraction parts) := by
  induction h with
  | nil => rfl
  | cons hdigit _ ih =>
    simp only [steps?, step, hdigit]
    exact ih

/-- Digits behind the point are gathered. -/
theorem steps?_fraction (h : AreDigits bytes digits) (parts : Scaled) :
    ∃ next, (fraction parts).steps? bytes = some next ∧
      next.finish = float (parts.takeFraction digits) := by
  induction h generalizing parts with
  | nil => exact ⟨_, rfl, rfl⟩
  | @cons b digit bytes digits hdigit hrest ih =>
    simp only [steps?, step, hdigit, fractionDigit, Scaled.takeFraction]
    cases parts.push? digit with
    | some longer => exact ih _
    | none => exact ⟨_, steps?_longFraction hrest parts, rfl⟩

/-- The point and the digits behind it. -/
theorem steps?_point {b : UInt8} {digit : Nat} (hdigit : digit? b = some digit)
    (h : AreDigits bytes digits) (parts : Scaled) :
    ∃ next, (point parts).steps? (b :: bytes) = some next ∧
      next.finish = float (parts.takeFraction (digit :: digits)) := by
  simp only [steps?, step, hdigit, fractionDigit, Scaled.takeFraction]
  cases parts.push? digit with
  | some longer => exact steps?_fraction h _
  | none => exact ⟨_, steps?_longFraction h parts, rfl⟩

/-- A point may stand behind whole digits. -/
theorem step_ofWhole_point (parts : Scaled) : (ofWhole parts).step 0x2e = .more (.point parts) := by
  obtain ⟨negative, significand, exponent⟩ := parts
  rw [ofWhole]
  split
  next hexponent =>
    cases hexponent
    rfl
  next => rfl

/-- Digits are an integer if none of them was left out, and a float otherwise. -/
theorem finish_ofWhole {parts : Scaled} (hnegative : parts.negative = false) :
    (ofWhole parts).finish =
      if parts.exponent = 0 then .ok (.integer parts.significand) else float parts := by
  rw [ofWhole]
  split
  next => rw [hnegative]; rfl
  next => rfl

end NumberReader

end Json

/-- The code points of digits. -/
theorem toNat_of_isDigit {c : Char} (h : c.isDigit = true) : 0x30 ≤ c.toNat ∧ c.toNat ≤ 0x39 := by
  simp only [Char.isDigit, Bool.and_eq_true, decide_eq_true_eq] at h
  exact ⟨UInt32.le_iff_toNat_le.1 h.1, UInt32.le_iff_toNat_le.1 h.2⟩

/-- The value of a digit. -/
theorem digitValue_lt {c : Char} (h : c.isDigit = true) : digitValue c < 10 := by
  have hrange := toNat_of_isDigit h
  rw [digitValue, show '0'.toNat = 0x30 from rfl]
  omega

/-- Digits are ASCII. -/
theorem ascii_of_isDigit {c : Char} (h : c.isDigit = true) : c.toNat < 0x80 := by
  have := toNat_of_isDigit h
  omega

/-- The bytes of digits. -/
theorem toUInt8_range {c : Char} (h : c.isDigit = true) :
    0x30 ≤ c.toUInt8 ∧ c.toUInt8 ≤ 0x39 := by
  rw [UInt8.le_iff_toNat_le, UInt8.le_iff_toNat_le, toNat_toUInt8 (ascii_of_isDigit h)]
  exact toNat_of_isDigit h

/-- The byte of a digit is read as its value. -/
theorem digit?_toUInt8 {c : Char} (h : c.isDigit = true) :
    Json.NumberReader.digit? c.toUInt8 = some (digitValue c) := by
  rw [Json.NumberReader.digit?, if_pos (toUInt8_range h), toNat_toUInt8 (ascii_of_isDigit h)]
  rfl

/-- A number begins with a zero of its own or with another digit. -/
theorem start?_toUInt8 {c : Char} (h : c.isDigit = true) :
    Json.NumberReader.start? c.toUInt8 =
      match digitValue c with
      | 0 => some (.zero false)
      | digit => some (.whole false digit) := by
  have hdigit := digit?_toUInt8 h
  -- The minus is looked for first, and a digit is none.
  have hminus : c.toUInt8 ≠ 0x2d := by
    intro hb
    rw [hb] at hdigit
    cases hdigit
  rw [Json.NumberReader.start?, if_neg hminus, hdigit]
  generalize digitValue c = digit
  cases digit <;> rfl

/-- The bytes of digits and points may stand in a number. -/
theorem isNumeric_encode {text : List Char} (h : ∀ c ∈ text, c.isDigit = true ∨ c = '.') :
    ∀ b ∈ Utf8.encode text, Json.NumberReader.IsNumeric b := by
  induction text with
  | nil => simp
  | cons c rest ih =>
    rw [List.forall_mem_cons] at h
    rcases h with ⟨hc | rfl, hrest⟩
    · rw [Utf8.encode_cons (ascii_of_isDigit hc), List.forall_mem_cons]
      exact ⟨.inl (toUInt8_range hc), ih hrest⟩
    · rw [Utf8.encode_cons (by decide), List.forall_mem_cons]
      exact ⟨.inr rfl, ih hrest⟩

/-- The bytes of digits. -/
theorem areDigits_encode {digits : List Char} (h : ∀ c ∈ digits, c.isDigit = true) :
    Json.NumberReader.AreDigits (Utf8.encode digits) (digits.map digitValue) := by
  induction digits with
  | nil => exact .nil
  | cons c rest ih =>
    rw [List.forall_mem_cons] at h
    rw [Utf8.encode_cons (ascii_of_isDigit h.1)]
    exact .cons (digit?_toUInt8 h.1) (ih h.2)

/-- What is taken is of the kind that is taken. -/
theorem of_mem_takeWhile {α : Type} {p : α → Bool} {a : α} {l : List α}
    (h : a ∈ l.takeWhile p) : p a = true :=
  List.all_eq_true.1 List.all_takeWhile a h

namespace Numeral

/-- The parts of a numeral that a text writes: all digits, and none of them missing. -/
structure WellFormed (n : Numeral) : Prop where
  whole_ne_nil : n.whole ≠ []
  whole_digits : ∀ c ∈ n.whole, c.isDigit = true
  fraction_ne_nil : n.fraction ≠ some []
  fraction_digits : ∀ c ∈ n.fraction.getD [], c.isDigit = true

/-- The text behind the digits is the suffix of the unit that it is read as, or empty. -/
theorem suffix_of_unitOfText? {rest : List Char} {unit : Option SizeUnit}
    (h : unitOfText? rest = some unit) : (unit.map SizeUnit.suffix).getD [] = rest := by
  cases rest with
  | nil =>
    cases h
    rfl
  | cons c rest =>
    obtain ⟨found, hfound, rfl⟩ := Option.map_eq_some_iff.1 h
    exact SizeUnit.suffix_of_ofSuffix? hfound

/-- The parts of a numeral are those of its text, in their order. -/
theorem toText_eq (n : Numeral) :
    n.toText = n.whole ++ ((n.fraction.map ('.' :: ·)).getD []) ++
      ((n.unit.map SizeUnit.suffix).getD []) := by
  obtain ⟨whole, fraction, unit⟩ := n
  cases fraction <;> cases unit <;> rfl

/-- What is read as a numeral is well-formed, and it is the numeral's text. -/
theorem wellFormed_of_ofText? {text : List Char} {n : Numeral} (h : ofText? text = some n) :
    n.WellFormed ∧ n.toText = text := by
  have htext : text.takeWhile Char.isDigit ++ text.dropWhile Char.isDigit = text :=
    List.takeWhile_append_dropWhile
  rw [ofText?] at h
  split at h
  · cases h
  next hwhole =>
    -- Behind the digits stands a point with a fraction, or a unit at most.
    split at h
    next rest hdrop =>
      have hrest : rest.takeWhile Char.isDigit ++ rest.dropWhile Char.isDigit = rest :=
        List.takeWhile_append_dropWhile
      dsimp only at h
      split at h
      · cases h
      next hfraction =>
        obtain ⟨unit, hunit, rfl⟩ := Option.map_eq_some_iff.1 h
        refine ⟨⟨hwhole, fun _ => of_mem_takeWhile, by simpa using hfraction,
          fun _ => of_mem_takeWhile⟩, ?_⟩
        simp only [toText_eq, suffix_of_unitOfText? hunit, Option.map_some, Option.getD_some,
          List.append_assoc, List.cons_append, hrest]
        rw [← hdrop, htext]
    next rest hdrop =>
      obtain ⟨unit, hunit, rfl⟩ := Option.map_eq_some_iff.1 h
      refine ⟨⟨hwhole, fun _ => of_mem_takeWhile, by simp, by simp⟩, ?_⟩
      simp only [toText_eq, suffix_of_unitOfText? hunit, Option.map_none, Option.getD_none,
        List.append_nil, htext]

/-- The significand and the exponent that are gathered from the digits before the point. -/
def gatheredWhole (whole : List Char) : Json.Scaled :=
  Json.Scaled.takeWhole ⟨false, 0, 0⟩ (whole.map digitValue)

/-- The first digit is pushed onto an empty significand. -/
theorem gatheredWhole_cons (c : Char) (rest : List Char) (hc : c.isDigit = true) :
    gatheredWhole (c :: rest) =
      Json.Scaled.takeWhole ⟨false, digitValue c, 0⟩ (rest.map digitValue) := by
  have hlt := digitValue_lt hc
  rw [gatheredWhole, List.map_cons]
  generalize digitValue c = digit at hlt
  have hpush : 10 * 0 + digit < Json.Scaled.significandBound :=
    Nat.lt_trans (by omega) (show 10 < Json.Scaled.significandBound by decide)
  rw [Json.Scaled.takeWhole, Json.Scaled.push?_of_lt hpush, Nat.mul_zero, Nat.zero_add]

/-- The machine of numbers gathers the digits before the point, unless it refuses a digit behind
a leading zero. -/
theorem reads_whole {c : Char} {rest : List Char} {reader middle : Json.NumberReader}
    (hdigits : ∀ d ∈ c :: rest, d.isDigit = true)
    (hstart : Json.NumberReader.start? c.toUInt8 = some reader)
    (hsteps : reader.steps? (Utf8.encode rest) = some middle) :
    middle.step 0x2e = .more (.point (gatheredWhole (c :: rest))) ∧
      middle.finish = (Json.NumberReader.ofWhole (gatheredWhole (c :: rest))).finish := by
  rw [List.forall_mem_cons] at hdigits
  rw [start?_toUInt8 hdigits.1] at hstart
  rw [gatheredWhole_cons c rest hdigits.1]
  generalize digitValue c = digit at hstart
  cases digit with
  | zero =>
    cases hstart
    -- The machine refuses a digit behind the zero.
    cases rest with
    | nil =>
      cases hsteps
      exact ⟨rfl, rfl⟩
    | cons d rest =>
      have hd : d.isDigit = true := hdigits.2 d List.mem_cons_self
      rw [Utf8.encode_cons (ascii_of_isDigit hd)] at hsteps
      simp only [Json.NumberReader.steps?, Json.NumberReader.step, digit?_toUInt8 hd] at hsteps
      cases hsteps
  | succ digit =>
    cases hstart
    rw [Json.NumberReader.steps?_whole (areDigits_encode hdigits.2)] at hsteps
    cases hsteps
    exact ⟨Json.NumberReader.step_ofWhole_point _, rfl⟩

/-- The significand and the exponent that are gathered from the digits of a numeral. -/
def gathered (n : Numeral) : Json.Scaled :=
  (gatheredWhole n.whole).takeFraction ((n.fraction.getD []).map digitValue)

/-- The number of a document that a numeral without a unit writes. -/
def jsonNumber (n : Numeral) : Except Json.Cause JsonNumber :=
  if n.fraction = none ∧ n.gathered.exponent = 0 then .ok (.integer n.gathered.significand)
  else Json.NumberReader.float n.gathered

/-- A numeral that is decoded as a number is read by the machine of numbers from its first byte
to its last, and the number is that of its digits. -/
theorem reads_of_decode {n : Numeral} (hn : n.WellFormed) (hunit : n.unit = none)
    {value : JsonNumber} (h : Json.decode (Utf8.encode n.toText) = .ok (.number value)) :
    n.jsonNumber = .ok value ∧ ∃ c rest reader next, n.toText = c :: rest ∧ c.toNat < 0x80 ∧
      Json.NumberReader.start? c.toUInt8 = some reader ∧
      reader.steps? (Utf8.encode rest) = some next ∧ next.finish = .ok value := by
  obtain ⟨whole, fraction, unit⟩ := n
  cases hunit
  obtain ⟨hne, hwhole, hfraction_ne, hfraction⟩ := hn
  obtain ⟨c, rest, rfl⟩ := List.exists_cons_of_ne_nil hne
  have hc : c.isDigit = true := hwhole c List.mem_cons_self
  have hrest : ∀ d ∈ rest, d.isDigit = true := fun d hd => hwhole d (List.mem_cons_of_mem _ hd)
  obtain ⟨reader, hstart⟩ : ∃ reader, Json.NumberReader.start? c.toUInt8 = some reader := by
    rw [start?_toUInt8 hc]
    generalize digitValue c = digit
    cases digit <;> exact ⟨_, rfl⟩
  cases fraction with
  | none =>
    -- Without a point the number ends behind its whole digits.
    have htext : toText ⟨c :: rest, none, none⟩ = c :: rest := by
      simp [toText]
    rw [htext, Utf8.encode_cons (ascii_of_isDigit hc)] at h
    obtain ⟨next, hsteps, hfinish⟩ := Json.steps?_of_decode hstart
      (isNumeric_encode fun d hd => .inl (hrest d hd)) h
    refine ⟨?_, c, rest, reader, next, htext, ascii_of_isDigit hc, hstart, hsteps, hfinish⟩
    rw [(reads_whole hwhole hstart hsteps).2,
      Json.NumberReader.finish_ofWhole (Json.Scaled.negative_takeWhole _ _)] at hfinish
    simpa [jsonNumber, gathered, Json.Scaled.takeFraction] using hfinish
  | some fraction =>
    obtain ⟨d, digits, rfl⟩ : ∃ d digits, fraction = d :: digits :=
      List.exists_cons_of_ne_nil fun hnil => hfraction_ne (congrArg some hnil)
    have hd : d.isDigit = true := hfraction d List.mem_cons_self
    have hdigits : ∀ e ∈ digits, e.isDigit = true :=
      fun e he => hfraction e (List.mem_cons_of_mem _ he)
    have htext : toText ⟨c :: rest, some (d :: digits), none⟩ =
        c :: (rest ++ '.' :: d :: digits) := by
      simp [toText]
    have hnumeric : ∀ e ∈ rest ++ '.' :: d :: digits, e.isDigit = true ∨ e = '.' := by
      simp only [List.mem_append, List.mem_cons]
      grind
    rw [htext, Utf8.encode_cons (ascii_of_isDigit hc)] at h
    obtain ⟨next, hsteps, hfinish⟩ :=
      Json.steps?_of_decode hstart (isNumeric_encode hnumeric) h
    refine ⟨?_, c, _, reader, next, htext, ascii_of_isDigit hc, hstart, hsteps, hfinish⟩
    -- The bytes are read in three parts: the whole digits, the point and the other digits.
    rw [Utf8.encode_append, Utf8.encode_cons (by decide), Utf8.encode_cons (ascii_of_isDigit hd),
      Json.NumberReader.steps?_append] at hsteps
    obtain ⟨middle, hmiddle, hsteps⟩ := Option.bind_eq_some_iff.1 hsteps
    obtain ⟨last, hlast, hfloat⟩ := Json.NumberReader.steps?_point (digit?_toUInt8 hd)
      (areDigits_encode hdigits) (gatheredWhole (c :: rest))
    have hpoint : middle.step '.'.toUInt8 = .more (.point (gatheredWhole (c :: rest))) :=
      (reads_whole hwhole hstart hmiddle).1
    simp only [Json.NumberReader.steps?, hpoint] at hsteps
    rw [Json.NumberReader.steps?] at hlast
    rw [hlast] at hsteps
    cases hsteps
    rw [hfloat] at hfinish
    simpa [jsonNumber, gathered] using hfinish

end Numeral

end RecordSieve
