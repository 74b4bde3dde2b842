import RecordSieve.Proofs.Coercion

/-!
# Number Texts

Coercion takes the value of a numeral from its digits, so there is nothing for it to fail with.
Here it is put together in steps that may fail: the text of the mantissa is handed to readers of
integers and floats, which refuse what is no number. They never refuse what coercion hands to them,
and what they read is what coercion makes of the digits.

## Main definitions

* `readInt?`, `readFloat?`: the number that a text writes, if it writes one;
* `Scalar.read?`: coercion in steps that may fail.

## Main statements

* `readInt?_of_isDigits`, `readFloat?_of_isDigits`: what is read from the text of a mantissa;
* `Scalar.read?_eq_some`: no step of coercion fails.
-/

namespace RecordSieve

/-! ### Readers of numbers -/

/-- Whether a minus stands in front of a text, and what follows the sign, which may be missing. -/
def splitSign : List Char → Bool × List Char
  | '-' :: rest => (true, rest)
  | '+' :: rest => (false, rest)
  | text => (false, text)

/-- The integer that digits write behind a sign, if there are any. -/
def readWhole? (text : List Char) : Option Int :=
  let (negative, digits) := splitSign text
  if digits ≠ [] ∧ digits.all Char.isDigit then
    some (if negative then -(digitsValue digits : Int) else digitsValue digits)
  else none

/-- The 64-bit integer that a text writes. -/
def readInt? (text : List Char) : Option Int64 :=
  match readWhole? text with
  | some value =>
      if -0x8000000000000000 ≤ value ∧ value < 0x8000000000000000 then some (Int64.ofInt value)
      else none
  | none => none

/-- The exponent at the end of a number, which may be missing. -/
def readExponent? : List Char → Option Int
  | [] => some 0
  | c :: rest => if c = 'e' ∨ c = 'E' then readWhole? rest else none

/-- The float nearest to a significand times a power of ten. -/
def Binary64.ofDecimal (negative : Bool) (significand : Nat) (exponent : Int) : Binary64 :=
  if 0 ≤ exponent then round negative (significand * Nat.pow 10 exponent.toNat) 1
  else round negative significand (Nat.pow 10 (-exponent).toNat)

/-- The float nearest to the number that a text without a sign writes: digits with or without a
point, of which there is at least one, and perhaps an exponent. -/
def readDecimal? (negative : Bool) (text : List Char) : Option Binary64 :=
  let whole := text.takeWhile Char.isDigit
  let (fraction, rest) :=
    match text.dropWhile Char.isDigit with
    | '.' :: rest => (rest.takeWhile Char.isDigit, rest.dropWhile Char.isDigit)
    | rest => ([], rest)
  if whole ++ fraction = [] then none
  else
    (readExponent? rest).map fun exponent =>
      .ofDecimal negative (digitsValue (whole ++ fraction)) (exponent - fraction.length)

/-- The float that a text writes. NaN and the infinities are words, with or without capitals. -/
def readFloat? (text : List Char) : Option Binary64 :=
  let (negative, number) := splitSign text
  match number.map Char.toLower with
  | ['n', 'a', 'n'] => some .nan
  | ['i', 'n', 'f'] | ['i', 'n', 'f', 'i', 'n', 'i', 't', 'y'] => some (.infinite negative)
  | _ => readDecimal? negative number

variable {whole : List Char}

/-- A text that begins with a digit has no sign. -/
theorem splitSign_of_isDigit {c : Char} (hc : c.isDigit = true) (rest : List Char) :
    splitSign (c :: rest) = (false, c :: rest) := by
  unfold splitSign
  split
  next heq =>
    cases heq
    cases hc
  next heq =>
    cases heq
    cases hc
  next => rfl

/-- Digits are an integer if their value fits 64 bits. -/
theorem readInt?_of_isDigits (h : IsDigits whole) :
    readInt? whole = if digitsValue whole < 0x8000000000000000 then
      some (Int64.ofNat (digitsValue whole)) else none := by
  have hread : readWhole? whole = some (digitsValue whole : Int) := by
    obtain ⟨c, rest, rfl⟩ := List.exists_cons_of_ne_nil h.1
    have hall : (c :: rest).all Char.isDigit = true := List.all_eq_true.2 h.2
    simp [readWhole?, splitSign_of_isDigit (h.2 c List.mem_cons_self), -List.all_cons, hall]
  rw [readInt?, hread]
  simp only
  -- Without a sign only the upper bound matters.
  by_cases hlt : digitsValue whole < 0x8000000000000000
  · rw [if_pos (by omega), if_pos hlt]
    rfl
  · rw [if_neg (by omega), if_neg hlt]

/-- A number that starts with a digit is none of the words for NaN and the infinities. -/
theorem map_toLower_ne {c : Char} (hc : c.isDigit = true) (rest : List Char) {d : Char}
    {word : List Char} (hd : d.isDigit = false) : (c :: rest).map Char.toLower ≠ d :: word := by
  have hlower : c.toLower = c := by
    have hrange := toNat_of_isDigit hc
    refine dif_neg ?_
    -- Only capital letters are changed, and all of them are behind the digits.
    rintro ⟨hupper, -⟩
    have hle : 0x41 ≤ c.toNat := UInt32.le_iff_toNat_le.1 hupper
    omega
  intro heq
  rw [List.map_cons, hlower] at heq
  cases heq
  rw [hc] at hd
  cases hd

/-- A decimal with places behind the point is the quotient by a power of ten. -/
theorem Binary64.ofDecimal_neg (negative : Bool) (significand places : Nat) :
    ofDecimal negative significand (-(places : Int)) =
      round negative significand (Nat.pow 10 places) := by
  rw [ofDecimal]
  split
  next hle =>
    obtain rfl : places = 0 := by omega
    simp
  next => rw [Int.neg_neg, Int.toNat_natCast]

/-- Digits with or without a point write the float nearest to their value. -/
theorem readDecimal?_of_isDigits {fraction : Option (List Char)} (h : IsDigits whole)
    (hfraction : ∀ c ∈ fraction.getD [], c.isDigit = true) :
    readDecimal? false (whole ++ (fraction.map ('.' :: ·)).getD []) =
      some (Binary64.round false (digitsValue (whole ++ fraction.getD []))
        (Nat.pow 10 (fraction.getD []).length)) := by
  -- The digits in front end at the point or with the text.
  have hend : ∀ c, ((fraction.map ('.' :: ·)).getD []).head? = some c → c.isDigit = false := by
    cases fraction with
    | none => simp
    | some fraction =>
      rintro _ ⟨⟩
      decide
  rw [readDecimal?, takeWhile_append_of_head? h.2 hend, dropWhile_append_of_head? h.2 hend]
  cases fraction with
  | none => simp [h.1, readExponent?, Binary64.ofDecimal]
  | some fraction =>
    -- Nothing follows the digits behind the point, so there is no exponent.
    have htake : (fraction ++ []).takeWhile Char.isDigit = fraction :=
      takeWhile_append_of_head? hfraction (by simp)
    have hdrop : (fraction ++ []).dropWhile Char.isDigit = [] :=
      dropWhile_append_of_head? hfraction (by simp)
    rw [List.append_nil] at htake hdrop
    simp [htake, hdrop, h.1, readExponent?, Binary64.ofDecimal_neg]

/-- Digits with or without a fraction are read as the nearest float. -/
theorem readFloat?_of_isDigits {fraction : Option (List Char)} (h : IsDigits whole)
    (hfraction : ∀ c ∈ fraction.getD [], c.isDigit = true) :
    readFloat? (whole ++ (fraction.map ('.' :: ·)).getD []) =
      some (Binary64.round false (digitsValue (whole ++ fraction.getD []))
        (Nat.pow 10 (fraction.getD []).length)) := by
  rw [← readDecimal?_of_isDigits h hfraction]
  obtain ⟨c, digits, rfl⟩ := List.exists_cons_of_ne_nil h.1
  have hc : c.isDigit = true := h.2 c List.mem_cons_self
  rw [readFloat?, List.cons_append, splitSign_of_isDigit hc]
  simp only
  split
  next heq => exact absurd heq (map_toLower_ne hc _ (by decide))
  next heq => exact absurd heq (map_toLower_ne hc _ (by decide))
  next heq => exact absurd heq (map_toLower_ne hc _ (by decide))
  next => rfl

/-! ### Coercion -/

namespace Numeral

/-- The text of a numeral in front of its unit. -/
def mantissaText (n : Numeral) : List Char := n.whole ++ (n.fraction.map ('.' :: ·)).getD []

/-- The mantissa as its text is read: as a float if it has a point or if it is no integer of 64
bits. -/
def readMantissa? (n : Numeral) : Option Scalar :=
  let float? := (readFloat? n.mantissaText).map Scalar.float
  if n.fraction.isSome then float?
  else
    match readInt? n.mantissaText with
    | some value => some (.int value)
    | none => float?

/-- The numeral as its text is read. A unit needs a mantissa that is a number. -/
def read? (n : Numeral) : Option Scalar :=
  match n.unit with
  | none => n.readMantissa?
  | some unit => do
      let mantissa ← n.readMantissa?
      let base ← mantissa.toBinary64?
      some (.float (base.mul unit.multiplier))

/-- The mantissa of a numeral is read. -/
theorem readMantissa?_eq_some {n : Numeral} (hn : n.WellFormed) :
    n.readMantissa? = some n.mantissa := by
  obtain ⟨whole, fraction, unit⟩ := n
  obtain ⟨hne, hwhole, -, hfraction⟩ := hn
  have hfloat := readFloat?_of_isDigits ⟨hne, hwhole⟩ hfraction
  have hint := readInt?_of_isDigits ⟨hne, hwhole⟩
  cases fraction with
  | some fraction =>
    rw [Option.map_some, Option.getD_some, Option.getD_some] at hfloat
    simp [readMantissa?, mantissaText, mantissa, hfloat]
  | none =>
    simp only [Option.map_none, Option.getD_none, List.append_nil] at hfloat
    simp only [readMantissa?, mantissaText, mantissa, Option.map_none, Option.getD_none,
      List.append_nil, hint, hfloat]
    by_cases hlt : digitsValue whole < 0x8000000000000000
    · simp [hlt]
    · -- The digits are read once more, as a float.
      simp [hlt, Binary64.ofNat]

/-- A numeral is read as its value. -/
theorem read?_eq_some {n : Numeral} (hn : n.WellFormed) : n.read? = some n.value := by
  have hnumber := n.isNumber_mantissa
  rw [read?, value, readMantissa?_eq_some hn]
  generalize n.mantissa = mantissa at hnumber
  cases n.unit with
  | none => rfl
  | some unit =>
    -- The mantissa is a number, so there is something to multiply.
    cases hnumber <;> rfl

end Numeral

/-- Coercion of a text in steps that may fail. -/
def Scalar.read? (text : List Char) : Option Scalar :=
  match text with
  | '"' :: inner => some (.string (String.ofList (unquote inner)))
  | _ =>
      if text = "True".toList then some (.bool true)
      else if text = "False".toList then some (.bool false)
      else
        match Numeral.ofText? text with
        | some numeral => numeral.read?
        | none => some (.string (String.ofList text))

/-- No step of coercion fails. -/
theorem Scalar.read?_eq_some (text : List Char) : read? text = some (ofChars text) := by
  unfold read?
  split
  · rfl
  next hquote =>
    rw [ofChars]
    · split
      · rfl
      · split
        · rfl
        · cases hread : Numeral.ofText? text with
          | none => rfl
          | some numeral => exact Numeral.read?_eq_some (Numeral.wellFormed_of_ofText? hread).1
    · exact hquote

end RecordSieve
