import RecordSieve.Numeric.Digits

/-!
# Dates and Times of TOML

A date with or without a time of day behind it, and a time of day alone. Only a time behind a
date may have an offset.

## Main definitions

* `Toml.afterMoment?`: the text behind the date or time at the start of a text.
-/

namespace RecordSieve.Toml

/-- A number of exactly `count` digits within bounds. -/
def fixedNumber? (count low high : Nat) (text : List Char) : Option (Nat × List Char) :=
  let digits := text.take count
  let value := digitsValue digits
  if digits.length = count ∧ digits.all Char.isDigit ∧ low ≤ value ∧ value ≤ high then
    some (value, text.drop count)
  else none

/-- The text behind a character. -/
def afterChar? (c : Char) : List Char → Option (List Char)
  | d :: rest => if d = c then some rest else none
  | [] => none

/-- How many days a month has. -/
def daysOfMonth (year month : Nat) : Nat :=
  if month = 2 then
    if year % 4 = 0 ∧ (year % 100 ≠ 0 ∨ year % 400 = 0) then 29 else 28
  else if month ∈ [4, 6, 9, 11] then 30
  else 31

/-- The text behind a date. -/
def afterDate? (text : List Char) : Option (List Char) := do
  let (year, rest) ← fixedNumber? 4 0 9999 text
  let (month, rest) ← fixedNumber? 2 1 12 (← afterChar? '-' rest)
  let (_, rest) ← fixedNumber? 2 1 (daysOfMonth year month) (← afterChar? '-' rest)
  some rest

/-- The text behind an hour and a minute. -/
def afterClock? (text : List Char) : Option (List Char) := do
  let (_, rest) ← fixedNumber? 2 0 23 text
  let (_, rest) ← fixedNumber? 2 0 59 (← afterChar? ':' rest)
  some rest

/-- The text behind a time of day. The second may be the sixtieth, and may have a fraction. -/
def afterTime? (text : List Char) : Option (List Char) := do
  let rest ← afterClock? text
  let (_, rest) ← fixedNumber? 2 0 60 (← afterChar? ':' rest)
  match rest with
  | '.' :: fraction =>
      if (fraction.takeWhile Char.isDigit).isEmpty then some rest
      else some (fraction.dropWhile Char.isDigit)
  | rest => some rest

/-- The text behind the offset of a time, which may be missing. -/
def afterOffset (text : List Char) : List Char :=
  match text with
  | 'Z' :: rest | 'z' :: rest => rest
  | '+' :: rest | '-' :: rest => (afterClock? rest).getD text
  | text => text

/-- The text behind the time of day that may follow a date, with its offset. -/
def afterTimeOfDate (text : List Char) : List Char :=
  match text with
  | 'T' :: rest | 't' :: rest | ' ' :: rest => ((afterTime? rest).map afterOffset).getD text
  | text => text

/-- The text behind the date or time at the start of a text. -/
def afterMoment? (text : List Char) : Option (List Char) :=
  match afterDate? text with
  | some rest => some (afterTimeOfDate rest)
  | none => afterTime? text

end RecordSieve.Toml
