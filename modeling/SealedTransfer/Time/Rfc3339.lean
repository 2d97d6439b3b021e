/-
# SealedTransfer.Time.Rfc3339 — timestamps as text

Timestamps are written in UTC with a `Z`, with as many fraction digits as the instant needs (none,
three, six or nine), a leap second with one second more than the second before it, which is sixty at the
end of a minute, and years outside 0 to 9999 with a sign. They are read in any offset below a day, with
any number of fraction digits; digits after the ninth carry no weight. Second sixty is accepted in every
minute.
-/
import SealedTransfer.Text.Digits
import SealedTransfer.Time.Instant

namespace SealedTransfer.Time

open Text (fixedDigits paddedDigits decimalValue? takeDecimal)

/-! ## Writing -/

/-- A year: four digits, or a sign and at least four digits. -/
def yearText (year : Int) : List Char :=
  if 0 ≤ year ∧ year ≤ 9999 then fixedDigits 10 4 year.toNat
  else (if year < 0 then '-' else '+') :: paddedDigits 10 4 year.natAbs

/-- The fraction of a second, in the fewest of none, three, six or nine digits. -/
def fractionText (nanos : Nat) : List Char :=
  if nanos = 0 then []
  else if nanos % 1000000 = 0 then '.' :: fixedDigits 10 3 (nanos / 1000000)
  else if nanos % 1000 = 0 then '.' :: fixedDigits 10 6 (nanos / 1000)
  else '.' :: fixedDigits 10 9 nanos

/-- A date and a time of day, with a given fraction. -/
def textWith (instant : Instant) (fraction : List Char) : List Char :=
  let date := instant.date
  let second := instant.secondOfDay
  let leap := if instant.isLeapSecond then 1 else 0
  yearText date.year ++ '-' :: fixedDigits 10 2 date.month ++ '-' :: fixedDigits 10 2 date.day
    ++ 'T' :: fixedDigits 10 2 (second / 3600) ++ ':' :: fixedDigits 10 2 (second / 60 % 60)
    ++ ':' :: fixedDigits 10 2 (second % 60 + leap) ++ fraction ++ ['Z']

/-- The timestamp of an instant, exact to the nanosecond. -/
def Instant.text (instant : Instant) : String :=
  String.ofList (textWith instant (fractionText (instant.nanos % nanosPerSecond)))

/-- The timestamp of the second that holds an instant. -/
def Instant.textToSecond (instant : Instant) : String := String.ofList (textWith instant [])

/-! ## Reading -/

/-- What follows an expected character. -/
def expect (c : Char) : List Char → Option (List Char)
  | d :: rest => if d = c then some rest else none
  | [] => none

/-- The date at the front of a timestamp, valid or not. -/
def takeDate (text : List Char) : Option (Date × List Char) := do
  let (year, text) ← takeDecimal 4 text
  let text ← expect '-' text
  let (month, text) ← takeDecimal 2 text
  let text ← expect '-' text
  let (day, text) ← takeDecimal 2 text
  some (⟨year, month, day⟩, text)

/-- What follows the letter or space between a date and a time of day. -/
def skipSeparator : List Char → Option (List Char)
  | c :: rest => if c = 'T' ∨ c = 't' ∨ c = ' ' then some rest else none
  | [] => none

/-- The hour, minute and second at the front of a text. -/
def takeClock (text : List Char) : Option ((Nat × Nat × Nat) × List Char) := do
  let (hour, text) ← takeDecimal 2 text
  let text ← expect ':' text
  let (minute, text) ← takeDecimal 2 text
  let text ← expect ':' text
  let (second, text) ← takeDecimal 2 text
  some ((hour, minute, second), text)

/-- The digits at the front of a text as a fraction of a second with `places` places left, and the
text after them. -/
def takePlaces : Nat → List Char → Nat × List Char
  | _, [] => (0, [])
  | places, c :: rest =>
    match decimalValue? c, places with
    | some value, places + 1 =>
      let (low, rest) := takePlaces places rest
      (value * Nat.pow 10 places + low, rest)
    | some _, 0 => takePlaces 0 rest
    | none, _ => (0, c :: rest)

/-- An optional fraction: a point and at least one digit. -/
def takeFraction : List Char → Option (Nat × List Char)
  | '.' :: c :: rest =>
    match decimalValue? c with
    | some _ => some (takePlaces 9 (c :: rest))
    | none => none
  | ['.'] => none
  | text => some (0, text)

/-- An offset from UTC in seconds: a `Z`, or a sign (the minus sign of typography will do) with hours
and minutes. -/
def takeOffset : List Char → Option (Int × List Char)
  | [] => none
  | c :: text =>
    if c = 'Z' ∨ c = 'z' then some (0, text)
    else if c = '+' ∨ c = '-' ∨ c = '−' then do
      let (hours, text) ← takeDecimal 2 text
      let text ← expect ':' text
      let (minutes, text) ← takeDecimal 2 text
      let seconds : Int := hours * 3600 + minutes * 60
      if minutes < 60 ∧ seconds < 86400 then some (if c = '+' then seconds else -seconds, text)
      else none
    else none

/-- The instant that a timestamp names. -/
def Instant.ofChars? (text : List Char) : Option Instant := do
  let (date, text) ← takeDate text
  let text ← skipSeparator text
  let ((hour, minute, second), text) ← takeClock text
  let (fraction, text) ← takeFraction text
  let (offset, text) ← takeOffset text
  if text.isEmpty ∧ date.isValid ∧ hour < 24 ∧ minute < 60 ∧ second ≤ 60 then
    let leap := second = 60
    let clock : Int := hour * 3600 + minute * 60 + (if leap then 59 else second)
    Instant.of? (date.dayNumber * 86400 + clock - offset)
      (if leap then fraction + nanosPerSecond else fraction)
  else none

/-- The instant that a timestamp names. -/
def Instant.ofText? (text : String) : Option Instant := Instant.ofChars? text.toList

end SealedTransfer.Time
