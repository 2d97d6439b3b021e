/-
# SealedTransfer.Asn1.Time — times as certificates write them

Two forms, both in UTC and to the second: one with two digits for the year, which means 1950 to 2049,
and one with four digits, from 1970 to 9999. The short form before 1970 is refused as well.
-/
import SealedTransfer.Asn1.Element
import SealedTransfer.Text.Digits
import SealedTransfer.Time.Instant

namespace SealedTransfer.Asn1

open Text (takeDecimal)
open Time (Date Instant)

/-- The first year that a time may name. -/
def firstYear : Nat := 1970

/-- The full year of a year in two digits. -/
def fullYear (year : Nat) : Nat := if 50 ≤ year then 1900 + year else 2000 + year

/-- The instant of month, day, hour, minute and second, two digits each and a closing `Z`. -/
def instantInYear? (year : Nat) (text : List Char) : Option Instant := do
  let (month, text) ← takeDecimal 2 text
  let (day, text) ← takeDecimal 2 text
  let (hour, text) ← takeDecimal 2 text
  let (minute, text) ← takeDecimal 2 text
  let (second, text) ← takeDecimal 2 text
  let date : Date := ⟨year, month, day⟩
  if text = ['Z'] ∧ firstYear ≤ year ∧ date.isValid ∧ hour < 24 ∧ minute < 60 ∧ second < 60 then
    Instant.of? (date.dayNumber * 86400 + (hour * 3600 + minute * 60 + second : Nat)) 0
  else none

/-- The instant that an element holds, in either form. -/
def Element.time? (element : Element) : Option Instant :=
  let text := element.contents.map fun b => Char.ofNat b.toNat
  if element.identifier = shortTimeIdentifier then do
    let (year, text) ← takeDecimal 2 text
    instantInYear? (fullYear year) text
  else if element.identifier = longTimeIdentifier then do
    let (year, text) ← takeDecimal 4 text
    instantInYear? year text
  else none

end SealedTransfer.Asn1
