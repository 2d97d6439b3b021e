/-
# SealedTransfer.Text.Digits — numbers as digits

Numbers are written in base ten (status codes, timestamps, object identifiers) and in base sixteen
(escapes, identifiers, octets). Letters above nine are written in lower case; both cases are read.
-/
import SealedTransfer.Bytes

namespace SealedTransfer.Text

/-- The digit for a value below sixteen, in lower case. -/
def digitChar (value : Nat) : Char :=
  Char.ofNat (if value < 10 then 48 + value else 87 + value)

/-- The value of a decimal digit. -/
def decimalValue? (c : Char) : Option Nat :=
  if 48 ≤ c.toNat ∧ c.toNat ≤ 57 then some (c.toNat - 48) else none

/-- The value of a hexadecimal digit, in either case. -/
def hexValue? (c : Char) : Option Nat :=
  if 48 ≤ c.toNat ∧ c.toNat ≤ 57 then some (c.toNat - 48)
  else if 97 ≤ c.toNat ∧ c.toNat ≤ 102 then some (c.toNat - 87)
  else if 65 ≤ c.toNat ∧ c.toNat ≤ 70 then some (c.toNat - 55)
  else none

/-! ## Writing -/

/-- A number in the fewest digits of a base from two to sixteen; zero is one digit. -/
def digits (base n : Nat) : List Char :=
  if n < base ∨ base < 2 then [digitChar n]
  else digits base (n / base) ++ [digitChar (n % base)]
termination_by n
decreasing_by
  rename_i large
  have hb : 2 ≤ base := by omega
  have hn : 0 < n := by omega
  exact Nat.div_lt_self hn hb

/-- A number in exactly `width` digits, its higher digits dropped. -/
def fixedDigits (base : Nat) : Nat → Nat → List Char
  | 0, _ => []
  | width + 1, n => fixedDigits base width (n / base) ++ [digitChar (n % base)]

/-- A number in at least `width` digits, zeros in front as needed. -/
def paddedDigits (base width n : Nat) : List Char :=
  let written := digits base n
  List.replicate (width - written.length) '0' ++ written

/-- An integer in decimal, a minus sign in front of a negative one. -/
def integer (z : Int) : List Char :=
  match z with
  | .ofNat n => digits 10 n
  | .negSucc n => '-' :: digits 10 (n + 1)

/-- A natural number in decimal, as text. -/
def decimal (n : Nat) : String := String.ofList (digits 10 n)

/-- Octets as pairs of hexadecimal digits. -/
def hex (bytes : Bytes) : List Char := bytes.flatMap fun b => fixedDigits 16 2 b.toNat

/-! ## Reading -/

/-- The number that decimal digits spell. -/
def ofDecimalDigits (values : List Nat) : Nat := values.foldl (fun n d => n * 10 + d) 0

/-- Exactly `width` decimal digits: their number and what follows them. -/
def takeDecimal : Nat → List Char → Option (Nat × List Char)
  | 0, text => some (0, text)
  | width + 1, c :: text => do
    let value ← decimalValue? c
    let (low, rest) ← takeDecimal width text
    some (value * Nat.pow 10 width + low, rest)
  | _ + 1, [] => none

/-- The octets that pairs of hexadecimal digits spell. -/
def ofHex? : List Char → Option Bytes
  | [] => some []
  | [_] => none
  | high :: low :: rest => do
    let h ← hexValue? high
    let l ← hexValue? low
    let bytes ← ofHex? rest
    some (UInt8.ofNat (h * 16 + l) :: bytes)

end SealedTransfer.Text
