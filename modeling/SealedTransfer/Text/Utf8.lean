/-
# SealedTransfer.Text.Utf8 — characters as octets

UTF-8 in its strict form: the shortest sequence for each scalar value, no surrogates, nothing above
U+10FFFF. Reading accepts exactly what writing produces.
-/
import SealedTransfer.Bytes

namespace SealedTransfer.Text.Utf8

/-! ## Writing -/

/-- The one to four octets of a character. -/
def encodeChar (c : Char) : Bytes :=
  let n := c.toNat
  if n < 0x80 then [UInt8.ofNat n]
  else if n < 0x800 then [UInt8.ofNat (0xC0 + n / 64), UInt8.ofNat (0x80 + n % 64)]
  else if n < 0x10000 then
    [UInt8.ofNat (0xE0 + n / 4096), UInt8.ofNat (0x80 + n / 64 % 64), UInt8.ofNat (0x80 + n % 64)]
  else
    [UInt8.ofNat (0xF0 + n / 262144), UInt8.ofNat (0x80 + n / 4096 % 64),
      UInt8.ofNat (0x80 + n / 64 % 64), UInt8.ofNat (0x80 + n % 64)]

/-- The octets of a run of characters. -/
def encodeChars (text : List Char) : Bytes := text.flatMap encodeChar

/-- The octets of a text. -/
def encode (text : String) : Bytes := encodeChars text.toList

/-! ## Reading -/

/-- The six bits of a continuation octet. -/
def continuation? (b : UInt8) : Option Nat :=
  if 0x80 ≤ b.toNat ∧ b.toNat < 0xC0 then some (b.toNat - 0x80) else none

/-- The scalar value `n`, provided a shorter sequence could not have spelled it. -/
def scalar? (least n : Nat) : Option Char :=
  if least ≤ n ∧ n.isValidChar then some (Char.ofNat n) else none

/-- How many continuation octets a leading octet announces, and the bits it gives itself. -/
def leading? (b : UInt8) : Option (Nat × Nat) :=
  let n := b.toNat
  if n < 0x80 then some (0, n)
  else if 0xC0 ≤ n ∧ n < 0xE0 then some (1, n - 0xC0)
  else if 0xE0 ≤ n ∧ n < 0xF0 then some (2, n - 0xE0)
  else if 0xF0 ≤ n ∧ n < 0xF8 then some (3, n - 0xF0)
  else none

/-- The characters that octets spell, if they spell any. -/
def decodeChars? : Bytes → Option (List Char)
  | [] => some []
  | a :: rest =>
    match leading? a with
    | some (0, n) => do
      let c ← scalar? 0 n
      let text ← decodeChars? rest
      some (c :: text)
    | some (1, n) =>
      match rest with
      | b :: rest => do
        let x ← continuation? b
        let c ← scalar? 0x80 (n * 64 + x)
        let text ← decodeChars? rest
        some (c :: text)
      | _ => none
    | some (2, n) =>
      match rest with
      | b :: b' :: rest => do
        let x ← continuation? b
        let y ← continuation? b'
        let c ← scalar? 0x800 (n * 4096 + x * 64 + y)
        let text ← decodeChars? rest
        some (c :: text)
      | _ => none
    | some (3, n) =>
      match rest with
      | b :: b' :: b'' :: rest => do
        let x ← continuation? b
        let y ← continuation? b'
        let z ← continuation? b''
        let c ← scalar? 0x10000 (n * 262144 + x * 4096 + y * 64 + z)
        let text ← decodeChars? rest
        some (c :: text)
      | _ => none
    | _ => none

/-- The text that octets spell, if they spell any. -/
def decode? (bytes : Bytes) : Option String := (decodeChars? bytes).map String.ofList

end SealedTransfer.Text.Utf8
