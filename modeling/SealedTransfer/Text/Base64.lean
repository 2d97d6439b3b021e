/-
# SealedTransfer.Text.Base64 — octets as sixty-four symbols

The standard alphabet in two forms: padded to a multiple of four symbols (messages, PEM, stored keys)
and unpadded (fingerprints). Both are canonical. Reading accepts no blanks, wants the padding exactly
where the form has it, and refuses symbols whose unused low bits are not zero, so each byte string
has one spelling in each form.
-/
import SealedTransfer.Bytes

namespace SealedTransfer.Text.Base64

/-! ## The alphabet -/

/-- The symbol for a value below sixty-four. -/
def symbol (value : Nat) : Char :=
  if value < 26 then Char.ofNat (65 + value)
  else if value < 52 then Char.ofNat (71 + value)
  else if value < 62 then Char.ofNat (value - 4)
  else if value = 62 then '+'
  else '/'

/-- The value of a symbol. -/
def value? (c : Char) : Option Nat :=
  let n := c.toNat
  if 65 ≤ n ∧ n ≤ 90 then some (n - 65)
  else if 97 ≤ n ∧ n ≤ 122 then some (n - 71)
  else if 48 ≤ n ∧ n ≤ 57 then some (n + 4)
  else if n = 43 then some 62
  else if n = 47 then some 63
  else none

/-- Every value below sixty-four is read back from its symbol. -/
theorem value?_symbol : ∀ value, value < 64 → value? (symbol value) = some value := by
  decide

/-! ## Writing -/

/-- The symbols of a byte string, followed by what the form has in place of missing symbols. -/
def encodeWith (fill : Nat → List Char) : Bytes → List Char
  | [] => []
  | [a] => [symbol (a.toNat / 4), symbol (a.toNat % 4 * 16)] ++ fill 2
  | [a, b] =>
    [symbol (a.toNat / 4), symbol (a.toNat % 4 * 16 + b.toNat / 16), symbol (b.toNat % 16 * 4)]
      ++ fill 1
  | a :: b :: c :: rest =>
    symbol (a.toNat / 4) :: symbol (a.toNat % 4 * 16 + b.toNat / 16)
      :: symbol (b.toNat % 16 * 4 + c.toNat / 64) :: symbol (c.toNat % 64) :: encodeWith fill rest

/-- The padded form: the last group is filled up with equals signs. -/
def encode (bytes : Bytes) : List Char := encodeWith (fun n => List.replicate n '=') bytes

/-- The unpadded form. -/
def encodeUnpadded (bytes : Bytes) : List Char := encodeWith (fun _ => []) bytes

/-! ## Reading -/

/-- The three octets of four symbols. -/
def three? (a b c d : Char) : Option Bytes := do
  let a ← value? a
  let b ← value? b
  let c ← value? c
  let d ← value? d
  some [UInt8.ofNat (a * 4 + b / 16), UInt8.ofNat (b % 16 * 16 + c / 4),
    UInt8.ofNat (c % 4 * 64 + d)]

/-- The two octets of three symbols, the last of which has two unused bits. -/
def two? (a b c : Char) : Option Bytes := do
  let a ← value? a
  let b ← value? b
  let c ← value? c
  if c % 4 = 0 then some [UInt8.ofNat (a * 4 + b / 16), UInt8.ofNat (b % 16 * 16 + c / 4)]
  else none

/-- The octet of two symbols, the last of which has four unused bits. -/
def one? (a b : Char) : Option Bytes := do
  let a ← value? a
  let b ← value? b
  if b % 16 = 0 then some [UInt8.ofNat (a * 4 + b / 16)] else none

/-- Reads the padded form. -/
def decode? : List Char → Option Bytes
  | [] => some []
  | [a, b, '=', '='] => one? a b
  | [a, b, c, '='] => two? a b c
  | a :: b :: c :: d :: rest => do
    let head ← three? a b c d
    let tail ← decode? rest
    some (head ++ tail)
  | _ => none

/-- Reads the unpadded form. -/
def decodeUnpadded? : List Char → Option Bytes
  | [] => some []
  | [a, b] => one? a b
  | [a, b, c] => two? a b c
  | a :: b :: c :: d :: rest => do
    let head ← three? a b c d
    let tail ← decodeUnpadded? rest
    some (head ++ tail)
  | _ => none

end SealedTransfer.Text.Base64
