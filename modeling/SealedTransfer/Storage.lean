/-
# SealedTransfer.Storage — length-prefixed records

Keys are put into storage as plain records: numbers in a fixed width with the least significant octet
first, byte strings behind their length in eight octets, truth values in one octet. A reader takes a
value from the front of a byte string and leaves the rest; what stands after a whole record is not
looked at.
-/
import SealedTransfer.Text.Utf8

namespace SealedTransfer.Storage

/-! ## Writing -/

/-- A number in `width` octets. -/
def natField (width n : Nat) : Bytes := Bytes.ofLittleNat width n

/-- A byte string behind its length. -/
def bytesField (bytes : Bytes) : Bytes := natField 8 bytes.length ++ bytes

/-- A text, as its octets. -/
def textField (text : String) : Bytes := bytesField (Text.Utf8.encode text)

/-- A signed number of sixty-four bits, in two's complement. -/
def intField (n : Int64) : Bytes := natField 8 n.toUInt64.toNat

/-- A truth value. -/
def boolField (b : Bool) : Bytes := [if b then 1 else 0]

/-! ## Reading -/

/-- A reader of one value: the value and the octets after it. -/
abbrev Reader (α : Type) := StateT Bytes Option α

/-- The next `count` octets. -/
def takeOctets (count : Nat) : Reader Bytes := fun bytes =>
  if count ≤ bytes.length then some (bytes.take count, bytes.drop count) else none

/-- The next number, of `width` octets. -/
def takeNat (width : Nat) : Reader Nat := do
  let octets ← takeOctets width
  return Bytes.littleNat octets

/-- The next byte string. -/
def takeBytes : Reader Bytes := do
  let count ← takeNat 8
  takeOctets count

/-- The next text. -/
def takeText : Reader String := do
  let octets ← takeBytes
  match Text.Utf8.decode? octets with
  | some text => return text
  | none => failure

/-- The next signed number of sixty-four bits. -/
def takeInt : Reader Int64 := do
  let n ← takeNat 8
  return (UInt64.ofNat n).toInt64

/-- The next truth value: zero or one, nothing else. -/
def takeBool : Reader Bool := do
  let n ← takeNat 1
  if n = 0 then return false
  else if n = 1 then return true
  else failure

end SealedTransfer.Storage
