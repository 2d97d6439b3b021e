/-
# SealedTransfer.Asn1.BitString — bits in octets

A bit string says how many bits at its end are unused, at most seven of its last octet. The unused bits
may have any value and are kept.
-/
import SealedTransfer.Asn1.Element

namespace SealedTransfer.Asn1

/-- A bit string. -/
structure BitString where
  unused : UInt8
  octets : Bytes
deriving DecidableEq, Repr

namespace BitString

/-- Whole octets as a bit string. -/
def ofOctets (octets : Bytes) : BitString := ⟨0, octets⟩

/-- The contents of its element. -/
def contents (bits : BitString) : Bytes := bits.unused :: bits.octets

/-- The element of a bit string. -/
def element (bits : BitString) : Element := ⟨bitStringIdentifier, bits.contents⟩

/-- The bit string that contents spell. -/
def ofContents? : Bytes → Option BitString
  | [] => none
  | unused :: octets =>
    if unused ≤ 7 ∧ (octets = [] → unused = 0) then some ⟨unused, octets⟩ else none

/-- The octets, if the string consists of whole ones. -/
def wholeOctets? (bits : BitString) : Option Bytes :=
  if bits.unused = 0 then some bits.octets else none

end BitString

/-- The bit string that an element holds. -/
def Element.bitString? (element : Element) : Option BitString :=
  if element.identifier = bitStringIdentifier then BitString.ofContents? element.contents else none

/-- The bit string in a numbered field that stands for it. -/
def Element.fieldBitString? (field : Element) : Option BitString :=
  if field.isConstructed then none else BitString.ofContents? field.contents

/-- An optional field that stands for a bit string: none is there, or one that reads, or the whole is
refused. -/
def bitStringField? (number : Nat) (elements : List Element) :
    Option (Option BitString × List Element) :=
  match takeField number elements with
  | (none, rest) => some (none, rest)
  | (some field, rest) => do
    let bits ← field.fieldBitString?
    some (some bits, rest)

end SealedTransfer.Asn1
