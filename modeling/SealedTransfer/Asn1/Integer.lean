/-
# SealedTransfer.Asn1.Integer — integers in the fewest octets

An integer is written in two's complement, most significant octet first, and in no more octets than it
needs. Numbers of keys are natural: the sign bit of their first octet is clear. Versions and other
small numbers fit into one octet.
-/
import SealedTransfer.Asn1.Element

namespace SealedTransfer.Asn1

/-- Whether octets are the shortest two's complement form of some integer. -/
def isShortest : Bytes → Bool
  | [] => false
  | [_] => true
  | first :: second :: _ =>
    !(first == 0 && second < 0x80) && !(first == 0xFF && 0x80 ≤ second)

/-- The octets of a natural number: the fewest that leave the sign bit clear. -/
def naturalOctets (n : Nat) : Bytes :=
  let octets := Bytes.ofNatMinimal n
  match octets with
  | [] => [0]
  | first :: _ => if 0x80 ≤ first then 0 :: octets else octets

/-- The integer element of a natural number. -/
def Element.ofNat (n : Nat) : Element := ⟨integerIdentifier, naturalOctets n⟩

/-- The octets of an integer. -/
def Element.integerOctets? (element : Element) : Option Bytes :=
  if element.identifier = integerIdentifier ∧ isShortest element.contents then
    some element.contents
  else none

/-- The value of an integer that is not negative. -/
def Element.natural? (element : Element) : Option Nat := do
  let octets ← element.integerOctets?
  if octets.head?.all (· < 0x80) then some (Bytes.toNat octets) else none

/-- The value of an integer from 0 to 255. -/
def Element.small? (element : Element) : Option Nat :=
  element.natural?.filter (· < 256)

end SealedTransfer.Asn1
