/-
# SealedTransfer.Asn1.ObjectId — object identifiers

An object identifier is a path of numbers, its arcs, in base-128 digits; the first octet holds two of
them. The octets are the identity: an arc may be spelled with leading zero digits, and then spells
another identifier with the same dotted text.
-/
import SealedTransfer.Asn1.Element
import SealedTransfer.Text.Digits

namespace SealedTransfer.Asn1

/-- An object identifier, as its octets. -/
structure ObjectId where
  octets : Bytes
deriving DecidableEq, Repr

namespace ObjectId

/-- The fewest octets of an identifier. -/
def fewest : Nat := 3

/-- The most octets of an identifier. -/
def most : Nat := 39

/-- Whether the octets spell arcs, when `places` digits of an arc have been seen. An arc has at most
five digits, and the fifth is below sixteen. -/
def areArcs : Nat → Bytes → Bool
  | places, [] => places = 0
  | places, b :: rest =>
    if places = 4 then b < 0x10 && areArcs 0 rest
    else areArcs (if b < 0x80 then 0 else places + 1) rest

/-- Whether the octets are an identifier's. -/
def isValid (octets : Bytes) : Bool :=
  fewest ≤ octets.length && octets.length ≤ most && octets.head?.all (· < 120) && areArcs 0 octets.tail

/-- The numbers that base-128 digits spell, with `value` the number of the digits of the first so
far. Numbers are kept to thirty-two bits. -/
def arcValues (value : Nat) : Bytes → List Nat
  | [] => []
  | b :: rest =>
    let value := (value * 128 + b.toNat % 128) % UInt32.size
    if b < 0x80 then value :: arcValues 0 rest else arcValues value rest

/-- The arcs of an identifier. -/
def arcs (id : ObjectId) : List Nat :=
  match id.octets with
  | [] => []
  | first :: rest => first.toNat / 40 :: first.toNat % 40 :: arcValues 0 rest

/-- The arcs in decimal, with points between. -/
def dotted (id : ObjectId) : String :=
  String.intercalate "." (id.arcs.map Text.decimal)

/-- The element of an identifier. -/
def element (id : ObjectId) : Element := ⟨objectIdIdentifier, id.octets⟩

end ObjectId

/-- The identifier that an element holds. -/
def Element.objectId? (element : Element) : Option ObjectId :=
  if element.identifier = objectIdIdentifier ∧ ObjectId.isValid element.contents then
    some ⟨element.contents⟩
  else none

end SealedTransfer.Asn1
