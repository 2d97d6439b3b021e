/-
# SealedTransfer.Asn1.Element — tagged elements and their one encoding

Keys and certificates are trees of elements: an identifier octet, a length and contents. Each element
has exactly one encoding. Lengths are written in the fewest octets, and reading accepts what writing
produces and nothing else. Contents of an element that is made of others are the encodings of those,
one after the other.
-/
import SealedTransfer.Bytes

namespace SealedTransfer.Asn1

/-! ## Identifiers -/

/-- The identifier octets of the universal types. -/
def universalIdentifiers : List UInt8 :=
  [0x01, 0x02, 0x03, 0x04, 0x05, 0x06, 0x09, 0x0A, 0x0C, 0x12, 0x13, 0x14, 0x15, 0x16, 0x17, 0x18,
    0x1A, 0x1E, 0x30, 0x31]

/-- Identifier octets that an element may start with: a universal type in the form it always has, or
another class with a number that fits into the octet. -/
def isIdentifier (identifier : UInt8) : Bool :=
  universalIdentifiers.contains identifier || (0x40 ≤ identifier && identifier &&& 0x1F != 0x1F)

/-- The identifier of a truth value. -/
def booleanIdentifier : UInt8 := 0x01
/-- The identifier of an integer. -/
def integerIdentifier : UInt8 := 0x02
/-- The identifier of a bit string. -/
def bitStringIdentifier : UInt8 := 0x03
/-- The identifier of an octet string. -/
def octetStringIdentifier : UInt8 := 0x04
/-- The identifier of the null value. -/
def nullIdentifier : UInt8 := 0x05
/-- The identifier of an object identifier. -/
def objectIdIdentifier : UInt8 := 0x06
/-- The identifier of a time with two digits for the year. -/
def shortTimeIdentifier : UInt8 := 0x17
/-- The identifier of a time with four digits for the year. -/
def longTimeIdentifier : UInt8 := 0x18
/-- The identifier of a sequence. -/
def sequenceIdentifier : UInt8 := 0x30
/-- The identifier of a set. -/
def setIdentifier : UInt8 := 0x31

/-! ## Elements -/

/-- An element: an identifier octet and contents. -/
structure Element where
  identifier : UInt8
  contents : Bytes
deriving DecidableEq, Repr

/-- Contents are shorter than this. -/
def contentsBound : Nat := 0x10000000

/-- A length: one octet below 128, else the number of its octets, marked, and the fewest octets. -/
def lengthOctets (length : Nat) : Bytes :=
  if length < 0x80 then [UInt8.ofNat length]
  else UInt8.ofNat (0x80 + Bytes.octetLength length) :: Bytes.ofNatMinimal length

/-- The encoding of an element. -/
def Element.encode (element : Element) : Bytes :=
  element.identifier :: (lengthOctets element.contents.length ++ element.contents)

/-- The encodings of elements, one after the other. -/
def encodeAll (elements : List Element) : Bytes := elements.flatMap Element.encode

/-- The element whose contents are other elements. -/
def Element.ofElements (identifier : UInt8) (elements : List Element) : Element :=
  ⟨identifier, encodeAll elements⟩

/-- A sequence of elements. -/
def Element.sequence (elements : List Element) : Element :=
  .ofElements sequenceIdentifier elements

/-! ## Reading -/

/-- The length at the front and the octets after it. The octets of the length are those that writing
gives. -/
def takeLength? : Bytes → Option (Nat × Bytes)
  | [] => none
  | first :: rest =>
    if first < 0x80 then some (first.toNat, rest)
    else
      let count := first.toNat - 0x80
      let octets := rest.take count
      let length := Bytes.toNat octets
      if length < contentsBound ∧ lengthOctets length = first :: octets then
        some (length, rest.drop count)
      else none

/-- The element at the front and the octets after it. -/
def takeElement? : Bytes → Option (Element × Bytes)
  | [] => none
  | identifier :: rest =>
    if isIdentifier identifier then
      match takeLength? rest with
      | some (length, rest) =>
        if length ≤ rest.length then some (⟨identifier, rest.take length⟩, rest.drop length) else none
      | none => none
    else none

/-- The elements that octets consist of, if there are at most `budget`. -/
def elementsWithin : Nat → Bytes → Option (List Element)
  | _, [] => some []
  | 0, _ :: _ => none
  | budget + 1, b :: rest =>
    match takeElement? (b :: rest) with
    | some (element, rest) => (elementsWithin budget rest).map (element :: ·)
    | none => none

/-- The elements that octets consist of. Each takes up an octet at least, so that there are no more
of them than octets. -/
def elements? (bytes : Bytes) : Option (List Element) := elementsWithin bytes.length bytes

/-- The element that octets are the encoding of. -/
def element? (bytes : Bytes) : Option Element :=
  match takeElement? bytes with
  | some (element, []) => some element
  | _ => none

/-- The elements of a sequence. -/
def Element.sequence? (element : Element) : Option (List Element) :=
  if element.identifier = sequenceIdentifier then elements? element.contents else none

/-! ## Numbered fields -/

/-- Whether an element is a numbered field. -/
def Element.isField (element : Element) : Bool := element.identifier &&& 0xC0 == 0x80

/-- The number of a numbered field. -/
def Element.fieldNumber (element : Element) : Nat := (element.identifier &&& 0x1F).toNat

/-- Whether the contents are marked as elements themselves. -/
def Element.isConstructed (element : Element) : Bool := element.identifier &&& 0x20 != 0

/-- Takes the numbered field wanted, if it comes next. Fields with lower numbers before it are passed
over. -/
def takeField (number : Nat) : List Element → Option Element × List Element
  | [] => (none, [])
  | element :: rest =>
    if element.isField ∧ element.fieldNumber < number then takeField number rest
    else if element.isField ∧ element.fieldNumber = number then (some element, rest)
    else (none, element :: rest)

/-- The element inside a numbered field that wraps one. -/
def Element.wrapped? (field : Element) : Option Element :=
  if field.isConstructed then element? field.contents else none

/-- An optional field that wraps an element, read by `read`: none is there, or one that reads, or the
whole is refused. -/
def wrappedField? {α : Type} (number : Nat) (read : Element → Option α) (elements : List Element) :
    Option (Option α × List Element) :=
  match takeField number elements with
  | (none, rest) => some (none, rest)
  | (some field, rest) => do
    let inner ← field.wrapped?
    let value ← read inner
    some (some value, rest)

end SealedTransfer.Asn1
