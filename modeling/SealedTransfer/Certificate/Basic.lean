/-
# SealedTransfer.Certificate.Basic — certificates of public keys

A certificate binds a public key to a name for a time. Nothing is verified here: reading checks the
form, all of it, and keeps what a key exchange reports of a certificate, which is its version, the times
it holds from and to, the key, and its signature with the algorithm.
-/
import SealedTransfer.Asn1.Integer
import SealedTransfer.Asn1.Time
import SealedTransfer.Key.Public

namespace SealedTransfer

open Asn1 (AlgorithmId Element element?)

/-- What is kept of a certificate. -/
structure Certificate where
  /-- Counted from zero. -/
  version : Nat
  notBefore : Time.Instant
  notAfter : Time.Instant
  subjectKey : SubjectKey
  signatureAlgorithm : AlgorithmId
  signature : Bytes

namespace Certificate

/-! ## Parts that are checked and set aside -/

/-- The most octets of a serial number. -/
def longestSerial : Nat := 21

/-- Whether an element is a serial number: an integer of any sign. -/
def isSerial (element : Element) : Bool :=
  element.integerOctets?.any fun octets => octets.length ≤ longestSerial

/-- Whether an element is an attribute of a name: its type and a value of any kind. -/
def isAttribute (element : Element) : Bool :=
  match element.sequence? with
  | some [type, _] => type.objectId?.isSome
  | _ => false

/-- Whether an element is a set of attributes, in any order and each once. -/
def isAttributeSet (element : Element) : Bool :=
  element.identifier = Asn1.setIdentifier &&
    (Asn1.elements? element.contents).any fun attributes =>
      attributes.all isAttribute && attributes.eraseDups.length == attributes.length

/-- Whether an element is a name: a sequence of sets of attributes. -/
def isName (element : Element) : Bool := element.sequence?.any (·.all isAttributeSet)

/-- Whether an element is a truth value. -/
def isTruthValue (element : Element) : Bool :=
  element.identifier = Asn1.booleanIdentifier
    && (element.contents == [0x00] || element.contents == [0xFF])

/-- Whether an element holds octets. -/
def isOctetString (element : Element) : Bool := element.identifier = Asn1.octetStringIdentifier

/-- Whether an element is an extension: its type, whether it is critical, and its octets. -/
def isExtension (element : Element) : Bool :=
  match element.sequence? with
  | some [type, octets] => type.objectId?.isSome && isOctetString octets
  | some [type, critical, octets] =>
    type.objectId?.isSome && isTruthValue critical && isOctetString octets
  | _ => false

/-- The extensions of a certificate, if the element is a sequence of such. -/
def extensions? (element : Element) : Option (List Element) :=
  element.sequence?.filter (·.all isExtension)

/-! ## Parts that are kept -/

/-- The last version that there is, counted from zero. -/
def lastVersion : Nat := 2

/-- The version that an element holds. -/
def version? (element : Element) : Option Nat := element.small?.filter (· ≤ lastVersion)

/-- The two times between which a certificate holds. -/
def validity? (element : Element) : Option (Time.Instant × Time.Instant) := do
  match ← element.sequence? with
  | [notBefore, notAfter] => some (← notBefore.time?, ← notAfter.time?)
  | _ => none

/-- What is signed: the version, the first if it is not given, and what it is followed by. -/
structure Body where
  version : Nat
  notBefore : Time.Instant
  notAfter : Time.Instant
  subjectKey : SubjectKey

/-- The optional fields at the end of a body: two bit strings and extensions. -/
def tail? (elements : List Element) : Option Unit := do
  let (_, elements) ← Asn1.bitStringField? 1 elements
  let (_, elements) ← Asn1.bitStringField? 2 elements
  let (_, elements) ← Asn1.wrappedField? 3 extensions? elements
  if elements.isEmpty then some () else none

/-- The body that an element holds. -/
def body? (element : Element) : Option Body := do
  let (version, elements) ← Asn1.wrappedField? 0 version? (← element.sequence?)
  match elements with
  | serial :: algorithm :: issuer :: validity :: subject :: key :: rest =>
    let _ ← algorithm.algorithmId?
    let (notBefore, notAfter) ← validity? validity
    let subjectKey ← SubjectKey.ofElement? key
    let _ ← tail? rest
    if isSerial serial ∧ isName issuer ∧ isName subject then
      some ⟨version.getD 0, notBefore, notAfter, subjectKey⟩
    else none
  | _ => none

/-! ## Certificates -/

/-- The certificate that octets are the encoding of. -/
def decode? (bytes : Bytes) : Option Certificate := do
  match ← (← element? bytes).sequence? with
  | [body, algorithm, signature] =>
    let body ← body? body
    let algorithm ← algorithm.algorithmId?
    let signature ← signature.bitString?
    some ⟨body.version, body.notBefore, body.notAfter, body.subjectKey, algorithm, signature.octets⟩
  | _ => none

/-- The certificate that octets are the encoding of, or the fault that they are not. -/
def decode (bytes : Bytes) : Except Fault Certificate :=
  match decode? bytes with
  | some certificate => .ok certificate
  | none => .error .malformedCertificate

/-- The key that a certificate is for. -/
def publicKey (certificate : Certificate) : Except Fault PublicKey :=
  PublicKey.decode certificate.subjectKey.encode

end Certificate

end SealedTransfer
