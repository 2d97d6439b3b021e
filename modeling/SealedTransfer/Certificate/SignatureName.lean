/-
# SealedTransfer.Certificate.SignatureName — names of signature algorithms

Key exchange messages name the algorithm of a certificate's signature. Signatures with a probabilistic
padding have their parameters beside the identifier and get a name only if the digest, the digest of the
mask and the salt length go together; whatever has no name is called by its identifier.
-/
import SealedTransfer.Asn1.AlgorithmId
import SealedTransfer.Asn1.Integer

namespace SealedTransfer

open Asn1 (AlgorithmId Element ObjectId)

/-! ## Parameters of probabilistic signatures -/

/-- The identifier of probabilistic signatures, 1.2.840.113549.1.1.10. -/
def pssId : ObjectId := ⟨[0x2A, 0x86, 0x48, 0x86, 0xF7, 0x0D, 0x01, 0x01, 0x0A]⟩

/-- The identifier of the mask generation function, 1.2.840.113549.1.1.8. -/
def maskId : ObjectId := ⟨[0x2A, 0x86, 0x48, 0x86, 0xF7, 0x0D, 0x01, 0x01, 0x08]⟩

/-- The identifier of SHA-1, 1.3.14.3.2.26. -/
def sha1Id : ObjectId := ⟨[0x2B, 0x0E, 0x03, 0x02, 0x1A]⟩

/-- A mask generation function: its identifier and the digest it uses, if that is given. -/
structure MaskFunction where
  id : ObjectId
  digest : Option ObjectId
deriving DecidableEq, Repr

/-- The mask generation function that an element holds. -/
def MaskFunction.ofElement? (element : Element) : Option MaskFunction := do
  match ← element.sequence? with
  | [id] => some ⟨← id.objectId?, none⟩
  | [id, digest] => some ⟨← id.objectId?, some (← digest.algorithmId?).id⟩
  | _ => none

/-- The parameters of a probabilistic signature. -/
structure PssParameters where
  digest : ObjectId
  mask : MaskFunction
  saltLength : Nat
deriving DecidableEq, Repr

namespace PssParameters

/-- The parameters that are meant where none are given. -/
def standard : PssParameters := ⟨sha1Id, ⟨maskId, some sha1Id⟩, 20⟩

/-- The only trailer there is. -/
def trailer : Nat := 1

/-- The parameters that an element holds, each in a numbered field of its own. -/
def ofElement? (element : Element) : Option PssParameters := do
  let elements ← element.sequence?
  let (digest, elements) ← Asn1.wrappedField? 0 Element.algorithmId? elements
  let (mask, elements) ← Asn1.wrappedField? 1 MaskFunction.ofElement? elements
  let (saltLength, elements) ← Asn1.wrappedField? 2 Element.small? elements
  let (given, elements) ← Asn1.wrappedField? 3 Element.small? elements
  if elements.isEmpty ∧ given.getD trailer = trailer then
    some ⟨(digest.map AlgorithmId.id).getD standard.digest, mask.getD standard.mask,
      saltLength.getD standard.saltLength⟩
  else none

end PssParameters

/-! ## Names -/

/-- A name for probabilistic signatures with a digest, and the salt length that goes with it. -/
structure PssName where
  digest : String
  name : String
  saltLength : Nat

/-- The names for probabilistic signatures. -/
def pssNames : List PssName :=
  [⟨"2.16.840.1.101.3.4.2.1", "SHA256-RSAPSS", 32⟩,
    ⟨"2.16.840.1.101.3.4.2.2", "SHA384-RSAPSS", 48⟩,
    ⟨"2.16.840.1.101.3.4.2.3", "SHA512-RSAPSS", 64⟩]

/-- The names for other signatures, by identifier. -/
def signatureNames : List (String × String) :=
  [("1.2.840.113549.1.1.4", "MD5-RSA"), ("1.2.840.113549.1.1.5", "SHA1-RSA"),
    ("1.2.840.113549.1.1.11", "SHA256-RSA"), ("1.2.840.113549.1.1.12", "SHA384-RSA"),
    ("1.2.840.113549.1.1.13", "SHA512-RSA"), ("1.2.840.10045.4.1", "ECDSA-SHA1"),
    ("1.2.840.10045.4.3.2", "ECDSA-SHA256"), ("1.2.840.10045.4.3.3", "ECDSA-SHA384"),
    ("1.2.840.10045.4.3.4", "ECDSA-SHA512"), ("1.3.101.112", "Ed25519")]

/-- The name for parameters of which digest, mask digest and salt length go together. -/
def PssParameters.name? (parameters : PssParameters) : Option String :=
  if parameters.mask.digest = some parameters.digest then
    (pssNames.find? fun known =>
      known.digest = parameters.digest.dotted ∧ known.saltLength = parameters.saltLength).map (·.name)
  else none

/-- The name of a probabilistic signature with the given parameters. -/
def pssName? (algorithm : AlgorithmId) : Option String := do
  let parameters ← PssParameters.ofElement? (← algorithm.parameters)
  parameters.name?

/-- The name of a signature algorithm; one without a name is called by its identifier. -/
def signatureName (algorithm : AlgorithmId) : String :=
  let dotted := algorithm.id.dotted
  let name := if algorithm.id = pssId then pssName? algorithm else signatureNames.lookup dotted
  name.getD dotted

end SealedTransfer
