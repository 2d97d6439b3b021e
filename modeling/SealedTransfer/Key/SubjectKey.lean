/-
# SealedTransfer.Key.SubjectKey — public keys of any algorithm

The common form of public keys: the algorithm and the key's bits. Which algorithm it is decides what
the bits mean; this module reads and writes the form and names the algorithm.
-/
import SealedTransfer.Asn1.AlgorithmId
import SealedTransfer.Asn1.BitString

namespace SealedTransfer

open Asn1 (AlgorithmId BitString Element ObjectId element?)

/-! ## Names of algorithms -/

/-- The identifier of RSA keys, 1.2.840.113549.1.1.1. -/
def rsaId : ObjectId := ⟨[0x2A, 0x86, 0x48, 0x86, 0xF7, 0x0D, 0x01, 0x01, 0x01]⟩

/-- The identifier of elliptic curve keys, 1.2.840.10045.2.1. -/
def ecdsaId : ObjectId := ⟨[0x2A, 0x86, 0x48, 0xCE, 0x3D, 0x02, 0x01]⟩

/-- The identifier of Edwards curve keys, 1.3.101.112. -/
def ed25519Id : ObjectId := ⟨[0x2B, 0x65, 0x70]⟩

/-- The name of the RSA algorithm. -/
def rsaName : String := "RSA"

/-- The name of the elliptic curve algorithm. -/
def ecdsaName : String := "ECDSA"

/-- The name of a key algorithm; one without a name is called by its identifier. -/
def keyAlgorithmName (id : ObjectId) : String :=
  if id = rsaId then rsaName
  else if id = ecdsaId then ecdsaName
  else if id = ed25519Id then "Ed25519"
  else id.dotted

/-- RSA as the algorithm of a key. -/
def rsaAlgorithm : AlgorithmId := ⟨rsaId, some .null⟩

/-! ## Keys -/

/-- A public key of some algorithm. -/
structure SubjectKey where
  algorithm : AlgorithmId
  bits : BitString
deriving DecidableEq, Repr

namespace SubjectKey

/-- The element of a key. -/
def element (key : SubjectKey) : Element := .sequence [key.algorithm.element, key.bits.element]

/-- The encoding of a key. -/
def encode (key : SubjectKey) : Bytes := key.element.encode

/-- The key that an element holds. -/
def ofElement? (element : Element) : Option SubjectKey := do
  match ← element.sequence? with
  | [algorithm, bits] => some ⟨← algorithm.algorithmId?, ← bits.bitString?⟩
  | _ => none

/-- The key that octets are the encoding of. -/
def decode? (bytes : Bytes) : Option SubjectKey := do ofElement? (← element? bytes)

end SubjectKey

end SealedTransfer
