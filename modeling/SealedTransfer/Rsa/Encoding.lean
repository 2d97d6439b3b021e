/-
# SealedTransfer.Rsa.Encoding — RSA keys in ASN.1

A public key is a sequence of modulus and exponent. A private key is a sequence of nine numbers: a
version, the modulus, both exponents, the two factors and three numbers that follow from the others.
Those three are read and set aside; written, they are computed anew, so that a key whose factors have
no coefficient cannot be written.
-/
import SealedTransfer.Asn1.Integer
import SealedTransfer.Rsa.Key

namespace SealedTransfer.Rsa

open Asn1 (Element element?)

/-! ## Public keys -/

namespace PublicKey

/-- The element of a public key. -/
def element (key : PublicKey) : Element :=
  .sequence [.ofNat key.modulus, .ofNat key.exponent]

/-- The encoding of a public key. -/
def encode (key : PublicKey) : Bytes := key.element.encode

/-- The public key of a modulus and an exponent that were received by themselves. -/
def received? (modulus exponent : Nat) : Option PublicKey :=
  if Bytes.bitLength modulus ≤ longestReceived then of? modulus exponent else none

/-- The public key that octets are the encoding of. -/
def decode? (bytes : Bytes) : Option PublicKey := do
  match ← (← element? bytes).sequence? with
  | [modulus, exponent] => received? (← modulus.natural?) (← exponent.natural?)
  | _ => none

end PublicKey

/-! ## Private keys -/

namespace PrivateKey

/-- The version of keys with two factors. -/
def twoFactors : Nat := 0

/-- The element of a private key whose factors have the given coefficient. -/
def element (key : PrivateKey) (coefficient : Nat) : Element :=
  .sequence (([twoFactors, key.publicHalf.modulus, key.publicHalf.exponent, key.d, key.p, key.q,
    key.exponent₁, key.exponent₂, coefficient] : List Nat).map .ofNat)

/-- The encoding of a private key, if its factors have a coefficient. -/
def encode? (key : PrivateKey) : Option Bytes :=
  key.coefficient?.map fun coefficient => (key.element coefficient).encode

/-- The private key that octets are the encoding of. -/
def decode? (bytes : Bytes) : Option PrivateKey := do
  let elements ← (← element? bytes).sequence?
  match ← elements.mapM Element.natural? with
  | [version, modulus, exponent, d, p, q, _, _, _] =>
    if version = twoFactors then of? modulus exponent d p q else none
  | _ => none

end PrivateKey

end SealedTransfer.Rsa
