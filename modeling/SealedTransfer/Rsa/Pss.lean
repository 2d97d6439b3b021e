/-
# SealedTransfer.Rsa.Pss — signatures with a probabilistic padding

A digest is signed as an encoded message one bit shorter than the modulus: zeros, a one and a salt,
masked by a digest of message digest and salt, which follows in the clear before a closing octet.
Checking takes the mask off once; for each length that the salt may have, it then compares what
precedes the salt and computes the digest again.
-/
import SealedTransfer.Rsa.Key
import SealedTransfer.Rsa.Mask

namespace SealedTransfer.Rsa.Pss

/-- The octets of an encoded message under a modulus of `bits` bits. -/
def encodedLength (bits : Nat) : Nat := (bits - 1 + 7) / 8

/-- How many leading bits of an encoded message are always zero. -/
def spareBits (bits : Nat) : Nat := 8 * encodedLength bits - (bits - 1)

/-- The longest salt, in octets, that a modulus of `bits` bits has room for. -/
def longestSalt (bits : Nat) : Nat := encodedLength bits - (digestLength + 2)

/-- The digest that binds a message digest to a salt. -/
def saltedDigest (digest salt : Bytes) : Bytes :=
  Hash.Sha512.digest (Bytes.zeros 8 ++ digest ++ salt)

/-- The octets with the given number of leading bits cleared in the first of them. -/
def clearBits (spare : Nat) : Bytes → Bytes
  | [] => []
  | b :: rest => UInt8.ofNat (b.toNat % (1 <<< (8 - spare))) :: rest

/-! ## Encoding -/

/-- What is masked: zeros, a one and the salt, `length` octets in all. -/
def dataBlock (length : Nat) (salt : Bytes) : Bytes :=
  Bytes.zeros (length - salt.length - 1) ++ 1 :: salt

/-- A digest and a salt as an encoded message under a modulus of `bits` bits, if there is room. -/
def encode? (bits : Nat) (digest salt : Bytes) : Option Bytes :=
  let length := encodedLength bits
  if digestLength + salt.length + 2 ≤ length then
    let bound := saltedDigest digest salt
    let data := dataBlock (length - digestLength - 1) salt
    let masked := clearBits (spareBits bits) (Bytes.xor data (mask bound data.length))
    some (masked ++ bound ++ [0xBC])
  else none

/-! ## Checking -/

/-- An encoded message with its mask taken off: what precedes and includes the salt, and the digest
that binds the salt. -/
structure Opened where
  data : Bytes
  bound : Bytes

/-- Takes the mask off an encoded message under a modulus of `bits` bits: its last octet closes it
and its spare bits are zero. -/
def open? (bits : Nat) (encoded : Bytes) : Option Opened :=
  let length := encodedLength bits
  let masked := encoded.take (length - digestLength - 1)
  let bound := (encoded.drop (length - digestLength - 1)).take digestLength
  if digestLength + 2 ≤ length ∧ encoded.getLast? = some 0xBC ∧
      clearBits (spareBits bits) masked = masked then
    some ⟨clearBits (spareBits bits) (Bytes.xor masked (mask bound masked.length)), bound⟩
  else none

/-- Whether an opened message holds a salt of the given length that binds the digest. -/
def Opened.holds (opened : Opened) (digest : Bytes) (saltLength : Nat) : Bool :=
  let zeros := opened.data.length - saltLength - 1
  saltLength + 1 ≤ opened.data.length
    && opened.data.take (zeros + 1) == Bytes.zeros zeros ++ [1]
    && saltedDigest digest (opened.data.drop (zeros + 1)) == opened.bound

/-! ## Signatures -/

/-- The signature of a digest with the given salt. -/
def sign? (key : PrivateKey) (digest salt : Bytes) : Option Bytes := do
  let encoded ← encode? key.publicHalf.bits digest salt
  let signature ← key.invert? (Bytes.toNat encoded)
  some (Bytes.ofNat key.publicHalf.size signature)

/-- What a signature of the right length signs, its mask taken off. Its value may exceed the modulus,
and an octet in front of the encoded message is not looked at. -/
def recover? (key : PublicKey) (signature : Bytes) : Option Opened :=
  if signature.length = key.size then
    let octets := Bytes.ofNat key.size (key.apply (Bytes.toNat signature))
    open? key.bits (octets.drop (key.size - encodedLength key.bits))
  else none

/-- Whether the signature signs the digest with a salt of the given length. -/
def verify (key : PublicKey) (digest signature : Bytes) (saltLength : Nat) : Bool :=
  match recover? key signature with
  | some opened => opened.holds digest saltLength
  | none => false

/-- Whether the signature signs the digest with a salt of one of the given lengths. -/
def verifyAny (key : PublicKey) (digest signature : Bytes) (saltLengths : List Nat) : Bool :=
  match recover? key signature with
  | some opened => saltLengths.any (opened.holds digest)
  | none => false

/-- One of the lengths suffices, and each is checked by itself. -/
theorem verifyAny_eq (key : PublicKey) (digest signature : Bytes) (saltLengths : List Nat) :
    verifyAny key digest signature saltLengths = saltLengths.any (verify key digest signature) := by
  unfold verifyAny
  cases h : recover? key signature with
  | some opened =>
    have each : verify key digest signature = opened.holds digest := by
      funext saltLength
      simp [verify, h]
    rw [each]
  | none =>
    have each : verify key digest signature = fun _ => false := by
      funext saltLength
      simp [verify, h]
    rw [each]
    simp

end SealedTransfer.Rsa.Pss
