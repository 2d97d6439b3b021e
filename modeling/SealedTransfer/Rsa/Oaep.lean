/-
# SealedTransfer.Rsa.Oaep — encryption with optimal asymmetric padding

A message is padded to the length of the modulus: the digest of the empty label, zeros, a one and the
message, masked by a random seed; then the seed, masked by all that. Taking the padding off gives the
message back or nothing.
-/
import SealedTransfer.Rsa.Key
import SealedTransfer.Rsa.Mask

namespace SealedTransfer.Rsa.Oaep

/-- The digest of the empty label. -/
def labelDigest : Bytes := Hash.Sha512.digest []

/-- Whether a message fits into a padding of `size` octets. -/
def fits (size length : Nat) : Bool := length + 2 * digestLength + 2 ≤ size

/-! ## Padding -/

/-- What is masked by the seed: label digest, zeros, a one, message. -/
def dataBlock (size : Nat) (message : Bytes) : Bytes :=
  labelDigest ++ Bytes.zeros (size - message.length - 2 * digestLength - 2) ++ 1 :: message

/-- A message padded to `size` octets with the given seed. -/
def pad (size : Nat) (seed message : Bytes) : Bytes :=
  let data := dataBlock size message
  let maskedData := Bytes.xor data (mask seed data.length)
  0 :: Bytes.xor seed (mask maskedData digestLength) ++ maskedData

/-- The message behind the zeros and the one. -/
def afterZeros : Bytes → Option Bytes
  | [] => none
  | b :: rest => if b = 0 then afterZeros rest else if b = 1 then some rest else none

/-- The message of a padded one. -/
def unpad? (padded : Bytes) : Option Bytes :=
  match padded with
  | [] => none
  | first :: payload =>
    let maskedData := payload.drop digestLength
    let seed := Bytes.xor (payload.take digestLength) (mask maskedData digestLength)
    let data := Bytes.xor maskedData (mask seed maskedData.length)
    if first = 0 ∧ data.take digestLength = labelDigest then afterZeros (data.drop digestLength)
    else none

/-! ## Encryption -/

/-- The ciphertext of a message that fits, under a seed. -/
def encrypt (key : PublicKey) (seed message : Bytes) : Bytes :=
  Bytes.ofNat key.size (key.apply (Bytes.toNat (pad key.size seed message)))

/-- A ciphertext has the length of the modulus. -/
@[simp] theorem length_encrypt (key : PublicKey) (seed message : Bytes) :
    (encrypt key seed message).length = key.size := by
  simp [encrypt]

/-- The message of a ciphertext. -/
def decrypt? (key : PrivateKey) (ciphertext : Bytes) : Option Bytes :=
  let size := key.publicHalf.size
  if ciphertext.length = size ∧ 2 * digestLength + 2 ≤ size then
    match key.invert? (Bytes.toNat ciphertext) with
    | some padded => unpad? (Bytes.ofNat size padded)
    | none => none
  else none

end SealedTransfer.Rsa.Oaep
