/-
# SealedTransfer.Hash.Hmac — message authentication with SHA-256

The tag of a message under a secret: the message is hashed behind the secret masked one way, and that
digest behind the secret masked another way. A secret longer than a block is hashed first, a shorter
one filled up with zeros.
-/
import SealedTransfer.Hash.Sha256

namespace SealedTransfer.Hash.Hmac

/-- The block length of the underlying hash. -/
def blockLength : Nat := 64

/-- A secret brought to the length of a block. -/
def blockKey (secret : Bytes) : Bytes :=
  let key := if secret.length ≤ blockLength then secret else Sha256.digest secret
  key ++ Bytes.zeros (blockLength - key.length)

/-- The tag of a message under a secret. -/
def tag (secret message : Bytes) : Bytes :=
  let key := blockKey secret
  let inner := Sha256.digest (key.map (· ^^^ 0x36) ++ message)
  Sha256.digest (key.map (· ^^^ 0x5C) ++ inner)

/-- A tag has thirty-two octets. -/
@[simp] theorem length_tag (secret message : Bytes) : (tag secret message).length = 32 := by
  simp [tag]

end SealedTransfer.Hash.Hmac
