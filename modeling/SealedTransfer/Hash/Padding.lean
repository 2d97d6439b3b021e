/-
# SealedTransfer.Hash.Padding — messages filled up to whole blocks

The hash functions read a message in blocks. A message is followed by one set bit, as many zero
octets as it takes, and its own length in bits, so that the last block is full.
-/
import SealedTransfer.Bytes

namespace SealedTransfer.Hash

/-- The set bit and the zero octets after a message of `length` octets, before a length field of
`field` octets, in blocks of `block` octets. -/
def filler (block field length : Nat) : Bytes :=
  0x80 :: Bytes.zeros ((block - (length + 1 + field) % block) % block)

/-- A padded message whose length stands most significant octet first. -/
def paddedBig (block field : Nat) (message : Bytes) : Bytes :=
  message ++ filler block field message.length ++ Bytes.ofNat field (8 * message.length)

/-- A padded message whose length stands least significant octet first. -/
def paddedLittle (block field : Nat) (message : Bytes) : Bytes :=
  message ++ filler block field message.length ++ Bytes.ofLittleNat field (8 * message.length)

end SealedTransfer.Hash
