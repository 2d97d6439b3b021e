/-
# SealedTransfer.Key.Received — keys of counterparties

The key of a counterparty is the message that it came in together with the public key found there. It
has no private half. The message is kept as it came and is what is stored.
-/
import SealedTransfer.Key.Exchanged
import SealedTransfer.Message.SigningKey

namespace SealedTransfer

/-- A key exchange message and the public key in it. -/
structure ReceivedKey where
  message : SigningKey
  publicKey : PublicKey
deriving DecidableEq

namespace ReceivedKey

/-- The key of a message. -/
def ofMessage (message : SigningKey) : Except Fault ReceivedKey := do
  let publicKey ← KeyData.publicKey message.data
  return ⟨message, publicKey⟩

/-- The name of the key's algorithm: the message's word for it, or else the key's own. -/
def algorithm (key : ReceivedKey) : String :=
  if key.message.publicKeyAlgorithm = "" then key.publicKey.algorithm
  else key.message.publicKeyAlgorithm

/-- The stored form of a key. -/
def stored (key : ReceivedKey) : Bytes := key.message.stored

/-- The key of a stored form. -/
def ofStored (data : Bytes) : Except Fault ReceivedKey :=
  match SigningKey.ofStored? data with
  | some message => ofMessage message
  | none => .error .malformedData

end ReceivedKey

end SealedTransfer
