/-
# SealedTransfer.Key.Any — keys of either source

A key that seals for its owner comes from a certificate of one's own or from a counterparty. What can be
asked of it is the same for both.
-/
import SealedTransfer.Key.Certified
import SealedTransfer.Key.Fingerprint
import SealedTransfer.Key.Received

namespace SealedTransfer

/-- A key of one's own or of a counterparty. -/
inductive AnyKey where
  | certified (key : CertifiedKey)
  | received (key : ReceivedKey)

namespace AnyKey

/-- The key that seals for the owner. -/
def sealingKey : AnyKey → PublicKey
  | .certified key => key.publicKey
  | .received key => key.publicKey

/-- The private key, if there is one. -/
def privateKey? : AnyKey → Option PrivateKey
  | .certified key => key.privateKey
  | .received _ => none

/-- Whether there is a private key. -/
def isPrivate (key : AnyKey) : Bool := key.privateKey?.isSome

/-- The key that unseals what is sealed for the owner. -/
def unsealingKey (key : AnyKey) : Except Fault PrivateKey :=
  match key.privateKey? with
  | some privateKey => .ok privateKey
  | none => .error .noPrivateKey

/-- The message that tells others of the key. -/
def signingKey : AnyKey → SigningKey
  | .certified key => key.signingKey
  | .received key => key.message

/-- The name of the key's algorithm. -/
def algorithm : AnyKey → String
  | .certified key => key.algorithm
  | .received key => key.algorithm

/-- The text that names the key in messages. -/
def fingerprint (key : AnyKey) : String := key.sealingKey.fingerprint

/-! ## Storage -/

/-- The mark of a stored certified key. -/
def certifiedMark : Nat := 0

/-- The mark of a stored received key. -/
def receivedMark : Nat := 1

/-- The stored form of a key without its mark. -/
def storedInner : AnyKey → Except Fault Bytes
  | .certified key => key.stored
  | .received key => .ok key.stored

/-- The mark of a key. -/
def mark : AnyKey → Nat
  | .certified _ => certifiedMark
  | .received _ => receivedMark

/-- The stored form of a key: the mark of its source and its own stored form. -/
def stored (key : AnyKey) : Except Fault Bytes := do
  let inner ← key.storedInner
  return Storage.natField 4 key.mark ++ Storage.bytesField inner

/-- The mark and the inner form of a stored key. A mark that is not known is refused. -/
def takeStored : Storage.Reader (Nat × Bytes) := do
  let mark ← Storage.takeNat 4
  let inner ← Storage.takeBytes
  if mark = certifiedMark ∨ mark = receivedMark then return (mark, inner) else failure

/-- The key of a stored form. -/
def ofStored (data : Bytes) : Except Fault AnyKey :=
  match takeStored.run data with
  | some ((mark, inner), _) =>
    if mark = certifiedMark then (CertifiedKey.ofStored inner).map .certified
    else (ReceivedKey.ofStored inner).map .received
  | none => .error .malformedData

end AnyKey

end SealedTransfer
