/-
# SealedTransfer.Message.SigningKey — public keys as they are exchanged

In a key exchange each party sends its public key with what its certificate says about it. The key
data may be in any of the forms that exchanged keys come in. A received message can be put into
storage; there its octets are base64 text and its length fields are plain numbers.
-/
import SealedTransfer.Storage
import SealedTransfer.Text.Base64

namespace SealedTransfer

/-- A public key as it is exchanged. -/
structure SigningKey where
  version : Int64
  signature : Bytes
  signatureAlgorithm : String
  publicKeyAlgorithm : String
  notBefore : String
  notAfter : String
  revoked : Bool
  data : Bytes
deriving DecidableEq, Repr

namespace SigningKey

/-- The message without any content. -/
def empty : SigningKey := ⟨0, [], "", "", "", "", false, []⟩

/-- Octets as stored: the text of their base64 form. -/
def storedBytes (bytes : Bytes) : Bytes :=
  Storage.textField (String.ofList (Text.Base64.encode bytes))

/-- The stored form of a message. -/
def stored (key : SigningKey) : Bytes :=
  Storage.intField key.version ++ storedBytes key.signature
    ++ Storage.textField key.signatureAlgorithm ++ Storage.textField key.publicKeyAlgorithm
    ++ Storage.textField key.notBefore ++ Storage.textField key.notAfter
    ++ Storage.boolField key.revoked ++ storedBytes key.data

/-- The next octets in stored form. -/
def takeStoredBytes : Storage.Reader Bytes := do
  let text ← Storage.takeText
  match Text.Base64.decode? text.toList with
  | some bytes => return bytes
  | none => failure

/-- The next message in stored form. -/
def takeStored : Storage.Reader SigningKey := do
  let version ← Storage.takeInt
  let signature ← takeStoredBytes
  let signatureAlgorithm ← Storage.takeText
  let publicKeyAlgorithm ← Storage.takeText
  let notBefore ← Storage.takeText
  let notAfter ← Storage.takeText
  let revoked ← Storage.takeBool
  let data ← takeStoredBytes
  return ⟨version, signature, signatureAlgorithm, publicKeyAlgorithm, notBefore, notAfter, revoked,
    data⟩

/-- The message at the front of a stored form. -/
def ofStored? (bytes : Bytes) : Option SigningKey := (takeStored.run bytes).map (·.1)

end SigningKey

end SealedTransfer
