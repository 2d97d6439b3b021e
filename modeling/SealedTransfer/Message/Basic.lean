/-
# SealedTransfer.Message.Basic — the message that travels

The unit of transfer: an encrypted payload, the names of the algorithms that protect it, the secrets
to open it (wrapped for the recipient once the message is sealed), an authentication tag, or instead
of all that a rejection. The message is the same in every state; which fields are filled in says what
state it is in.
-/
import SealedTransfer.Message.Rejection

namespace SealedTransfer

/-- The message that travels between two parties. -/
structure Message where
  /-- Names the transfer, the same in request and reply. -/
  id : String
  /-- The encrypted payload. -/
  payload : Bytes
  /-- The payload's key, wrapped once sealed. -/
  encryptionKey : Bytes
  encryptionAlgorithm : String
  /-- The authentication tag of the encrypted payload. -/
  hmac : Bytes
  /-- The tag's secret, wrapped once sealed. -/
  hmacSecret : Bytes
  hmacAlgorithm : String
  /-- A rejection of this transfer or of one before it. -/
  error : Option Rejection
  /-- Orders the messages of a transfer. -/
  timestamp : String
  /-- Whether key and secret are wrapped. -/
  isSealed : Bool
  /-- Fingerprint of the key that they are wrapped for. -/
  publicKeySignature : String
deriving DecidableEq, Repr

namespace Message

/-- The message without any content. -/
def empty : Message := ⟨"", [], [], "", [], [], "", none, "", false, ""⟩

/-- The rejection that a message carries, unless it says nothing. -/
def rejection? (message : Message) : Option Rejection :=
  message.error.filter fun rejection => !rejection.isZero

/-- Whether a message carries a rejection that says something. -/
def hasError (message : Message) : Bool := message.rejection?.isSome

end Message

end SealedTransfer
