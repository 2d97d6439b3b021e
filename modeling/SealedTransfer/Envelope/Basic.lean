/-
# SealedTransfer.Envelope.Basic — a message with what it takes to open or close it

An envelope is a message in hand: beside it stand the readable payload, if there is one, the cipher of
that payload and the cipher of its secrets. As long as the payload is readable the envelope is clear,
whatever the message says; otherwise the message says where it stands.
-/
import SealedTransfer.Cipher.Payload
import SealedTransfer.Cipher.Seal
import SealedTransfer.Envelope.Status
import SealedTransfer.Message.Payload

namespace SealedTransfer

/-- A message with the payload and the ciphers that belong to it. -/
structure Envelope where
  message : Message
  payload : Option Payload
  cipher : Option PayloadCipher
  sealCipher : Option SealCipher
deriving DecidableEq

namespace Envelope

/-- A message by itself. -/
def ofMessage (message : Message) : Envelope := ⟨message, none, none, none⟩

/-- The state of an envelope. -/
def state (envelope : Envelope) : State :=
  match envelope.payload with
  | some _ => State.withErrorIf envelope.message.hasError ⟨.clear, false⟩
  | none => envelope.message.status

/-- Whether the envelope is in a state with a rejection. -/
def isError (envelope : Envelope) : Bool := envelope.state.hasError

/-- The rejection that the envelope carries, unless it says nothing. -/
def rejection? (envelope : Envelope) : Option Rejection := envelope.message.rejection?

/-- All that is shown of an envelope. -/
def describe (envelope : Envelope) : String :=
  "Envelope \x7b id: " ++ Text.quoted envelope.message.id ++ ", state: " ++ envelope.state.describe
    ++ ", .. \x7d"

end Envelope

/-! ## Payloads -/

/-- Checks that a payload is complete: both of its parts, when it was sent, and timestamps that can
be read. -/
def Payload.validate (payload : Payload) : Except Fault Unit :=
  if payload.identity.isNone then .error .noIdentity
  else if payload.transaction.isNone then .error .noTransaction
  else if payload.sentAt = "" then .error .noSentAt
  else if (Time.Instant.ofText? payload.sentAt).isNone then .error .malformedSentAt
  else if payload.receivedAt ≠ "" ∧ (Time.Instant.ofText? payload.receivedAt).isNone then
    .error .malformedReceivedAt
  else .ok ()

/-- The readable payload of an envelope. -/
def Envelope.clearPayload (envelope : Envelope) : Except Fault Payload :=
  match envelope.payload with
  | some payload => .ok payload
  | none => .error .noPayload

/-- Checks that an envelope has a complete payload. -/
def Envelope.validatePayload (envelope : Envelope) : Except Fault Unit := do
  let payload ← envelope.clearPayload
  payload.validate

end SealedTransfer
