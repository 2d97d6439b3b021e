/-
# SealedTransfer.Envelope.Status — what a message says by itself

A message is well formed if it has a name and either a rejection or a payload with all that protects it.
What state it is in can be told from its fields alone. The checks go in a fixed order, and the first that
fails is reported.
-/
import SealedTransfer.Fault
import SealedTransfer.Message.Basic
import SealedTransfer.Time.Rfc3339

namespace SealedTransfer.Message

/-- Checks that a message has what every message has, and what its payload needs. -/
def validate (message : Message) : Except Fault Unit :=
  if message.id = "" then .error .noId
  else if message.payload = [] then
    if message.hasError then .ok () else .error .noContent
  else if message.timestamp = "" then .error .noTimestamp
  else if message.encryptionKey = [] ∨ message.encryptionAlgorithm = "" then
    .error .noEncryptionInfo
  else if message.hmac = [] ∨ message.hmacSecret = [] ∨ message.hmacAlgorithm = "" then
    .error .noHmacInfo
  else .ok ()

/-- How far the payload of a well formed message is protected. -/
def protection (message : Message) : PayloadState :=
  if message.payload = [] then .unknown
  else if message.isSealed then .sealed
  else .unsealed

/-- The state that a message is in. -/
def status (message : Message) : State :=
  if message = .empty then .unknown
  else match message.validate with
    | .error _ => .corrupted
    | .ok () => State.withErrorIf message.hasError ⟨message.protection, false⟩

/-- The rejection that a message carries, and whether it is in a state with one. -/
def check (message : Message) : Option Rejection × Bool :=
  (message.rejection?, message.status.hasError)

/-- The instant that orders a message among others, or the rejection of a message without one. -/
def instant (message : Message) : Except Rejection Time.Instant :=
  if message.timestamp = "" then
    .error (.final .badRequest "missing ordering timestamp on secure envelope")
  else match Time.Instant.ofText? message.timestamp with
    | some instant => .ok instant
    | none => .error (.final .badRequest
        "could not parse ordering timestamp on secure envelope as RFC3339 timestamp")

end SealedTransfer.Message
