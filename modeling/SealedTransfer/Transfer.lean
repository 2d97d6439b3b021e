/-
# SealedTransfer.Transfer — from payload to message and back

The usual ways through an envelope in one go: closing it around a payload, opening a message, and
refusing with a message that answers none. What each party keeps of an envelope is the message or the
payload; the envelope itself is gone.
-/
import SealedTransfer.Envelope.Reply
import SealedTransfer.Envelope.Transitions

namespace SealedTransfer.Transfer

/-- A step as a drawing: the envelope after it, if it succeeds. -/
def advance (transition : Transition) (envelope : Envelope) : Drawing Failure Envelope :=
  ExceptT.mk fun entropy =>
    let step := envelope.take transition entropy
    (step.outcome.map fun _ => step.envelope, step.entropy)

/-- The message of a clear envelope after it is encrypted and sealed. -/
def closeEnvelope (envelope : Envelope) : Drawing Failure Message := do
  let unsealed ← advance .encryption envelope
  let sealed ← advance .sealing unsealed
  return sealed.message

/-- The sealed message of a complete payload. The options say for whom it is sealed. -/
def sealPayload (occasion : Occasion) (payload : Payload) (options : Options) :
    Drawing Failure Message := do
  let envelope ← Envelope.faulting (Envelope.create occasion payload options)
  Envelope.faulting (Drawing.ofExcept envelope.validatePayload)
  closeEnvelope envelope

/-- A message with nothing but a rejection is its own outcome. -/
def surfaceRejection (envelope : Envelope) : Except Failure Unit :=
  if envelope.state = .error then
    match envelope.rejection? with
    | some rejection => .error (.rejected rejection)
    | none => .ok ()
  else .ok ()

/-- An envelope that is unsealed, if it was sealed. -/
def unsealIfSealed (envelope : Envelope) : Drawing Failure Envelope :=
  if envelope.state.payload = .sealed then advance .unsealing envelope else pure envelope

/-- The payload of an envelope around a message. -/
def openEnvelope (envelope : Envelope) : Drawing Failure Payload := do
  Drawing.ofExcept (surfaceRejection envelope)
  let unsealed ← unsealIfSealed envelope
  let clear ← advance .decryption unsealed
  Envelope.faulting (Drawing.ofExcept clear.clearPayload)

/-- The payload of a message, unsealed first if it is sealed. -/
def openPayload (message : Message) (options : Options) : Drawing Failure Payload := do
  let envelope ← Envelope.faulting (Envelope.wrap message options)
  openEnvelope envelope

/-- The message that carries a rejection and answers none. -/
def reject (occasion : Occasion) (rejection : Rejection) (options : Options) :
    Drawing Fault Message :=
  Message.reply occasion "" rejection options

end SealedTransfer.Transfer
