/-
# SealedTransfer.Envelope.Reply — messages that carry a rejection

A rejection travels in a message of its own, without a payload. It keeps the name of the transfer that
it answers, unless the options name another. A rejection that says nothing is not sent.
-/
import SealedTransfer.Envelope.Options

namespace SealedTransfer

namespace Message

/-- The message that carries a rejection. -/
def ofRejection (id : String) (now : Time.Instant) (rejection : Rejection) : Message :=
  { empty with id, timestamp := now.text, error := some rejection }

/-- The message with the given name, if it has none. -/
def withIdUnlessNamed (id : String) (message : Message) : Message :=
  if message.id = "" then { message with id } else message

/-- The message that answers the transfer of the given name with a rejection. -/
def reply (occasion : Occasion) (id : String) (rejection : Rejection) (options : Options) :
    Drawing Fault Message := do
  if rejection.isZero then throw .emptyRejection
  let envelope ← Envelope.wrap (ofRejection id occasion.now rejection) options
  let message := envelope.message.withIdUnlessNamed occasion.freshId.text
  Drawing.ofExcept message.validate
  return message

end Message

/-- The message that answers an envelope with a rejection. -/
def Envelope.reject (envelope : Envelope) (occasion : Occasion) (rejection : Rejection)
    (options : Options) : Drawing Fault Message :=
  Message.reply occasion envelope.message.id rejection options

end SealedTransfer
