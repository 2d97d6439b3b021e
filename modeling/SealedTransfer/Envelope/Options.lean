/-
# SealedTransfer.Envelope.Options — settings for new and received envelopes

Settings fall into four slots: the name, the timestamp, the cipher of the payload and the cipher of the
secrets. They are collected first, and a later one replaces an earlier one in the same slot. Only what is
left is turned into ciphers, when the envelope is made: an unusable key that was replaced does no harm,
and no key is drawn that is not needed.
-/
import SealedTransfer.Envelope.Basic
import SealedTransfer.Key.Any
import SealedTransfer.Uuid

namespace SealedTransfer

/-- A payload cipher as it was chosen: ready made, or a key and a secret for one. -/
inductive CipherChoice where
  | ready (cipher : PayloadCipher)
  | keys (key secret : Bytes)

/-- A cipher of secrets as it was chosen: ready made, or a key for one. -/
inductive SealChoice where
  | ready (cipher : SealCipher)
  | sealing (key : PublicKey)
  | unsealing (key : PrivateKey)

namespace CipherChoice

/-- The chosen cipher. An empty key is drawn. -/
def cipher : CipherChoice → Drawing Fault PayloadCipher
  | .ready cipher => pure cipher
  | .keys key secret => PayloadCipher.make key secret

end CipherChoice

namespace SealChoice

/-- The chosen cipher, or the fault that the key is of no use. -/
def cipher : SealChoice → Except Fault SealCipher
  | .ready cipher => .ok cipher
  | .sealing key => SealCipher.ofPublic key
  | .unsealing key => SealCipher.ofPrivate key

/-- The choice for a key: unsealing if it has a private half, else sealing. -/
def ofKey (key : AnyKey) : SealChoice :=
  match key.privateKey? with
  | some privateKey => .unsealing privateKey
  | none => .sealing key.sealingKey

end SealChoice

/-- A setting. -/
inductive Setting where
  | id (id : String)
  | timestamp (instant : Time.Instant)
  /-- The name and, if it has one, the payload cipher of another envelope. -/
  | inReplyTo (envelope : Envelope)
  | cipher (cipher : PayloadCipher)
  | cipherKeys (key secret : Bytes)
  | sealCipher (cipher : SealCipher)
  | sealingKey (key : PublicKey)
  | unsealingKey (key : PrivateKey)
  /-- Unseal with the key if it has a private half, else seal for its owner. -/
  | key (key : AnyKey)

/-- What is set, by slot. -/
structure Options where
  id : Option String
  timestamp : Option Time.Instant
  cipher : Option CipherChoice
  sealCipher : Option SealChoice

namespace Options

/-- Nothing is set. -/
def none : Options := ⟨.none, .none, .none, .none⟩

/-- The options with a setting made. -/
def set (options : Options) : Setting → Options
  | .id id => { options with id := some id }
  | .timestamp instant => { options with timestamp := some instant }
  | .inReplyTo envelope =>
    { options with
      id := some envelope.message.id
      cipher := (envelope.cipher.map .ready).or options.cipher }
  | .cipher cipher => { options with cipher := some (.ready cipher) }
  | .cipherKeys key secret => { options with cipher := some (.keys key secret) }
  | .sealCipher cipher => { options with sealCipher := some (.ready cipher) }
  | .sealingKey key => { options with sealCipher := some (.sealing key) }
  | .unsealingKey key => { options with sealCipher := some (.unsealing key) }
  | .key key => { options with sealCipher := some (.ofKey key) }

/-- The options after settings made in order. -/
def ofSettings (settings : List Setting) : Options := settings.foldl set none

/-- The message with name and timestamp as set. -/
def applyToMessage (options : Options) (message : Message) : Message :=
  { message with
    id := options.id.getD message.id
    timestamp := (options.timestamp.map Time.Instant.text).getD message.timestamp }

/-- The ciphers that are chosen. -/
def ciphers (options : Options) : Drawing Fault (Option PayloadCipher × Option SealCipher) := do
  let cipher ← options.cipher.mapM CipherChoice.cipher
  let sealCipher ← Drawing.ofExcept (options.sealCipher.mapM SealChoice.cipher)
  return (cipher, sealCipher)

/-- The envelope with everything as set. -/
def apply (options : Options) (envelope : Envelope) : Drawing Fault Envelope := do
  let (cipher, sealCipher) ← options.ciphers
  return { envelope with
    message := options.applyToMessage envelope.message
    cipher := cipher.or envelope.cipher
    sealCipher := sealCipher.or envelope.sealCipher }

end Options

/-- When an envelope is made, and the name that it gets unless it is given one. -/
structure Occasion where
  freshId : Uuid
  now : Time.Instant

namespace Envelope

/-- A clear envelope with a payload. -/
def create (occasion : Occasion) (payload : Payload) (options : Options) : Drawing Fault Envelope :=
  options.apply
    { message := { Message.empty with
        id := occasion.freshId.text
        timestamp := occasion.now.text }
      payload := some payload
      cipher := none
      sealCipher := none }

/-- An envelope around a message. -/
def wrap (message : Message) (options : Options) : Drawing Fault Envelope :=
  options.apply (ofMessage message)

end Envelope

end SealedTransfer
