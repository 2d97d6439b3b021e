/-
# SealedTransfer.Envelope.Transitions — encrypting, sealing, unsealing, decrypting

Sending takes an envelope from clear by encryption to unsealed and by sealing to sealed; receiving goes
the other way. Each transition starts in one state only. What the sender of an envelope can mend comes
back as a rejection, all else is a fault. Each is a change of the envelope in hand, and none takes anything
back when it fails: all that can fail comes before the first assignment to the message. The one thing that is
kept of a failure is the payload cipher that an encryption has drawn.
-/
import SealedTransfer.Envelope.Change

namespace SealedTransfer

/-- A step that an envelope can take. -/
inductive Transition where
  /-- Clear to unsealed: encrypts and authenticates the payload. -/
  | encryption
  /-- Unsealed to sealed: wraps the secrets for a recipient. -/
  | sealing
  /-- Sealed to unsealed: unwraps the secrets. -/
  | unsealing
  /-- Unsealed to clear: checks and decrypts the payload. -/
  | decryption
deriving DecidableEq, Repr

namespace Transition

/-- The state that a transition starts in. -/
def source : Transition → PayloadState
  | .encryption => .clear
  | .sealing => .unsealed
  | .unsealing => .sealed
  | .decryption => .unsealed

/-- The state that a transition leads to. -/
def target : Transition → PayloadState
  | .encryption => .unsealed
  | .sealing => .sealed
  | .unsealing => .unsealed
  | .decryption => .clear

end Transition

/-! ## What is rejected -/

/-- A final rejection. -/
def Failure.reject (code : Rejection.Code) (message : String) : Failure :=
  .rejected (.final code message)

namespace Message

/-- Checks that the algorithms of a message are supported. -/
def checkAlgorithms (message : Message) : Except Failure Unit :=
  if !(PayloadCipher.algorithms.any (·.1 = message.encryptionAlgorithm)) then
    .error (.reject .unhandledAlgorithm
      ("unsupported encryption algorithm " ++ Text.quoted message.encryptionAlgorithm))
  else if message.hmacAlgorithm ≠ PayloadCipher.hmacAlgorithm then
    .error (.reject .unhandledAlgorithm
      ("unsupported hmac algorithm " ++ Text.quoted message.hmacAlgorithm))
  else .ok ()

/-- The length that a message's key should have, if its algorithm says so. -/
def expectedKeyLength? (message : Message) : Option Nat :=
  (PayloadCipher.algorithms.lookup message.encryptionAlgorithm).join

/-- Checks that the key of a message has the length that its algorithm asks for. -/
def checkKeyLength (message : Message) : Except Failure Unit :=
  if message.expectedKeyLength?.all (· = message.encryptionKey.length) then .ok ()
  else .error (.reject .invalidKey
    (Text.decimal message.encryptionKey.length ++ " byte encryption key does not match "
      ++ message.encryptionAlgorithm))

/-- Why a message is corrupted. -/
def corruption (message : Message) : String :=
  match message.validate with
  | .error fault => fault.message
  | .ok () => "invalid secure envelope"

end Message

namespace Envelope

/-- Checks that a transition may start: a corrupted message is rejected, another state is a fault. -/
def expectState (expected : PayloadState) (envelope : Envelope) : Except Failure Unit :=
  let actual := envelope.state
  if actual.isCorrupted then .error (.reject .badRequest envelope.message.corruption)
  else if actual.payload ≠ expected then
    .error (.fault (.invalidState ⟨expected, actual.hasError⟩ actual))
  else .ok ()

end Envelope

/-! ## Encryption -/

namespace Change

/-- The cipher to encrypt with. One is drawn unless there is one, and it is kept at once. -/
def chooseCipher : Change PayloadCipher := do
  match (← current).cipher with
  | some cipher => return cipher
  | none =>
    let cipher ← draw (Envelope.faulting PayloadCipher.generate)
    assign fun envelope => { envelope with cipher := some cipher }
    return cipher

/-- Encrypts and authenticates a payload into the message. -/
def protection (payload : Payload) (cipher : PayloadCipher) : Change Unit := do
  let ciphertext ← draw (Envelope.faulting (cipher.encrypt payload.encode))
  let tag ← draw (Envelope.faulting (Drawing.ofExcept (cipher.sign ciphertext)))
  assignMessage fun message => { message with payload := ciphertext }
  assignMessage fun message => { message with encryptionKey := cipher.key }
  assignMessage fun message => { message with encryptionAlgorithm := cipher.encryptionAlgorithm }
  assignMessage fun message => { message with hmac := tag }
  assignMessage fun message => { message with hmacSecret := cipher.secret }
  assignMessage fun message => { message with hmacAlgorithm := PayloadCipher.hmacAlgorithm }
  assignMessage fun message => { message with isSealed := false }
  assignMessage fun message => { message with publicKeySignature := "" }
  assign fun envelope => { envelope with payload := none }

/-- Encrypts the payload. A cipher drawn for it is kept even if the encryption fails. -/
def encryption : Change Unit := do
  check ((← current).expectState Transition.encryption.source)
  let payload ← draw (Envelope.faulting (Drawing.ofExcept (← current).clearPayload))
  let cipher ← chooseCipher
  protection payload cipher

end Change

/-! ## Sealing and unsealing -/

namespace Envelope

/-- The cipher of secrets, or the fault that there is none. -/
def chosenSeal (envelope : Envelope) (missing : Fault) : Except Failure SealCipher :=
  match envelope.sealCipher with
  | some cipher => .ok cipher
  | none => .error (.fault missing)

/-- Unwraps a secret. A secret that was wrapped for another key is worth another attempt, since the
sender may have used a key that is out of date; without a private key nothing can be said. -/
def unwrap (cipher : SealCipher) (secret : Bytes) (complaint : String) : Except Failure Bytes :=
  match cipher.decrypt secret with
  | .ok unwrapped => .ok unwrapped
  | .error .privateKeyRequired => .error (.fault .privateKeyRequired)
  | .error _ => .error (.rejected (Rejection.final .invalidKey complaint).withRetry)

end Envelope

namespace Change

/-- Wraps the secrets for a recipient. -/
def sealing : Change Unit := do
  check ((← current).expectState Transition.sealing.source)
  let cipher ← check ((← current).chosenSeal .noSealingKey)
  let key ← draw (Envelope.faulting (cipher.encrypt (← current).message.encryptionKey))
  let secret ← draw (Envelope.faulting (cipher.encrypt (← current).message.hmacSecret))
  let signature := cipher.fingerprint
  assignMessage fun message => { message with encryptionKey := key }
  assignMessage fun message => { message with hmacSecret := secret }
  assignMessage fun message => { message with isSealed := true }
  assignMessage fun message => { message with publicKeySignature := signature }

/-- Unwraps the secrets. -/
def unsealing : Change Unit := do
  check ((← current).expectState Transition.unsealing.source)
  check (← current).message.checkAlgorithms
  let cipher ← check ((← current).chosenSeal .noUnsealingKey)
  let key ← check (Envelope.unwrap cipher (← current).message.encryptionKey
    "encryption key signed incorrectly")
  let secret ← check (Envelope.unwrap cipher (← current).message.hmacSecret
    "hmac secret signed incorrectly")
  assignMessage fun message => { message with encryptionKey := key }
  assignMessage fun message => { message with hmacSecret := secret }
  assignMessage fun message => { message with isSealed := false }
  assignMessage fun message => { message with publicKeySignature := "" }

end Change

/-! ## Decryption -/

/-- The payload that a message holds under a cipher, checked before it is decrypted. -/
def Envelope.openPayload (message : Message) (cipher : PayloadCipher) : Except Failure Payload :=
  match cipher.verify message.payload message.hmac with
  | .error _ => .error (.reject .invalidSignature "could not verify hmac signature")
  | .ok () =>
    match cipher.decrypt message.payload with
    | .error _ =>
      .error (.reject .invalidKey "could not decrypt payload with the encryption key")
    | .ok text =>
      match Payload.decode? text with
      | none => .error (.reject .envelopeDecodeFail "could not unmarshal payload")
      | some payload => .ok payload

/-- Checks and decrypts the payload. -/
def Change.decryption : Change Unit := do
  check ((← current).expectState Transition.decryption.source)
  check (← current).message.checkAlgorithms
  check (← current).message.checkKeyLength
  let message := (← current).message
  let cipher ← draw
    (Envelope.faulting (PayloadCipher.make message.encryptionKey message.hmacSecret))
  let payload ← check (Envelope.openPayload (← current).message cipher)
  assign fun envelope => { envelope with payload := some payload }
  assign fun envelope => { envelope with cipher := some cipher }

/-! ## Steps -/

namespace Envelope

/-- Encrypts the payload. -/
def encrypt : Envelope → Entropy → Step := Change.encryption.step

/-- Wraps the secrets. -/
def sealSecrets : Envelope → Entropy → Step := Change.sealing.step

/-- Unwraps the secrets. -/
def unsealSecrets : Envelope → Entropy → Step := Change.unsealing.step

/-- Checks and decrypts the payload. -/
def decrypt : Envelope → Entropy → Step := Change.decryption.step

/-- Takes a step. -/
def take (envelope : Envelope) : Transition → Entropy → Step
  | .encryption => envelope.encrypt
  | .sealing => envelope.sealSecrets
  | .unsealing => envelope.unsealSecrets
  | .decryption => envelope.decrypt

end Envelope

end SealedTransfer
