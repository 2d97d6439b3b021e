/-
# SealedTransfer.Fault — what can go wrong

Two kinds of failure are kept apart. A fault stays with the party that meets it: bad input, a key that
cannot be used, a message that is not in the right state. A rejection is meant for the sender of an
envelope. The texts say what failed and show nothing of keys or payloads.
-/
import SealedTransfer.Envelope.State
import SealedTransfer.Message.Rejection

namespace SealedTransfer

/-- A local cause of failure. -/
inductive Fault where
  /-- There is no authentication tag for nothing. -/
  | emptyData
  /-- A ciphertext is too short to end in a nonce. -/
  | missingCiphertext
  /-- An authentication tag is not the data's. -/
  | tagMismatch
  /-- A signature is not the data's. -/
  | signatureMismatch
  /-- Decrypting and signing take a private key. -/
  | privateKeyRequired
  /-- The payload cipher has no use for a key of this many octets. -/
  | unusableKeyLength (octets : Nat)
  /-- A private key is not the certificate's. -/
  | keyMismatch
  /-- Keys of this algorithm, or blocks with this tag, cannot be used. -/
  | unsupportedKey (algorithm : String)
  | encryptionFailed
  | decryptionFailed
  | signingFailed
  /-- The random source has run dry. -/
  | randomnessFailed
  /-- A key has no private half. -/
  | noPrivateKey
  /-- There is no certificate in a chain. -/
  | noCertificate
  /-- There are several private keys in a chain. -/
  | severalPrivateKeys
  /-- There are several public keys where one is expected. -/
  | severalPublicKeys
  /-- There are both certificates and public keys. -/
  | ambiguousKeyData
  /-- Key data is in none of the known forms. -/
  | unknownKeyForm
  /-- A certificate or a chain cannot be read. -/
  | malformedCertificate
  /-- A key cannot be read or written; a private key is read from a block with a tag. -/
  | malformedKey (block : Option String)
  /-- A fingerprint names an unknown hash. -/
  | unknownFingerprintHash
  /-- A fingerprint does not have two parts. -/
  | fingerprintShape
  /-- The sum of a fingerprint is not base64. -/
  | fingerprintSum
  /-- A message has no name. -/
  | noId
  /-- A message with a payload has no timestamp. -/
  | noTimestamp
  /-- A message has neither payload nor rejection. -/
  | noContent
  /-- A message with a payload lacks its key or the algorithm. -/
  | noEncryptionInfo
  /-- A message with a payload lacks its tag, the secret or the algorithm. -/
  | noHmacInfo
  /-- There is no readable payload. -/
  | noPayload
  | noIdentity
  | noTransaction
  | noSentAt
  | malformedSentAt
  | malformedReceivedAt
  /-- A rejection says nothing. -/
  | emptyRejection
  /-- There is no key to seal with. -/
  | noSealingKey
  /-- There is no key to unseal with. -/
  | noUnsealingKey
  /-- A transition does not start in this state. -/
  | invalidState (expected actual : State)
  /-- Stored or encoded data cannot be read. -/
  | malformedData
deriving DecidableEq, Repr

namespace Fault

/-- A fault as a line of text. -/
def message : Fault → String
  | .emptyData => "cannot sign empty data"
  | .missingCiphertext => "empty cipher text"
  | .tagMismatch => "hmac signature mismatch"
  | .signatureMismatch => "signature verification failed"
  | .privateKeyRequired => "private key required for decryption"
  | .unusableKeyLength octets => "invalid key: " ++ Text.decimal octets ++ " byte AES key"
  | .keyMismatch => "invalid key: private key does not match certificate"
  | .unsupportedKey algorithm => "unsupported key type: " ++ algorithm
  | .encryptionFailed => "encryption failed"
  | .decryptionFailed => "decryption failed"
  | .signingFailed => "signing failed"
  | .randomnessFailed => "randomness source failed"
  | .noPrivateKey => "no private unsealing key available"
  | .noCertificate => "no certificates found in PEM encoded data"
  | .severalPrivateKeys => "too many private keys found in PEM encoded data"
  | .severalPublicKeys => "too many public key blocks found in PEM encoded data"
  | .ambiguousKeyData =>
    "ambiguous key exchange data: both certificates and public keys found"
  | .unknownKeyForm =>
    "could not parse key exchange data with known key serialization methods"
  | .malformedCertificate => "could not parse certificate: ..."
  | .malformedKey none => "could not parse key: ..."
  | .malformedKey (some block) => "could not parse key: " ++ block ++ ": ..."
  | .unknownFingerprintHash => "unknown signature hash algorithm"
  | .fingerprintShape => "could not parse public key signature: expected ALG:base64"
  | .fingerprintSum => "could not parse public key signature: invalid base64 hash sum"
  | .noId => "invalid envelope: no envelope id"
  | .noTimestamp => "invalid envelope: no ordering timestamp"
  | .noContent => "invalid envelope: must contain either error or payload"
  | .noEncryptionInfo => "invalid envelope: missing encryption key or algorithm"
  | .noHmacInfo => "invalid envelope: missing hmac signature, secret, or algorithm"
  | .noPayload => "invalid payload: payload has not been decrypted or is missing"
  | .noIdentity => "invalid payload: payload does not contain identity data"
  | .noTransaction => "invalid payload: payload does not contain transaction data"
  | .noSentAt => "invalid payload: sent at timestamp is missing"
  | .malformedSentAt => "invalid payload: could not parse sent at timestamp in RFC3339 format"
  | .malformedReceivedAt =>
    "invalid payload: could not parse received at timestamp in RFC3339 format"
  | .emptyRejection => "invalid rejection: missing error code and message"
  | .noSealingKey =>
    "cannot seal envelope: no public key cryptographic handler available"
  | .noUnsealingKey =>
    "cannot unseal envelope: no private key cryptographic handler available"
  | .invalidState expected actual =>
    "envelope is in the " ++ actual.name ++ " state, expected " ++ expected.name
  | .malformedData => "serialization error: ..."

end Fault

/-- A failure: a rejection for the sender of an envelope, or a fault that stays local. -/
inductive Failure where
  | rejected (rejection : Rejection)
  | fault (cause : Fault)
deriving DecidableEq, Repr

namespace Failure

/-- A failure as a line of text. -/
def message : Failure → String
  | .rejected rejection => "rejected: " ++ rejection.text
  | .fault cause => cause.message

end Failure

/-! ## Results -/

/-- Two computations in a row succeed if both do. -/
theorem bind_eq_ok {ε α β : Type} {first : Except ε α} {next : α → Except ε β} {b : β} :
    (first >>= next) = .ok b ↔ ∃ a, first = .ok a ∧ next a = .ok b := by
  cases first with
  | ok a =>
    constructor
    · intro h
      exact ⟨a, rfl, h⟩
    · rintro ⟨_, same, h⟩
      cases same
      exact h
  | error e =>
    constructor
    · intro h
      cases h
    · rintro ⟨_, same, _⟩
      cases same

/-- Two computations in a row fail as the first that does. -/
theorem bind_eq_error {ε α β : Type} {first : Except ε α} {next : α → Except ε β} {e : ε} :
    (first >>= next) = .error e ↔ first = .error e ∨ ∃ a, first = .ok a ∧ next a = .error e := by
  cases first with
  | ok a =>
    constructor
    · intro h
      exact .inr ⟨a, rfl, h⟩
    · rintro (h | ⟨_, same, h⟩)
      · cases h
      · cases same
        exact h
  | error e' =>
    constructor
    · intro h
      cases h
      exact .inl rfl
    · rintro (h | ⟨_, same, _⟩)
      · cases h
        rfl
      · cases same

end SealedTransfer
