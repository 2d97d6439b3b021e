/-
# SealedTransfer.Cipher.Payload — the cipher of payloads

Payloads are encrypted with AES-GCM under a key of sixteen, twenty-four or thirty-two octets and
authenticated with HMAC-SHA256 under a secret. A ciphertext ends in its nonce, which is drawn anew for
each. Keys of other lengths can be held and named, but not used. A cipher is never without a key or
without a secret.
-/
import SealedTransfer.Aes.Gcm
import SealedTransfer.Entropy
import SealedTransfer.Fault
import SealedTransfer.Hash.Hmac
import SealedTransfer.Text.Quoted

namespace SealedTransfer

/-- A key for encryption and a secret for authentication. -/
structure PayloadCipher where
  key : Bytes
  secret : Bytes
  key_ne_nil : key ≠ []
  secret_ne_nil : secret ≠ []
deriving DecidableEq, Repr

namespace PayloadCipher

/-- The length of a generated key. -/
def generatedLength : Nat := 32

/-- A cipher with a given key. Without a secret the key serves as one. -/
def ofKey (key secret : Bytes) (given : key ≠ []) : PayloadCipher where
  key := key
  secret := if secret = [] then key else secret
  key_ne_nil := given
  secret_ne_nil := by split <;> assumption

/-- A cipher with the given key and secret. Without a key one is drawn. -/
def make (key secret : Bytes) : Drawing Fault PayloadCipher :=
  if given : key ≠ [] then pure (ofKey key secret given)
  else do
    let drawn ← Drawing.exactly generatedLength .randomnessFailed
    return ofKey drawn.val secret (List.ne_nil_of_length_pos (by rw [drawn.property]; decide))

/-- A cipher with a new key that is its secret as well. -/
def generate : Drawing Fault PayloadCipher := make [] []

/-! ## Names -/

/-- The name for keys of thirty-two octets. -/
def aes256 : String := "AES256-GCM"
/-- The name for keys of twenty-four octets. -/
def aes192 : String := "AES192-GCM"
/-- The name for keys of sixteen octets. -/
def aes128 : String := "AES128-GCM"
/-- The name that leaves the key's length open. -/
def aesAny : String := "AES-GCM"

/-- The names of the cipher and the key lengths that they stand for, if they do. -/
def algorithms : List (String × Option Nat) :=
  [(aes256, some 32), (aes192, some 24), (aes128, some 16), (aesAny, none)]

/-- The name of the cipher with a key of the given length. -/
def algorithmOfLength (length : Nat) : String :=
  if length = 32 then aes256 else if length = 24 then aes192 else if length = 16 then aes128 else aesAny

/-- The name of the cipher. -/
def encryptionAlgorithm (cipher : PayloadCipher) : String := algorithmOfLength cipher.key.length

/-- The name of the authentication. -/
def hmacAlgorithm : String := "HMAC-SHA256"

/-- All that is shown of a cipher. -/
def describe (cipher : PayloadCipher) : String :=
  "AesGcm \x7b algorithm: " ++ Text.quoted cipher.encryptionAlgorithm ++ ", .. \x7d"

/-! ## Encryption -/

/-- The key in use, or the fault that it cannot be used. -/
def usableKey (cipher : PayloadCipher) : Except Fault Aes.Key :=
  match Aes.Key.of? cipher.key with
  | some key => .ok key
  | none => .error (.unusableKeyLength cipher.key.length)

/-- The ciphertext of a text. The nonce is drawn before anything can go wrong with the key. -/
def encrypt (cipher : PayloadCipher) (text : Bytes) : Drawing Fault Bytes := do
  let nonce ← Drawing.octets Aes.Gcm.nonceLength .randomnessFailed
  let key ← Drawing.ofExcept cipher.usableKey
  return Aes.Gcm.encrypt key nonce text ++ nonce

/-- The text of a ciphertext. -/
def decrypt (cipher : PayloadCipher) (ciphertext : Bytes) : Except Fault Bytes :=
  if ciphertext.length < Aes.Gcm.nonceLength then .error .missingCiphertext
  else do
    let start := ciphertext.length - Aes.Gcm.nonceLength
    let key ← cipher.usableKey
    match Aes.Gcm.decrypt? key (ciphertext.drop start) (ciphertext.take start) with
    | some text => .ok text
    | none => .error .decryptionFailed

/-! ## Authentication -/

/-- The authentication tag of data; there is none for nothing. -/
def sign (cipher : PayloadCipher) (data : Bytes) : Except Fault Bytes :=
  if data.isEmpty then .error .emptyData else .ok (Hash.Hmac.tag cipher.secret data)

/-- Checks that an authentication tag is the data's. -/
def verify (cipher : PayloadCipher) (data tag : Bytes) : Except Fault Unit :=
  if Hash.Hmac.tag cipher.secret data = tag then .ok () else .error .tagMismatch

end PayloadCipher

end SealedTransfer
