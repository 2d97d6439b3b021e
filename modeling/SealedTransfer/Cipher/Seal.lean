/-
# SealedTransfer.Cipher.Seal — the cipher of secrets

The secrets of a payload are wrapped for one recipient with RSA-OAEP. Who has the public key can wrap and
check signatures; who has the private key can unwrap and sign as well. Signatures are RSA-PSS, made with
the longest salt that fits and checked with any.
-/
import SealedTransfer.Entropy
import SealedTransfer.Hash.Sha512
import SealedTransfer.Key.Fingerprint
import SealedTransfer.Key.Private
import SealedTransfer.Rsa.Oaep
import SealedTransfer.Rsa.Pss

namespace SealedTransfer

/-- A cipher for a recipient, or for the owner of the private key. -/
inductive SealCipher where
  | recipient (key : Rsa.PublicKey)
  | owner (key : Rsa.PrivateKey)
deriving DecidableEq

namespace SealCipher

/-- The cipher that wraps for the owner of a public key. -/
def ofPublic : PublicKey → Except Fault SealCipher
  | .rsa key => .ok (.recipient key)
  | .other algorithm _ => .error (.unsupportedKey algorithm)

/-- The cipher of a private key's owner. -/
def ofPrivate : PrivateKey → Except Fault SealCipher
  | .rsa key => .ok (.owner key)
  | .other algorithm _ => .error (.unsupportedKey algorithm)

/-- The public key that the cipher wraps for. -/
def publicHalf : SealCipher → Rsa.PublicKey
  | .recipient key => key
  | .owner key => key.publicHalf

/-- The private key, if the cipher has it. -/
def privateHalf : SealCipher → Except Fault Rsa.PrivateKey
  | .recipient _ => .error .privateKeyRequired
  | .owner key => .ok key

/-! ## Names -/

/-- The name of the cipher. -/
def encryptionAlgorithm : String := "RSA-OAEP-SHA512"

/-- The name of the signatures. -/
def signatureAlgorithm : String := "RSA-PSS-SHA512"

/-- Whether the cipher has the private key. -/
def isOwner : SealCipher → Bool
  | .recipient _ => false
  | .owner _ => true

/-- All that is shown of a cipher. -/
def describe (cipher : SealCipher) : String :=
  "RsaOaep \x7b private: " ++ (if cipher.isOwner then "true" else "false") ++ ", .. \x7d"

/-- The fingerprint of the public key. -/
def fingerprint (cipher : SealCipher) : String := (PublicKey.rsa cipher.publicHalf).fingerprint

/-! ## Encryption -/

/-- The ciphertext of a text that fits. Nothing is drawn for one that does not. -/
def encrypt (cipher : SealCipher) (text : Bytes) : Drawing Fault Bytes := do
  if Rsa.Oaep.fits cipher.publicHalf.size text.length then
    let seed ← Drawing.octets Rsa.digestLength .encryptionFailed
    return Rsa.Oaep.encrypt cipher.publicHalf seed text
  else throw .encryptionFailed

/-- The text of a ciphertext. -/
def decrypt (cipher : SealCipher) (ciphertext : Bytes) : Except Fault Bytes := do
  let key ← cipher.privateHalf
  match Rsa.Oaep.decrypt? key ciphertext with
  | some text => return text
  | none => throw .decryptionFailed

/-! ## Signatures -/

/-- The longest salt that the key has room for. -/
def longestSalt (cipher : SealCipher) : Nat := Rsa.Pss.longestSalt cipher.publicHalf.bits

/-- The signature of data, with a salt of the longest length. -/
def sign (cipher : SealCipher) (data : Bytes) : Drawing Fault Bytes := do
  let key ← Drawing.ofExcept cipher.privateHalf
  let salt ← Drawing.octets cipher.longestSalt .signingFailed
  match Rsa.Pss.sign? key (Hash.Sha512.digest data) salt with
  | some signature => return signature
  | none => throw .signingFailed

/-- The lengths of salts that signers prefer. -/
def preferredSalts (cipher : SealCipher) : List Nat := [cipher.longestSalt, Rsa.digestLength]

/-- The lengths that a salt may have, the preferred ones first. -/
def saltLengths (cipher : SealCipher) : List Nat :=
  cipher.preferredSalts ++
    (List.range cipher.longestSalt).filter fun length => !cipher.preferredSalts.contains length

/-- Checks that a signature is the data's, whatever the length of its salt. -/
def verify (cipher : SealCipher) (data signature : Bytes) : Except Fault Unit :=
  if Rsa.Pss.verifyAny cipher.publicHalf (Hash.Sha512.digest data) signature cipher.saltLengths then
    .ok ()
  else .error .signatureMismatch

end SealCipher

end SealedTransfer
