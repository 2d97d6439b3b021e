/-
# SealedTransfer.Key.Fingerprint — public keys named by their hash

A sealed message names the key that it is sealed for by a fingerprint: the name of a hash, a colon and
the hash of the key's encoding in base64 without padding. Reading is lenient about the name of the hash
(white space around it and the case of its letters do not matter) and strict about the rest.
-/
import SealedTransfer.Hash.Md5
import SealedTransfer.Hash.Sha256
import SealedTransfer.Hash.Sha512
import SealedTransfer.Key.Public
import SealedTransfer.Text.Base64
import SealedTransfer.Text.Blank

namespace SealedTransfer

/-- A hash that keys are named by. -/
inductive FingerprintHash where
  | md5
  | sha256
  | sha512
deriving DecidableEq, Repr

namespace FingerprintHash

/-- The name of a hash. -/
def name : FingerprintHash → String
  | .md5 => "MD5"
  | .sha256 => "SHA256"
  | .sha512 => "SHA512"

/-- The digest of octets. -/
def digest : FingerprintHash → Bytes → Bytes
  | .md5 => Hash.Md5.digest
  | .sha256 => Hash.Sha256.digest
  | .sha512 => Hash.Sha512.digest

/-- The three hashes are told apart by the lengths of their digests. -/
@[simp] theorem length_digest (hash : FingerprintHash) (octets : Bytes) :
    (hash.digest octets).length =
      match hash with
      | .md5 => 16
      | .sha256 => 32
      | .sha512 => 64 := by
  cases hash with
  | md5 => exact Hash.Md5.length_digest octets
  | sha256 => exact Hash.Sha256.length_digest octets
  | sha512 => exact Hash.Sha512.length_digest octets

/-- The hash with a name, in any case and with white space around it. -/
def ofName? (text : List Char) : Option FingerprintHash :=
  let name := String.ofList ((Text.trimBlanks text).map Text.asciiUpper)
  [md5, sha256, sha512].find? fun hash => hash.name = name

/-- The hash with a name, or the fault that there is none. -/
def ofName (text : List Char) : Except Fault FingerprintHash :=
  match ofName? text with
  | some hash => .ok hash
  | none => .error .unknownFingerprintHash

end FingerprintHash

/-- A fingerprint: a hash and a sum. -/
structure Fingerprint where
  hash : FingerprintHash
  sum : Bytes
deriving DecidableEq, Repr

namespace Fingerprint

/-- The fingerprint of a key under a hash. -/
def ofKey (hash : FingerprintHash) (key : PublicKey) : Fingerprint :=
  ⟨hash, hash.digest key.encode⟩

/-- The hash of the fingerprints that messages carry. -/
def usualHash : FingerprintHash := .sha256

/-- The text of a fingerprint. -/
def text (fingerprint : Fingerprint) : String :=
  fingerprint.hash.name ++ ":" ++ String.ofList (Text.Base64.encodeUnpadded fingerprint.sum)

/-- The fingerprint that a text spells. -/
def ofText (text : String) : Except Fault Fingerprint :=
  match Text.splitAll ':' text.toList with
  | [name, sum] => do
    let hash ← FingerprintHash.ofName name
    match Text.Base64.decodeUnpadded? sum with
    | some sum => .ok ⟨hash, sum⟩
    | none => .error .fingerprintSum
  | _ => .error .fingerprintShape

/-- Whether a text spells a fingerprint of the key. -/
def identifies (text : String) (key : PublicKey) : Bool :=
  match ofText text with
  | .ok fingerprint => fingerprint = ofKey fingerprint.hash key
  | .error _ => false

end Fingerprint

/-- The text that names a key in messages. -/
def PublicKey.fingerprint (key : PublicKey) : String :=
  (Fingerprint.ofKey Fingerprint.usualHash key).text

end SealedTransfer
