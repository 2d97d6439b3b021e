/-
# SealedTransfer.Message.Json — messages as JSON

Every message type is written as an object of all its fields in a fixed order, octets as padded
base64, absent parts as null. It is read from an object or an array of these fields, missing ones
taking their defaults; reading what was written gives the same value.
-/
import SealedTransfer.Json.Reader
import SealedTransfer.Json.Shape
import SealedTransfer.Message.Basic
import SealedTransfer.Message.Payload
import SealedTransfer.Message.SigningKey

namespace SealedTransfer

open Json (fields? fieldOr text? bool? int32? int64? bytes? optional? ofBytes ofOptional)

/-! ## Blobs -/

/-- A blob as JSON. -/
def Blob.toJson (blob : Blob) : Json :=
  .object [("type_url", .string blob.typeUrl), ("value", ofBytes blob.value)]

/-- A blob from JSON. -/
def Blob.ofJson? (json : Json) : Option Blob := do
  match ← fields? ["type_url", "value"] json with
  | [typeUrl, value] =>
    some ⟨← fieldOr "" text? typeUrl, ← fieldOr [] bytes? value⟩
  | _ => none

/-! ## Payloads -/

/-- A payload as JSON. -/
def Payload.toJson (payload : Payload) : Json :=
  .object [("identity", ofOptional Blob.toJson payload.identity),
    ("transaction", ofOptional Blob.toJson payload.transaction),
    ("sent_at", .string payload.sentAt), ("received_at", .string payload.receivedAt)]

/-- A payload from JSON. -/
def Payload.ofJson? (json : Json) : Option Payload := do
  match ← fields? ["identity", "transaction", "sent_at", "received_at"] json with
  | [identity, transaction, sentAt, receivedAt] =>
    some ⟨← fieldOr none (optional? Blob.ofJson?) identity,
      ← fieldOr none (optional? Blob.ofJson?) transaction,
      ← fieldOr "" text? sentAt, ← fieldOr "" text? receivedAt⟩
  | _ => none

/-! ## Rejections -/

/-- A code as JSON: its number. -/
def Rejection.Code.toJson (code : Rejection.Code) : Json := .integer code.number.toInt

/-- A code from JSON. -/
def Rejection.Code.ofJson? (json : Json) : Option Rejection.Code :=
  (int32? json).map Rejection.Code.mk

/-- A rejection as JSON. -/
def Rejection.toJson (rejection : Rejection) : Json :=
  .object [("code", rejection.code.toJson), ("message", .string rejection.message),
    ("retry", .bool rejection.retry), ("details", ofOptional Blob.toJson rejection.details)]

/-- A rejection from JSON. -/
def Rejection.ofJson? (json : Json) : Option Rejection := do
  match ← fields? ["code", "message", "retry", "details"] json with
  | [code, message, retry, details] =>
    some ⟨← fieldOr .unhandled Rejection.Code.ofJson? code, ← fieldOr "" text? message,
      ← fieldOr false bool? retry, ← fieldOr none (optional? Blob.ofJson?) details⟩
  | _ => none

/-! ## Signing keys -/

/-- A signing key as JSON. -/
def SigningKey.toJson (key : SigningKey) : Json :=
  .object [("version", .integer key.version.toInt), ("signature", ofBytes key.signature),
    ("signature_algorithm", .string key.signatureAlgorithm),
    ("public_key_algorithm", .string key.publicKeyAlgorithm),
    ("not_before", .string key.notBefore), ("not_after", .string key.notAfter),
    ("revoked", .bool key.revoked), ("data", ofBytes key.data)]

/-- A signing key from JSON. -/
def SigningKey.ofJson? (json : Json) : Option SigningKey := do
  match ← fields? ["version", "signature", "signature_algorithm", "public_key_algorithm",
    "not_before", "not_after", "revoked", "data"] json with
  | [version, signature, signatureAlgorithm, publicKeyAlgorithm, notBefore, notAfter, revoked,
      data] =>
    some ⟨← fieldOr 0 int64? version, ← fieldOr [] bytes? signature,
      ← fieldOr "" text? signatureAlgorithm, ← fieldOr "" text? publicKeyAlgorithm,
      ← fieldOr "" text? notBefore, ← fieldOr "" text? notAfter, ← fieldOr false bool? revoked,
      ← fieldOr [] bytes? data⟩
  | _ => none

/-! ## Messages -/

/-- A message as JSON. -/
def Message.toJson (message : Message) : Json :=
  .object [("id", .string message.id), ("payload", ofBytes message.payload),
    ("encryption_key", ofBytes message.encryptionKey),
    ("encryption_algorithm", .string message.encryptionAlgorithm),
    ("hmac", ofBytes message.hmac), ("hmac_secret", ofBytes message.hmacSecret),
    ("hmac_algorithm", .string message.hmacAlgorithm),
    ("error", ofOptional Rejection.toJson message.error),
    ("timestamp", .string message.timestamp), ("sealed", .bool message.isSealed),
    ("public_key_signature", .string message.publicKeySignature)]

/-- A message from JSON. -/
def Message.ofJson? (json : Json) : Option Message := do
  match ← fields? ["id", "payload", "encryption_key", "encryption_algorithm", "hmac",
    "hmac_secret", "hmac_algorithm", "error", "timestamp", "sealed", "public_key_signature"]
    json with
  | [id, payload, encryptionKey, encryptionAlgorithm, hmac, hmacSecret, hmacAlgorithm, error,
      timestamp, isSealed, publicKeySignature] =>
    some ⟨← fieldOr "" text? id, ← fieldOr [] bytes? payload, ← fieldOr [] bytes? encryptionKey,
      ← fieldOr "" text? encryptionAlgorithm, ← fieldOr [] bytes? hmac,
      ← fieldOr [] bytes? hmacSecret, ← fieldOr "" text? hmacAlgorithm,
      ← fieldOr none (optional? Rejection.ofJson?) error, ← fieldOr "" text? timestamp,
      ← fieldOr false bool? isSealed, ← fieldOr "" text? publicKeySignature⟩
  | _ => none

/-! ## Texts -/

/-- The JSON text of a message. -/
def Message.toText (message : Message) : String := message.toJson.compact

/-- A message from its JSON text. -/
def Message.ofText? (text : String) : Option Message := do
  let json ← Json.parse? text
  Message.ofJson? json

end SealedTransfer
