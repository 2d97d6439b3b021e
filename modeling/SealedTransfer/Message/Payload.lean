/-
# SealedTransfer.Message.Payload — what a transfer carries

A payload names the parties, describes the transaction and says when it was sent and received. Its
coded form is the plaintext of an envelope. Codings can be put one after the other: reading the result
gives the payloads merged, later texts over earlier ones and blobs part by part.
-/
import SealedTransfer.Message.Blob

namespace SealedTransfer

/-- The content of a transfer. -/
structure Payload where
  identity : Option Blob
  transaction : Option Blob
  sentAt : String
  receivedAt : String
deriving DecidableEq, Repr

namespace Payload

/-- The payload without any content. -/
def empty : Payload := ⟨none, none, "", ""⟩

/-- An optional blob as a field; a blob without content is still present. -/
def blobField (number : Nat) : Option Blob → Bytes
  | none => []
  | some blob => Protobuf.field number blob.encode

/-- The coded form of a payload. -/
def encode (payload : Payload) : Bytes :=
  blobField 1 payload.identity ++ blobField 2 payload.transaction
    ++ Protobuf.fieldUnlessEmpty 3 (Text.Utf8.encode payload.sentAt)
    ++ Protobuf.fieldUnlessEmpty 4 (Text.Utf8.encode payload.receivedAt)

/-- The levels of groups that fields of a payload may have. -/
def groupBudget : Nat := 100

/-- Takes a coded blob into the blob that is there, or into an empty one. -/
def mergeBlob (blob : Option Blob) (record : Protobuf.Record) : Option Blob :=
  if record.wireType = .delimited then
    (blob.getD .empty).mergeCoded (groupBudget - 1) record.content
  else none

/-- The text of a record. -/
def textOf (record : Protobuf.Record) : Option String :=
  if record.wireType = .delimited then Text.Utf8.decode? record.content else none

/-- Takes a record into a payload; unknown fields are passed over. -/
def merge (payload : Payload) (record : Protobuf.Record) : Option Payload :=
  match record.number with
  | 1 => (mergeBlob payload.identity record).map fun b => { payload with identity := some b }
  | 2 => (mergeBlob payload.transaction record).map fun b => { payload with transaction := some b }
  | 3 => (textOf record).map fun text => { payload with sentAt := text }
  | 4 => (textOf record).map fun text => { payload with receivedAt := text }
  | _ => some payload

/-- The payload of a coded form. -/
def decode? (bytes : Bytes) : Option Payload := do
  let records ← Protobuf.records? groupBudget bytes
  records.foldlM merge empty

end Payload

end SealedTransfer
