/-
# SealedTransfer.Message.Blob — content that only its receiver understands

Identity and transaction data travel as blobs: octets under the name of their schema. The transfer
itself never looks into them.
-/
import SealedTransfer.Protobuf.Record
import SealedTransfer.Text.Utf8

namespace SealedTransfer

/-- Octets under the name of their schema. -/
structure Blob where
  typeUrl : String
  value : Bytes
deriving DecidableEq, Repr

namespace Blob

/-- The blob without name and content. -/
def empty : Blob := ⟨"", []⟩

/-- The coded form of a blob; empty parts are left out. -/
def encode (blob : Blob) : Bytes :=
  Protobuf.fieldUnlessEmpty 1 (Text.Utf8.encode blob.typeUrl)
    ++ Protobuf.fieldUnlessEmpty 2 blob.value

/-- Takes a record into a blob: a later part replaces an earlier one, unknown fields are passed
over. -/
def merge (blob : Blob) (record : Protobuf.Record) : Option Blob :=
  match record.number with
  | 1 =>
    if record.wireType = .delimited then
      (Text.Utf8.decode? record.content).map fun text => { blob with typeUrl := text }
    else none
  | 2 =>
    if record.wireType = .delimited then some { blob with value := record.content } else none
  | _ => some blob

/-- Takes a coded blob, of fields with `budget` levels of groups, into a blob. -/
def mergeCoded (budget : Nat) (blob : Blob) (bytes : Bytes) : Option Blob := do
  let records ← Protobuf.records? budget bytes
  records.foldlM merge blob

end Blob

end SealedTransfer
