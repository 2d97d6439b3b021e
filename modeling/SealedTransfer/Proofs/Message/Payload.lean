/-
# SealedTransfer.Proofs.Message.Payload — payloads are read back from their coded form

A coded blob is the records of its parts, a coded payload those of its blobs and texts. Reading them on
top of something lays the new parts over the old ones; on top of nothing, it gives back what was
written. So codings that stand one after the other are read as the payloads merged.
-/
import SealedTransfer.Message.Payload
import SealedTransfer.Proofs.Protobuf.Record
import SealedTransfer.Proofs.Text.Utf8

namespace SealedTransfer

open Protobuf (Record recordUnlessEmpty foldlM_recordUnlessEmpty records? records?_nil records?_field_append
  records?_fieldUnlessEmpty_append length_le_field length_le_fieldUnlessEmpty)

/-! ## Blobs -/

namespace Blob

/-- The records of a coded blob. -/
def records (blob : Blob) : List Record :=
  recordUnlessEmpty 1 (Text.Utf8.encode blob.typeUrl) ++ recordUnlessEmpty 2 blob.value

/-- A blob with the parts of another in place of those that are empty. -/
def laidOver (blob base : Blob) : Blob :=
  ⟨if blob.typeUrl = "" then base.typeUrl else blob.typeUrl,
    if blob.value = [] then base.value else blob.value⟩

@[simp] theorem laidOver_empty (blob : Blob) : blob.laidOver .empty = blob := by
  cases blob with
  | mk typeUrl value =>
    simp only [laidOver, empty, mk.injEq, ite_eq_right_iff]
    exact ⟨fun h => h.symm, fun h => h.symm⟩

theorem length_typeUrl_le (blob : Blob) :
    (Text.Utf8.encode blob.typeUrl).length ≤ blob.encode.length := by
  rw [encode, List.length_append]
  exact Nat.le_add_right_of_le (length_le_fieldUnlessEmpty 1 _)

theorem length_value_le (blob : Blob) : blob.value.length ≤ blob.encode.length := by
  rw [encode, List.length_append]
  exact Nat.le_add_left_of_le (length_le_fieldUnlessEmpty 2 _)

/-- The records of a blob are read back from its coded form. -/
theorem records?_encode (budget : Nat) (blob : Blob) (short : blob.encode.length < 2 ^ 64) :
    records? budget blob.encode = some blob.records := by
  have typeUrl := Nat.lt_of_le_of_lt blob.length_typeUrl_le short
  have value := Nat.lt_of_le_of_lt blob.length_value_le short
  rw [encode, ← List.append_nil (_ ++ _), List.append_assoc,
    records?_fieldUnlessEmpty_append _ _ _ ⟨by decide, by decide⟩ typeUrl,
    records?_fieldUnlessEmpty_append _ _ _ ⟨by decide, by decide⟩ value, records?_nil]
  simp [records]

/-- The records of a blob lay its parts over what is there. -/
theorem foldlM_merge_records (blob base : Blob) :
    blob.records.foldlM merge base = some (blob.laidOver base) := by
  have typeUrl : (recordUnlessEmpty 1 (Text.Utf8.encode blob.typeUrl)).foldlM merge base
      = some ⟨if blob.typeUrl = "" then base.typeUrl else blob.typeUrl, base.value⟩ := by
    apply foldlM_recordUnlessEmpty
    · intro absent
      simp [Text.Utf8.encode_eq_nil.mp absent]
    · intro present
      rw [ne_eq, Text.Utf8.encode_eq_nil] at present
      simp [merge, present]
  rw [records, List.foldlM_append, typeUrl, Option.bind_eq_bind, Option.bind_some]
  apply foldlM_recordUnlessEmpty
  · intro absent
    simp [laidOver, absent]
  · intro present
    simp [laidOver, present, merge]

/-- **A coded blob lays its parts over what is there.** -/
theorem mergeCoded_encode (budget : Nat) (blob base : Blob) (short : blob.encode.length < 2 ^ 64) :
    mergeCoded budget base blob.encode = some (blob.laidOver base) := by
  rw [mergeCoded, records?_encode budget blob short, Option.bind_eq_bind, Option.bind_some,
    foldlM_merge_records]

end Blob

/-! ## Payloads -/

namespace Payload

/-- The record of an optional blob. -/
def blobRecord (number : Nat) : Option Blob → List Record
  | none => []
  | some blob => [⟨number, .delimited, blob.encode⟩]

/-- The records of a coded payload. -/
def records (payload : Payload) : List Record :=
  blobRecord 1 payload.identity ++ blobRecord 2 payload.transaction
    ++ recordUnlessEmpty 3 (Text.Utf8.encode payload.sentAt)
    ++ recordUnlessEmpty 4 (Text.Utf8.encode payload.receivedAt)

/-- A blob laid over another, where there are both. -/
def blobOver : Option Blob → Option Blob → Option Blob
  | none, base => base
  | some blob, base => some (blob.laidOver (base.getD .empty))

/-- A payload with the parts of another in place of those that are missing. -/
def laidOver (payload base : Payload) : Payload :=
  ⟨blobOver payload.identity base.identity, blobOver payload.transaction base.transaction,
    if payload.sentAt = "" then base.sentAt else payload.sentAt,
    if payload.receivedAt = "" then base.receivedAt else payload.receivedAt⟩

@[simp] theorem laidOver_empty (payload : Payload) : payload.laidOver .empty = payload := by
  obtain ⟨identity, transaction, sentAt, receivedAt⟩ := payload
  have blob (blob : Option Blob) : blobOver blob none = blob := by
    cases blob <;> simp [blobOver]
  simp only [laidOver, empty, blob, mk.injEq, true_and, ite_eq_right_iff]
  exact ⟨fun h => h.symm, fun h => h.symm⟩

/-- An optional blob in front of a coded message adds its record, or nothing. -/
theorem records?_blobField_append {number : Nat} (budget : Nat) (blob : Option Blob) (rest : Bytes)
    (numbered : Protobuf.IsFieldNumber number)
    (short : (blobField number blob).length < 2 ^ 64) :
    records? budget (blobField number blob ++ rest)
      = (records? budget rest).map (blobRecord number blob ++ ·) := by
  cases blob with
  | none => simp [blobField, blobRecord]
  | some blob =>
    have content := Nat.lt_of_le_of_lt (length_le_field number blob.encode) short
    exact records?_field_append budget blob.encode rest numbered content

/-- The records of a payload are read back from the front of what its coded form stands before. -/
theorem records?_encode_append (budget : Nat) (payload : Payload) (rest : Bytes)
    (short : payload.encode.length < 2 ^ 64) :
    records? budget (payload.encode ++ rest) = (records? budget rest).map (payload.records ++ ·) := by
  simp only [encode, List.length_append] at short
  have sentAt := length_le_fieldUnlessEmpty 3 (Text.Utf8.encode payload.sentAt)
  have receivedAt := length_le_fieldUnlessEmpty 4 (Text.Utf8.encode payload.receivedAt)
  rw [encode, List.append_assoc, List.append_assoc, List.append_assoc,
    records?_blobField_append _ _ _ ⟨by decide, by decide⟩ (by omega),
    records?_blobField_append _ _ _ ⟨by decide, by decide⟩ (by omega),
    records?_fieldUnlessEmpty_append _ _ _ ⟨by decide, by decide⟩ (by omega),
    records?_fieldUnlessEmpty_append _ _ _ ⟨by decide, by decide⟩ (by omega)]
  cases records? budget rest with
  | none => rfl
  | some others => simp [records]

/-- The records of a payload are read back from its coded form. -/
theorem records?_encode (budget : Nat) (payload : Payload)
    (short : payload.encode.length < 2 ^ 64) :
    records? budget payload.encode = some payload.records := by
  have read := records?_encode_append budget payload [] short
  rwa [List.append_nil, records?_nil, Option.map_some, List.append_nil] at read

/-- The record of a blob lays it over the blob that is there. -/
theorem mergeBlob_record (number : Nat) (blob : Blob) (base : Option Blob)
    (short : blob.encode.length < 2 ^ 64) :
    mergeBlob base ⟨number, .delimited, blob.encode⟩ = some (blob.laidOver (base.getD .empty)) := by
  rw [mergeBlob, if_pos rfl, Blob.mergeCoded_encode _ _ _ short]

theorem foldlM_merge_identity (blob : Option Blob) (base : Payload)
    (short : (blobField 1 blob).length < 2 ^ 64) :
    (blobRecord 1 blob).foldlM merge base
      = some { base with identity := blobOver blob base.identity } := by
  cases blob with
  | none => rfl
  | some blob =>
    have content := Nat.lt_of_le_of_lt (length_le_field 1 blob.encode) short
    simp [blobRecord, merge, mergeBlob_record _ _ _ content, blobOver]

theorem foldlM_merge_transaction (blob : Option Blob) (base : Payload)
    (short : (blobField 2 blob).length < 2 ^ 64) :
    (blobRecord 2 blob).foldlM merge base
      = some { base with transaction := blobOver blob base.transaction } := by
  cases blob with
  | none => rfl
  | some blob =>
    have content := Nat.lt_of_le_of_lt (length_le_field 2 blob.encode) short
    simp [blobRecord, merge, mergeBlob_record _ _ _ content, blobOver]

theorem foldlM_merge_sentAt (text : String) (base : Payload) :
    (recordUnlessEmpty 3 (Text.Utf8.encode text)).foldlM merge base
      = some { base with sentAt := if text = "" then base.sentAt else text } := by
  apply foldlM_recordUnlessEmpty
  · intro absent
    simp [Text.Utf8.encode_eq_nil.mp absent]
  · intro present
    rw [ne_eq, Text.Utf8.encode_eq_nil] at present
    simp [merge, textOf, present]

theorem foldlM_merge_receivedAt (text : String) (base : Payload) :
    (recordUnlessEmpty 4 (Text.Utf8.encode text)).foldlM merge base
      = some { base with receivedAt := if text = "" then base.receivedAt else text } := by
  apply foldlM_recordUnlessEmpty
  · intro absent
    simp [Text.Utf8.encode_eq_nil.mp absent]
  · intro present
    rw [ne_eq, Text.Utf8.encode_eq_nil] at present
    simp [merge, textOf, present]

/-- The records of a payload lay its parts over what is there. -/
theorem foldlM_merge_records (payload base : Payload) (short : payload.encode.length < 2 ^ 64) :
    payload.records.foldlM merge base = some (payload.laidOver base) := by
  simp only [encode, List.length_append] at short
  have identity : (blobField 1 payload.identity).length < 2 ^ 64 := by omega
  have transaction : (blobField 2 payload.transaction).length < 2 ^ 64 := by omega
  simp only [records, List.foldlM_append, foldlM_merge_identity _ _ identity,
    foldlM_merge_transaction _ _ transaction, foldlM_merge_sentAt, foldlM_merge_receivedAt,
    Option.bind_eq_bind, Option.bind_some]
  rfl

/-- **A payload is read back** from its coded form. -/
theorem decode?_encode_of_length_lt (payload : Payload) (short : payload.encode.length < 2 ^ 64) :
    decode? payload.encode = some payload := by
  rw [decode?, records?_encode _ _ short, Option.bind_eq_bind, Option.bind_some,
    foldlM_merge_records _ _ short, laidOver_empty]

/-! ## Codings one after the other -/

/-- Reading one coded form behind another lays the second payload over the first. -/
theorem decode?_encode_append {base payload : Payload} (short : base.encode.length < 2 ^ 64)
    (short' : payload.encode.length < 2 ^ 64) :
    decode? (base.encode ++ payload.encode) = some (payload.laidOver base) := by
  rw [decode?, records?_encode_append _ _ _ short, records?_encode _ _ short', Option.map_some,
    Option.bind_eq_bind, Option.bind_some, List.foldlM_append, foldlM_merge_records _ _ short,
    laidOver_empty, Option.bind_eq_bind, Option.bind_some, foldlM_merge_records _ _ short']

/-- A blob laid over another is there if one of them is, and is both merged if both are. -/
theorem blobOver_eq_merge (blob base : Option Blob) :
    blobOver blob base = base.merge (fun base blob => blob.laidOver base) blob := by
  cases blob with
  | none => cases base <;> rfl
  | some blob =>
    cases base with
    | none => exact congrArg some blob.laidOver_empty
    | some base => rfl

/-- **Reading undoes coding, and codings one after the other are merged.** The texts of the second payload
stand over those of the first unless they are empty; a blob that only one of the two has is that one, and
two blobs are merged part by part, again with those of the second over those of the first. -/
theorem decode?_concatenation {first second : Payload} (short : first.encode.length < 2 ^ 63)
    (short' : second.encode.length < 2 ^ 63) :
    decode? (first.encode ++ second.encode) = some
      { identity := first.identity.merge (fun base blob => blob.laidOver base) second.identity
        transaction :=
          first.transaction.merge (fun base blob => blob.laidOver base) second.transaction
        sentAt := if second.sentAt = "" then first.sentAt else second.sentAt
        receivedAt := if second.receivedAt = "" then first.receivedAt else second.receivedAt } ∧
      decode? (first.encode ++ empty.encode) = some first ∧
      decode? first.encode = some first := by
  have bound : first.encode.length < 2 ^ 64 := by omega
  have nothing : first.encode ++ empty.encode = first.encode := List.append_nil _
  have back := decode?_encode_of_length_lt first bound
  refine ⟨?_, by rw [nothing, back], back⟩
  rw [decode?_encode_append bound (by omega), laidOver, blobOver_eq_merge, blobOver_eq_merge]

/-- Two payloads that have parts of one blob each, and of another blob only one of them. -/
theorem decode?_concatenation_of_parts :
    decode? (encode ⟨some ⟨"schema", [1]⟩, none, "then", ""⟩
      ++ encode ⟨some ⟨"", [2]⟩, some .empty, "", "now"⟩)
        = some ⟨some ⟨"schema", [2]⟩, some .empty, "then", "now"⟩ :=
  (decode?_concatenation (by decide +kernel) (by decide +kernel)).1

end Payload

end SealedTransfer
