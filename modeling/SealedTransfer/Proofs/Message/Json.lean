/-
# SealedTransfer.Proofs.Message.Json — messages are read back from their JSON

A message is written as an object of all its fields, and no two fields have one name, so each is found
again under its own. What is in a field is read back by the reader that goes with it; only what is written
as null is left to say, and nothing but an absent part is. Everything that is written is readable, so the
text of a message gives back the message.
-/
import SealedTransfer.Message.Json
import SealedTransfer.Proofs.Json.Reader
import SealedTransfer.Proofs.Text.Base64

namespace SealedTransfer

namespace Json

/-! ## Fields -/

/-- A member is found under its name, if no other has it. -/
theorem member?_of_mem {members : List (String × Json)} (distinct : (members.map (·.1)).Nodup)
    {member : String × Json} (h : member ∈ members) :
    member? members member.1 = some (some member.2) := by
  have alone : members.filter (·.1 = member.1) = [member] := by
    induction members with
    | nil => exact absurd h List.not_mem_nil
    | cons first others ih =>
      rw [List.map_cons, List.nodup_cons] at distinct
      obtain ⟨fresh, distinct⟩ := distinct
      rcases List.mem_cons.mp h with rfl | later
      · have none : others.filter (·.1 = member.1) = [] := by
          rw [List.filter_eq_nil_iff]
          intro other among same
          exact fresh (List.mem_map.mpr ⟨other, among, of_decide_eq_true same⟩)
        rw [List.filter_cons_of_pos (by simp), none]
      · have different : first.1 ≠ member.1 := by
          intro same
          exact fresh (same ▸ List.mem_map.mpr ⟨member, later, rfl⟩)
        rw [List.filter_cons_of_neg (by simpa using different), ih distinct later]
  rw [member?, alone]

/-- **The fields of an object are the values of its members**, if no two have one name. -/
theorem fields?_object {members : List (String × Json)} (distinct : (members.map (·.1)).Nodup) :
    fields? (members.map (·.1)) (.object members) = some (members.map fun member => some member.2) := by
  have found (some : List (String × Json)) (within : ∀ member ∈ some, member ∈ members) :
      (some.map (·.1)).mapM (member? members) = .some (some.map fun member => .some member.2) := by
    induction some with
    | nil => rfl
    | cons member others ih =>
      rw [List.map_cons, List.mapM_cons, member?_of_mem distinct (within member List.mem_cons_self),
        ih fun other among => within other (List.mem_cons_of_mem _ among)]
      rfl
  exact found members fun _ => id

/-! ## Values of a field -/

@[simp] theorem text?_string (text : String) : text? (.string text) = some text := rfl

@[simp] theorem bool?_bool (value : Bool) : bool? (.bool value) = some value := rfl

@[simp] theorem int32?_integer (n : Int32) : int32? (.integer n.toInt) = some n := by
  rw [int32?, if_pos ⟨n.minValue_le_toInt, n.toInt_le⟩, Int32.ofInt_toInt]

@[simp] theorem int64?_integer (n : Int64) : int64? (.integer n.toInt) = some n := by
  rw [int64?, if_pos ⟨n.minValue_le_toInt, n.toInt_le⟩, Int64.ofInt_toInt]

@[simp] theorem bytes?_ofBytes (bytes : Bytes) : bytes? (ofBytes bytes) = some bytes := by
  rw [ofBytes, bytes?, String.toList_ofList, Text.Base64.decode?_encode]

/-- An optional value is read back if every value is, and none is written as null. -/
theorem optional?_ofOptional {α : Type} {write : α → Json} {read : Json → Option α}
    (back : ∀ a, read (write a) = some a) (present : ∀ a, write a ≠ .null) (value : Option α) :
    optional? read (ofOptional write value) = some value := by
  cases value with
  | none => rfl
  | some a =>
    rw [ofOptional, optional?.eq_2 _ _ (present a), back]
    rfl

theorem readable_ofOptional {α : Type} {write : α → Json} (h : ∀ a, (write a).Readable)
    (value : Option α) : (ofOptional write value).Readable := by
  cases value with
  | none => exact .null
  | some a => exact h a

end Json

/-! ## Message types -/

theorem Blob.ofJson?_toJson (blob : Blob) : Blob.ofJson? blob.toJson = some blob := by
  have distinct : ["type_url", "value"].Nodup := by decide
  have found : Json.fields? ["type_url", "value"] blob.toJson = some _ :=
    Json.fields?_object distinct
  rw [ofJson?, found]
  simp [Json.fieldOr]

theorem Blob.readable_toJson (blob : Blob) : blob.toJson.Readable := by
  refine .object ?_
  simp [Json.Readable.string, Json.ofBytes]

theorem Payload.ofJson?_toJson (payload : Payload) : Payload.ofJson? payload.toJson = some payload := by
  have distinct : ["identity", "transaction", "sent_at", "received_at"].Nodup := by decide
  have found : Json.fields? ["identity", "transaction", "sent_at", "received_at"] payload.toJson
      = some _ :=
    Json.fields?_object distinct
  have identity := Json.optional?_ofOptional Blob.ofJson?_toJson (fun _ => nofun) payload.identity
  have transaction :=
    Json.optional?_ofOptional Blob.ofJson?_toJson (fun _ => nofun) payload.transaction
  rw [ofJson?, found]
  simp [Json.fieldOr, identity, transaction]

theorem Payload.readable_toJson (payload : Payload) : payload.toJson.Readable := by
  have identity := Json.readable_ofOptional Blob.readable_toJson payload.identity
  have transaction := Json.readable_ofOptional Blob.readable_toJson payload.transaction
  refine .object ?_
  simp [Json.Readable.string, identity, transaction]

theorem Rejection.Code.ofJson?_toJson (code : Code) : Code.ofJson? code.toJson = some code := by
  simp [ofJson?, toJson]

theorem Rejection.ofJson?_toJson (rejection : Rejection) :
    Rejection.ofJson? rejection.toJson = some rejection := by
  have distinct : ["code", "message", "retry", "details"].Nodup := by decide
  have found : Json.fields? ["code", "message", "retry", "details"] rejection.toJson = some _ :=
    Json.fields?_object distinct
  have details := Json.optional?_ofOptional Blob.ofJson?_toJson (fun _ => nofun) rejection.details
  rw [ofJson?, found]
  simp [Json.fieldOr, Code.ofJson?_toJson, details]

theorem Rejection.readable_toJson (rejection : Rejection) : rejection.toJson.Readable := by
  have details := Json.readable_ofOptional Blob.readable_toJson rejection.details
  refine .object ?_
  simp [Json.Readable.string, Json.Readable.bool, Json.Readable.integer, Code.toJson, details]

theorem SigningKey.ofJson?_toJson (key : SigningKey) : SigningKey.ofJson? key.toJson = some key := by
  have distinct : ["version", "signature", "signature_algorithm", "public_key_algorithm", "not_before",
    "not_after", "revoked", "data"].Nodup := by decide
  have found : Json.fields? ["version", "signature", "signature_algorithm", "public_key_algorithm",
      "not_before", "not_after", "revoked", "data"] key.toJson = some _ :=
    Json.fields?_object distinct
  rw [ofJson?, found]
  simp [Json.fieldOr]

theorem SigningKey.readable_toJson (key : SigningKey) : key.toJson.Readable := by
  refine .object ?_
  simp [Json.Readable.string, Json.Readable.bool, Json.Readable.integer, Json.ofBytes]

theorem Message.ofJson?_toJson (message : Message) :
    Message.ofJson? message.toJson = some message := by
  have distinct : ["id", "payload", "encryption_key", "encryption_algorithm", "hmac", "hmac_secret",
    "hmac_algorithm", "error", "timestamp", "sealed", "public_key_signature"].Nodup := by decide
  have found : Json.fields? ["id", "payload", "encryption_key", "encryption_algorithm", "hmac",
      "hmac_secret", "hmac_algorithm", "error", "timestamp", "sealed", "public_key_signature"]
      message.toJson = some _ :=
    Json.fields?_object distinct
  have error := Json.optional?_ofOptional Rejection.ofJson?_toJson (fun _ => nofun) message.error
  rw [ofJson?, found]
  simp [Json.fieldOr, error]

theorem Message.readable_toJson (message : Message) : message.toJson.Readable := by
  have error := Json.readable_ofOptional Rejection.readable_toJson message.error
  refine .object ?_
  simp [Json.Readable.string, Json.Readable.bool, Json.ofBytes, error]

/-- **A message is read back from its JSON text.** -/
theorem Message.ofText?_toText (message : Message) : Message.ofText? message.toText = some message := by
  rw [ofText?, toText, message.readable_toJson.parse?_compact]
  exact message.ofJson?_toJson

end SealedTransfer
