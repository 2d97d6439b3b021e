/-
# SealedTransfer.Proofs.Message.Spelling — which JSON spells which message

A value of a message type is spelled by every object or array that holds its fields. A field may be left
out if it has its default, an absent part may be null as well, and members with other names do not matter;
but what is held is held in one way only. In particular the octets of a byte field have one spelling, the
padded base64 that is written for them. Reading finds a value exactly in its spellings, so what is read
from a text is known from the text alone, and what is written for it is read as the same value again.
-/
import SealedTransfer.Proofs.Message.Json
import Mathlib.Data.List.Forall2

namespace SealedTransfer

namespace Json

/-! ## Single values -/

theorem text?_eq_some {json : Json} {text : String} :
    text? json = some text ↔ json = .string text := by
  cases json <;> simp [text?]

theorem bool?_eq_some {json : Json} {value : Bool} :
    bool? json = some value ↔ json = .bool value := by
  cases json <;> simp [bool?]

/-- A whole number of thirty-two bits is spelled by itself and no other number. -/
theorem int32?_eq_some {json : Json} {n : Int32} :
    int32? json = some n ↔ json = .integer n.toInt := by
  constructor
  · intro h
    cases json with
    | integer value =>
      rw [int32?] at h
      split at h
      · rename_i bounds
        cases h
        rw [Int32.toInt_ofInt_of_le bounds.1 (Int.lt_of_le_of_lt bounds.2 (by decide))]
      · cases h
    | _ => cases h
  · rintro rfl
    exact int32?_integer n

/-- A whole number of sixty-four bits is spelled by itself and no other number. -/
theorem int64?_eq_some {json : Json} {n : Int64} :
    int64? json = some n ↔ json = .integer n.toInt := by
  constructor
  · intro h
    cases json with
    | integer value =>
      rw [int64?] at h
      split at h
      · rename_i bounds
        cases h
        rw [Int64.toInt_ofInt_of_le bounds.1 (Int.lt_of_le_of_lt bounds.2 (by decide))]
      · cases h
    | _ => cases h
  · rintro rfl
    exact int64?_integer n

/-- **A byte string has one spelling**, the one that is written for it. -/
theorem bytes?_eq_some {json : Json} {bytes : Bytes} :
    bytes? json = some bytes ↔ json = ofBytes bytes := by
  constructor
  · intro h
    cases json with
    | string text =>
      have canonical := Text.Base64.decode?_eq_some_iff.mp h
      rw [ofBytes, ← canonical, String.ofList_toList]
    | _ => cases h
  · rintro rfl
    exact bytes?_ofBytes bytes

/-! ## Fields -/

/-- What a field holds: a spelling of its part, or nothing if the part is the default. -/
inductive Field {α : Type} (missing : α) (Spells : α → Json → Prop) : α → Option Json → Prop
  | absent : Field missing Spells missing none
  | present {part : α} {json : Json} (spelled : Spells part json) :
      Field missing Spells part (some json)

/-- An optional part is spelled as what it is, or as null if there is none. -/
inductive OptionalSpells {α : Type} (Spells : α → Json → Prop) : Option α → Json → Prop
  | null : OptionalSpells Spells none .null
  | some {part : α} {json : Json} (spelled : Spells part json) :
      OptionalSpells Spells (some part) json

/-- A text field. -/
def TextField : String → Option Json → Prop := Field "" fun text json => json = .string text

/-- A field of a truth value. -/
def BoolField : Bool → Option Json → Prop := Field false fun value json => json = .bool value

/-- A field of a whole number. -/
def IntegerField : Int64 → Option Json → Prop := Field 0 fun n json => json = .integer n.toInt

/-- A byte field: padded base64, and no other text. -/
def BytesField : Bytes → Option Json → Prop := Field [] fun bytes json => json = ofBytes bytes

/-- A field of an optional part. -/
def OptionalField {α : Type} (Spells : α → Json → Prop) : Option α → Option Json → Prop :=
  Field none (OptionalSpells Spells)

/-- A value that holds the named fields as they should be. -/
def HasFields (json : Json) (fields : List (String × (Option Json → Prop))) : Prop :=
  ∃ values, fields? (fields.map (·.1)) json = some values ∧
    List.Forall₂ (fun field value => field.2 value) fields values

section Readers

variable {α : Type} {read : Json → Option α} {Spells : α → Json → Prop}

/-- A field is read as the part that it holds. -/
theorem fieldOr_eq_some (reads : ∀ json part, read json = some part ↔ Spells part json) {missing part : α}
    {field : Option Json} :
    fieldOr missing read field = some part ↔ Field missing Spells part field := by
  constructor
  · intro h
    cases field with
    | none =>
      cases h
      exact .absent
    | some json => exact .present ((reads json part).mp h)
  · intro h
    cases h with
    | absent => rfl
    | present spelled => exact (reads _ part).mpr spelled

/-- An optional part is read from its spellings, if nothing that is there is spelled as null. -/
theorem optional?_eq_some (reads : ∀ json part, read json = some part ↔ Spells part json)
    (there : read .null = none) {json : Json} {part : Option α} :
    optional? read json = some part ↔ OptionalSpells Spells part json := by
  by_cases absent : json = .null
  · subst absent
    constructor
    · intro h
      cases h
      exact .null
    · intro h
      cases h with
      | null => rfl
      | some spelled => cases there.symm.trans ((reads _ _).mpr spelled)
  · rw [optional?.eq_2 _ _ absent, Option.map_eq_some_iff]
    constructor
    · rintro ⟨part, found, rfl⟩
      exact .some ((reads json part).mp found)
    · intro h
      cases h with
      | null => exact absurd rfl absent
      | some spelled => exact ⟨_, (reads _ _).mpr spelled, rfl⟩

theorem fieldOr_text?_eq_some {text : String} {field : Option Json} :
    fieldOr "" text? field = some text ↔ TextField text field :=
  fieldOr_eq_some fun _ _ => text?_eq_some

theorem fieldOr_bool?_eq_some {value : Bool} {field : Option Json} :
    fieldOr false bool? field = some value ↔ BoolField value field :=
  fieldOr_eq_some fun _ _ => bool?_eq_some

theorem fieldOr_int64?_eq_some {n : Int64} {field : Option Json} :
    fieldOr 0 int64? field = some n ↔ IntegerField n field :=
  fieldOr_eq_some fun _ _ => int64?_eq_some

theorem fieldOr_bytes?_eq_some {bytes : Bytes} {field : Option Json} :
    fieldOr [] bytes? field = some bytes ↔ BytesField bytes field :=
  fieldOr_eq_some fun _ _ => bytes?_eq_some

theorem fieldOr_optional?_eq_some (reads : ∀ json part, read json = some part ↔ Spells part json)
    (there : read .null = none) {part : Option α} {field : Option Json} :
    fieldOr none (optional? read) field = some part ↔ OptionalField Spells part field :=
  fieldOr_eq_some fun _ _ => optional?_eq_some reads there

end Readers

end Json

open Json (HasFields Field TextField BoolField IntegerField BytesField OptionalField
  fieldOr_text?_eq_some fieldOr_bool?_eq_some fieldOr_int64?_eq_some fieldOr_bytes?_eq_some
  fieldOr_optional?_eq_some)

/-! ## Blobs and payloads -/

/-- The spellings of a blob. -/
def Blob.Spelled (blob : Blob) (json : Json) : Prop :=
  json.HasFields [("type_url", TextField blob.typeUrl), ("value", BytesField blob.value)]

theorem Blob.ofJson?_eq_some {json : Json} {blob : Blob} :
    Blob.ofJson? json = some blob ↔ blob.Spelled json := by
  simp only [Spelled, HasFields, List.map_cons, List.map_nil, List.forall₂_cons_left_iff,
    List.forall₂_nil_left_iff, exists_and_left, ↓existsAndEq, and_true, true_and,
    ← fieldOr_text?_eq_some, ← fieldOr_bytes?_eq_some]
  simp only [ofJson?, Option.bind_eq_bind, Option.bind_eq_some_iff]
  constructor
  · rintro ⟨values, found, h⟩
    split at h
    · simp only [Option.bind_eq_some_iff] at h
      obtain ⟨_, typeUrl, _, value, same⟩ := h
      cases same
      exact ⟨_, _, found, typeUrl, value⟩
    · cases h
  · rintro ⟨_, _, found, typeUrl, value⟩
    refine ⟨_, found, ?_⟩
    simp only [typeUrl, value, Option.bind_some]

/-- An optional blob is read from a field of it. -/
theorem Blob.fieldOr_eq_some {blob : Option Blob} {field : Option Json} :
    Json.fieldOr none (Json.optional? Blob.ofJson?) field = some blob
      ↔ OptionalField Spelled blob field :=
  fieldOr_optional?_eq_some (fun _ _ => ofJson?_eq_some) rfl

/-- The spellings of a payload. -/
def Payload.Spelled (payload : Payload) (json : Json) : Prop :=
  json.HasFields [("identity", OptionalField Blob.Spelled payload.identity),
    ("transaction", OptionalField Blob.Spelled payload.transaction),
    ("sent_at", TextField payload.sentAt), ("received_at", TextField payload.receivedAt)]

theorem Payload.ofJson?_eq_some {json : Json} {payload : Payload} :
    Payload.ofJson? json = some payload ↔ payload.Spelled json := by
  simp only [Spelled, HasFields, List.map_cons, List.map_nil, List.forall₂_cons_left_iff,
    List.forall₂_nil_left_iff, exists_and_left, ↓existsAndEq, and_true, true_and,
    ← Blob.fieldOr_eq_some, ← fieldOr_text?_eq_some]
  simp only [ofJson?, Option.bind_eq_bind, Option.bind_eq_some_iff]
  constructor
  · rintro ⟨values, found, h⟩
    split at h
    · simp only [Option.bind_eq_some_iff] at h
      obtain ⟨_, identity, _, transaction, _, sentAt, _, receivedAt, same⟩ := h
      cases same
      exact ⟨_, _, _, _, found, identity, transaction, sentAt, receivedAt⟩
    · cases h
  · rintro ⟨_, _, _, _, found, identity, transaction, sentAt, receivedAt⟩
    refine ⟨_, found, ?_⟩
    simp only [identity, transaction, sentAt, receivedAt, Option.bind_some]

/-! ## Rejections -/

/-- The spelling of a code: its number. -/
def Rejection.Code.Spelled (code : Code) (json : Json) : Prop := json = .integer code.number.toInt

theorem Rejection.Code.ofJson?_eq_some {json : Json} {code : Code} :
    Code.ofJson? json = some code ↔ code.Spelled json := by
  rw [Spelled, ← Json.int32?_eq_some, ofJson?, Option.map_eq_some_iff]
  constructor
  · rintro ⟨number, found, rfl⟩
    exact found
  · intro found
    exact ⟨code.number, found, rfl⟩

/-- A code is read from a field of it. -/
theorem Rejection.Code.fieldOr_eq_some {code : Code} {field : Option Json} :
    Json.fieldOr unhandled Code.ofJson? field = some code ↔ Field unhandled Spelled code field :=
  Json.fieldOr_eq_some fun _ _ => ofJson?_eq_some

/-- The spellings of a rejection. -/
def Rejection.Spelled (rejection : Rejection) (json : Json) : Prop :=
  json.HasFields [("code", Field .unhandled Code.Spelled rejection.code),
    ("message", TextField rejection.message), ("retry", BoolField rejection.retry),
    ("details", OptionalField Blob.Spelled rejection.details)]

theorem Rejection.ofJson?_eq_some {json : Json} {rejection : Rejection} :
    Rejection.ofJson? json = some rejection ↔ rejection.Spelled json := by
  simp only [Spelled, HasFields, List.map_cons, List.map_nil, List.forall₂_cons_left_iff,
    List.forall₂_nil_left_iff, exists_and_left, ↓existsAndEq, and_true, true_and,
    ← Code.fieldOr_eq_some, ← fieldOr_text?_eq_some, ← fieldOr_bool?_eq_some,
    ← Blob.fieldOr_eq_some]
  simp only [ofJson?, Option.bind_eq_bind, Option.bind_eq_some_iff]
  constructor
  · rintro ⟨values, found, h⟩
    split at h
    · simp only [Option.bind_eq_some_iff] at h
      obtain ⟨_, code, _, message, _, retry, _, details, same⟩ := h
      cases same
      exact ⟨_, _, _, _, found, code, message, retry, details⟩
    · cases h
  · rintro ⟨_, _, _, _, found, code, message, retry, details⟩
    refine ⟨_, found, ?_⟩
    simp only [code, message, retry, details, Option.bind_some]

/-- An optional rejection is read from a field of it. -/
theorem Rejection.fieldOr_eq_some {rejection : Option Rejection} {field : Option Json} :
    Json.fieldOr none (Json.optional? Rejection.ofJson?) field = some rejection
      ↔ OptionalField Spelled rejection field :=
  fieldOr_optional?_eq_some (fun _ _ => ofJson?_eq_some) rfl

/-! ## Signing keys and messages -/

/-- The spellings of a signing key. -/
def SigningKey.Spelled (key : SigningKey) (json : Json) : Prop :=
  json.HasFields [("version", IntegerField key.version), ("signature", BytesField key.signature),
    ("signature_algorithm", TextField key.signatureAlgorithm),
    ("public_key_algorithm", TextField key.publicKeyAlgorithm),
    ("not_before", TextField key.notBefore), ("not_after", TextField key.notAfter),
    ("revoked", BoolField key.revoked), ("data", BytesField key.data)]

theorem SigningKey.ofJson?_eq_some {json : Json} {key : SigningKey} :
    SigningKey.ofJson? json = some key ↔ key.Spelled json := by
  simp only [Spelled, HasFields, List.map_cons, List.map_nil, List.forall₂_cons_left_iff,
    List.forall₂_nil_left_iff, exists_and_left, ↓existsAndEq, and_true, true_and,
    ← fieldOr_int64?_eq_some, ← fieldOr_text?_eq_some, ← fieldOr_bool?_eq_some,
    ← fieldOr_bytes?_eq_some]
  simp only [ofJson?, Option.bind_eq_bind, Option.bind_eq_some_iff]
  constructor
  · rintro ⟨values, found, h⟩
    split at h
    · simp only [Option.bind_eq_some_iff] at h
      obtain ⟨_, version, _, signature, _, signatureAlgorithm, _, publicKeyAlgorithm, _, notBefore, _,
        notAfter, _, revoked, _, data, same⟩ := h
      cases same
      exact ⟨_, _, _, _, _, _, _, _, found, version, signature, signatureAlgorithm,
        publicKeyAlgorithm, notBefore, notAfter, revoked, data⟩
    · cases h
  · rintro ⟨_, _, _, _, _, _, _, _, found, version, signature, signatureAlgorithm, publicKeyAlgorithm,
      notBefore, notAfter, revoked, data⟩
    refine ⟨_, found, ?_⟩
    simp only [version, signature, signatureAlgorithm, publicKeyAlgorithm, notBefore, notAfter, revoked,
      data, Option.bind_some]

/-- The spellings of a message. -/
def Message.Spelled (message : Message) (json : Json) : Prop :=
  json.HasFields [("id", TextField message.id), ("payload", BytesField message.payload),
    ("encryption_key", BytesField message.encryptionKey),
    ("encryption_algorithm", TextField message.encryptionAlgorithm),
    ("hmac", BytesField message.hmac), ("hmac_secret", BytesField message.hmacSecret),
    ("hmac_algorithm", TextField message.hmacAlgorithm),
    ("error", OptionalField Rejection.Spelled message.error),
    ("timestamp", TextField message.timestamp), ("sealed", BoolField message.isSealed),
    ("public_key_signature", TextField message.publicKeySignature)]

theorem Message.ofJson?_eq_some {json : Json} {message : Message} :
    Message.ofJson? json = some message ↔ message.Spelled json := by
  simp only [Spelled, HasFields, List.map_cons, List.map_nil, List.forall₂_cons_left_iff,
    List.forall₂_nil_left_iff, exists_and_left, ↓existsAndEq, and_true, true_and,
    ← fieldOr_text?_eq_some, ← fieldOr_bool?_eq_some, ← fieldOr_bytes?_eq_some,
    ← Rejection.fieldOr_eq_some]
  simp only [ofJson?, Option.bind_eq_bind, Option.bind_eq_some_iff]
  constructor
  · rintro ⟨values, found, h⟩
    split at h
    · simp only [Option.bind_eq_some_iff] at h
      obtain ⟨_, id, _, payload, _, encryptionKey, _, encryptionAlgorithm, _, hmac, _, hmacSecret, _,
        hmacAlgorithm, _, error, _, timestamp, _, isSealed, _, publicKeySignature, same⟩ := h
      cases same
      exact ⟨_, _, _, _, _, _, _, _, _, _, _, found, id, payload, encryptionKey, encryptionAlgorithm,
        hmac, hmacSecret, hmacAlgorithm, error, timestamp, isSealed, publicKeySignature⟩
    · cases h
  · rintro ⟨_, _, _, _, _, _, _, _, _, _, _, found, id, payload, encryptionKey, encryptionAlgorithm,
      hmac, hmacSecret, hmacAlgorithm, error, timestamp, isSealed, publicKeySignature⟩
    refine ⟨_, found, ?_⟩
    simp only [id, payload, encryptionKey, encryptionAlgorithm, hmac, hmacSecret, hmacAlgorithm, error,
      timestamp, isSealed, publicKeySignature, Option.bind_some]

/-! ## The text of a message -/

namespace Json

/-- What is written for what a text is read as. -/
def rewrite {α : Type} (write : α → Json) (read : Json → Option α) (text : String) : Option String :=
  ((parse? text).bind read).map fun a => (write a).compact

/-- What the JSON text of a type is: all that is written is read back, a text is read as what it spells,
and what is written for a text that was read stays as it is when that is done again. -/
structure IsWireForm {α : Type} (write : α → Json) (read : Json → Option α)
    (Spelled : α → Json → Prop) : Prop where
  back : ∀ a, (parse? (write a).compact).bind read = some a
  spelled : ∀ text a, (parse? text).bind read = some a ↔ ∃ json, parse? text = some json ∧ Spelled a json
  settled : ∀ text again, rewrite write read text = some again →
    rewrite write read again = some again

/-- A type has such a text if its values are read back from readable JSON and from their spellings only. -/
theorem IsWireForm.of_reads {α : Type} {write : α → Json} {read : Json → Option α}
    {Spelled : α → Json → Prop} (readable : ∀ a, (write a).Readable)
    (read_write : ∀ a, read (write a) = some a)
    (read_eq_some : ∀ json a, read json = some a ↔ Spelled a json) : IsWireForm write read Spelled := by
  have back (a : α) : (parse? (write a).compact).bind read = some a := by
    rw [(readable a).parse?_compact, Option.bind_some, read_write]
  refine ⟨back, ?_, ?_⟩
  · intro text a
    simp only [Option.bind_eq_some_iff, read_eq_some]
  · intro text again rewritten
    obtain ⟨a, -, rfl⟩ := Option.map_eq_some_iff.mp rewritten
    rw [rewrite, back, Option.map_some]

end Json

/-- **The JSON text of every message type is read back, and only its spellings are read.** A byte field of a
text that is read holds the padded base64 of its octets, for which there is no second form: groups of four
characters of the alphabet, the last group filled up. -/
theorem isWireForm_of_messages :
    Json.IsWireForm Message.toJson Message.ofJson? Message.Spelled
      ∧ Json.IsWireForm Payload.toJson Payload.ofJson? Payload.Spelled
      ∧ Json.IsWireForm Blob.toJson Blob.ofJson? Blob.Spelled
      ∧ Json.IsWireForm Rejection.toJson Rejection.ofJson? Rejection.Spelled
      ∧ Json.IsWireForm Rejection.Code.toJson Rejection.Code.ofJson? Rejection.Code.Spelled
      ∧ Json.IsWireForm SigningKey.toJson SigningKey.ofJson? SigningKey.Spelled
      ∧ (∀ text bytes, Text.Base64.decode? text = some bytes ↔ text = Text.Base64.encode bytes)
      ∧ ∀ bytes, (Text.Base64.encode bytes).length = 4 * ((bytes.length + 2) / 3)
        ∧ ∀ c ∈ Text.Base64.encode bytes, c = '=' ∨ ∃ value < 64, c = Text.Base64.symbol value := by
  refine ⟨?message, ?payload, ?blob, ?rejection, ?code, ?key, ?canonical, ?groups⟩
  case message =>
    exact .of_reads Message.readable_toJson Message.ofJson?_toJson fun _ _ => Message.ofJson?_eq_some
  case payload =>
    exact .of_reads Payload.readable_toJson Payload.ofJson?_toJson fun _ _ => Payload.ofJson?_eq_some
  case blob =>
    exact .of_reads Blob.readable_toJson Blob.ofJson?_toJson fun _ _ => Blob.ofJson?_eq_some
  case rejection =>
    exact .of_reads Rejection.readable_toJson Rejection.ofJson?_toJson
      fun _ _ => Rejection.ofJson?_eq_some
  case code =>
    exact .of_reads (fun code => .integer code.number.toInt) Rejection.Code.ofJson?_toJson
      fun _ _ => Rejection.Code.ofJson?_eq_some
  case key =>
    exact .of_reads SigningKey.readable_toJson SigningKey.ofJson?_toJson
      fun _ _ => SigningKey.ofJson?_eq_some
  case canonical =>
    intro text bytes
    exact Text.Base64.decode?_eq_some_iff
  case groups =>
    intro bytes
    exact ⟨Text.Base64.length_encode bytes, fun c => Text.Base64.mem_encode⟩

end SealedTransfer
