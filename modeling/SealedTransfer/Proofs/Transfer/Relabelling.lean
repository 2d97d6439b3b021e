/-
# SealedTransfer.Proofs.Transfer.Relabelling — what the names of the algorithms decide

The names are looked at before any key is. A protected message that names what is not supported gets one
and the same answer, whoever opens it and whatever its secrets and its payload are, so the answer tells
nothing about them. The names that are supported differ only in the length of the key that they ask for:
a message that opens still opens under every name that fits its key, and under the others it is the key
that is refused.
-/
import SealedTransfer.Proofs.Transfer.Authentic

namespace SealedTransfer

namespace Message

variable {message : Message} {key secret : Bytes} {name : String}

/-! ## Other names for the same content -/

/-- The same message under another name of its encryption. -/
def relabelled (message : Message) (name : String) : Message :=
  { message with encryptionAlgorithm := name }

theorem Complete.relabelled (h : message.Complete) (named : name ≠ "") :
    (message.relabelled name).Complete :=
  { h with encryptionAlgorithm := named }

theorem Reveals.relabelled {sealCipher : Option SealCipher}
    (h : message.Reveals sealCipher key secret) (name : String) :
    (message.relabelled name).Reveals sealCipher key secret :=
  h.congr rfl rfl rfl

/-- A message holds its payload under every name that is one of ciphers with its key. -/
theorem Holds.relabelled {payload : Payload} (h : message.Holds key secret payload)
    (fits : name = PayloadCipher.algorithmOfLength key.length ∨ name = PayloadCipher.aesAny) :
    (message.relabelled name).Holds key secret payload :=
  { h with names := ⟨fits, h.names.2⟩ }

end Message

namespace Transfer

/-! ## Unsupported algorithms -/

/-- Unsupported algorithms are refused before any key is used. -/
theorem openEnvelope_of_unsupported {envelope : Envelope} {failure : Failure}
    (unreadable : envelope.payload = none) (complete : envelope.message.Complete)
    (refused : envelope.message.checkAlgorithms = .error failure) (entropy : Entropy) :
    (openEnvelope envelope).runFrom entropy = (.error failure, entropy) := by
  have guarded : envelope.Protected envelope.message.isSealed := ⟨unreadable, complete, rfl⟩
  have surfaced := surfaceRejection_of_protected guarded
  rw [openEnvelope, surfaced, Drawing.runFrom_bind_of_ok (Drawing.runFrom_ofExcept _ _)]
  cases isSealed : envelope.message.isSealed with
  | true =>
    rw [isSealed] at guarded
    have expected : envelope.expectState Transition.unsealing.source = .ok () :=
      (Envelope.expectState_eq_ok (by decide)).mpr (Envelope.state_payload_eq_sealed.mpr guarded)
    have unsealing : (unsealIfSealed envelope).runFrom entropy = (.error failure, entropy) := by
      rw [unsealIfSealed, if_pos (Envelope.state_payload_eq_sealed.mpr guarded),
        runFrom_advance_unsealing, Envelope.unsealed, expected, refused]
      rfl
    exact Drawing.runFrom_bind_of_error unsealing
  | false =>
    rw [isSealed] at guarded
    have unsealing : unsealIfSealed envelope = pure envelope := by
      rw [unsealIfSealed, guarded.state]
      rfl
    have decryption : (advance .decryption envelope).runFrom entropy
        = (.error failure, entropy) := by
      rw [runFrom_advance_decryption, Envelope.runFrom_decrypted guarded, refused]
      rfl
    rw [unsealing, Drawing.runFrom_bind_of_ok (Drawing.runFrom_pure _ _),
      Drawing.runFrom_bind_of_error decryption]

/-! ## Supported algorithms -/

section Supported

variable {envelope : Envelope} {key secret : Bytes}

/-- A key that does not have the length that is asked for is refused after the secrets are revealed, and
before a cipher is made of them. -/
theorem openEnvelope_of_refused_key (unreadable : envelope.payload = none)
    (complete : envelope.message.Complete) (supported : envelope.message.Supported)
    (reveals : envelope.message.Reveals envelope.sealCipher key secret) (hasKey : key ≠ [])
    (hasSecret : secret ≠ []) {failure : Failure}
    (refused : (envelope.message.revealed key secret).checkKeyLength = .error failure)
    (entropy : Entropy) : (openEnvelope envelope).runFrom entropy = (.error failure, entropy) := by
  have guarded := protected_revealed envelope unreadable complete hasKey hasSecret
  have checked : (envelope.message.revealed key secret).checkAlgorithms = .ok () :=
    Message.checkAlgorithms_eq_ok.mpr supported
  have decryption : (Envelope.decrypted { envelope with
      message := envelope.message.revealed key secret }).runFrom entropy
        = (.error failure, entropy) := by
    rw [Envelope.runFrom_decrypted guarded, checked, refused]
    rfl
  rw [runFrom_openEnvelope unreadable complete supported reveals,
    Drawing.runFrom_bind_of_error decryption]

/-- A name that asks for a key of another length is refused after the secrets are revealed. -/
theorem openEnvelope_of_unfit (unreadable : envelope.payload = none)
    (complete : envelope.message.Complete) (supported : envelope.message.Supported)
    (reveals : envelope.message.Reveals envelope.sealCipher key secret) (hasKey : key ≠ [])
    (hasSecret : secret ≠ []) {length : Nat}
    (sized : (envelope.message.encryptionAlgorithm, some length) ∈ PayloadCipher.algorithms)
    (different : key.length ≠ length) (entropy : Entropy) :
    ∃ rejection : Rejection, rejection.code = .invalidKey ∧ rejection.retry = false ∧
      (openEnvelope envelope).runFrom entropy = (.error (.rejected rejection), entropy) := by
  have sized' : ((envelope.message.revealed key secret).encryptionAlgorithm, some length)
      ∈ PayloadCipher.algorithms := sized
  obtain ⟨rejection, code, final, refused⟩ := Message.checkKeyLength_of_ne sized' different
  exact ⟨rejection, code, final, openEnvelope_of_refused_key unreadable complete supported reveals hasKey
    hasSecret refused entropy⟩

end Supported

/-! ## Received messages -/

section Received

variable {message : Message} {options : Options} {cipher : Option PayloadCipher}
  {sealCipher : Option SealCipher} {entropy drawn : Entropy}

/-- A message with unsupported algorithms is refused under all options that leave it with a name. -/
theorem openPayload_of_unsupported (complete : message.Complete)
    (named : options.id.getD message.id ≠ "") {failure : Failure}
    (refused : message.checkAlgorithms = .error failure)
    (applied : options.ciphers.runFrom entropy = (.ok (cipher, sealCipher), drawn)) :
    (openPayload message options).runFrom entropy = (.error failure, drawn) := by
  rw [runFrom_openPayload_of_applied applied]
  exact openEnvelope_of_unsupported rfl (complete.applyToMessage named) refused drawn

variable {key secret : Bytes} {payload : Payload}

/-- A message that opens still opens under a name that fits its key. -/
theorem openPayload_relabelled
    (applied : options.ciphers.runFrom entropy = (.ok (cipher, sealCipher), drawn))
    (complete : (options.applyToMessage message).Complete)
    (reveals : (options.applyToMessage message).Reveals sealCipher key secret) (hasKey : key ≠ [])
    (hasSecret : secret ≠ []) (held : (options.applyToMessage message).Holds key secret payload)
    {name : String}
    (fits : name = PayloadCipher.algorithmOfLength key.length ∨ name = PayloadCipher.aesAny) :
    (openPayload (message.relabelled name) options).runFrom entropy = (.ok payload, drawn) := by
  have named : name ≠ "" := by
    rcases fits with rfl | rfl
    · exact PayloadCipher.algorithmOfLength_ne_empty _
    · decide
  rw [runFrom_openPayload_of_applied applied]
  exact (runFrom_openEnvelope_eq_ok rfl).mpr ⟨⟨complete.relabelled named, key, secret,
    reveals.relabelled name, hasKey, hasSecret, held.relabelled fits⟩, rfl⟩

/-- Under a name of another length its key is refused. -/
theorem openPayload_relabelled_of_ne
    (applied : options.ciphers.runFrom entropy = (.ok (cipher, sealCipher), drawn))
    (complete : (options.applyToMessage message).Complete)
    (reveals : (options.applyToMessage message).Reveals sealCipher key secret) (hasKey : key ≠ [])
    (hasSecret : secret ≠ []) (held : (options.applyToMessage message).Holds key secret payload)
    {name : String} {length : Nat} (sized : (name, some length) ∈ PayloadCipher.algorithms)
    (different : key.length ≠ length) :
    ∃ rejection : Rejection, rejection.code = .invalidKey ∧ rejection.retry = false ∧
      (openPayload (message.relabelled name) options).runFrom entropy
        = (.error (.rejected rejection), drawn) := by
  have fitting := Message.eq_algorithmOfLength_of_mem sized
  have named : name ≠ "" := by
    rw [fitting]
    exact PayloadCipher.algorithmOfLength_ne_empty length
  have names : (Message.relabelled (options.applyToMessage message) name).Names length :=
    ⟨.inl fitting, held.names.2⟩
  rw [runFrom_openPayload_of_applied applied]
  exact openEnvelope_of_unfit rfl (complete.relabelled named) names.supported
    (reveals.relabelled name) hasKey hasSecret sized different drawn

end Received

/-- **What the names of the algorithms decide.** A sealed or unsealed message with a name that is not
supported is refused for good, with one rejection for all options that leave its name alone and for all
payloads, tags and secrets that are not empty. A message that opens does so under the name that leaves
the length of the key open and under the name of the length that the key has; under a name of another
length the key is refused, for good. -/
theorem openPayload_decided_by_names :
    (∀ message : Message,
      message.status.payload = .sealed ∨ message.status.payload = .unsealed →
      ¬ message.Supported →
      ∃ rejection : Rejection, rejection.code = .unhandledAlgorithm ∧ rejection.retry = false ∧
        ∀ (options : Options) (payload encryptionKey hmac hmacSecret : Bytes) (envelope : Envelope)
          (entropy rest : Entropy), options.id.getD message.id = message.id →
          payload ≠ [] → encryptionKey ≠ [] → hmac ≠ [] → hmacSecret ≠ [] →
          (Envelope.wrap { message with payload, encryptionKey, hmac, hmacSecret } options).runFrom
            entropy = (.ok envelope, rest) →
          (openPayload { message with payload, encryptionKey, hmac, hmacSecret } options).runFrom
            entropy = (.error (.rejected rejection), rest)) ∧
    (∀ (message : Message) (options : Options) (payload : Payload) (entropy rest : Entropy),
      (openPayload message options).runFrom entropy = (.ok payload, rest) →
      ∃ sealCipher key secret, options.sealCipher.mapM SealChoice.cipher = .ok sealCipher ∧
        message.Reveals sealCipher key secret ∧
        (openPayload (message.relabelled PayloadCipher.aesAny) options).runFrom
          entropy = (.ok payload, rest) ∧
        ∀ (name : String) (length : Nat), (name, some length) ∈ PayloadCipher.algorithms →
          (key.length = length →
            (openPayload (message.relabelled name) options).runFrom entropy
              = (.ok payload, rest)) ∧
          (key.length ≠ length →
            ∃ rejection : Rejection, rejection.code = .invalidKey ∧ rejection.retry = false ∧
              (openPayload (message.relabelled name) options).runFrom entropy
                = (.error (.rejected rejection), rest))) := by
  constructor
  · intro message status unsupported
    obtain ⟨rejection, code, final, refused⟩ := Message.checkAlgorithms_of_unsupported unsupported
    refine ⟨rejection, code, final, ?_⟩
    intro options payload encryptionKey hmac hmacSecret envelope entropy rest sameName hasPayload
      hasKey hasTag hasSecret wrapped
    obtain ⟨cipher, sealCipher, applied, -⟩ := Options.runFrom_apply_eq_ok.mp wrapped
    have complete := Message.complete_of_status status.symm
    have complete' : Message.Complete { message with payload, encryptionKey, hmac, hmacSecret } :=
      { complete with
        payload := hasPayload
        encryptionKey := hasKey
        hmac := hasTag
        hmacSecret := hasSecret }
    have named : options.id.getD message.id ≠ "" := by
      rw [sameName]
      exact complete.id
    exact openPayload_of_unsupported complete' named refused applied
  · intro message options payload entropy rest opened
    obtain ⟨cipher, sealCipher, drawn, applied, opened⟩ := applied_of_openPayload opened
    obtain ⟨⟨complete, key, secret, reveals, hasKey, hasSecret, held⟩, rfl⟩ :=
      (runFrom_openEnvelope_eq_ok rfl).mp opened
    refine ⟨sealCipher, key, secret, Options.sealCipher_of_ciphers applied,
      reveals.congr rfl rfl rfl, ?_, ?_⟩
    · exact openPayload_relabelled applied complete reveals hasKey hasSecret held (.inr rfl)
    intro name length sized
    constructor
    · rintro rfl
      have fitting := Message.eq_algorithmOfLength_of_mem sized
      exact openPayload_relabelled applied complete reveals hasKey hasSecret held (.inl fitting)
    · intro different
      exact openPayload_relabelled_of_ne applied complete reveals hasKey hasSecret held sized different

/-- The sample under a name that is not supported, and under two that are. -/
theorem sample_decided_by_names :
    (∃ rejection : Rejection, rejection.code = .unhandledAlgorithm ∧ rejection.retry = false ∧
      (openPayload { sampleMessage.relabelled "ROT13" with
        payload := [1], encryptionKey := [2], hmac := [3], hmacSecret := [4] } .none).runFrom
          ⟨fun _ => 0, 0, some 0⟩ = (.error (.rejected rejection), ⟨fun _ => 0, 0, some 0⟩)) ∧
    (openPayload (sampleMessage.relabelled PayloadCipher.aesAny) .none).runFrom
      ⟨fun _ => 0, 0, some 0⟩ = (.ok .empty, ⟨fun _ => 0, 0, some 0⟩) ∧
    (∃ rejection : Rejection, rejection.code = .invalidKey ∧ rejection.retry = false ∧
      (openPayload (sampleMessage.relabelled PayloadCipher.aes256) .none).runFrom
        ⟨fun _ => 0, 0, some 0⟩ = (.error (.rejected rejection), ⟨fun _ => 0, 0, some 0⟩)) := by
  obtain ⟨gate, labels⟩ := openPayload_decided_by_names
  refine ⟨?_, ?_⟩
  · have complete := complete_sampleMessage.relabelled (show "ROT13" ≠ "" by decide)
    have unsupported : ¬ (sampleMessage.relabelled "ROT13").Supported := by
      rintro ⟨named, -⟩
      revert named
      decide
    obtain ⟨rejection, code, final, refuses⟩ :=
      gate (sampleMessage.relabelled "ROT13") (.inr complete.status_payload) unsupported
    refine ⟨rejection, code, final, ?_⟩
    exact refuses .none [1] [2] [3] [4] _ _ _ rfl (by decide) (by decide) (by decide) (by decide) rfl
  · obtain ⟨_, key, _, _, reveals, anyLength, sized⟩ :=
      labels _ _ _ _ _ (openPayload_sampleMessage ⟨fun _ => 0, 0, some 0⟩)
    refine ⟨anyLength, (sized PayloadCipher.aes256 32 (by decide)).2 ?_⟩
    -- the key stands in the message, since it is not sealed
    cases reveals with
    | unsealed => decide
    | sealed isSealed => cases isSealed

end Transfer

end SealedTransfer
