/-
# SealedTransfer.Proofs.Transfer.Downgrading — a sealed message does not pass for an unsealed one

The flag that tells a sealed message from an unsealed one is a field like any other, so whoever carries the
message can clear it. What stands for the key is then a wrapped one. It is as long as the modulus that it was
wrapped for, and a modulus with room for the padding is longer than any key of the cipher, while the name of
the algorithm still asks for the length of the key inside. The two contradict each other, and they are
compared before a cipher is made of the secrets: the message is refused, and what the wrapped secrets,
the payload and the tag are has no part in it.
-/
import SealedTransfer.Proofs.Transfer.Exchange
import SealedTransfer.Proofs.Transfer.Relabelling

namespace SealedTransfer

namespace Message

/-- A message that names the length of a usable key, and has in the key's place what is longer than the
padding of a wrapped one. -/
structure WrapsKey (message : Message) : Prop where
  complete : message.Complete
  hmacAlgorithm : message.hmacAlgorithm = PayloadCipher.hmacAlgorithm
  sized : ∃ length, Aes.IsKeyLength length ∧
    message.encryptionAlgorithm = PayloadCipher.algorithmOfLength length
  padded : 2 * Rsa.digestLength + 2 ≤ message.encryptionKey.length

/-- The padding alone is longer than any key. -/
theorem WrapsKey.not_isKeyLength {message : Message} (h : message.WrapsKey) :
    ¬ Aes.IsKeyLength message.encryptionKey.length := by
  have padded := h.padded
  unfold Rsa.digestLength at padded
  rintro (short | short | short) <;> omega

/-- A wrapped key never has the length that the name asks for. -/
theorem WrapsKey.checkKeyLength {message : Message} (h : message.WrapsKey) :
    ∃ rejection : Rejection, rejection.code = .invalidKey ∧ rejection.retry = false ∧
      message.checkKeyLength = .error (.rejected rejection) := by
  obtain ⟨length, usable, named⟩ := h.sized
  have sized : (message.encryptionAlgorithm, some length) ∈ PayloadCipher.algorithms := by
    rw [named]
    exact PayloadCipher.mem_algorithms_of_isKeyLength usable
  apply checkKeyLength_of_ne sized
  rintro rfl
  exact h.not_isKeyLength usable

/-- The algorithms of such a message are supported. -/
theorem WrapsKey.supported {message : Message} (h : message.WrapsKey) : message.Supported := by
  obtain ⟨length, -, named⟩ := h.sized
  have names : message.Names length := ⟨.inl named, h.hmacAlgorithm⟩
  exact names.supported

end Message

namespace Transfer

/-- What is sealed names the length of the key that is wrapped in it. -/
theorem wrapsKey_of_sealPayload {occasion : Occasion} {payload : Payload} {options : Options}
    {message : Message} {entropy rest : Entropy}
    (closed : (sealPayload occasion payload options).runFrom entropy = (.ok message, rest)) :
    message.WrapsKey := by
  obtain ⟨new, _, unsealed, _, sealed, -, encrypted, wrapped, rfl⟩ :=
    steps_of_sealUnchecked (sealUnchecked_of_sealPayload closed)
  have sealing := advances_of_advance wrapped
  have complete := sealing.protected_of_sealing.complete
  -- the encryption wrote the names and the key, and the sealing kept the names and wrapped the key
  obtain ⟨clear, equipped, ciphertext⟩ := advances_of_advance encrypted
  obtain ⟨-⟩ | ⟨guarded, chosen, wrappedKey, wrappedSecret⟩ := sealing
  refine ⟨complete, rfl, ⟨_, ciphertext.isKeyLength, rfl⟩, ?_⟩
  exact Nat.le_trans (by omega) wrappedKey.room

/-- With the flag cleared, a message that wraps its key is refused for the length of what stands for it,
whatever else it holds. -/
theorem openPayload_of_wrapsKey {message : Message} (wraps : message.WrapsKey)
    (unsealed : message.isSealed = false) {options : Options} (named : options.id ≠ some "")
    {failure : Failure} (refused : message.checkKeyLength = .error failure) {envelope : Envelope}
    {entropy drawn : Entropy}
    (wrapped : (Envelope.wrap message options).runFrom entropy = (.ok envelope, drawn)) :
    (openPayload message options).runFrom entropy = (.error failure, drawn) := by
  obtain ⟨cipher, sealCipher, applied, -⟩ := Options.runFrom_apply_eq_ok.mp wrapped
  have complete := wraps.complete.applyToMessage (options.getD_id_ne_empty named wraps.complete.id)
  have stands : (options.applyToMessage message).Reveals sealCipher message.encryptionKey
      message.hmacSecret := .unsealed unsealed
  have refused' : ((options.applyToMessage message).revealed message.encryptionKey
      message.hmacSecret).checkKeyLength = .error failure :=
    Eq.trans (message.checkKeyLength_congr rfl rfl) refused
  rw [runFrom_openPayload_of_applied applied]
  exact openEnvelope_of_refused_key rfl complete wraps.supported stands complete.encryptionKey
    complete.hmacSecret refused' drawn

/-- **Clearing the flag of a sealed message opens nothing.** What stands for the key of a sealed message has
no length of a key. With the flag cleared the message is refused for good, with one rejection for all options
that leave it with a name, and for all payloads, tags and secrets that could stand in it; of what stands for
the key only the length is looked at. -/
theorem openPayload_of_cleared_flag {occasion : Occasion} {payload : Payload} {options : Options}
    {message : Message} {entropy rest : Entropy}
    (closed : (sealPayload occasion payload options).runFrom entropy = (.ok message, rest)) :
    ¬ Aes.IsKeyLength message.encryptionKey.length ∧
    ∃ rejection : Rejection, rejection.code = .invalidKey ∧ rejection.retry = false ∧
      ∀ (opening : Options) (envelope : Envelope) (source drawn : Entropy), opening.id ≠ some "" →
        (Envelope.wrap { message with isSealed := false } opening).runFrom source
          = (.ok envelope, drawn) →
        (openPayload { message with isSealed := false } opening).runFrom source
          = (.error (.rejected rejection), drawn) ∧
        ∀ payload encryptionKey hmac hmacSecret : Bytes, payload ≠ [] →
          encryptionKey.length = message.encryptionKey.length → hmac ≠ [] → hmacSecret ≠ [] →
          (openPayload { message with
            isSealed := false, payload, encryptionKey, hmac, hmacSecret } opening).runFrom source
              = (.error (.rejected rejection), drawn) := by
  have wraps := wrapsKey_of_sealPayload closed
  obtain ⟨rejection, code, final, refused⟩ := wraps.checkKeyLength
  have wraps' : Message.WrapsKey { message with isSealed := false } :=
    ⟨{ wraps.complete with }, wraps.hmacAlgorithm, wraps.sized, wraps.padded⟩
  refine ⟨wraps.not_isKeyLength, rejection, code, final, ?_⟩
  intro opening envelope source drawn named wrapped
  refine ⟨openPayload_of_wrapsKey wraps' rfl named refused wrapped, ?_⟩
  intro payload encryptionKey hmac hmacSecret hasPayload sameLength hasTag hasSecret
  have padded : 2 * Rsa.digestLength + 2 ≤ encryptionKey.length := sameLength ▸ wraps.padded
  have hasKey : encryptionKey ≠ [] := by
    rintro rfl
    cases padded
  have complete : Message.Complete { message with
      isSealed := false, payload, encryptionKey, hmac, hmacSecret } :=
    { wraps.complete with
      payload := hasPayload
      encryptionKey := hasKey
      hmac := hasTag
      hmacSecret := hasSecret }
  have replaced : Message.WrapsKey { message with
      isSealed := false, payload, encryptionKey, hmac, hmacSecret } :=
    ⟨complete, wraps.hmacAlgorithm, wraps.sized, padded⟩
  -- the options apply to the message with other contents as they do to the message itself
  obtain ⟨cipher, sealCipher, applied, -⟩ := Options.runFrom_apply_eq_ok.mp wrapped
  have sameRefusal : Message.checkKeyLength { message with
      isSealed := false, payload, encryptionKey, hmac, hmacSecret } = .error (.rejected rejection) :=
    Eq.trans (message.checkKeyLength_congr rfl sameLength) refused
  exact openPayload_of_wrapsKey replaced rfl named sameRefusal
    (Options.runFrom_apply_eq_ok.mpr ⟨cipher, sealCipher, applied, rfl⟩)

/-- A sealed payload with its flag cleared, opened without a key. -/
theorem refused_with_cleared_flag :
    ∃ message rest rejection,
      (sealPayload ⟨⟨0⟩, .epoch⟩ completePayload
        (Options.none.set (.sealingKey (.rsa Rsa.PrivateKey.mersenne.publicHalf)))).runFrom
          ⟨fun _ => 1, 0, none⟩ = (.ok message, rest) ∧
      rejection.code = .invalidKey ∧ rejection.retry = false ∧
      (openPayload { message with isSealed := false } .none).runFrom ⟨fun _ => 0, 0, some 0⟩
        = (.error (.rejected rejection), ⟨fun _ => 0, 0, some 0⟩) := by
  obtain ⟨message, rest, closed⟩ := exists_sealed_completePayload
  obtain ⟨-, rejection, code, final, refuses⟩ := openPayload_of_cleared_flag closed
  obtain ⟨refused, -⟩ := refuses .none _ ⟨fun _ => 0, 0, some 0⟩ _ nofun rfl
  exact ⟨message, rest, rejection, closed, code, final, refused⟩

end Transfer

end SealedTransfer
