/-
# SealedTransfer.Proofs.Transfer.Opening — which messages open

A message opens exactly if it is complete, its secrets can be had, neither of them is empty, and it
holds a payload under them. Opening draws nothing.
-/
import SealedTransfer.Proofs.Envelope.Options
import SealedTransfer.Proofs.Transfer.Advance

namespace SealedTransfer

/-- A message stays complete under options that leave it with a name. -/
theorem Message.Complete.applyToMessage {message : Message} (h : message.Complete) {options : Options}
    (named : options.id.getD message.id ≠ "") : (options.applyToMessage message).Complete :=
  { h with id := named, timestamp := Options.timestamp_applyToMessage h.timestamp }

/-! ## Secrets of a received message -/

namespace Message

/-- The key and the secret that a message reveals: those that stand in it, unwrapped with the cipher of
secrets if it is sealed. -/
inductive Reveals (message : Message) : Option SealCipher → Bytes → Bytes → Prop
  | unsealed {sealCipher : Option SealCipher} (unsealed : message.isSealed = false) :
      Reveals message sealCipher message.encryptionKey message.hmacSecret
  | sealed {cipher : SealCipher} {key secret : Bytes} (sealed : message.isSealed = true)
      (unwrappedKey : cipher.decrypt message.encryptionKey = .ok key)
      (unwrappedSecret : cipher.decrypt message.hmacSecret = .ok secret) :
      Reveals message (some cipher) key secret

/-- What a message reveals depends on its secrets and on whether they are wrapped. -/
theorem Reveals.congr {message other : Message} {sealCipher : Option SealCipher} {key secret : Bytes}
    (h : message.Reveals sealCipher key secret) (isSealed : other.isSealed = message.isSealed)
    (sameKey : other.encryptionKey = message.encryptionKey)
    (sameSecret : other.hmacSecret = message.hmacSecret) : other.Reveals sealCipher key secret := by
  cases h with
  | unsealed unsealed =>
    rw [← sameKey, ← sameSecret]
    exact .unsealed (isSealed.trans unsealed)
  | sealed sealed unwrappedKey unwrappedSecret =>
    rw [← sameKey] at unwrappedKey
    rw [← sameSecret] at unwrappedSecret
    exact .sealed (isSealed.trans sealed) unwrappedKey unwrappedSecret

/-- What a message reveals does not depend on its payload and its tag. -/
theorem Reveals.withPayload {message : Message} {sealCipher : Option SealCipher} {key secret : Bytes}
    (h : message.Reveals sealCipher key secret) (ciphertext tag : Bytes) :
    { message with payload := ciphertext, hmac := tag }.Reveals sealCipher key secret :=
  h.congr rfl rfl rfl

/-- A message with the secrets that it reveals. -/
def revealed (message : Message) (key secret : Bytes) : Message :=
  message.withSecrets key secret false (if message.isSealed then "" else message.publicKeySignature)

/-- A message that is not sealed stands as it is revealed. -/
theorem revealed_of_unsealed {message : Message} (unsealed : message.isSealed = false) :
    message.revealed message.encryptionKey message.hmacSecret = message := by
  obtain ⟨⟩ := message
  cases unsealed
  rfl

end Message

namespace Transfer

/-! ## Steps on the way -/

/-- A message with a payload is never its own outcome. -/
theorem surfaceRejection_of_protected {envelope : Envelope} {isSealed : Bool}
    (h : envelope.Protected isSealed) : surfaceRejection envelope = .ok () := by
  have some : envelope.state ≠ .error := by
    intro only
    -- a rejection alone leaves the payload's state unknown
    have state := h.state
    rw [only] at state
    cases isSealed <;> cases state
  rw [surfaceRejection, if_neg some]

/-- A message with nothing but a rejection is refused with it. -/
theorem surfaceRejection_of_error {envelope : Envelope} {rejection : Rejection}
    (only : envelope.state = .error) (carried : envelope.rejection? = some rejection) :
    surfaceRejection envelope = .error (.rejected rejection) := by
  rw [surfaceRejection, if_pos only, carried]

/-- Nothing surfaces from a message with anything else. -/
theorem surfaceRejection_of_ne_error {envelope : Envelope} (other : envelope.state ≠ .error) :
    surfaceRejection envelope = .ok () := by
  rw [surfaceRejection, if_neg other]

section Received

variable {envelope : Envelope} {key secret : Bytes}

/-- Unsealing a received message, if it is sealed, reveals its secrets. -/
theorem runFrom_unsealIfSealed (unreadable : envelope.payload = none)
    (complete : envelope.message.Complete) (supported : envelope.message.Supported)
    (reveals : envelope.message.Reveals envelope.sealCipher key secret) (entropy : Entropy) :
    (unsealIfSealed envelope).runFrom entropy
      = (.ok { envelope with message := envelope.message.revealed key secret }, entropy) := by
  obtain ⟨message, payload, cipher, sealCipher⟩ := envelope
  have guarded : Envelope.Protected ⟨message, payload, cipher, sealCipher⟩ message.isSealed :=
    ⟨unreadable, complete, rfl⟩
  rw [unsealIfSealed, guarded.state]
  cases reveals with
  | unsealed unsealed =>
    change message.isSealed = false at unsealed
    simp [unsealed, Message.revealed_of_unsealed unsealed]
  | @sealed cipher _ _ sealed unwrappedKey unwrappedSecret =>
    change message.isSealed = true at sealed
    rw [sealed] at guarded
    simp only [Message.revealed, sealed, if_true]
    rw [runFrom_advance_unsealing,
      Envelope.unsealed_eq_ok.mpr (.unsealing guarded supported rfl unwrappedKey unwrappedSecret)]

/-- With the secrets revealed, the payload is protected by them in the clear. -/
theorem protected_revealed (envelope : Envelope) (unreadable : envelope.payload = none)
    (complete : envelope.message.Complete) (hasKey : key ≠ []) (hasSecret : secret ≠ []) :
    Envelope.Protected { envelope with message := envelope.message.revealed key secret } false :=
  ⟨unreadable, complete.withSecrets hasKey hasSecret _ _, rfl⟩

/-- Opening comes down to decrypting with the secrets revealed. -/
theorem runFrom_openEnvelope (unreadable : envelope.payload = none)
    (complete : envelope.message.Complete) (supported : envelope.message.Supported)
    (reveals : envelope.message.Reveals envelope.sealCipher key secret) (entropy : Entropy) :
    (openEnvelope envelope).runFrom entropy =
      (do
        let clear ← Envelope.decrypted { envelope with message := envelope.message.revealed key secret }
        Envelope.faulting (Drawing.ofExcept clear.clearPayload) : Drawing Failure Payload).runFrom
          entropy := by
  have guarded : envelope.Protected envelope.message.isSealed := ⟨unreadable, complete, rfl⟩
  have surfaced := surfaceRejection_of_protected guarded
  have unsealed := runFrom_unsealIfSealed unreadable complete supported reveals entropy
  rw [openEnvelope, surfaced, Drawing.runFrom_bind_of_ok (Drawing.runFrom_ofExcept _ _),
    Drawing.runFrom_bind_of_ok unsealed, Drawing.runFrom_bind, Drawing.runFrom_bind,
    runFrom_advance_decryption]

/-- **Which messages open.** -/
theorem runFrom_openEnvelope_eq_ok (unreadable : envelope.payload = none) {payload : Payload}
    {entropy rest : Entropy} :
    (openEnvelope envelope).runFrom entropy = (.ok payload, rest) ↔
      (envelope.message.Complete ∧ ∃ key secret,
        envelope.message.Reveals envelope.sealCipher key secret ∧ key ≠ [] ∧ secret ≠ [] ∧
          envelope.message.Holds key secret payload) ∧ entropy = rest := by
  constructor
  · intro h
    simp only [openEnvelope, Drawing.runFrom_bind_eq_ok, Drawing.runFrom_ofExcept_eq_ok,
      runFrom_advance_decryption, Envelope.runFrom_decrypted_eq_ok,
      Envelope.runFrom_faulting_eq_ok, Envelope.clearPayload_eq_ok] at h
    obtain ⟨_, _, ⟨-, rfl⟩, unsealed, _, opened, clear, _, ⟨decryption, rfl⟩, readable, rfl⟩ := h
    obtain ⟨-⟩ | ⟨-⟩ | ⟨-⟩ | ⟨guarded, held⟩ := decryption
    obtain rfl := Option.some.inj readable
    -- the secrets that decryption used were unwrapped just before, or they stood in the message
    unfold unsealIfSealed at opened
    split at opened
    · rw [runFrom_advance_unsealing, Prod.mk.injEq, Envelope.unsealed_eq_ok] at opened
      obtain ⟨unsealing, rfl⟩ := opened
      obtain ⟨-⟩ | ⟨-⟩ | ⟨sealed, -, chosen, unwrappedKey, unwrappedSecret⟩ | ⟨-⟩ := unsealing
      refine ⟨⟨sealed.complete, _, _, ?_, guarded.complete.encryptionKey,
        guarded.complete.hmacSecret, ⟨held.tagged, held.names, held.encrypted⟩⟩, rfl⟩
      rw [chosen]
      exact .sealed sealed.isSealed unwrappedKey unwrappedSecret
    · obtain ⟨rfl, rfl⟩ := Drawing.runFrom_pure_eq_ok.mp opened
      exact ⟨⟨guarded.complete, _, _, .unsealed guarded.isSealed, guarded.complete.encryptionKey,
        guarded.complete.hmacSecret, held⟩, rfl⟩
  · rintro ⟨⟨complete, key, secret, reveals, hasKey, hasSecret, held⟩, rfl⟩
    have guarded := protected_revealed envelope unreadable complete hasKey hasSecret
    have held' : (envelope.message.revealed key secret).Holds key secret payload :=
      held.withSecrets key secret _ _
    rw [runFrom_openEnvelope unreadable complete held.names.supported reveals,
      Drawing.runFrom_bind_of_ok
        (Envelope.runFrom_decrypted_eq_ok.mpr ⟨.decryption guarded held', rfl⟩)]
    rfl

end Received

/-- With its ciphers to be had, a message opens as the envelope around it does, which has name and
timestamp as they are set. -/
theorem runFrom_openPayload_of_applied {options : Options} {cipher : Option PayloadCipher}
    {sealCipher : Option SealCipher} {entropy drawn : Entropy}
    (applied : options.ciphers.runFrom entropy = (.ok (cipher, sealCipher), drawn))
    (message : Message) :
    (openPayload message options).runFrom entropy
      = (openEnvelope ⟨options.applyToMessage message, none, cipher, sealCipher⟩).runFrom drawn := by
  have wrapped : (Envelope.wrap message options).runFrom entropy
      = (.ok ⟨options.applyToMessage message, none, cipher, sealCipher⟩, drawn) :=
    Options.runFrom_apply_eq_ok.mpr ⟨cipher, sealCipher, applied, by simp [Envelope.ofMessage]⟩
  rw [openPayload, Drawing.runFrom_bind_of_ok (Envelope.runFrom_faulting_eq_ok.mpr wrapped)]

/-- With its ciphers to be had, a message opens as its envelope does. -/
theorem runFrom_openPayload {message : Message} {options : Options} (unnamed : options.id = none)
    (untimed : options.timestamp = none) {cipher : Option PayloadCipher}
    {sealCipher : Option SealCipher} {entropy drawn : Entropy}
    (applied : options.ciphers.runFrom entropy = (.ok (cipher, sealCipher), drawn)) :
    (openPayload message options).runFrom entropy
      = (openEnvelope ⟨message, none, cipher, sealCipher⟩).runFrom drawn := by
  rw [runFrom_openPayload_of_applied applied, Options.applyToMessage_of_unset unnamed untimed]

/-- A message that opens has ciphers to be had, and opens in the envelope around it. -/
theorem applied_of_openPayload {message : Message} {options : Options} {payload : Payload}
    {entropy rest : Entropy}
    (opened : (openPayload message options).runFrom entropy = (.ok payload, rest)) :
    ∃ cipher sealCipher drawn, options.ciphers.runFrom entropy = (.ok (cipher, sealCipher), drawn) ∧
      (openEnvelope ⟨options.applyToMessage message, none, cipher, sealCipher⟩).runFrom drawn
        = (.ok payload, rest) := by
  have opened' := opened
  rw [openPayload, Drawing.runFrom_bind_eq_ok] at opened
  obtain ⟨envelope, drawn, wrapped, -⟩ := opened
  rw [Envelope.runFrom_faulting_eq_ok] at wrapped
  obtain ⟨cipher, sealCipher, applied, -⟩ := Options.runFrom_apply_eq_ok.mp wrapped
  rw [runFrom_openPayload_of_applied applied] at opened'
  exact ⟨cipher, sealCipher, drawn, applied, opened'⟩

end Transfer

end SealedTransfer
