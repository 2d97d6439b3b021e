/-
# SealedTransfer.Proofs.Envelope.Transitions — what each transition does

One relation says what every transition may do when it succeeds: which envelopes it starts from, what
it needs, and the envelope that it leads to. A step that succeeds is in the relation, and a step that
fails leaves the envelope as it was, except that an encryption may keep the cipher that it drew. For
unsealing and decrypting the relation is exact, since they draw nothing.
-/
import SealedTransfer.Proofs.Cipher.Seal
import SealedTransfer.Proofs.Envelope.Holding

namespace SealedTransfer

/-! ## Transitions that succeed -/

namespace Envelope

/-- The cipher that an envelope encrypts with: its own, or else a generated one. -/
def Equips (envelope : Envelope) (cipher : PayloadCipher) : Prop :=
  envelope.cipher = some cipher ∨
    envelope.cipher = none ∧ cipher.key.length = PayloadCipher.generatedLength ∧
      cipher.secret = cipher.key

/-- **What a transition does when it succeeds.** -/
inductive Advances : Transition → Envelope → Envelope → Prop
  | encryption {envelope : Envelope} {payload : Payload} {cipher : PayloadCipher}
      {ciphertext : Bytes} (clear : envelope.payload = some payload)
      (equipped : envelope.Equips cipher)
      (encrypted : PayloadCipher.IsCiphertext cipher.key payload.encode ciphertext) :
      Advances .encryption envelope
        { envelope with
          message := protectedMessage envelope.message cipher ciphertext
            (Hash.Hmac.tag cipher.secret ciphertext)
          payload := none
          cipher := some cipher }
  | sealing {envelope : Envelope} {cipher : SealCipher} {key secret : Bytes}
      (unsealed : envelope.Protected false) (chosen : envelope.sealCipher = some cipher)
      (wrappedKey : SealCipher.IsWrapped cipher.publicHalf envelope.message.encryptionKey key)
      (wrappedSecret : SealCipher.IsWrapped cipher.publicHalf envelope.message.hmacSecret secret) :
      Advances .sealing envelope
        { envelope with message := envelope.message.withSecrets key secret true cipher.fingerprint }
  | unsealing {envelope : Envelope} {cipher : SealCipher} {key secret : Bytes}
      (sealed : envelope.Protected true) (supported : envelope.message.Supported)
      (chosen : envelope.sealCipher = some cipher)
      (unwrappedKey : cipher.decrypt envelope.message.encryptionKey = .ok key)
      (unwrappedSecret : cipher.decrypt envelope.message.hmacSecret = .ok secret) :
      Advances .unsealing envelope
        { envelope with message := envelope.message.withSecrets key secret false "" }
  | decryption {envelope : Envelope} {payload : Payload} (unsealed : envelope.Protected false)
      (held : envelope.message.Holds envelope.message.encryptionKey envelope.message.hmacSecret
        payload) :
      Advances .decryption envelope
        { envelope with payload := some payload, cipher := some unsealed.complete.cipher }

/-- A sealing leads to a sealed envelope. -/
theorem Advances.protected_of_sealing {envelope after : Envelope}
    (h : Advances .sealing envelope after) : after.Protected true := by
  cases h with
  | sealing unsealed chosen wrappedKey wrappedSecret =>
    exact ⟨unsealed.payload,
      unsealed.complete.withSecrets wrappedKey.ne_nil wrappedSecret.ne_nil _ _, rfl⟩

/-- A sealed envelope names the key that it was sealed for. -/
theorem Advances.signature_of_sealing {envelope after : Envelope}
    (h : Advances .sealing envelope after) : ∃ cipher, envelope.sealCipher = some cipher ∧
      after.message.publicKeySignature = cipher.fingerprint := by
  cases h with
  | sealing unsealed chosen wrappedKey wrappedSecret => exact ⟨_, chosen, rfl⟩

/-! ## Encryption -/

/-- The cipher that is chosen is one to encrypt with. -/
theorem equips_of_chosenCipher {envelope : Envelope} {cipher : PayloadCipher}
    {entropy rest : Entropy} (h : envelope.chosenCipher.runFrom entropy = (.ok cipher, rest)) :
    envelope.Equips cipher := by
  unfold chosenCipher at h
  split at h
  · rename_i held
    obtain ⟨rfl, -⟩ := Drawing.runFrom_pure_eq_ok.mp h
    exact .inl held
  · rename_i missing
    exact .inr ⟨missing, PayloadCipher.of_generate (runFrom_faulting_eq_ok.mp h)⟩

/-- What an encryption starts with. -/
theorem of_prepareEncryption {envelope : Envelope} {payload : Payload} {cipher : PayloadCipher}
    {entropy rest : Entropy}
    (h : envelope.prepareEncryption.runFrom entropy = (.ok (payload, cipher), rest)) :
    envelope.payload = some payload ∧ envelope.Equips cipher := by
  simp only [prepareEncryption, Drawing.runFrom_bind_eq_ok, Drawing.runFrom_ofExcept_eq_ok,
    runFrom_faulting_eq_ok, Drawing.runFrom_pure_eq_ok] at h
  obtain ⟨_, _, -, clear, _, ⟨readable, -⟩, chosen, _, drawn, same, -⟩ := h
  obtain ⟨rfl, rfl⟩ := Prod.mk.inj same
  exact ⟨clearPayload_eq_ok.mp readable, equips_of_chosenCipher drawn⟩

/-- What protects a payload. -/
theorem of_protect {envelope after : Envelope} {payload : Payload} {cipher : PayloadCipher}
    {entropy rest : Entropy}
    (h : (envelope.protect payload cipher).runFrom entropy = (.ok after, rest)) :
    ∃ ciphertext, PayloadCipher.IsCiphertext cipher.key payload.encode ciphertext ∧
      after = { envelope with
        message := protectedMessage envelope.message cipher ciphertext
          (Hash.Hmac.tag cipher.secret ciphertext)
        payload := none } := by
  simp only [protect, Drawing.runFrom_bind_eq_ok, Drawing.runFrom_ofExcept_eq_ok,
    runFrom_faulting_eq_ok, Drawing.runFrom_pure_eq_ok] at h
  obtain ⟨ciphertext, _, encrypted, tag, _, ⟨signed, -⟩, rfl, -⟩ := h
  obtain ⟨-, rfl⟩ := PayloadCipher.sign_eq_ok.mp signed
  exact ⟨ciphertext, PayloadCipher.isCiphertext_of_encrypt encrypted, rfl⟩

/-- An encryption that succeeds protects the payload. -/
theorem advances_of_encrypt {envelope : Envelope} {entropy : Entropy}
    (h : (envelope.encrypt entropy).outcome = .ok ()) :
    Advances .encryption envelope (envelope.encrypt entropy).envelope := by
  rw [encrypt, Change.step_encryption] at h ⊢
  split at h
  · rename_i payload cipher rest prepared
    rw [step_protection] at h ⊢
    obtain ⟨clear, equipped⟩ := of_prepareEncryption prepared
    obtain ⟨ciphertext, encrypted, after⟩ := of_protect (runFrom_of_attempt h)
    rw [after]
    exact .encryption clear equipped encrypted
  · cases h

/-- An encryption that fails keeps nothing but the cipher that it was to use. -/
theorem envelope_encrypt_of_error {envelope : Envelope} {entropy : Entropy} {failure : Failure}
    (h : (envelope.encrypt entropy).outcome = .error failure) :
    (envelope.encrypt entropy).envelope = envelope ∨
      ∃ cipher, envelope.Equips cipher ∧
        (envelope.encrypt entropy).envelope = { envelope with cipher := some cipher } := by
  rw [encrypt, Change.step_encryption] at h ⊢
  split at h
  · rename_i payload cipher rest prepared
    have kept := (Change.intact_protection payload cipher).envelope_step h
    exact .inr ⟨cipher, (of_prepareEncryption prepared).2, kept⟩
  · exact .inl rfl

/-! ## Sealing and unsealing -/

theorem chosenSeal_eq_ok {envelope : Envelope} {missing : Fault} {cipher : SealCipher} :
    envelope.chosenSeal missing = .ok cipher ↔ envelope.sealCipher = some cipher := by
  unfold chosenSeal
  split <;> simp_all

/-- A sealing that succeeds wraps the secrets. -/
theorem advances_of_sealed {envelope after : Envelope} {entropy rest : Entropy}
    (h : envelope.sealed.runFrom entropy = (.ok after, rest)) :
    Advances .sealing envelope after := by
  simp only [sealed, Drawing.runFrom_bind_eq_ok, Drawing.runFrom_ofExcept_eq_ok,
    runFrom_faulting_eq_ok, Drawing.runFrom_pure_eq_ok] at h
  obtain ⟨_, _, ⟨expected, -⟩, cipher, _, ⟨chosen, -⟩, key, _, wrappedKey, secret, _, wrappedSecret,
    rfl, -⟩ := h
  have unsealed := state_payload_eq_unsealed.mp ((expectState_eq_ok (by decide)).mp expected)
  exact .sealing unsealed (chosenSeal_eq_ok.mp chosen) (SealCipher.isWrapped_of_encrypt wrappedKey)
    (SealCipher.isWrapped_of_encrypt wrappedSecret)

theorem unwrap_eq_ok {cipher : SealCipher} {secret unwrapped : Bytes} {complaint : String} :
    unwrap cipher secret complaint = .ok unwrapped ↔ cipher.decrypt secret = .ok unwrapped := by
  unfold unwrap
  split <;> simp_all

/-- **Unsealing succeeds exactly if the secrets of a sealed envelope can be unwrapped.** -/
theorem unsealed_eq_ok {envelope after : Envelope} :
    envelope.unsealed = .ok after ↔ Advances .unsealing envelope after := by
  simp only [unsealed, bind_eq_ok, chosenSeal_eq_ok, unwrap_eq_ok]
  constructor
  · rintro ⟨_, expected, _, checked, cipher, chosen, key, unwrappedKey, secret, unwrappedSecret,
      same⟩
    cases same
    have sealed := state_payload_eq_sealed.mp ((expectState_eq_ok (by decide)).mp expected)
    have supported := Message.checkAlgorithms_eq_ok.mp checked
    exact .unsealing sealed supported chosen unwrappedKey unwrappedSecret
  · rintro (_ | _ | ⟨sealed, supported, chosen, unwrappedKey, unwrappedSecret⟩ | _)
    have expected : envelope.expectState Transition.unsealing.source = .ok () :=
      (expectState_eq_ok (by decide)).mpr (state_payload_eq_sealed.mpr sealed)
    have checked := Message.checkAlgorithms_eq_ok.mpr supported
    exact ⟨(), expected, (), checked, _, chosen, _, unwrappedKey, _, unwrappedSecret, rfl⟩

/-- An unsealing that can be done is, and nothing is drawn. -/
theorem unsealSecrets_of_advances {envelope after : Envelope}
    (h : Advances .unsealing envelope after) (entropy : Entropy) :
    envelope.unsealSecrets entropy = ⟨.ok (), after, entropy⟩ := by
  rw [unsealSecrets_eq]
  exact attempt_of_ok (Drawing.runFrom_ofExcept_eq_ok.mpr ⟨unsealed_eq_ok.mpr h, rfl⟩)

/-! ## Decryption -/

/-- A payload is found exactly if the tag is the data's and the data are a ciphertext of a text that
spells it. -/
theorem openPayload_eq_ok {message : Message} {cipher : PayloadCipher} {payload : Payload} :
    openPayload message cipher = .ok payload ↔
      message.hmac = Hash.Hmac.tag cipher.secret message.payload ∧
        ∃ text, PayloadCipher.IsCiphertext cipher.key text message.payload ∧
          Payload.decode? text = some payload := by
  simp only [← PayloadCipher.verify_eq_ok, ← PayloadCipher.decrypt_eq_ok]
  unfold openPayload
  split
  · rename_i mismatch
    simp [mismatch]
  rename_i tagged
  split
  · rename_i undecrypted
    simp [undecrypted]
  rename_i text decrypted
  split
  · rename_i undecoded
    simp [decrypted, undecoded]
  · rename_i found decoded
    simp [tagged, decrypted, decoded]

/-- What a decryption does in the state that it starts in. Nothing is drawn, since the key is given. -/
theorem runFrom_decrypted {envelope : Envelope} (unsealed : envelope.Protected false)
    (entropy : Entropy) :
    envelope.decrypted.runFrom entropy =
      ((do
        envelope.message.checkAlgorithms
        envelope.message.checkKeyLength
        let payload ← openPayload envelope.message unsealed.complete.cipher
        return { envelope with
          payload := some payload
          cipher := some unsealed.complete.cipher }), entropy) := by
  have expected : envelope.expectState Transition.decryption.source = .ok () :=
    (expectState_eq_ok (by decide)).mpr (state_payload_eq_unsealed.mpr unsealed)
  have made : (PayloadCipher.make envelope.message.encryptionKey
      envelope.message.hmacSecret).runFrom entropy = (.ok unsealed.complete.cipher, entropy) := by
    rw [PayloadCipher.runFrom_make unsealed.complete.encryptionKey,
      PayloadCipher.ofKey_eq _ unsealed.complete.hmacSecret]
    rfl
  have drawn := runFrom_faulting_eq_ok.mpr made
  -- the three checks come one after the other, and the first that fails ends the decryption
  simp only [decrypted, Drawing.runFrom_bind, Drawing.runFrom_ofExcept, Drawing.runFrom_pure,
    expected]
  cases envelope.message.checkAlgorithms with
  | error failure => rfl
  | ok _ =>
    cases envelope.message.checkKeyLength with
    | error failure => rfl
    | ok _ =>
      dsimp only
      rw [drawn]
      dsimp only
      cases openPayload envelope.message unsealed.complete.cipher <;> rfl

/-- **Decryption succeeds exactly if an unsealed envelope holds a payload** under the secrets in the
clear. -/
theorem runFrom_decrypted_eq_ok {envelope after : Envelope} {entropy rest : Entropy} :
    envelope.decrypted.runFrom entropy = (.ok after, rest) ↔
      Advances .decryption envelope after ∧ entropy = rest := by
  constructor
  · intro h
    -- the first check tells the state, and in that state nothing is drawn
    have expected := h
    simp only [decrypted, Drawing.runFrom_bind_eq_ok, Drawing.runFrom_ofExcept_eq_ok] at expected
    obtain ⟨_, _, ⟨expected, -⟩, -⟩ := expected
    have unsealed := state_payload_eq_unsealed.mp ((expectState_eq_ok (by decide)).mp expected)
    rw [runFrom_decrypted unsealed, Prod.mk.injEq] at h
    simp only [bind_eq_ok, openPayload_eq_ok] at h
    obtain ⟨⟨_, checked, _, fits, payload, ⟨tagged, encrypted⟩, same⟩, rfl⟩ := h
    cases same
    have names := Message.checks_eq_ok.mp ⟨Message.checkAlgorithms_eq_ok.mp checked, fits⟩
    exact ⟨.decryption unsealed ⟨tagged, names, encrypted⟩, rfl⟩
  · rintro ⟨(_ | _ | _ | ⟨unsealed, held⟩), rfl⟩
    obtain ⟨supported, fits⟩ := Message.checks_eq_ok.mpr held.names
    have checked := Message.checkAlgorithms_eq_ok.mpr supported
    rw [runFrom_decrypted unsealed, Prod.mk.injEq]
    simp only [bind_eq_ok, openPayload_eq_ok]
    exact ⟨⟨(), checked, (), fits, _, ⟨held.tagged, held.encrypted⟩, rfl⟩, trivial⟩

/-- A tag that is not the data's is refused before anything is decrypted. -/
theorem openPayload_of_tag_ne {message : Message} {cipher : PayloadCipher}
    (forged : message.hmac ≠ Hash.Hmac.tag cipher.secret message.payload) :
    openPayload message cipher
      = .error (.reject .invalidSignature "could not verify hmac signature") := by
  unfold openPayload
  split
  · rfl
  · rename_i verified
    exact absurd (PayloadCipher.verify_eq_ok.mp verified) forged

/-- **A forged tag is what a decryption refuses**, if the algorithms are those of a cipher with the
key. -/
theorem runFrom_decrypted_of_tag_ne {envelope : Envelope} (unsealed : envelope.Protected false)
    (names : envelope.message.Names envelope.message.encryptionKey.length)
    (forged : envelope.message.hmac
      ≠ Hash.Hmac.tag envelope.message.hmacSecret envelope.message.payload) (entropy : Entropy) :
    envelope.decrypted.runFrom entropy =
      (.error (.reject .invalidSignature "could not verify hmac signature"), entropy) := by
  obtain ⟨supported, fits⟩ := Message.checks_eq_ok.mpr names
  have refused : openPayload envelope.message unsealed.complete.cipher = _ :=
    openPayload_of_tag_ne forged
  rw [runFrom_decrypted unsealed, Message.checkAlgorithms_eq_ok.mpr supported, fits, refused]
  rfl

/-! ## Any step -/

/-- **A step that succeeds is in the relation.** -/
theorem advances_of_take {transition : Transition} {envelope : Envelope} {entropy : Entropy}
    (h : (envelope.take transition entropy).outcome = .ok ()) :
    Advances transition envelope (envelope.take transition entropy).envelope := by
  cases transition with
  | encryption => exact advances_of_encrypt h
  | sealing =>
    rw [take, sealSecrets_eq] at h ⊢
    exact advances_of_sealed (runFrom_of_attempt h)
  | unsealing =>
    rw [take, unsealSecrets_eq] at h ⊢
    exact unsealed_eq_ok.mp (Drawing.runFrom_ofExcept_eq_ok.mp (runFrom_of_attempt h)).1
  | decryption =>
    rw [take, decrypt_eq] at h ⊢
    exact (runFrom_decrypted_eq_ok.mp (runFrom_of_attempt h)).1

/-- **A step that fails leaves the envelope as it was**, but for the cipher of an encryption. -/
theorem envelope_take_of_error {transition : Transition} {envelope : Envelope} {entropy : Entropy}
    {failure : Failure} (h : (envelope.take transition entropy).outcome = .error failure) :
    (envelope.take transition entropy).envelope = envelope ∨
      ∃ cipher, envelope.Equips cipher ∧
        (envelope.take transition entropy).envelope = { envelope with cipher := some cipher } := by
  cases transition with
  | encryption => exact envelope_encrypt_of_error h
  | sealing => exact .inl (Change.intact_sealing.envelope_step h)
  | unsealing => exact .inl (Change.intact_unsealing.envelope_step h)
  | decryption => exact .inl (Change.intact_decryption.envelope_step h)

end Envelope

end SealedTransfer
