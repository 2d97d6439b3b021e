/-
# SealedTransfer.Proofs.Envelope.Failing — what a failed transition leaves

All that can fail in a transition comes before it changes anything, so one that fails leaves the envelope as
it was. The exception is an encryption that has no cipher and draws one: the cipher is kept even if no nonce
can be drawn after it. So an encryption without a cipher is a draw, and then the encryption with it; and the
next attempt is one with a cipher, which draws a nonce and nothing else.
-/
import SealedTransfer.Proofs.Envelope.Transitions

namespace SealedTransfer.Envelope

/-! ## Encryption, draw by draw -/

/-- An envelope that is encrypted with a cipher whose key is usable, with the next octets of a source for
the nonce. -/
def encryptedFrom (envelope : Envelope) (payload : Payload) (cipher : PayloadCipher) (key : Aes.Key)
    (entropy : Entropy) : Envelope :=
  let ciphertext := PayloadCipher.ciphertextFrom key payload.encode entropy
  { envelope with
    message := protectedMessage envelope.message cipher ciphertext
      (Hash.Hmac.tag cipher.secret ciphertext)
    payload := none
    cipher := some cipher }

section Encryption

variable {envelope : Envelope} {payload : Payload} {cipher : PayloadCipher}

/-- What a clear envelope prepares: its payload, and the cipher that it has or draws. -/
theorem runFrom_prepareEncryption (clear : envelope.payload = some payload) (entropy : Entropy) :
    envelope.prepareEncryption.runFrom entropy =
      (envelope.chosenCipher >>= fun cipher => pure (payload, cipher)).runFrom entropy := by
  have expected : envelope.expectState Transition.encryption.source = .ok () :=
    (expectState_eq_ok (by decide)).mpr (state_payload_eq_clear.mpr ⟨payload, clear⟩)
  have readable := Drawing.runFrom_ofExcept_eq_ok.mpr
    ⟨clearPayload_eq_ok.mpr clear, Eq.refl entropy⟩
  rw [prepareEncryption, expected, Drawing.runFrom_bind_of_ok (Drawing.runFrom_ofExcept _ entropy),
    Drawing.runFrom_bind_of_ok (runFrom_faulting_eq_ok.mpr readable)]

/-- What cannot be encrypted is not protected. -/
theorem attempt_protect_of_error {entropy rest : Entropy} {fault : Fault}
    (fails : (cipher.encrypt payload.encode).runFrom entropy = (.error fault, rest))
    (other : Envelope) :
    attempt (envelope.protect payload cipher) other entropy = ⟨.error (.fault fault), other, rest⟩ := by
  apply attempt_of_error
  rw [protect, Drawing.runFrom_bind, runFrom_faulting, fails]
  rfl

/-- Under a cipher whose key is usable, only the nonce can be missing. -/
theorem attempt_protect {key : Aes.Key} (usable : key.octets = cipher.key) (entropy : Entropy) :
    attempt ({ envelope with cipher := some cipher }.protect payload cipher)
        { envelope with cipher := some cipher } entropy =
      if entropy.canGive Aes.Gcm.nonceLength then
        ⟨.ok (), envelope.encryptedFrom payload cipher key entropy,
          entropy.past Aes.Gcm.nonceLength⟩
      else ⟨.error (.fault .randomnessFailed), { envelope with cipher := some cipher }, entropy⟩ := by
  have encrypts := PayloadCipher.runFrom_encrypt usable payload.encode entropy
  by_cases enough : entropy.canGive Aes.Gcm.nonceLength
  · rw [if_pos enough] at encrypts ⊢
    have some := (PayloadCipher.isCiphertext_ciphertextFrom key payload.encode entropy).ne_nil
    have signed := PayloadCipher.sign_eq_ok.mpr ⟨some, Eq.refl (Hash.Hmac.tag cipher.secret _)⟩
    apply attempt_of_ok
    rw [protect, Drawing.runFrom_bind_of_ok (runFrom_faulting_eq_ok.mpr encrypts), signed]
    rfl
  · rw [if_neg enough] at encrypts ⊢
    exact attempt_protect_of_error encrypts _

/-- An encryption with the cipher that is chosen, if its key is usable. -/
theorem encrypt_of_chosen {key : Aes.Key} {entropy rest : Entropy}
    (clear : envelope.payload = some payload)
    (chosen : envelope.chosenCipher.runFrom entropy = (.ok cipher, rest))
    (usable : key.octets = cipher.key) :
    envelope.encrypt entropy =
      if rest.canGive Aes.Gcm.nonceLength then
        ⟨.ok (), envelope.encryptedFrom payload cipher key rest, rest.past Aes.Gcm.nonceLength⟩
      else ⟨.error (.fault .randomnessFailed), { envelope with cipher := some cipher }, rest⟩ := by
  rw [encrypt, Change.step_encryption, runFrom_prepareEncryption clear,
    Drawing.runFrom_bind_of_ok chosen, ← attempt_protect usable rest, ← step_protection]
  rfl

/-- **An encryption with a cipher** whose key is usable draws a nonce. Without one it changes nothing. -/
theorem encrypt_of_equipped {key : Aes.Key} (clear : envelope.payload = some payload)
    (equipped : envelope.cipher = some cipher) (usable : key.octets = cipher.key)
    (entropy : Entropy) :
    envelope.encrypt entropy =
      if entropy.canGive Aes.Gcm.nonceLength then
        ⟨.ok (), envelope.encryptedFrom payload cipher key entropy,
          entropy.past Aes.Gcm.nonceLength⟩
      else ⟨.error (.fault .randomnessFailed), envelope, entropy⟩ := by
  have chosen : envelope.chosenCipher.runFrom entropy = (.ok cipher, entropy) := by
    rw [chosenCipher, equipped]
    rfl
  rw [encrypt_of_chosen clear chosen usable, ← equipped]

/-- An encryption with a cipher whose key cannot be used draws a nonce all the same, and changes nothing. -/
theorem encrypt_of_unusable {fault : Fault} (clear : envelope.payload = some payload)
    (equipped : envelope.cipher = some cipher) (unusable : cipher.usableKey = .error fault)
    (entropy : Entropy) :
    envelope.encrypt entropy =
      if entropy.canGive Aes.Gcm.nonceLength then
        ⟨.error (.fault fault), envelope, entropy.past Aes.Gcm.nonceLength⟩
      else ⟨.error (.fault .randomnessFailed), envelope, entropy⟩ := by
  have chosen : envelope.chosenCipher.runFrom entropy = (.ok cipher, entropy) := by
    rw [chosenCipher, equipped]
    rfl
  have held : { envelope with cipher := some cipher } = envelope := by rw [← equipped]
  have fails := PayloadCipher.runFrom_encrypt_of_unusable unusable payload.encode entropy
  rw [encrypt, Change.step_encryption, runFrom_prepareEncryption clear,
    Drawing.runFrom_bind_of_ok chosen]
  show (Change.protection payload cipher).step { envelope with cipher := some cipher } entropy = _
  rw [held, step_protection]
  by_cases enough : entropy.canGive Aes.Gcm.nonceLength
  · rw [if_pos enough] at fails ⊢
    exact attempt_protect_of_error fails envelope
  · rw [if_neg enough] at fails ⊢
    exact attempt_protect_of_error fails envelope

/-- An envelope that has kept a generated cipher draws a nonce and no key. -/
theorem encrypt_of_generated (clear : envelope.payload = some payload) (entropy next : Entropy) :
    ({ envelope with cipher := some (.generated entropy) } : Envelope).encrypt next =
      if next.canGive Aes.Gcm.nonceLength then
        ⟨.ok (), envelope.encryptedFrom payload (.generated entropy)
          (PayloadCipher.generatedKey entropy) next, next.past Aes.Gcm.nonceLength⟩
      else ⟨.error (.fault .randomnessFailed),
        { envelope with cipher := some (.generated entropy) }, next⟩ := by
  have readable : ({ envelope with cipher := some (.generated entropy) } : Envelope).payload
      = some payload := clear
  have usable : (PayloadCipher.generatedKey entropy).octets = (PayloadCipher.generated entropy).key :=
    rfl
  exact encrypt_of_equipped readable rfl usable next

/-- **An encryption without a cipher** draws one, and then it is an encryption with that cipher. -/
theorem encrypt_of_unequipped (clear : envelope.payload = some payload)
    (unequipped : envelope.cipher = none) (entropy : Entropy) :
    envelope.encrypt entropy =
      if entropy.canGive PayloadCipher.generatedLength then
        { envelope with cipher := some (.generated entropy) }.encrypt
          (entropy.past PayloadCipher.generatedLength)
      else ⟨.error (.fault .randomnessFailed), envelope, entropy⟩ := by
  have chosen : envelope.chosenCipher = faulting PayloadCipher.generate := by
    rw [chosenCipher, unequipped]
  have generates := PayloadCipher.runFrom_generate entropy
  by_cases enough : entropy.canGive PayloadCipher.generatedLength
  · rw [if_pos enough] at generates ⊢
    have drawn := runFrom_faulting_eq_ok.mpr generates
    rw [← chosen] at drawn
    have usable : (PayloadCipher.generatedKey entropy).octets = (PayloadCipher.generated entropy).key :=
      rfl
    rw [encrypt_of_chosen clear drawn usable, encrypt_of_generated clear]
  · rw [if_neg enough] at generates ⊢
    rw [encrypt, Change.step_encryption, runFrom_prepareEncryption clear, Drawing.runFrom_bind,
      chosen, runFrom_faulting, generates]
    rfl

end Encryption

/-! ## What is left -/

/-- A source that gives a key and no nonce after it, to an encryption that needs both. -/
structure LosesNonce (envelope : Envelope) (entropy : Entropy) : Prop where
  clear : envelope.state.payload = .clear
  unequipped : envelope.cipher = none
  key : entropy.canGive PayloadCipher.generatedLength = true
  nonce : (entropy.past PayloadCipher.generatedLength).canGive Aes.Gcm.nonceLength = false

section Failing

variable {envelope : Envelope} {entropy : Entropy} {failure : Failure}

/-- Without a readable payload an encryption fails at once. -/
theorem encrypt_of_unreadable (unreadable : envelope.payload = none) :
    ∃ failure, ∀ entropy, envelope.encrypt entropy = ⟨.error failure, envelope, entropy⟩ := by
  cases expected : envelope.expectState Transition.encryption.source with
  | ok _ =>
    obtain ⟨payload, readable⟩ :=
      state_payload_eq_clear.mp ((expectState_eq_ok (by decide)).mp expected)
    cases unreadable.symm.trans readable
  | error failure =>
    refine ⟨failure, ?_⟩
    intro entropy
    have failed : envelope.prepareEncryption.runFrom entropy = (.error failure, entropy) := by
      rw [prepareEncryption, expected]
      exact Drawing.runFrom_bind_of_error (Drawing.runFrom_ofExcept _ _)
    rw [encrypt, Change.step_encryption, failed]

/-- Without a readable payload nothing is encrypted. -/
theorem envelope_encrypt_of_unreadable (unreadable : envelope.payload = none) (entropy : Entropy) :
    (envelope.encrypt entropy).envelope = envelope := by
  obtain ⟨failure, fails⟩ := encrypt_of_unreadable unreadable
  rw [fails]

/-- An encryption with a cipher that fails leaves the envelope as it was. -/
theorem envelope_encrypt_of_error_of_equipped {cipher : PayloadCipher}
    (equipped : envelope.cipher = some cipher)
    (failed : (envelope.encrypt entropy).outcome = .error failure) :
    (envelope.encrypt entropy).envelope = envelope := by
  rcases envelope_encrypt_of_error failed with same | ⟨_, held | ⟨unequipped, -⟩, kept⟩
  · exact same
  · rw [kept, ← held]
  · cases equipped.symm.trans unequipped

/-- A key that is drawn without a nonce after it is kept, and nothing else changes. -/
theorem LosesNonce.encrypt (h : envelope.LosesNonce entropy) :
    envelope.encrypt entropy =
      ⟨.error (.fault .randomnessFailed), { envelope with cipher := some (.generated entropy) },
        entropy.past PayloadCipher.generatedLength⟩ := by
  obtain ⟨payload, clear⟩ := state_payload_eq_clear.mp h.clear
  rw [encrypt_of_unequipped clear h.unequipped, if_pos h.key, encrypt_of_generated clear,
    if_neg (by simp [h.nonce])]

/-- An encryption without a cipher that fails leaves the envelope as it was, unless it has drawn a key and
no nonce. -/
theorem envelope_encrypt_of_error_of_unequipped {payload : Payload}
    (clear : envelope.payload = some payload) (unequipped : envelope.cipher = none)
    (failed : (envelope.encrypt entropy).outcome = .error failure)
    (other : ¬ envelope.LosesNonce entropy) : (envelope.encrypt entropy).envelope = envelope := by
  rw [encrypt_of_unequipped clear unequipped] at failed ⊢
  by_cases key : entropy.canGive PayloadCipher.generatedLength = true
  · rw [if_pos key, encrypt_of_generated clear] at failed
    -- with a nonce too the encryption would have succeeded
    split at failed
    · cases failed
    · rename_i nonce
      have lost : envelope.LosesNonce entropy :=
        ⟨state_payload_eq_clear.mpr ⟨payload, clear⟩, unequipped, key, Bool.not_eq_true _ ▸ nonce⟩
      exact absurd lost other
  · rw [if_neg key]

/-- An encryption that fails leaves the envelope as it was, unless it has drawn a key and no nonce. -/
theorem envelope_encrypt_of_error_of_not_losesNonce
    (failed : (envelope.encrypt entropy).outcome = .error failure)
    (other : ¬ envelope.LosesNonce entropy) : (envelope.encrypt entropy).envelope = envelope := by
  cases readable : envelope.payload with
  | none => exact envelope_encrypt_of_unreadable readable entropy
  | some payload =>
    cases equipment : envelope.cipher with
    | none => exact envelope_encrypt_of_error_of_unequipped readable equipment failed other
    | some cipher => exact envelope_encrypt_of_error_of_equipped equipment failed

/-- **A transition that fails leaves the envelope intact.** The one exception is an encryption without a
cipher that has drawn a key and no nonce after it: it keeps the cipher and changes nothing else, and
whatever the next encryption draws from, it draws a nonce and no key. -/
theorem intact_of_take_error {transition : Transition}
    (failed : (envelope.take transition entropy).outcome = .error failure) :
    (¬ (transition = .encryption ∧ envelope.LosesNonce entropy) →
      (envelope.take transition entropy).envelope = envelope) ∧
    (transition = .encryption → envelope.LosesNonce entropy →
      envelope.take transition entropy =
        ⟨.error (.fault .randomnessFailed), { envelope with cipher := some (.generated entropy) },
          entropy.past PayloadCipher.generatedLength⟩ ∧
      ∃ payload, envelope.payload = some payload ∧ ∀ next : Entropy,
        (envelope.take transition entropy).envelope.encrypt next =
          if next.canGive Aes.Gcm.nonceLength then
            ⟨.ok (), envelope.encryptedFrom payload (.generated entropy)
              (PayloadCipher.generatedKey entropy) next, next.past Aes.Gcm.nonceLength⟩
          else ⟨.error (.fault .randomnessFailed), (envelope.take transition entropy).envelope,
            next⟩) := by
  constructor
  · intro other
    cases transition with
    | encryption =>
      exact envelope_encrypt_of_error_of_not_losesNonce failed fun lost => other ⟨rfl, lost⟩
    | sealing => exact Change.intact_sealing.envelope_step failed
    | unsealing => exact Change.intact_unsealing.envelope_step failed
    | decryption => exact Change.intact_decryption.envelope_step failed
  · rintro rfl lost
    obtain ⟨payload, clear⟩ := state_payload_eq_clear.mp lost.clear
    have kept : envelope.take .encryption entropy = _ := lost.encrypt
    refine ⟨kept, payload, clear, fun next => ?_⟩
    rw [kept]
    exact encrypt_of_generated clear entropy next

/-- A clear envelope whose source ends after the key keeps the key. -/
theorem keeps_key_of_short_source :
    (take ⟨.empty, some .empty, none, none⟩ .encryption ⟨fun _ => 1, 0, some 40⟩).outcome
        = .error (.fault .randomnessFailed) ∧
      (take ⟨.empty, some .empty, none, none⟩ .encryption ⟨fun _ => 1, 0, some 40⟩).envelope
        = ⟨.empty, some .empty, some (.generated ⟨fun _ => 1, 0, some 40⟩), none⟩ := by
  have lost : LosesNonce ⟨.empty, some .empty, none, none⟩ ⟨fun _ => 1, 0, some 40⟩ :=
    ⟨rfl, rfl, by decide, by decide⟩
  have failed : (take ⟨.empty, some .empty, none, none⟩ .encryption
      ⟨fun _ => 1, 0, some 40⟩).outcome = .error (.fault .randomnessFailed) :=
    congrArg Step.outcome lost.encrypt
  have kept := ((intact_of_take_error failed).2 rfl lost).1
  exact ⟨failed, congrArg Step.envelope kept⟩

end Failing

end SealedTransfer.Envelope
