/-
# SealedTransfer.Proofs.Transfer.RoundTrip — what is sealed for a key's owner, the owner opens

The sender encrypts and seals a payload; the recipient unseals and decrypts the message. The two sides
agree on every stage: the payload's coding, its ciphertext and tag, the names of the algorithms, the
wrapped secrets. So the recipient finds the payload that the sender had.
-/
import SealedTransfer.Proofs.Envelope.Runs
import SealedTransfer.Proofs.Transfer.Closing
import SealedTransfer.Proofs.Transfer.Opening

namespace SealedTransfer

namespace Transfer

/-- The recipient opens the message of every sealed envelope that keeps a payload, under all options that
leave the message with a name and give the recipient's cipher. -/
theorem openPayload_of_applied {envelope : Envelope} {payload : Payload} {cipher : SealCipher}
    {key : Rsa.PrivateKey} (inverts : key.Inverts) (kept : envelope.Keeps payload)
    (sealed : envelope.Protected true) (chosen : envelope.sealCipher = some cipher)
    (same : cipher.publicHalf = key.publicHalf) {options : Options}
    (named : options.id.getD envelope.message.id ≠ "") {other : Option PayloadCipher}
    {opening final : Entropy}
    (applied : options.ciphers.runFrom opening = (.ok (other, some (.owner key)), final)) :
    (openPayload envelope.message options).runFrom opening = (.ok payload, final) := by
  refine (runFrom_openPayload_of_applied applied _).trans ((runFrom_openEnvelope_eq_ok rfl).mpr ⟨?_, rfl⟩)
  obtain ⟨_, _, wrappedKey, wrappedSecret, hasKey, hasSecret, held⟩ := kept.of_sealed sealed chosen
  rw [same] at wrappedKey wrappedSecret
  have reveals : envelope.message.Reveals (some (.owner key)) _ _ :=
    .sealed sealed.isSealed (SealCipher.decrypt_of_isWrapped inverts wrappedKey)
      (SealCipher.decrypt_of_isWrapped inverts wrappedSecret)
  exact ⟨sealed.complete.applyToMessage named, _, _, reveals.congr rfl rfl rfl, hasKey, hasSecret,
    ⟨held.tagged, held.names, held.encrypted⟩⟩

/-- The recipient opens the message of every sealed envelope that keeps a payload. -/
theorem openPayload_of_keeps {envelope : Envelope} {payload : Payload} {cipher : SealCipher}
    {key : Rsa.PrivateKey} (inverts : key.Inverts) (kept : envelope.Keeps payload)
    (sealed : envelope.Protected true) (chosen : envelope.sealCipher = some cipher)
    (same : cipher.publicHalf = key.publicHalf) (opening : Entropy) :
    (openPayload envelope.message (Options.none.set (.unsealingKey (.rsa key)))).runFrom opening
      = (.ok payload, opening) := by
  have applied := Options.runFrom_ciphers_of_sealCipher
    (show SealChoice.cipher (.unsealing (.rsa key)) = .ok (.owner key) from rfl) opening
  have named : (Options.none.set (.unsealingKey (.rsa key))).id.getD envelope.message.id ≠ "" :=
    sealed.complete.id
  exact openPayload_of_applied inverts kept sealed chosen same named applied

/-- **What is sealed for a key's owner, the owner opens.** Whatever else is set, and whatever is drawn: the
message is sealed, names the key that it is sealed for, and opens to the payload. -/
theorem openPayload_of_sealed {key : Rsa.PrivateKey} (inverts : key.Inverts) {occasion : Occasion}
    {payload : Payload} (short : payload.encode.length < 2 ^ 64) {options : Options}
    {message : Message} {entropy rest : Entropy}
    (closed :
      (sealUnchecked occasion payload
        (options.set (.sealingKey (.rsa key.publicHalf)))).runFrom entropy = (.ok message, rest) ∨
      (sealPayload occasion payload
        (options.set (.sealingKey (.rsa key.publicHalf)))).runFrom entropy = (.ok message, rest)) :
    message.status = ⟨.sealed, false⟩ ∧
      Fingerprint.identifies message.publicKeySignature (.rsa key.publicHalf) = true ∧
      ∀ opening, (openPayload message (Options.none.set (.unsealingKey (.rsa key)))).runFrom opening
        = (.ok payload, opening) := by
  replace closed := closed.elim id sealUnchecked_of_sealPayload
  simp only [sealUnchecked, closeEnvelope, Drawing.runFrom_bind_eq_ok,
    Envelope.runFrom_faulting_eq_ok, Drawing.runFrom_pure_eq_ok] at closed
  obtain ⟨new, _, made, unsealed, _, encrypted, sealed, _, wrapped, rfl, -⟩ := closed
  have encryption := advances_of_advance encrypted
  have sealing := advances_of_advance wrapped
  obtain ⟨clear, unrejected, timestamp, chosen⟩ := Envelope.of_create made
  obtain ⟨cipher, chosen', named⟩ := sealing.signature_of_sealing
  have guarded := sealing.protected_of_sealing
  have same := encryption.sameTransfer.trans sealing.sameTransfer
  have recipient : new.sealCipher = some (.recipient key.publicHalf) := (Except.ok.inj chosen).symm
  have kept : sealed.Keeps payload := by
    -- a name is not among what was asked of the new envelope: the sealing would have failed without
    have id : new.message.id ≠ "" := same.id ▸ guarded.complete.id
    have start : new.Keeps payload := .clear clear id timestamp
    exact Envelope.keeps_of_sealing (Envelope.keeps_of_encryption short start encryption) sealing
  refine ⟨?_, ?_, ?_⟩
  · have silent : sealed.message.hasError = false := by
      rw [Message.hasError, Message.rejection?, same.error, unrejected]
      rfl
    rw [guarded.complete.status, silent, guarded.isSealed]
    rfl
  · rw [encryption.sameTransfer.sealCipher, recipient] at chosen'
    cases chosen'
    rw [named]
    exact SealCipher.identifies_fingerprint (.recipient key.publicHalf)
  · exact openPayload_of_keeps inverts kept guarded (same.sealCipher.trans recipient) rfl

/-- A payload on its way to the owner of a key. -/
theorem openPayload_of_sealed_mersenne :
    ∃ message rest,
      (sealUnchecked ⟨⟨0⟩, .epoch⟩ .empty
        (Options.none.set (.sealingKey (.rsa Rsa.PrivateKey.mersenne.publicHalf)))).runFrom
          ⟨fun _ => 1, 0, none⟩ = (.ok message, rest) ∧
      (openPayload message (Options.none.set (.unsealingKey (.rsa .mersenne)))).runFrom
        ⟨fun _ => 0, 0, some 0⟩ = (.ok .empty, ⟨fun _ => 0, 0, some 0⟩) := by
  have room : Rsa.Oaep.fits Rsa.PrivateKey.mersenne.publicHalf.size PayloadCipher.generatedLength
      = true := by
    rw [Rsa.PrivateKey.size_mersenne]
    rfl
  have short : Payload.empty.encode.length < 2 ^ 64 := by decide
  have seals := succeeds_sealUnchecked ⟨⟨0⟩, .epoch⟩ .empty
    (show Options.none.id ≠ some "" by decide) rfl room
  obtain ⟨message, rest, closed, -, -⟩ := seals ⟨fun _ => 1, 0, none⟩ rfl
  obtain ⟨-, -, opens⟩ :=
    openPayload_of_sealed Rsa.PrivateKey.inverts_mersenne short (.inl closed)
  exact ⟨message, rest, closed, opens _⟩

end Transfer

end SealedTransfer
