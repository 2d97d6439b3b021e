/-
# SealedTransfer.Proofs.Transfer.Exchange — a key exchange pairs sealing with opening

A party tells others of its certified key in a message, they seal for the key that they find there, and
the party opens what they sealed with its private key. Both ends mean the same key: the received one is
the certificate's, and the private one goes with the certificate. Options say which key is meant and take
its private half where there is one, so the same word seals at one end and opens at the other.
-/
import SealedTransfer.Proofs.Key.Certified
import SealedTransfer.Proofs.Key.Exchanged
import SealedTransfer.Proofs.Transfer.RoundTrip

namespace SealedTransfer

/-! ## Ciphers of options -/

namespace Options

/-- The payload cipher of options can be had if what it takes can be drawn. -/
theorem exists_cipher {options : Options} {entropy : Entropy}
    (given : options.DrawsKey → entropy.canGive PayloadCipher.generatedLength = true) :
    ∃ cipher rest, (options.cipher.mapM CipherChoice.cipher).runFrom entropy = (.ok cipher, rest) := by
  cases chosen : options.cipher with
  | none => exact ⟨_, _, rfl⟩
  | some choice =>
    rw [Option.mapM_some]
    suffices had : ∃ cipher rest, choice.cipher.runFrom entropy = (.ok cipher, rest) by
      obtain ⟨cipher, rest, ran⟩ := had
      exact ⟨some cipher, rest, Drawing.runFrom_bind_of_ok ran⟩
    cases choice with
    | ready cipher => exact ⟨_, _, rfl⟩
    | keys key secret =>
      rw [CipherChoice.cipher, PayloadCipher.make]
      by_cases empty : key = []
      · subst empty
        have drawn := Drawing.runFrom_exactly PayloadCipher.generatedLength Fault.randomnessFailed entropy
        rw [if_pos (given ⟨secret, chosen⟩)] at drawn
        rw [dif_neg (by simp), Drawing.runFrom_bind_of_ok drawn]
        exact ⟨_, _, rfl⟩
      · rw [dif_pos empty]
        exact ⟨_, _, rfl⟩

/-- The ciphers of options can be had if what they take can be drawn and the key for secrets can be
used. -/
theorem exists_ciphers {options : Options} {choice : SealChoice} {sealCipher : SealCipher}
    (chosen : options.sealCipher = some choice) (usable : choice.cipher = .ok sealCipher)
    {entropy : Entropy}
    (given : options.DrawsKey → entropy.canGive PayloadCipher.generatedLength = true) :
    ∃ cipher rest, options.ciphers.runFrom entropy = (.ok (cipher, some sealCipher), rest) := by
  obtain ⟨cipher, rest, drawn⟩ := exists_cipher given
  have mapped : options.sealCipher.mapM SealChoice.cipher = .ok (some sealCipher) := by
    rw [chosen, Option.mapM_some, usable]
    rfl
  refine ⟨cipher, rest, ?_⟩
  rw [ciphers, Drawing.runFrom_bind_of_ok drawn, mapped]
  rfl

/-- The key of a counterparty is set as the key to seal for. -/
theorem set_key_received {received : ReceivedKey} {key : PublicKey} (found : received.publicKey = key)
    (options : Options) :
    options.set (.key (.received received)) = options.set (.sealingKey key) := by
  subst found
  rfl

end Options

namespace Transfer

/-! ## Sealing and opening with exchanged keys -/

/-- A message that the holder of a key opens: with the key set, and whatever else is set that leaves the
message with a name, as long as a key that the options ask for can be drawn. -/
def OpensWith (key : AnyKey) (message : Message) (payload : Payload) : Prop :=
  ∀ (options : Options) (opening : Entropy), options.id ≠ some "" →
    (options.DrawsKey → opening.canGive PayloadCipher.generatedLength = true) →
      ∃ final, (openPayload message (options.set (.key key))).runFrom opening = (.ok payload, final)

/-- The message of a payload that was sealed for a key is that of an envelope that keeps the payload. It
names the key, and is called what it was asked to be. -/
theorem exists_keeps_of_sealPayload {key : Rsa.PublicKey} {occasion : Occasion} {payload : Payload}
    (short : payload.encode.length < 2 ^ 64) {options : Options} {message : Message}
    {entropy rest : Entropy}
    (closed : (sealPayload occasion payload (options.set (.sealingKey (.rsa key)))).runFrom entropy
      = (.ok message, rest)) :
    ∃ envelope : Envelope, envelope.message = message ∧ envelope.Keeps payload ∧
      envelope.Protected true ∧ envelope.sealCipher = some (.recipient key) ∧
      message.publicKeySignature = (PublicKey.rsa key).fingerprint ∧
      message.id = options.id.getD occasion.freshId.text := by
  obtain ⟨new, _, unsealed, _, sealed, made, encrypted, wrapped, rfl⟩ :=
    steps_of_sealUnchecked (sealUnchecked_of_sealPayload closed)
  have encryption := advances_of_advance encrypted
  have sealing := advances_of_advance wrapped
  have same := encryption.sameTransfer.trans sealing.sameTransfer
  have guarded := sealing.protected_of_sealing
  obtain ⟨clear, -, timestamp, chosen⟩ := Envelope.of_create made
  have recipient : new.sealCipher = some (.recipient key) := (Except.ok.inj chosen).symm
  refine ⟨sealed, rfl, ?_, guarded, same.sealCipher.trans recipient, ?_, same.id.trans ?_⟩
  · have start : new.Keeps payload := .clear clear (same.id ▸ guarded.complete.id) timestamp
    exact Envelope.keeps_of_sealing (Envelope.keeps_of_encryption short start encryption) sealing
  · obtain ⟨cipher, chosen', named⟩ := sealing.signature_of_sealing
    rw [encryption.sameTransfer.sealCipher, recipient] at chosen'
    cases chosen'
    exact named
  · obtain ⟨_, _, -, whole⟩ := Options.runFrom_apply_eq_ok.mp made
    rw [whole]
    rfl

/-- The holder of a key opens what was sealed for its public half. -/
theorem opensWith_of_sealed {key : AnyKey} {own : Rsa.PrivateKey}
    (held : key.privateKey? = some (.rsa own)) (inverts : own.Inverts) {occasion : Occasion}
    {payload : Payload} (short : payload.encode.length < 2 ^ 64) {options : Options}
    {message : Message} {entropy rest : Entropy}
    (closed : (sealPayload occasion payload
      (options.set (.sealingKey (.rsa own.publicHalf)))).runFrom entropy = (.ok message, rest)) :
    message.publicKeySignature = (PublicKey.rsa own.publicHalf).fingerprint ∧
      options.id ≠ some "" ∧ OpensWith key message payload := by
  obtain ⟨envelope, rfl, kept, guarded, recipient, names, called⟩ :=
    exists_keeps_of_sealPayload short closed
  have hasName : envelope.message.id ≠ "" := guarded.complete.id
  refine ⟨names, ?_, ?_⟩
  · intro unnamed
    rw [called, unnamed] at hasName
    exact hasName rfl
  · intro other opening named given
    have chosen : (other.set (.key key)).sealCipher = some (.unsealing (.rsa own)) := by
      show some (SealChoice.ofKey key) = _
      rw [SealChoice.ofKey, held]
    have name : (other.set (.key key)).id.getD envelope.message.id ≠ "" :=
      other.getD_id_ne_empty named hasName
    obtain ⟨cipher, final, applied⟩ := Options.exists_ciphers chosen rfl given
    exact ⟨final, openPayload_of_applied inverts kept guarded recipient rfl name applied⟩

/-- **A key exchange keeps the key and pairs sealing with opening.** However a certified key is made: the
message that tells of it has the times of its certificate, and a counterparty finds the same key in it.
A private RSA key is the other half of the certificate's key, and if it inverts, whatever is sealed for
the received key names the certified one and is opened with it. -/
theorem exchange_of_made {key : CertifiedKey} (made : key.Made) :
    (Time.Instant.ofText? key.signingKey.notBefore = some key.certificate.notBefore ∧
      Time.Instant.ofText? key.signingKey.notAfter = some key.certificate.notAfter) ∧
    ∃ received, ReceivedKey.ofMessage key.signingKey = .ok received ∧
      (AnyKey.received received).SameFace (.certified key) ∧
      ∀ own, key.privateKey = some (.rsa own) →
        key.certificate.publicKey = .ok (.rsa own.publicHalf) ∧
        (own.Inverts → ∀ {occasion : Occasion} {payload : Payload} {options : Options}
          {message : Message} {entropy rest : Entropy}, payload.encode.length < 2 ^ 64 →
          (sealPayload occasion payload (options.set (.key (.received received)))).runFrom entropy
            = (.ok message, rest) →
          message.publicKeySignature = (AnyKey.certified key).fingerprint ∧ options.id ≠ some "" ∧
            OpensWith (.certified key) message payload) := by
  have coherent := made.isCoherent
  obtain ⟨received, told, same⟩ := coherent.exists_received
  refine ⟨coherent.times, received, told, same, ?_⟩
  intro own held
  have half : key.publicKey = .rsa own.publicHalf := coherent.paired own held
  refine ⟨coherent.own.trans (congrArg Except.ok half), ?_⟩
  intro inverts occasion payload options message entropy rest short closed
  rw [Options.set_key_received (same.sealingKey.trans half)] at closed
  obtain ⟨names, named, opens⟩ := @opensWith_of_sealed (.certified key) own held inverts _ _ short _ _
    _ _ closed
  refine ⟨names.trans ?_, named, opens⟩
  show _ = key.publicKey.fingerprint
  rw [half]

/-- A complete payload. -/
def completePayload : Payload := ⟨some .empty, some .empty, "1970-01-01T00:00:00Z", ""⟩

/-- A complete payload can be sealed. -/
theorem exists_sealed_completePayload :
    ∃ message rest, (sealPayload ⟨⟨0⟩, .epoch⟩ completePayload
      (Options.none.set (.sealingKey (.rsa Rsa.PrivateKey.mersenne.publicHalf)))).runFrom
        ⟨fun _ => 1, 0, none⟩ = (.ok message, rest) := by
  have room : Rsa.Oaep.fits Rsa.PrivateKey.mersenne.publicHalf.size PayloadCipher.generatedLength
      = true := by
    rw [Rsa.PrivateKey.size_mersenne]
    rfl
  have seals := succeeds_sealUnchecked ⟨⟨0⟩, .epoch⟩ completePayload
    (show Options.none.id ≠ some "" by decide) rfl room
  obtain ⟨message, rest, closed, -, -⟩ := seals ⟨fun _ => 1, 0, none⟩ rfl
  exact ⟨message, rest, sealPayload_of_sealUnchecked (by decide) closed⟩

/-- A complete payload on its way to the owner of a certificate. -/
theorem exchange_of_mersenne :
    ∃ key received message rest, key.Made ∧ key.privateKey = some (.rsa .mersenne) ∧
      ReceivedKey.ofMessage key.signingKey = .ok received ∧
      (sealPayload ⟨⟨0⟩, .epoch⟩ completePayload (Options.none.set (.key (.received received)))).runFrom
        ⟨fun _ => 1, 0, none⟩ = (.ok message, rest) ∧
      message.publicKeySignature = (AnyKey.certified key).fingerprint ∧
      ∃ final, (openPayload message (Options.none.set (.key (.certified key)))).runFrom
        ⟨fun _ => 0, 0, some 0⟩ = (.ok completePayload, final) := by
  obtain ⟨key, made, held⟩ := KeyData.exists_ofPair
    (show (Certificate.decode? (KeyData.sampleCertificate
        (PublicKey.subjectKey Rsa.PrivateKey.mersenne.publicHalf) [])).map (·.subjectKey)
      = some (PublicKey.subjectKey Rsa.PrivateKey.mersenne.publicHalf) by decide +kernel)
    (by decide +kernel)
  obtain ⟨-, received, told, same, paired⟩ := exchange_of_made (.pair made)
  have found : received.publicKey = .rsa Rsa.PrivateKey.mersenne.publicHalf :=
    same.sealingKey.trans ((CertifiedKey.Made.pair made).isCoherent.paired _ held)
  have room : Rsa.Oaep.fits Rsa.PrivateKey.mersenne.publicHalf.size PayloadCipher.generatedLength
      = true := by
    rw [Rsa.PrivateKey.size_mersenne]
    rfl
  have complete : completePayload.validate = .ok () := by decide
  have seals := succeeds_sealUnchecked ⟨⟨0⟩, .epoch⟩ completePayload
    (show Options.none.id ≠ some "" by decide) rfl room
  obtain ⟨message, rest, closed, -, -⟩ := seals ⟨fun _ => 1, 0, none⟩ rfl
  rw [← Options.set_key_received found] at closed
  have sealed := sealPayload_of_sealUnchecked complete closed
  obtain ⟨names, -, opens⟩ := (paired .mersenne held).2 Rsa.PrivateKey.inverts_mersenne
    (show completePayload.encode.length < 2 ^ 64 by decide +kernel) sealed
  have opened := opens Options.none ⟨fun _ => 0, 0, some 0⟩ nofun nofun
  exact ⟨key, received, message, rest, .pair made, held, told, sealed, names, opened⟩

end Transfer

end SealedTransfer
