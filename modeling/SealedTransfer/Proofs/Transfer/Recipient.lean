/-
# SealedTransfer.Proofs.Transfer.Recipient — whom a sealed message names, and what they get back

A sealed message names its recipient by a fingerprint of the public key. The grammar of fingerprints leaves
their writer the case and the surroundings of the hash's name and nothing else, so the sum tells the key. The
name that sealing writes is a text of the grammar, and it is the same one whoever seals: the owner of the
key, or a sender who has only the public half. The one who is named unseals the message and has it as it was
before it was sealed, but for the name.
-/
import SealedTransfer.Proofs.Envelope.Sealing
import SealedTransfer.Proofs.Transfer.Authentic
import SealedTransfer.Proofs.Transfer.Closing

namespace SealedTransfer

namespace Fingerprint

/-- **The texts that identify a key**, spelled out: one colon, the name of a hash before it, and behind it the
sum of the key's encoding. -/
theorem identifies_iff_exists {text : String} {key : PublicKey} :
    identifies text key = true ↔ text.toList.count ':' = 1 ∧
      ∃ (hash : FingerprintHash) (before : List Char),
        (Text.trimBlanks before).map Text.asciiUpper = hash.name.toList ∧
          text.toList = before ++ ':' :: Text.Base64.encodeUnpadded (hash.digest key.encode) := by
  rw [identifies_iff]
  constructor
  · rintro ⟨hash, spelled⟩
    have colons := spelled.count_colon
    obtain ⟨before, named, whole⟩ := spelled
    exact ⟨colons, hash, before, FingerprintHash.named_iff.mp named, whole⟩
  · rintro ⟨-, hash, before, named, whole⟩
    exact ⟨hash, before, FingerprintHash.named_iff.mpr named, whole⟩

end Fingerprint

/-! ## Two halves of one key -/

/-- The halves of a key pair make ciphers that wrap for one public key. -/
theorem SealCipher.exists_of_publicKey {own : PrivateKey} {key : PublicKey}
    (half : own.publicKey = .ok key) :
    ∃ owner recipient, ofPrivate own = .ok owner ∧ ofPublic key = .ok recipient ∧
      key = .rsa recipient.publicHalf ∧ owner.publicHalf = recipient.publicHalf := by
  cases own with
  | rsa secret =>
    cases half
    exact ⟨.owner secret, .recipient secret.publicHalf, rfl, rfl, rfl, rfl⟩
  | other algorithm block => cases half

/-- Sealing with a cipher names the key that the cipher wraps for. -/
theorem Envelope.signature_of_sealSecrets {envelope : Envelope} {cipher : SealCipher}
    {entropy : Entropy} (h : ((envelope.withSeal cipher).sealSecrets entropy).outcome = .ok ()) :
    ((envelope.withSeal cipher).sealSecrets entropy).envelope.message.publicKeySignature
      = cipher.fingerprint := by
  have advanced : Advances .sealing (envelope.withSeal cipher) _ := advances_of_take h
  obtain ⟨chosen, held, named⟩ := advanced.signature_of_sealing
  cases held
  exact named

/-- **Fingerprints name keys, and sealed messages name their recipient by one.** A text identifies a key
exactly if it has one colon, before it the name of a hash in letters of any case and with white space around
it, and behind it the sum of the key's encoding in base64 without padding. The fingerprints of a key are read
back and identify it. And sealing with the private half of a key pair is sealing with the public half, with
the fingerprint of the public half for the name of the recipient. -/
theorem recipient_named_by_fingerprint :
    (∀ text key, Fingerprint.identifies text key = true ↔ text.toList.count ':' = 1 ∧
      ∃ (hash : FingerprintHash) (before : List Char),
        (Text.trimBlanks before).map Text.asciiUpper = hash.name.toList ∧
          text.toList = before ++ ':' :: Text.Base64.encodeUnpadded (hash.digest key.encode)) ∧
    (∀ hash key,
      Fingerprint.ofText (Fingerprint.ofKey hash key).text = .ok ⟨hash, hash.digest key.encode⟩ ∧
        Fingerprint.identifies (Fingerprint.ofKey hash key).text key = true) ∧
    (∀ own key, PrivateKey.publicKey own = .ok key → ∃ owner recipient,
      SealCipher.ofPrivate own = .ok owner ∧ SealCipher.ofPublic key = .ok recipient ∧
        owner.fingerprint = key.fingerprint ∧ recipient.fingerprint = key.fingerprint ∧
        ∀ envelope entropy,
          let sealed := (Envelope.withSeal envelope owner).sealSecrets entropy
          let other := (Envelope.withSeal envelope recipient).sealSecrets entropy
          sealed.outcome = other.outcome ∧ sealed.envelope.message = other.envelope.message ∧
            sealed.entropy = other.entropy ∧
            (sealed.outcome = .ok () →
              sealed.envelope.message.publicKeySignature = key.fingerprint)) := by
  refine ⟨fun _ _ => Fingerprint.identifies_iff_exists, ?_, ?_⟩
  · intro hash key
    exact ⟨Fingerprint.ofText_text _, Fingerprint.identifies_text_ofKey hash key⟩
  · intro own key half
    obtain ⟨owner, recipient, fromPrivate, fromPublic, rfl, same⟩ :=
      SealCipher.exists_of_publicKey half
    have named : owner.fingerprint = (PublicKey.rsa recipient.publicHalf).fingerprint :=
      SealCipher.fingerprint_congr same
    refine ⟨owner, recipient, fromPrivate, fromPublic, named, rfl, ?_⟩
    intro envelope entropy
    have step := envelope.sealSecrets_withSeal same entropy
    refine ⟨?_, ?_, ?_, ?_⟩
    · rw [step]
    · rw [step]
      rfl
    · rw [step]
    · intro succeeded
      exact (Envelope.signature_of_sealSecrets succeeded).trans named

/-! ### An envelope to seal -/

/-- An envelope with its secrets in the clear and a rejection beside the payload. -/
def Transfer.sampleEnvelope : Envelope :=
  .ofMessage { sampleMessage with error := some (.final .badRequest "late") }

/-- The secrets of the envelope are in the clear, whatever cipher there is for them. -/
theorem Transfer.protected_sampleEnvelope (cipher : SealCipher) :
    (sampleEnvelope.withSeal cipher).Protected false :=
  ⟨rfl, { complete_sampleMessage with }, rfl⟩

/-- The envelope can be sealed for the owner of a key with room. -/
theorem Transfer.sealSecrets_sampleEnvelope (cipher : SealCipher)
    (large : cipher.publicHalf.size = 236) :
    ((sampleEnvelope.withSeal cipher).sealSecrets ⟨fun _ => 1, 0, none⟩).outcome = .ok () := by
  have room (length : Nat) (short : length ≤ 16) :
      Rsa.Oaep.fits cipher.publicHalf.size length = true := by
    rw [Rsa.Oaep.fits_iff, large, Rsa.digestLength]
    omega
  have seals := Envelope.succeeds_sealing (protected_sampleEnvelope cipher) rfl
    (room 16 (Nat.le_refl _)) (room 1 (by decide))
  obtain ⟨after, rest, ran, -, -⟩ := seals ⟨fun _ => 1, 0, none⟩ rfl
  have stepped := take_of_advance ran
  exact congrArg Step.outcome stepped

/-- A fingerprint in letters of both cases and with white space, and a message that names its recipient. -/
theorem recipient_named_for_samples :
    Fingerprint.identifies (String.ofList ("\u2003sHa256 ".toList ++ ':' ::
      Text.Base64.encodeUnpadded (FingerprintHash.sha256.digest (PublicKey.other "Ed25519" []).encode)))
      (.other "Ed25519" []) = true ∧
    ((Transfer.sampleEnvelope.withSeal (.owner .mersenne)).sealSecrets
      ⟨fun _ => 1, 0, none⟩).envelope.message.publicKeySignature
        = (PublicKey.rsa Rsa.PrivateKey.mersenne.publicHalf).fingerprint := by
  obtain ⟨grammar, -, halves⟩ := recipient_named_by_fingerprint
  constructor
  · have colon : ':' ∉ "\u2003sHa256 ".toList := by decide
    refine (grammar _ _).mpr ⟨?_, .sha256, "\u2003sHa256 ".toList, by decide, String.toList_ofList⟩
    rw [String.toList_ofList]
    exact Text.count_separator colon (Text.Base64.colon_not_mem_encodeUnpadded _)
  · obtain ⟨owner, recipient, fromPrivate, -, -, -, sealing⟩ :=
      halves (.rsa .mersenne) (.rsa Rsa.PrivateKey.mersenne.publicHalf) rfl
    obtain rfl := Except.ok.inj fromPrivate
    obtain ⟨-, -, -, named⟩ :=
      sealing Transfer.sampleEnvelope ⟨fun _ => 1, 0, none⟩
    exact named (Transfer.sealSecrets_sampleEnvelope (.owner .mersenne) Rsa.PrivateKey.size_mersenne)

/-! ## What the recipient gets back -/

/-- **Unsealing undoes sealing.** An envelope that was sealed for the owner of a key that opens has changed in
the two secrets, which are wrapped, the mark that they are, and the name of the recipient. The owner gets the
message back by unsealing, on the same envelope or on one around the sealed message: every field is as it was
before the message was sealed, except that no recipient is named, and the rest of the envelope stays as it
is. -/
theorem unsealing_undoes_sealing {key : Rsa.PrivateKey} (opens : Rsa.Oaep.Opens key)
    {envelope : Envelope} {cipher : SealCipher} (chosen : envelope.sealCipher = some cipher)
    (half : cipher.publicHalf = key.publicHalf) (supported : envelope.message.Supported)
    {entropy : Entropy} (succeeded : (envelope.sealSecrets entropy).outcome = .ok ()) :
    let after := (envelope.sealSecrets entropy).envelope
    let restored : Message := { envelope.message with publicKeySignature := "" }
    (∃ wrappedKey wrappedSecret,
      SealCipher.IsWrapped key.publicHalf envelope.message.encryptionKey wrappedKey ∧
      SealCipher.IsWrapped key.publicHalf envelope.message.hmacSecret wrappedSecret ∧
      after = { envelope with
        message := { envelope.message with
          encryptionKey := wrappedKey
          hmacSecret := wrappedSecret
          isSealed := true
          publicKeySignature := (PublicKey.rsa key.publicHalf).fingerprint } }) ∧
    (cipher = .owner key → ∀ drawn,
      after.unsealSecrets drawn = ⟨.ok (), { envelope with message := restored }, drawn⟩) ∧
    (∀ drawn, (Envelope.wrap after.message (Options.ofSettings [.unsealingKey (.rsa key)])).runFrom
      drawn = (.ok ⟨after.message, none, none, some (.owner key)⟩, drawn)) ∧
    ∀ options choice wrapped drawn rest, Options.id options = none → options.timestamp = none →
      options.sealCipher = some choice → choice.cipher = .ok (.owner key) →
      (Envelope.wrap after.message options).runFrom drawn = (.ok wrapped, rest) →
        wrapped.message = after.message ∧ ∀ later,
          wrapped.unsealSecrets later = ⟨.ok (), { wrapped with message := restored }, later⟩ := by
  have sealing : Envelope.Advances .sealing envelope (envelope.sealSecrets entropy).envelope :=
    Envelope.advances_of_take succeeded
  have shape := Envelope.exists_wrapped_of_sealing sealing chosen
  have named : cipher.fingerprint = (PublicKey.rsa key.publicHalf).fingerprint := by
    rw [SealCipher.fingerprint, half]
  rw [half, named] at shape
  refine ⟨shape, ?_, ?_, ?_⟩
  · rintro rfl drawn
    obtain ⟨wrappedKey, wrappedSecret, -, -, whole⟩ := shape
    have owned : (envelope.sealSecrets entropy).envelope.sealCipher = some (.owner key) := by
      rw [whole]
      exact chosen
    have back := Envelope.unsealSecrets_of_sealing opens sealing chosen half supported _ rfl
      sealing.protected_of_sealing.payload owned drawn
    rw [back, whole]
  · intro drawn
    rw [Envelope.runFrom_wrap_eq_ok rfl rfl]
    exact ⟨none, _, Options.runFrom_ciphers_of_sealCipher rfl drawn, rfl⟩
  · intro options choice wrapped drawn rest unnamed untimed own made applied
    obtain ⟨other, sealCipher, drawnCiphers, rfl⟩ :=
      (Envelope.runFrom_wrap_eq_ok unnamed untimed).mp applied
    have owned : some (SealCipher.owner key) = sealCipher := by
      have found := Options.sealCipher_of_ciphers drawnCiphers
      rw [own, Option.mapM_some, made] at found
      cases found
      rfl
    refine ⟨rfl, ?_⟩
    intro later
    exact Envelope.unsealSecrets_of_sealing opens sealing chosen half supported
      ⟨_, none, other, sealCipher⟩ rfl rfl owned.symm later

/-- A message with a rejection, and two secrets of different lengths, that its sealer unseals again and that
anyone else unseals with the key. -/
theorem unsealing_undoes_sealing_for_sample :
    let envelope := Transfer.sampleEnvelope.withSeal (.owner .mersenne)
    let after := (envelope.sealSecrets ⟨fun _ => 1, 0, none⟩).envelope
    let restored : Message := { envelope.message with publicKeySignature := "" }
    after.unsealSecrets ⟨fun _ => 0, 0, some 0⟩
        = ⟨.ok (), { envelope with message := restored }, ⟨fun _ => 0, 0, some 0⟩⟩ ∧
      (Envelope.mk after.message none none (some (.owner .mersenne))).unsealSecrets
          ⟨fun _ => 0, 0, some 0⟩
        = ⟨.ok (), ⟨restored, none, none, some (.owner .mersenne)⟩, ⟨fun _ => 0, 0, some 0⟩⟩ := by
  have names : Transfer.sampleMessage.Names 16 := ⟨.inl rfl, rfl⟩
  have opens := Rsa.Oaep.opens_of_inverts Rsa.PrivateKey.inverts_mersenne
  obtain ⟨-, same, wraps, wrapped⟩ := unsealing_undoes_sealing opens
    (show (Transfer.sampleEnvelope.withSeal (.owner .mersenne)).sealCipher = _ from rfl) rfl names.supported
    (Transfer.sealSecrets_sampleEnvelope (.owner .mersenne) Rsa.PrivateKey.size_mersenne)
  refine ⟨same rfl _, ?_⟩
  obtain ⟨-, again⟩ := wrapped (Options.ofSettings [.unsealingKey (.rsa .mersenne)])
    (.unsealing (.rsa .mersenne)) _ _ _ rfl rfl rfl rfl (wraps ⟨fun _ => 0, 0, some 0⟩)
  exact again _

end SealedTransfer
