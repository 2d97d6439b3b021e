/-
# SealedTransfer.Proofs.Envelope.Sealing — unsealing undoes sealing

Sealing wraps the two secrets of a message, each by itself, and names the recipient. It looks at nothing of
its cipher but the public half, so it makes no difference whether the owner of the key seals or a sender who
has only the public half. Whoever has the private half gets the message back by unsealing, in every field but
the name of the recipient, which is dropped.
-/
import SealedTransfer.Proofs.Envelope.Options
import SealedTransfer.Proofs.Envelope.Transitions

namespace SealedTransfer

/-! ## Changes of what is left -/

/-- What is done with the outcome of a computation leaves the source alone. -/
theorem Drawing.runFrom_map {ε α β : Type} (change : α → β) (computation : Drawing ε α)
    (entropy : Entropy) :
    (change <$> computation).runFrom entropy
      = ((computation.runFrom entropy).1.map change, (computation.runFrom entropy).2) := by
  rw [← bind_pure_comp, runFrom_bind]
  obtain ⟨result, rest⟩ := computation.runFrom entropy
  cases result <;> rfl

namespace Envelope

/-- An envelope with another cipher of secrets. -/
def withSeal (envelope : Envelope) (cipher : SealCipher) : Envelope :=
  { envelope with sealCipher := some cipher }

/-- What is done with every envelope, changed or not, is done with what an attempt leaves. -/
theorem attempt_map (adjust : Envelope → Envelope) (change : Drawing Failure Envelope)
    (envelope : Envelope) (entropy : Entropy) :
    attempt (adjust <$> change) (adjust envelope) entropy =
      { attempt change envelope entropy with
        envelope := adjust (attempt change envelope entropy).envelope } := by
  simp only [attempt, Drawing.runFrom_map]
  obtain ⟨result, rest⟩ := change.runFrom entropy
  cases result <;> rfl

/-! ## Who seals -/

section Seals

variable (envelope : Envelope) {cipher other : SealCipher}

/-- Sealing uses nothing of a cipher but its public half. -/
theorem sealed_withSeal (same : other.publicHalf = cipher.publicHalf) :
    (envelope.withSeal other).sealed
      = (fun after => after.withSeal other) <$> (envelope.withSeal cipher).sealed := by
  have sameState : (envelope.withSeal other).expectState Transition.sealing.source
      = (envelope.withSeal cipher).expectState Transition.sealing.source := rfl
  have chosen (cipher : SealCipher) :
      (envelope.withSeal cipher).chosenSeal .noSealingKey = .ok cipher := rfl
  have drawsOnly (cipher : SealCipher) (next : SealCipher → Drawing Failure Envelope) :
      (Drawing.ofExcept (.ok cipher) >>= next) = next cipher := rfl
  simp only [sealed, sameState, chosen, drawsOnly, SealCipher.encrypt_congr same,
    SealCipher.fingerprint_congr same, map_bind, map_pure]
  rfl

/-- **It makes no difference who seals**: the steps of two ciphers with one public half differ in nothing but
the cipher that the envelope has anyway. -/
theorem sealSecrets_withSeal (same : other.publicHalf = cipher.publicHalf) (entropy : Entropy) :
    (envelope.withSeal other).sealSecrets entropy =
      { (envelope.withSeal cipher).sealSecrets entropy with
        envelope := ((envelope.withSeal cipher).sealSecrets entropy).envelope.withSeal other } := by
  rw [sealSecrets_eq, sealSecrets_eq, sealed_withSeal envelope same]
  exact attempt_map (fun after => after.withSeal other) _ (envelope.withSeal cipher) entropy

end Seals

/-! ## What unsealing gives back -/

section Restoring

variable {envelope after : Envelope} {cipher : SealCipher}

/-- A sealing changes the secrets of the message, which it wraps, marks them so and names the recipient. -/
theorem exists_wrapped_of_sealing (sealing : Advances .sealing envelope after)
    (chosen : envelope.sealCipher = some cipher) :
    ∃ wrappedKey wrappedSecret,
      SealCipher.IsWrapped cipher.publicHalf envelope.message.encryptionKey wrappedKey ∧
        SealCipher.IsWrapped cipher.publicHalf envelope.message.hmacSecret wrappedSecret ∧
        after = { envelope with
          message := envelope.message.withSecrets wrappedKey wrappedSecret true cipher.fingerprint } := by
  cases sealing with
  | sealing unsealed chosen' wrappedKey wrappedSecret =>
    obtain rfl := Option.some.inj (chosen.symm.trans chosen')
    exact ⟨_, _, wrappedKey, wrappedSecret, rfl⟩

/-- Only an envelope whose secrets are in the clear is sealed. -/
theorem Advances.protected_before_sealing (sealing : Advances .sealing envelope after) :
    envelope.Protected false := by
  cases sealing with
  | sealing unsealed chosen wrappedKey wrappedSecret => exact unsealed

/-- **Unsealing undoes sealing** in every envelope around the sealed message whose owner has the private
half. -/
theorem unsealSecrets_of_sealing {key : Rsa.PrivateKey} (opens : Rsa.Oaep.Opens key)
    (sealing : Advances .sealing envelope after) (chosen : envelope.sealCipher = some cipher)
    (half : cipher.publicHalf = key.publicHalf) (supported : envelope.message.Supported)
    (holder : Envelope) (held : holder.message = after.message) (closed : holder.payload = none)
    (owned : holder.sealCipher = some (.owner key)) (entropy : Entropy) :
    holder.unsealSecrets entropy =
      ⟨.ok (), { holder with message := { envelope.message with publicKeySignature := "" } },
        entropy⟩ := by
  have clear := sealing.protected_before_sealing
  have guarded : holder.Protected true := by
    have sealed := sealing.protected_of_sealing
    refine ⟨closed, ?_, ?_⟩
    · rw [held]
      exact sealed.complete
    · rw [held]
      exact sealed.isSealed
  obtain ⟨wrappedKey, wrappedSecret, isKey, isSecret, rfl⟩ :=
    exists_wrapped_of_sealing sealing chosen
  rw [half] at isKey isSecret
  have supported' : holder.message.Supported := by
    rw [held]
    exact supported
  -- both secrets are found again, each where it was put
  have keyFound : (SealCipher.owner key).decrypt holder.message.encryptionKey
      = .ok envelope.message.encryptionKey := by
    rw [held]
    exact SealCipher.decrypt_of_opens opens isKey
  have secretFound : (SealCipher.owner key).decrypt holder.message.hmacSecret
      = .ok envelope.message.hmacSecret := by
    rw [held]
    exact SealCipher.decrypt_of_opens opens isSecret
  have restored : holder.message.withSecrets envelope.message.encryptionKey
      envelope.message.hmacSecret false "" = { envelope.message with publicKeySignature := "" } := by
    rw [held, ← clear.isSealed]
    rfl
  rw [← restored]
  exact unsealSecrets_of_advances
    (.unsealing guarded supported' owned keyFound secretFound) entropy

end Restoring

end Envelope

end SealedTransfer
