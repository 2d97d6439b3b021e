/-
# SealedTransfer.Proofs.Cipher.Seal — what the cipher of secrets wraps and unwraps

A wrapped secret is the encryption of a secret that fits, under some seed. Wrapping makes nothing else,
and the owner of the private key unwraps every wrapped secret, provided the key inverts.
-/
import SealedTransfer.Cipher.Seal
import SealedTransfer.Proofs.Key.Fingerprint
import SealedTransfer.Proofs.Rsa.Oaep

namespace SealedTransfer.SealCipher

/-! ## Wrapped secrets -/

/-- A secret wrapped for the owner of a key: encrypted under some seed. -/
def IsWrapped (key : Rsa.PublicKey) (secret wrapped : Bytes) : Prop :=
  Rsa.Oaep.fits key.size secret.length = true ∧
    ∃ seed : Bytes, seed.length = Rsa.digestLength ∧ wrapped = Rsa.Oaep.encrypt key seed secret

/-- A wrapped secret is longer than the secret, by two digests and more. -/
theorem IsWrapped.room {key : Rsa.PublicKey} {secret wrapped : Bytes}
    (h : IsWrapped key secret wrapped) :
    secret.length + 2 * Rsa.digestLength + 2 ≤ wrapped.length := by
  obtain ⟨fits, seed, -, rfl⟩ := h
  rw [Rsa.Oaep.length_encrypt]
  exact Rsa.Oaep.fits_iff.mp fits

/-- A wrapped secret is not empty. -/
theorem IsWrapped.ne_nil {key : Rsa.PublicKey} {secret wrapped : Bytes}
    (h : IsWrapped key secret wrapped) : wrapped ≠ [] := by
  have long := h.room
  rintro rfl
  rw [List.length_nil] at long
  omega

/-- **Encryption wraps a secret that fits**, with the next octets of the source for a seed. -/
theorem runFrom_encrypt_eq_ok {cipher : SealCipher} {secret wrapped : Bytes}
    {entropy rest : Entropy} :
    (cipher.encrypt secret).runFrom entropy = (.ok wrapped, rest) ↔
      Rsa.Oaep.fits cipher.publicHalf.size secret.length = true ∧
        entropy.canGive Rsa.digestLength = true ∧
        wrapped = Rsa.Oaep.encrypt cipher.publicHalf
          (entropy.slice entropy.position Rsa.digestLength) secret ∧
        rest = entropy.past Rsa.digestLength := by
  unfold encrypt
  split
  · rename_i fits
    rw [Drawing.runFrom_octets_bind]
    by_cases enough : entropy.canGive Rsa.digestLength
    · rw [if_pos enough]
      constructor
      · intro h
        cases h
        exact ⟨fits, enough, rfl, rfl⟩
      · rintro ⟨-, -, rfl, rfl⟩
        rfl
    · rw [if_neg enough]
      simp [enough]
  · rename_i unfit
    simp [unfit]

/-- What is made by encryption is wrapped. -/
theorem isWrapped_of_encrypt {cipher : SealCipher} {secret wrapped : Bytes}
    {entropy rest : Entropy} (h : (cipher.encrypt secret).runFrom entropy = (.ok wrapped, rest)) :
    IsWrapped cipher.publicHalf secret wrapped := by
  obtain ⟨fits, -, made, -⟩ := runFrom_encrypt_eq_ok.mp h
  exact ⟨fits, _, Entropy.length_slice _ _ _, made⟩

/-- What the owner of a private key finds. -/
theorem decrypt_owner (key : Rsa.PrivateKey) (wrapped : Bytes) :
    (owner key).decrypt wrapped = match Rsa.Oaep.decrypt? key wrapped with
      | some secret => .ok secret
      | none => .error .decryptionFailed := rfl

/-- **The owner unwraps what was wrapped**, if the key opens. -/
theorem decrypt_of_opens {key : Rsa.PrivateKey} (opens : Rsa.Oaep.Opens key)
    {secret wrapped : Bytes} (h : IsWrapped key.publicHalf secret wrapped) :
    (owner key).decrypt wrapped = .ok secret := by
  obtain ⟨fits, seed, seeded, rfl⟩ := h
  rw [decrypt_owner, opens seed secret seeded fits]

/-- The owner unwraps what was wrapped, if the key inverts. -/
theorem decrypt_of_isWrapped {key : Rsa.PrivateKey} (inverts : key.Inverts)
    {secret wrapped : Bytes} (h : IsWrapped key.publicHalf secret wrapped) :
    (owner key).decrypt wrapped = .ok secret :=
  decrypt_of_opens (Rsa.Oaep.opens_of_inverts inverts) h

/-- The owner of a private key is never asked for one. -/
theorem decrypt_owner_ne_privateKeyRequired (key : Rsa.PrivateKey) (wrapped : Bytes) :
    (owner key).decrypt wrapped ≠ .error .privateKeyRequired := by
  rw [decrypt_owner]
  split <;> simp

/-! ## Fingerprints -/

/-- The fingerprint of a cipher identifies the key that it wraps for. -/
theorem identifies_fingerprint (cipher : SealCipher) :
    Fingerprint.identifies cipher.fingerprint (.rsa cipher.publicHalf) = true :=
  Fingerprint.identifies_text_ofKey Fingerprint.usualHash (.rsa cipher.publicHalf)

/-! ## One public half -/

section PublicHalf

variable {cipher other : SealCipher} (same : other.publicHalf = cipher.publicHalf)
include same

/-- Ciphers with one public half wrap alike. -/
theorem encrypt_congr : other.encrypt = cipher.encrypt := by
  funext secret
  simp only [encrypt, same]

/-- Ciphers with one public half have one fingerprint. -/
theorem fingerprint_congr : other.fingerprint = cipher.fingerprint := by
  rw [fingerprint, fingerprint, same]

end PublicHalf

end SealedTransfer.SealCipher
