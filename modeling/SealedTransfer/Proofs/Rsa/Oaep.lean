/-
# SealedTransfer.Proofs.Rsa.Oaep — unwrapping undoes wrapping

Padding masks the message by the seed and the seed by the masked message; taking it off undoes the two
masks in the other order. The padded message starts with a zero octet and so is a number below the
modulus, which a key that inverts finds again.
-/
import SealedTransfer.Rsa.Oaep
import SealedTransfer.Proofs.Rsa.Key

namespace SealedTransfer.Rsa.Oaep

/-! ## Padding -/

@[simp] theorem length_labelDigest : labelDigest.length = digestLength :=
  Hash.Sha512.length_digest []

/-- Whether a message fits, as a bound. -/
theorem fits_iff {size length : Nat} :
    fits size length = true ↔ length + 2 * digestLength + 2 ≤ size := by
  rw [fits, decide_eq_true_iff]

/-- What is masked fills the padding, but for the zero octet and the seed. -/
theorem length_dataBlock {size : Nat} {message : Bytes} (h : fits size message.length) :
    (dataBlock size message).length = size - digestLength - 1 := by
  have room := fits_iff.mp h
  simp only [dataBlock, List.length_append, List.length_cons, length_labelDigest,
    Bytes.length_zeros]
  omega

/-- The message behind the zeros and the one is found. -/
theorem afterZeros_zeros_append (count : Nat) (message : Bytes) :
    afterZeros (Bytes.zeros count ++ 1 :: message) = some message := by
  induction count with
  | zero => rfl
  | succ count ih =>
    rw [Bytes.zeros, List.replicate_succ, List.cons_append, afterZeros, if_pos rfl]
    exact ih

section Masks

variable {size : Nat} {seed message : Bytes}

/-- A padded message fills the padding. -/
theorem length_pad (seeded : seed.length = digestLength) (h : fits size message.length) :
    (pad size seed message).length = size := by
  have room := fits_iff.mp h
  have maskedSeed (data : Bytes) : (Bytes.xor seed (mask data digestLength)).length = digestLength := by
    rw [← seeded, length_xor_mask]
  simp only [pad, List.length_append, List.length_cons, maskedSeed, length_xor_mask]
  rw [length_dataBlock h]
  omega

/-- **Taking the padding off gives the message back.** -/
theorem unpad?_pad (seeded : seed.length = digestLength) :
    unpad? (pad size seed message) = some message := by
  -- the two masks come off in the order opposite to the one they were put on
  set data := dataBlock size message with hdata
  set maskedData := Bytes.xor data (mask seed data.length) with hmasked
  set maskedSeed := Bytes.xor seed (mask maskedData digestLength) with hseed
  have padded : pad size seed message = 0 :: (maskedSeed ++ maskedData) := rfl
  have seedLength : maskedSeed.length = digestLength := by
    rw [hseed, ← seeded, length_xor_mask]
  have unmaskedSeed : Bytes.xor maskedSeed (mask maskedData digestLength) = seed := by
    rw [hseed, ← seeded, xor_mask_xor_mask]
  have unmaskedData : Bytes.xor maskedData (mask seed maskedData.length) = data := by
    rw [hmasked, length_xor_mask, xor_mask_xor_mask]
  have label : data.take digestLength = labelDigest := by
    rw [hdata, dataBlock, List.append_assoc]
    exact List.take_left' length_labelDigest
  have body : afterZeros (data.drop digestLength) = some message := by
    rw [hdata, dataBlock, List.append_assoc, List.drop_left' length_labelDigest]
    exact afterZeros_zeros_append _ message
  rw [padded, unpad?]
  simp only [List.take_left' seedLength, List.drop_left' seedLength, unmaskedSeed, unmaskedData,
    label, body]
  rw [if_pos ⟨trivial, trivial⟩]

end Masks

/-! ## Encryption -/

/-- A padded message is a number below the modulus. -/
theorem toNat_pad_lt (key : PublicKey) {seed message : Bytes} (seeded : seed.length = digestLength)
    (h : fits key.size message.length) :
    Bytes.toNat (pad key.size seed message) < key.modulus := by
  have long := length_pad seeded h
  have below := Bytes.toNat_lt (pad key.size seed message).tail
  have leading : Bytes.toNat (pad key.size seed message)
      = Bytes.toNat (pad key.size seed message).tail := Bytes.toNat_zero_cons _
  rw [List.length_tail, long] at below
  rw [leading]
  exact Nat.lt_of_lt_of_le below key.le_modulus

/-- Nothing is found in what has not the length of the modulus. -/
theorem decrypt?_of_length_ne {key : PrivateKey} {ciphertext : Bytes}
    (h : ciphertext.length ≠ key.publicHalf.size) : decrypt? key ciphertext = none := by
  rw [decrypt?]
  exact if_neg fun fits => h fits.1

/-- **Decryption undoes encryption**, for the owner of a key that inverts. -/
theorem decrypt?_encrypt {key : PrivateKey} (inverts : key.Inverts) {seed message : Bytes}
    (seeded : seed.length = digestLength) (h : fits key.publicHalf.size message.length) :
    decrypt? key (encrypt key.publicHalf seed message) = some message := by
  have room := fits_iff.mp h
  have image := key.publicHalf.apply_lt (Bytes.toNat (pad key.publicHalf.size seed message))
  have ciphertext : Bytes.toNat (encrypt key.publicHalf seed message)
      = key.publicHalf.apply (Bytes.toNat (pad key.publicHalf.size seed message)) := by
    rw [encrypt, Bytes.toNat_ofNat]
    exact Nat.mod_eq_of_lt (image.trans key.publicHalf.modulus_lt)
  have padded : Bytes.ofNat key.publicHalf.size
      (Bytes.toNat (pad key.publicHalf.size seed message)) = pad key.publicHalf.size seed message := by
    have digits := Bytes.ofNat_toNat (pad key.publicHalf.size seed message)
    rwa [length_pad seeded h] at digits
  have found := inverts _ (toNat_pad_lt key.publicHalf seeded h)
  simp only [decrypt?, length_encrypt, ciphertext, found, padded, unpad?_pad seeded]
  rw [if_pos ⟨trivial, by omega⟩]

/-- A private key that opens what is encrypted with its public half. -/
def Opens (key : PrivateKey) : Prop :=
  ∀ seed message : Bytes, seed.length = digestLength →
    fits key.publicHalf.size message.length = true →
      decrypt? key (encrypt key.publicHalf seed message) = some message

/-- A key that inverts opens. -/
theorem opens_of_inverts {key : PrivateKey} (inverts : key.Inverts) : Opens key := by
  intro seed message seeded fits
  exact decrypt?_encrypt inverts seeded fits

end SealedTransfer.Rsa.Oaep
