/-
# SealedTransfer.Proofs.Aes.Gcm — decryption undoes encryption and accepts nothing else

Masking twice with the same mask changes nothing, and the tag is computed from the masked text on both
sides. So what encryption made is decrypted to its text, and whatever is decrypted to a text is what
encryption makes of that text.
-/
import SealedTransfer.Aes.Gcm

namespace SealedTransfer.Aes.Gcm

section

variable (key : Key) (nonce text : Bytes)

@[simp] theorem length_tag (schedule : List Block) (masked : Bytes) :
    (tag schedule nonce masked).length = tagLength := by
  simp [tag, tagLength, Bytes.length_xor]

/-- Masking keeps the length. -/
@[simp] theorem length_xor_mask (schedule : List Block) :
    (Bytes.xor text (mask schedule nonce text.length)).length = text.length := by
  rw [Bytes.length_xor]
  exact Nat.min_eq_left (length_le_mask schedule nonce text.length)

/-- Encryption adds the tag. -/
@[simp] theorem length_encrypt : (encrypt key nonce text).length = text.length + tagLength := by
  simp [encrypt]

theorem xor_mask_xor_mask (schedule : List Block) :
    Bytes.xor (Bytes.xor text (mask schedule nonce text.length)) (mask schedule nonce text.length)
      = text :=
  Bytes.xor_xor_cancel (length_le_mask schedule nonce text.length)

/-- **Decryption undoes encryption.** -/
@[simp] theorem decrypt?_encrypt : decrypt? key nonce (encrypt key nonce text) = some text := by
  have masked : (encrypt key nonce text).take text.length
      = Bytes.xor text (mask key.schedule nonce text.length) :=
    List.take_left' (length_xor_mask nonce text key.schedule)
  have tagged : (encrypt key nonce text).drop text.length
      = tag key.schedule nonce (Bytes.xor text (mask key.schedule nonce text.length)) :=
    List.drop_left' (length_xor_mask nonce text key.schedule)
  simp only [decrypt?, length_encrypt, Nat.add_sub_cancel, masked, tagged, length_xor_mask,
    xor_mask_xor_mask]
  rw [if_pos ⟨Nat.le_add_left _ _, trivial⟩]

end

/-- What is decrypted to a text is its encryption. -/
theorem eq_encrypt_of_decrypt? {key : Key} {nonce encrypted text : Bytes}
    (h : decrypt? key nonce encrypted = some text) : encrypted = encrypt key nonce text := by
  unfold decrypt? at h
  dsimp only at h
  split at h
  · rename_i right
    obtain ⟨long, tagged⟩ := right
    cases h
    have unmasked := xor_mask_xor_mask nonce
      (encrypted.take (encrypted.length - tagLength)) key.schedule
    simp only [encrypt, length_xor_mask, unmasked, ← tagged, List.take_append_drop]
  · cases h

end SealedTransfer.Aes.Gcm
