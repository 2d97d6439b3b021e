/-
# SealedTransfer.Proofs.Envelope.Holding — what it takes for a message to hold a payload

A message holds a payload under a key and a secret if tag, algorithms and ciphertext fit together. It
holds one payload at most, and the secrets that stand in it, wrapped or not, have no part in that. An
encryption makes a message that holds its payload.
-/
import SealedTransfer.Proofs.Cipher.Payload
import SealedTransfer.Proofs.Envelope.Algorithms
import SealedTransfer.Proofs.Envelope.Changes
import SealedTransfer.Proofs.Envelope.Status
import SealedTransfer.Proofs.Message.Payload

namespace SealedTransfer

namespace PayloadCipher

theorem algorithmOfLength_ne_empty (length : Nat) : algorithmOfLength length ≠ "" := by
  unfold algorithmOfLength
  split
  · decide
  split
  · decide
  split <;> decide

/-- A ciphertext is the ciphertext of one text. -/
theorem IsCiphertext.text_unique {octets text text' ciphertext : Bytes}
    (h : IsCiphertext octets text ciphertext) (h' : IsCiphertext octets text' ciphertext) :
    text = text' := by
  have some : octets ≠ [] := by
    rintro rfl
    have := h.isKeyLength
    simp [Aes.IsKeyLength] at this
  have decrypted : (mk octets octets some some).decrypt ciphertext = .ok text :=
    decrypt_eq_ok.mpr h
  have decrypted' : (mk octets octets some some).decrypt ciphertext = .ok text' :=
    decrypt_eq_ok.mpr h'
  rw [decrypted] at decrypted'
  exact Except.ok.inj decrypted'

end PayloadCipher

namespace Message

/-- A message that holds a payload under a key and a secret: its tag is the secret's, its algorithms are
those of a cipher with the key, and it has a ciphertext, under the key, of a text that spells the
payload. -/
structure Holds (message : Message) (key secret : Bytes) (payload : Payload) : Prop where
  tagged : message.hmac = Hash.Hmac.tag secret message.payload
  names : message.Names key.length
  encrypted : ∃ text, PayloadCipher.IsCiphertext key text message.payload ∧
    Payload.decode? text = some payload

/-- Under one key and secret, a message holds one payload. -/
theorem Holds.payload_unique {message : Message} {key secret : Bytes} {payload payload' : Payload}
    (h : message.Holds key secret payload) (h' : message.Holds key secret payload') :
    payload = payload' := by
  obtain ⟨text, encrypted, spelled⟩ := h.encrypted
  obtain ⟨text', encrypted', spelled'⟩ := h'.encrypted
  rw [← encrypted.text_unique encrypted', spelled] at spelled'
  exact Option.some.inj spelled'

/-! ## Secrets -/

/-- A message with its secrets replaced. -/
def withSecrets (message : Message) (key secret : Bytes) (isSealed : Bool) (signature : String) :
    Message :=
  { message with
    encryptionKey := key
    hmacSecret := secret
    isSealed := isSealed
    publicKeySignature := signature }

/-- A message holds a payload whatever secrets stand in it. -/
theorem Holds.withSecrets {message : Message} {key secret : Bytes} {payload : Payload}
    (h : message.Holds key secret payload) (key' secret' : Bytes) (isSealed : Bool)
    (signature : String) :
    (message.withSecrets key' secret' isSealed signature).Holds key secret payload :=
  ⟨h.tagged, h.names, h.encrypted⟩

/-- A complete message stays complete with other secrets. -/
theorem Complete.withSecrets {message : Message} (h : message.Complete) {key secret : Bytes}
    (hasKey : key ≠ []) (hasSecret : secret ≠ []) (isSealed : Bool) (signature : String) :
    (message.withSecrets key secret isSealed signature).Complete :=
  { h with encryptionKey := hasKey, hmacSecret := hasSecret }

/-- The cipher whose key and secret stand in a complete message. -/
def Complete.cipher {message : Message} (h : message.Complete) : PayloadCipher :=
  ⟨message.encryptionKey, message.hmacSecret, h.encryptionKey, h.hmacSecret⟩

end Message

/-! ## Encrypted messages -/

section Encrypted

variable {message : Message} {cipher : PayloadCipher} {ciphertext : Bytes} {payload : Payload}

/-- An encrypted message is complete if it has a name and a timestamp. -/
theorem Envelope.complete_protectedMessage (cipher : PayloadCipher) (id : message.id ≠ "")
    (timestamp : message.timestamp ≠ "") (some : ciphertext ≠ []) :
    (protectedMessage message cipher ciphertext
      (Hash.Hmac.tag cipher.secret ciphertext)).Complete where
  id := id
  payload := some
  timestamp := timestamp
  encryptionKey := cipher.key_ne_nil
  encryptionAlgorithm := PayloadCipher.algorithmOfLength_ne_empty _
  hmac := Hash.Hmac.tag_ne_nil _ _
  hmacSecret := cipher.secret_ne_nil
  hmacAlgorithm := by
    show PayloadCipher.hmacAlgorithm ≠ ""
    decide

/-- **An encrypted message holds its payload** under key and secret of the cipher. -/
theorem Envelope.holds_protectedMessage (message : Message)
    (encrypted : PayloadCipher.IsCiphertext cipher.key payload.encode ciphertext)
    (short : payload.encode.length < 2 ^ 64) :
    (protectedMessage message cipher ciphertext (Hash.Hmac.tag cipher.secret ciphertext)).Holds
      cipher.key cipher.secret payload where
  tagged := rfl
  names := ⟨.inl rfl, rfl⟩
  encrypted := ⟨_, encrypted, payload.decode?_encode_of_length_lt short⟩

end Encrypted

end SealedTransfer
