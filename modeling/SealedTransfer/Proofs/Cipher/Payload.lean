/-
# SealedTransfer.Proofs.Cipher.Payload — what the cipher of payloads makes and accepts

A ciphertext under a key is the encryption of a text with its nonce behind it. Encryption makes only
ciphertexts, and decryption accepts all of them and nothing else, under every key of a usable length.
-/
import SealedTransfer.Cipher.Payload
import SealedTransfer.Proofs.Aes.Gcm

namespace SealedTransfer

/-! ## Keys -/

/-- A length that a key can be used with. -/
def Aes.IsKeyLength (length : Nat) : Prop := length = 16 ∨ length = 24 ∨ length = 32

theorem Aes.Key.of?_eq_some_iff {octets : Bytes} {key : Aes.Key} :
    Aes.Key.of? octets = some key ↔ key.octets = octets := by
  constructor
  · intro h
    unfold Aes.Key.of? at h
    split at h
    · cases h
      rfl
    · cases h
  · rintro rfl
    rw [Aes.Key.of?, dif_pos key.usable]

namespace PayloadCipher

/-- A cipher is made of the key that is given, and nothing is drawn. -/
theorem runFrom_make {key secret : Bytes} (given : key ≠ []) (entropy : Entropy) :
    (make key secret).runFrom entropy = (.ok (ofKey key secret given), entropy) := by
  rw [make, dif_pos given]
  rfl

/-- With key and secret given, the cipher is just that. -/
theorem ofKey_eq {key secret : Bytes} (given : key ≠ []) (secretive : secret ≠ []) :
    ofKey key secret given = ⟨key, secret, given, secretive⟩ := by
  simp only [ofKey, if_neg secretive]

/-- The cipher that is generated from the next octets of a source: they are key and secret. -/
def generated (entropy : Entropy) : PayloadCipher where
  key := entropy.slice entropy.position generatedLength
  secret := entropy.slice entropy.position generatedLength
  key_ne_nil := List.ne_nil_of_length_pos (by rw [Entropy.length_slice]; decide)
  secret_ne_nil := List.ne_nil_of_length_pos (by rw [Entropy.length_slice]; decide)

/-- The key of a generated cipher, in use. -/
def generatedKey (entropy : Entropy) : Aes.Key :=
  ⟨entropy.slice entropy.position generatedLength, .inr (.inr (Entropy.length_slice _ _ _))⟩

/-- A cipher is generated from the next octets, unless the source cannot give them. -/
theorem runFrom_generate (entropy : Entropy) :
    generate.runFrom entropy =
      if entropy.canGive generatedLength then (.ok (generated entropy), entropy.past generatedLength)
      else (.error .randomnessFailed, entropy) := by
  rw [generate, make, dif_neg (by simp), Drawing.runFrom_bind, Drawing.runFrom_exactly]
  by_cases enough : entropy.canGive generatedLength
  · rw [if_pos enough, if_pos enough]
    rfl
  · rw [if_neg enough, if_neg enough]

/-- A generated cipher has a key of the generated length, which is its secret as well. -/
theorem of_generate {entropy rest : Entropy} {cipher : PayloadCipher}
    (h : generate.runFrom entropy = (.ok cipher, rest)) :
    cipher.key.length = generatedLength ∧ cipher.secret = cipher.key := by
  rw [runFrom_generate] at h
  split at h
  · cases h
    exact ⟨Entropy.length_slice _ _ _, rfl⟩
  · cases h

/-- A key can be used exactly if it is an AES key. -/
theorem usableKey_eq_ok {cipher : PayloadCipher} {key : Aes.Key} :
    cipher.usableKey = .ok key ↔ key.octets = cipher.key := by
  unfold usableKey
  cases found : Aes.Key.of? cipher.key with
  | some other =>
    rw [← Aes.Key.of?_eq_some_iff, found]
    simp
  | none =>
    rw [← Aes.Key.of?_eq_some_iff, found]
    simp

/-- A key that cannot be used is refused for its length. -/
theorem usableKey_eq_error {cipher : PayloadCipher} {fault : Fault}
    (h : cipher.usableKey = .error fault) : fault = .unusableKeyLength cipher.key.length := by
  unfold usableKey at h
  split at h
  · cases h
  · cases h
    rfl

/-- A key of any other length cannot be used. -/
theorem usableKey_of_not_isKeyLength {cipher : PayloadCipher}
    (unusable : ¬ Aes.IsKeyLength cipher.key.length) :
    cipher.usableKey = .error (.unusableKeyLength cipher.key.length) := by
  cases found : cipher.usableKey with
  | ok key =>
    rw [← usableKey_eq_ok.mp found] at unusable
    exact absurd key.usable unusable
  | error fault => rw [usableKey_eq_error found]

/-- The name of a cipher with a usable key asks for the length of that key. -/
theorem mem_algorithms_of_isKeyLength {length : Nat} (usable : Aes.IsKeyLength length) :
    (algorithmOfLength length, some length) ∈ algorithms := by
  rcases usable with rfl | rfl | rfl <;> decide

/-! ## Ciphertexts -/

/-- A ciphertext of a text under a key: its encryption with some nonce, and the nonce behind it. -/
def IsCiphertext (octets text ciphertext : Bytes) : Prop :=
  ∃ key : Aes.Key, key.octets = octets ∧ ∃ nonce : Bytes, nonce.length = Aes.Gcm.nonceLength ∧
    ciphertext = Aes.Gcm.encrypt key nonce text ++ nonce

namespace IsCiphertext

variable {octets text ciphertext : Bytes}

/-- Only keys of a usable length have ciphertexts. -/
theorem isKeyLength (h : IsCiphertext octets text ciphertext) : Aes.IsKeyLength octets.length := by
  obtain ⟨key, rfl, -⟩ := h
  exact key.usable

/-- A ciphertext is longer than its text by tag and nonce. -/
theorem length_eq (h : IsCiphertext octets text ciphertext) :
    ciphertext.length = text.length + Aes.Gcm.tagLength + Aes.Gcm.nonceLength := by
  obtain ⟨key, -, nonce, long, rfl⟩ := h
  rw [List.length_append, Aes.Gcm.length_encrypt, long]

theorem ne_nil (h : IsCiphertext octets text ciphertext) : ciphertext ≠ [] := by
  have long := h.length_eq
  rintro rfl
  rw [List.length_nil, Aes.Gcm.tagLength] at long
  omega

end IsCiphertext

/-- **Encryption makes a ciphertext.** -/
theorem isCiphertext_of_encrypt {cipher : PayloadCipher} {text ciphertext : Bytes}
    {entropy rest : Entropy} (h : (cipher.encrypt text).runFrom entropy = (.ok ciphertext, rest)) :
    IsCiphertext cipher.key text ciphertext := by
  rw [encrypt, Drawing.runFrom_bind_eq_ok] at h
  obtain ⟨nonce, drawn, hnonce, h⟩ := h
  rw [Drawing.runFrom_bind_eq_ok] at h
  obtain ⟨key, unused, hkey, h⟩ := h
  rw [Drawing.runFrom_ofExcept] at hkey
  rw [Drawing.runFrom_pure] at h
  cases h
  have usable : cipher.usableKey = .ok key := congrArg Prod.fst hkey
  refine ⟨key, usableKey_eq_ok.mp usable, nonce, ?_, rfl⟩
  rw [Drawing.runFrom_octets] at hnonce
  split at hnonce
  · cases hnonce
    exact Entropy.length_slice _ _ _
  · cases hnonce

/-- The ciphertext of a text with the next octets of a source for a nonce. -/
def ciphertextFrom (key : Aes.Key) (text : Bytes) (entropy : Entropy) : Bytes :=
  let nonce := entropy.slice entropy.position Aes.Gcm.nonceLength
  Aes.Gcm.encrypt key nonce text ++ nonce

theorem isCiphertext_ciphertextFrom (key : Aes.Key) (text : Bytes) (entropy : Entropy) :
    IsCiphertext key.octets text (ciphertextFrom key text entropy) :=
  ⟨key, rfl, _, Entropy.length_slice _ _ _, rfl⟩

/-- Under a usable key a text is encrypted with the next octets for a nonce, unless the source cannot
give them. -/
theorem runFrom_encrypt {cipher : PayloadCipher} {key : Aes.Key} (usable : key.octets = cipher.key)
    (text : Bytes) (entropy : Entropy) :
    (cipher.encrypt text).runFrom entropy =
      if entropy.canGive Aes.Gcm.nonceLength then
        (.ok (ciphertextFrom key text entropy), entropy.past Aes.Gcm.nonceLength)
      else (.error .randomnessFailed, entropy) := by
  rw [encrypt, Drawing.runFrom_octets_bind, usableKey_eq_ok.mpr usable]
  rfl

/-- Under a key that cannot be used a nonce is drawn all the same, if the source can give one. -/
theorem runFrom_encrypt_of_unusable {cipher : PayloadCipher} {fault : Fault}
    (unusable : cipher.usableKey = .error fault) (text : Bytes) (entropy : Entropy) :
    (cipher.encrypt text).runFrom entropy =
      if entropy.canGive Aes.Gcm.nonceLength then (.error fault, entropy.past Aes.Gcm.nonceLength)
      else (.error .randomnessFailed, entropy) := by
  rw [encrypt, Drawing.runFrom_octets_bind, unusable]
  rfl

/-- **Decryption accepts exactly the ciphertexts** under its key. -/
theorem decrypt_eq_ok {cipher : PayloadCipher} {ciphertext text : Bytes} :
    cipher.decrypt ciphertext = .ok text ↔ IsCiphertext cipher.key text ciphertext := by
  constructor
  · intro h
    unfold decrypt at h
    split at h
    · cases h
    · rename_i long
      obtain ⟨key, usable, h⟩ := bind_eq_ok.mp h
      have nonced : (ciphertext.drop (ciphertext.length - Aes.Gcm.nonceLength)).length
          = Aes.Gcm.nonceLength := by
        rw [List.length_drop]
        omega
      split at h
      · rename_i found opened
        cases h
        refine ⟨key, usableKey_eq_ok.mp usable, _, nonced, ?_⟩
        rw [← Aes.Gcm.eq_encrypt_of_decrypt? opened, List.take_append_drop]
      · cases h
  · intro h
    have long := h.length_eq
    obtain ⟨key, hkey, nonce, nonced, rfl⟩ := h
    -- the nonce is cut off where it was put
    have start : (Aes.Gcm.encrypt key nonce text ++ nonce).length - Aes.Gcm.nonceLength
        = (Aes.Gcm.encrypt key nonce text).length := by
      rw [List.length_append, nonced, Nat.add_sub_cancel]
    rw [decrypt, if_neg (by omega)]
    refine bind_eq_ok.mpr ⟨key, usableKey_eq_ok.mpr hkey, ?_⟩
    simp only [start, List.drop_left, List.take_left, Aes.Gcm.decrypt?_encrypt]

/-! ## Tags -/

theorem sign_eq_ok {cipher : PayloadCipher} {data tag : Bytes} :
    cipher.sign data = .ok tag ↔ data ≠ [] ∧ tag = Hash.Hmac.tag cipher.secret data := by
  unfold sign
  split
  · rename_i empty
    simp [List.isEmpty_iff.mp empty]
  · rename_i some
    rw [List.isEmpty_iff] at some
    simp [some, eq_comm]

theorem verify_eq_ok {cipher : PayloadCipher} {data tag : Bytes} :
    cipher.verify data tag = .ok () ↔ tag = Hash.Hmac.tag cipher.secret data := by
  unfold verify
  split
  · rename_i same
    simp [same]
  · rename_i different
    simp [Ne.symm different]

end PayloadCipher

namespace Hash.Hmac

theorem tag_ne_nil (secret message : Bytes) : tag secret message ≠ [] := by
  intro h
  have long := length_tag secret message
  rw [h] at long
  cases long

end Hash.Hmac

end SealedTransfer
