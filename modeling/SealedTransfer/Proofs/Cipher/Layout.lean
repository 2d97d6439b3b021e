/-
# SealedTransfer.Proofs.Cipher.Layout — how ciphertexts are laid out

A ciphertext is the masked text, its tag and the nonce, one behind the other. Decryption cuts at the end: the
last twelve octets are the nonce, whatever they are. So there is one thing that a ciphertext can be the
ciphertext of, and three ways in which octets are none, told apart by their length and by that of the key.
-/
import SealedTransfer.Proofs.Cipher.Payload
import SealedTransfer.Proofs.Entropy

namespace SealedTransfer.PayloadCipher

/-! ## The layout -/

/-- The masked text, the tag over it, and the nonce of both. -/
def layout (key : Aes.Key) (nonce text : Bytes) : Bytes :=
  let masked := Bytes.xor text (Aes.Gcm.mask key.schedule nonce text.length)
  masked ++ Aes.Gcm.tag key.schedule nonce masked ++ nonce

/-- The nonce that octets end in; of fewer octets, all of them. -/
def lastNonce (octets : Bytes) : Bytes := octets.drop (octets.length - Aes.Gcm.nonceLength)

section Layout

variable (key : Aes.Key) {nonce : Bytes} (text : Bytes)

theorem layout_eq : layout key nonce text = Aes.Gcm.encrypt key nonce text ++ nonce := rfl

/-- Tag and nonce take twenty-eight octets. -/
theorem length_layout (nonced : nonce.length = Aes.Gcm.nonceLength) :
    (layout key nonce text).length = text.length + 28 := by
  rw [layout_eq, List.length_append, Aes.Gcm.length_encrypt, nonced, Nat.add_assoc]
  rfl

/-- A layout ends in its nonce. -/
theorem lastNonce_layout (nonced : nonce.length = Aes.Gcm.nonceLength) :
    lastNonce (layout key nonce text) = nonce := by
  have start : (layout key nonce text).length - Aes.Gcm.nonceLength
      = (Aes.Gcm.encrypt key nonce text).length := by
    rw [layout_eq, List.length_append, nonced, Nat.add_sub_cancel]
  rw [lastNonce, start, layout_eq]
  exact List.drop_left

end Layout

/-- What is laid out around its own last octets is long enough to have a nonce. -/
theorem length_lastNonce_of_eq {key : Aes.Key} {text ciphertext : Bytes}
    (whole : ciphertext = layout key (lastNonce ciphertext) text) :
    (lastNonce ciphertext).length = Aes.Gcm.nonceLength := by
  have long := congrArg List.length whole
  rw [layout_eq, List.length_append, Aes.Gcm.length_encrypt] at long
  have cut : (lastNonce ciphertext).length
      = ciphertext.length - (ciphertext.length - Aes.Gcm.nonceLength) := List.length_drop
  have tagged : 0 < Aes.Gcm.tagLength := by decide
  omega

/-- **Ciphertexts are what is laid out around their own last twelve octets.** -/
theorem isCiphertext_iff {octets text ciphertext : Bytes} :
    IsCiphertext octets text ciphertext ↔ ∃ usable : Aes.IsKeyLength octets.length,
      ciphertext = layout ⟨octets, usable⟩ (lastNonce ciphertext) text := by
  constructor
  · rintro ⟨key, rfl, nonce, nonced, rfl⟩
    refine ⟨key.usable, ?_⟩
    rw [← layout_eq, lastNonce_layout key text nonced]
  · rintro ⟨usable, whole⟩
    exact ⟨⟨octets, usable⟩, rfl, _, length_lastNonce_of_eq whole, whole⟩

/-! ## Decryption -/

/-- **What a decryption comes to.** The nonce is looked for first, then the key, then the tag. -/
inductive Decrypts (cipher : PayloadCipher) (ciphertext : Bytes) : Except Fault Bytes → Prop
  /-- There is no nonce. -/
  | missing (short : ciphertext.length < 12) :
      Decrypts cipher ciphertext (.error .missingCiphertext)
  /-- There is a nonce, and the key cannot be used. -/
  | unusable (long : 12 ≤ ciphertext.length) (other : ¬ Aes.IsKeyLength cipher.key.length) :
      Decrypts cipher ciphertext (.error (.unusableKeyLength cipher.key.length))
  /-- There is a nonce and a key, and the octets are laid out around no text. -/
  | forged (long : 12 ≤ ciphertext.length) (usable : Aes.IsKeyLength cipher.key.length)
      (none : ∀ text, ciphertext ≠ layout ⟨cipher.key, usable⟩ (lastNonce ciphertext) text) :
      Decrypts cipher ciphertext (.error .decryptionFailed)
  /-- The octets are laid out around a text. -/
  | opened {text : Bytes} (usable : Aes.IsKeyLength cipher.key.length)
      (whole : ciphertext = layout ⟨cipher.key, usable⟩ (lastNonce ciphertext) text) :
      Decrypts cipher ciphertext (.ok text)

section Decryption

variable {cipher : PayloadCipher} {ciphertext : Bytes}

theorem decrypt_of_short (short : ciphertext.length < 12) :
    cipher.decrypt ciphertext = .error .missingCiphertext :=
  if_pos short

/-- Behind the first check the key is looked at, and then what stands before the nonce. -/
theorem decrypt_of_long (long : 12 ≤ ciphertext.length) :
    cipher.decrypt ciphertext = cipher.usableKey.bind fun key =>
      match Aes.Gcm.decrypt? key (lastNonce ciphertext)
        (ciphertext.take (ciphertext.length - Aes.Gcm.nonceLength)) with
      | some text => .ok text
      | none => .error .decryptionFailed :=
  if_neg (Nat.not_lt.mpr long)

theorem decrypt_of_not_isKeyLength (long : 12 ≤ ciphertext.length)
    (other : ¬ Aes.IsKeyLength cipher.key.length) :
    cipher.decrypt ciphertext = .error (.unusableKeyLength cipher.key.length) := by
  rw [decrypt_of_long long, usableKey_of_not_isKeyLength other]
  rfl

/-- With a nonce and a key that can be used, what is not decrypted is not authentic. -/
theorem decrypt_of_forged (long : 12 ≤ ciphertext.length)
    (usable : Aes.IsKeyLength cipher.key.length)
    (none : ∀ text, cipher.decrypt ciphertext ≠ .ok text) :
    cipher.decrypt ciphertext = .error .decryptionFailed := by
  have key : cipher.usableKey = .ok ⟨cipher.key, usable⟩ := usableKey_eq_ok.mpr rfl
  rw [decrypt_of_long long, key, Except.bind] at none ⊢
  split at none
  · rename_i text _
    exact absurd rfl (none text)
  · rfl

/-- **Decryption comes to what it should**, and to nothing else. -/
theorem decrypt_eq_iff {result : Except Fault Bytes} :
    cipher.decrypt ciphertext = result ↔ cipher.Decrypts ciphertext result := by
  constructor
  · rintro rfl
    by_cases short : ciphertext.length < 12
    · rw [decrypt_of_short short]
      exact .missing short
    have long : 12 ≤ ciphertext.length := Nat.le_of_not_lt short
    by_cases usable : Aes.IsKeyLength cipher.key.length
    · cases opened : cipher.decrypt ciphertext with
      | ok text =>
        obtain ⟨_, whole⟩ := isCiphertext_iff.mp (decrypt_eq_ok.mp opened)
        exact .opened usable whole
      | error fault =>
        have closed : ∀ text, cipher.decrypt ciphertext ≠ .ok text := by
          intro text found
          rw [opened] at found
          cases found
        rw [← opened, decrypt_of_forged long usable closed]
        refine .forged long usable ?_
        intro text whole
        exact closed text (decrypt_eq_ok.mpr (isCiphertext_iff.mpr ⟨usable, whole⟩))
    · rw [decrypt_of_not_isKeyLength long usable]
      exact .unusable long usable
  · intro decrypts
    cases decrypts with
    | missing short => exact decrypt_of_short short
    | unusable long other => exact decrypt_of_not_isKeyLength long other
    | forged long usable none =>
      refine decrypt_of_forged long usable ?_
      intro text found
      obtain ⟨_, whole⟩ := isCiphertext_iff.mp (decrypt_eq_ok.mp found)
      exact none text whole
    | opened usable whole => exact decrypt_eq_ok.mpr (isCiphertext_iff.mpr ⟨usable, whole⟩)

/-- **Every ciphertext is what encryption makes** of some source. -/
theorem exists_encrypt_of_isCiphertext {text : Bytes}
    (h : IsCiphertext cipher.key text ciphertext) :
    ∃ entropy rest, (cipher.encrypt text).runFrom entropy = (.ok ciphertext, rest) := by
  obtain ⟨key, usable, nonce, nonced, rfl⟩ := h
  have given : (Entropy.giving nonce).slice 0 Aes.Gcm.nonceLength = nonce := by
    rw [← nonced]
    exact Entropy.slice_giving nonce
  have made : ciphertextFrom key text (.giving nonce) = Aes.Gcm.encrypt key nonce text ++ nonce := by
    show layout key ((Entropy.giving nonce).slice 0 Aes.Gcm.nonceLength) text = _
    rw [given, layout_eq]
  refine ⟨.giving nonce, (Entropy.giving nonce).past Aes.Gcm.nonceLength, ?_⟩
  have enough : (Entropy.giving nonce).canGive Aes.Gcm.nonceLength = true := rfl
  rw [runFrom_encrypt usable, if_pos enough, made]

end Decryption

/-! ## Both ways -/

/-- **The layout of ciphertexts, made and accepted.** Whatever nonce is drawn, a text is encrypted exactly
under the keys of sixteen, twenty-four and thirty-two octets, to the masked text, its tag and the nonce,
twenty-eight octets more than the text. Decryption accepts what is laid out like that around its own last
twelve octets and gives back the text; it refuses less than twelve octets whatever the key, then other keys,
then all else. So it accepts what encryption makes of the text and nothing else. -/
theorem layout_exact (cipher : PayloadCipher) :
    (∀ (text : Bytes) (entropy : Entropy), entropy.canGive 12 = true →
      (∀ usable : Aes.IsKeyLength cipher.key.length,
        (cipher.encrypt text).runFrom entropy
            = (.ok (layout ⟨cipher.key, usable⟩ (entropy.slice entropy.position 12) text),
              entropy.past 12) ∧
          (layout ⟨cipher.key, usable⟩ (entropy.slice entropy.position 12) text).length
            = text.length + 28) ∧
      (¬ Aes.IsKeyLength cipher.key.length → (cipher.encrypt text).runFrom entropy
        = (.error (.unusableKeyLength cipher.key.length), entropy.past 12))) ∧
    (∀ ciphertext result, cipher.decrypt ciphertext = result ↔ cipher.Decrypts ciphertext result) ∧
    (∀ ciphertext text, cipher.decrypt ciphertext = .ok text ↔
      ∃ entropy rest, (cipher.encrypt text).runFrom entropy = (.ok ciphertext, rest)) := by
  refine ⟨?_, fun _ _ => decrypt_eq_iff, ?_⟩
  · intro text entropy enough
    constructor
    · intro usable
      refine ⟨?_, length_layout _ _ (Entropy.length_slice _ _ _)⟩
      have made := @runFrom_encrypt cipher ⟨cipher.key, usable⟩ rfl text entropy
      exact made.trans (if_pos enough)
    · intro unusable
      have failed := runFrom_encrypt_of_unusable (usableKey_of_not_isKeyLength unusable) text entropy
      exact failed.trans (if_pos enough)
  · intro ciphertext text
    rw [decrypt_eq_ok]
    constructor
    · exact exists_encrypt_of_isCiphertext
    · rintro ⟨entropy, rest, made⟩
      exact isCiphertext_of_encrypt made

/-- Two octets under a key of twenty-four, and under a key of three. -/
theorem layout_exact_for_samples :
    let cipher : PayloadCipher := ⟨Bytes.zeros 24, [1], by decide, by decide⟩
    let other : PayloadCipher := ⟨[1, 2, 3], [1], by decide, by decide⟩
    let entropy : Entropy := ⟨fun i => UInt8.ofNat i, 5, none⟩
    (∃ ciphertext, (cipher.encrypt [104, 105]).runFrom entropy = (.ok ciphertext, entropy.past 12) ∧
      ciphertext.length = 30 ∧ cipher.decrypt ciphertext = .ok [104, 105]) ∧
    (other.encrypt [104, 105]).runFrom entropy = (.error (.unusableKeyLength 3), entropy.past 12) ∧
    cipher.decrypt [] = .error .missingCiphertext ∧
    other.decrypt (Bytes.zeros 12) = .error (.unusableKeyLength 3) := by
  intro cipher other entropy
  have usable : Aes.IsKeyLength cipher.key.length := .inr (.inl rfl)
  have unusable : ¬ Aes.IsKeyLength other.key.length := by
    rintro (same | same | same) <;> cases same
  obtain ⟨makes, accepts, image⟩ := layout_exact cipher
  obtain ⟨refuses, refused, -⟩ := layout_exact other
  obtain ⟨made, long⟩ := (makes [104, 105] entropy rfl).1 usable
  refine ⟨⟨_, made, long, (image _ _).mpr ⟨entropy, _, made⟩⟩, ?_, ?_, ?_⟩
  · exact (refuses [104, 105] entropy rfl).2 unusable
  · exact (accepts [] _).mpr (.missing (by decide))
  · exact (refused (Bytes.zeros 12) _).mpr (.unusable (by decide) unusable)

/-- A published test vector of the mode: four blocks under a key of sixteen octets. -/
example :
    let nonce := Bytes.ofNat 12 0xcafebabefacedbaddecaf888
    layout ⟨Bytes.ofNat 16 0xfeffe9928665731c6d6a8f9467308308, by decide⟩ nonce
        (Bytes.ofNat 32 0xd9313225f88406e5a55909c5aff5269a86a7a9531534f7da2e4c303d8a318a72
          ++ Bytes.ofNat 32 0x1c3c0c95956809532fcf0e2449a6b525b16aedf5aa0de657ba637b391aafd255)
      = Bytes.ofNat 32 0x42831ec2217774244b7221b784d0d49ce3aa212f2c02a4e035c17e2329aca12e
        ++ Bytes.ofNat 32 0x21d514b25466931c7d8f6a5aac84aa051ba30b396a0aac973d58e091473f5985
        ++ Bytes.ofNat 16 0x4d5c2af327cd64a62cf35abd2ba6fab4 ++ nonce := by
  decide +kernel

/-- Another: a block of zeros under a key of thirty-two, all zeros too. -/
example :
    layout ⟨Bytes.zeros 32, by decide⟩ (Bytes.zeros 12) (Bytes.zeros 16)
      = Bytes.ofNat 16 0xcea7403d4d606b6e074ec5d3baf39d18
        ++ Bytes.ofNat 16 0xd0d1c8a799996bf0265b98b5d48ab919 ++ Bytes.zeros 12 := by
  decide +kernel

end SealedTransfer.PayloadCipher
