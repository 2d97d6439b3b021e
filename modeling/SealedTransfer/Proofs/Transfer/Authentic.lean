/-
# SealedTransfer.Proofs.Transfer.Authentic — only authentic messages open

A message that opens was made by someone with its key and its secret: the tag is that of the encrypted
payload, and the payload was encrypted under a key that the algorithms allow. So neither tag nor
payload can be replaced without the secret. The tag is checked before anything is decrypted, and a
message that was tampered with is refused for it.
-/
import SealedTransfer.Proofs.Transfer.Opening

namespace SealedTransfer.Transfer

section Tampering

variable {message : Message} {cipher : Option PayloadCipher} {sealCipher : Option SealCipher}
  {key secret : Bytes}

/-- A payload that is not the tag's is refused, whatever was replaced. -/
theorem openEnvelope_of_tampered (complete : message.Complete)
    (reveals : message.Reveals sealCipher key secret) (hasKey : key ≠ []) (hasSecret : secret ≠ [])
    (names : message.Names key.length) {ciphertext tag : Bytes} (hasPayload : ciphertext ≠ [])
    (hasTag : tag ≠ []) (forged : tag ≠ Hash.Hmac.tag secret ciphertext) (entropy : Entropy) :
    (openEnvelope ⟨{ message with payload := ciphertext, hmac := tag }, none, cipher,
        sealCipher⟩).runFrom entropy
      = (.error (.reject .invalidSignature "could not verify hmac signature"), entropy) := by
  -- nothing that is looked at before the tag has changed
  have complete' : Message.Complete { message with payload := ciphertext, hmac := tag } :=
    { complete with payload := hasPayload, hmac := hasTag }
  have reveals' := reveals.withPayload ciphertext tag
  have supported : Message.Supported { message with payload := ciphertext, hmac := tag } :=
    names.supported
  have guarded := protected_revealed ⟨_, none, cipher, sealCipher⟩ rfl complete' hasKey hasSecret
  rw [runFrom_openEnvelope rfl complete' supported reveals',
    Drawing.runFrom_bind_of_error
      (Envelope.runFrom_decrypted_of_tag_ne guarded names forged entropy)]

end Tampering

/-- What is encrypted opens, with the secrets in the clear and no options. -/
theorem openPayload_protectedMessage (message : Message) {cipher : PayloadCipher}
    {ciphertext : Bytes} {payload : Payload} (id : message.id ≠ "")
    (timestamp : message.timestamp ≠ "")
    (encrypted : PayloadCipher.IsCiphertext cipher.key payload.encode ciphertext)
    (short : payload.encode.length < 2 ^ 64) (entropy : Entropy) :
    (openPayload (Envelope.protectedMessage message cipher ciphertext
      (Hash.Hmac.tag cipher.secret ciphertext)) .none).runFrom entropy = (.ok payload, entropy) := by
  have complete := Envelope.complete_protectedMessage cipher id timestamp encrypted.ne_nil
  have held := Envelope.holds_protectedMessage message encrypted short
  have applied : Options.none.ciphers.runFrom entropy = (.ok (none, none), entropy) := rfl
  rw [runFrom_openPayload rfl rfl applied]
  exact (runFrom_openEnvelope_eq_ok rfl).mpr
    ⟨⟨complete, _, _, .unsealed rfl, cipher.key_ne_nil, cipher.secret_ne_nil, held⟩, rfl⟩

/-- A cipher with a key of sixteen octets. -/
def sampleCipher : PayloadCipher := ⟨Bytes.zeros 16, [1], by decide, by decide⟩

/-- A ciphertext of the empty text. -/
def sampleCiphertext : Bytes :=
  Aes.Gcm.encrypt ⟨Bytes.zeros 16, by decide⟩ (Bytes.zeros 12) [] ++ Bytes.zeros 12

/-- A message that holds the empty payload. -/
def sampleMessage : Message :=
  Envelope.protectedMessage { Message.empty with id := "transfer", timestamp := "now" } sampleCipher
    sampleCiphertext (Hash.Hmac.tag sampleCipher.secret sampleCiphertext)

/-- The ciphertext is one. -/
theorem isCiphertext_sampleCiphertext :
    PayloadCipher.IsCiphertext sampleCipher.key Payload.empty.encode sampleCiphertext :=
  ⟨⟨Bytes.zeros 16, by decide⟩, rfl, Bytes.zeros 12, by decide, rfl⟩

/-- The message is complete. -/
theorem complete_sampleMessage : sampleMessage.Complete :=
  Envelope.complete_protectedMessage sampleCipher (by decide) (by decide)
    isCiphertext_sampleCiphertext.ne_nil

/-- The message opens without any options. -/
theorem openPayload_sampleMessage (entropy : Entropy) :
    (openPayload sampleMessage .none).runFrom entropy = (.ok .empty, entropy) :=
  openPayload_protectedMessage _ (by decide) (by decide) isCiphertext_sampleCiphertext (by decide) _

/-- **Only authentic messages open**, and tampering is refused. The tag of a message that opens is that
of its payload under the secret that it reveals; the key that it reveals is one that its algorithms
name; and its payload is a ciphertext, under that key, of a text that spells what was found. With
another tag or another payload the same message is refused for its tag, for good. -/
theorem authentic_of_openPayload {message : Message} {options : Options} {payload : Payload}
    {entropy rest : Entropy} (unnamed : options.id = none) (untimed : options.timestamp = none)
    (opened : (openPayload message options).runFrom entropy = (.ok payload, rest)) :
    ∃ sealCipher key secret,
      options.sealCipher.mapM SealChoice.cipher = .ok sealCipher ∧
      message.Reveals sealCipher key secret ∧
      message.hmac = Hash.Hmac.tag secret message.payload ∧
      Aes.IsKeyLength key.length ∧
      message.Names key.length ∧
      (∃ text, PayloadCipher.IsCiphertext key text message.payload ∧
        Payload.decode? text = some payload) ∧
      (∀ tag, tag ≠ [] → tag ≠ message.hmac → ∃ rejection : Rejection,
        rejection.code = .invalidSignature ∧ rejection.retry = false ∧
        (openPayload { message with hmac := tag } options).runFrom entropy
          = (.error (.rejected rejection), rest)) ∧
      (∀ ciphertext, ciphertext ≠ [] → Hash.Hmac.tag secret ciphertext ≠ message.hmac →
        ∃ rejection : Rejection, rejection.code = .invalidSignature ∧ rejection.retry = false ∧
        (openPayload { message with payload := ciphertext } options).runFrom entropy
          = (.error (.rejected rejection), rest)) := by
  simp only [openPayload, Drawing.runFrom_bind_eq_ok, Envelope.runFrom_faulting_eq_ok,
    Envelope.runFrom_wrap_eq_ok unnamed untimed] at opened
  obtain ⟨_, drawn, ⟨cipher, sealCipher, applied, rfl⟩, opened⟩ := opened
  obtain ⟨⟨complete, key, secret, reveals, hasKey, hasSecret, held⟩, rfl⟩ :=
    (runFrom_openEnvelope_eq_ok rfl).mp opened
  obtain ⟨text, encrypted, spelled⟩ := held.encrypted
  refine ⟨sealCipher, key, secret, Options.sealCipher_of_ciphers applied, reveals, held.tagged,
    encrypted.isKeyLength, held.names, ⟨text, encrypted, spelled⟩, ?_, ?_⟩
  · intro tag hasTag different
    refine ⟨.final .invalidSignature "could not verify hmac signature", rfl, rfl, ?_⟩
    rw [runFrom_openPayload unnamed untimed applied]
    exact openEnvelope_of_tampered complete reveals hasKey hasSecret held.names complete.payload
      hasTag (held.tagged ▸ different) drawn
  · intro ciphertext hasPayload different
    refine ⟨.final .invalidSignature "could not verify hmac signature", rfl, rfl, ?_⟩
    rw [runFrom_openPayload unnamed untimed applied]
    exact openEnvelope_of_tampered complete reveals hasKey hasSecret held.names hasPayload
      complete.hmac different.symm drawn

/-- A message that opens is refused once its tag is cut to one octet. -/
theorem refused_with_short_tag :
    ∃ rejection : Rejection, rejection.code = .invalidSignature ∧ rejection.retry = false ∧
      (openPayload { sampleMessage with hmac := [0] } .none).runFrom ⟨fun _ => 0, 0, some 0⟩
        = (.error (.rejected rejection), ⟨fun _ => 0, 0, some 0⟩) := by
  have opened := openPayload_sampleMessage ⟨fun _ => 0, 0, some 0⟩
  obtain ⟨_, _, secret, _, _, tagged, _, _, _, tampered, _⟩ :=
    authentic_of_openPayload rfl rfl opened
  refine tampered [0] (by decide) ?_
  -- a tag is longer than one octet, so nothing has to be computed
  intro same
  have long := Hash.Hmac.length_tag secret sampleMessage.payload
  rw [← tagged, ← same] at long
  cases long

end SealedTransfer.Transfer
