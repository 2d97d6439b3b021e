/-
# SealedTransfer.Proofs.Transfer.Closing — what it takes to close an envelope

Closing is an encryption and a sealing. Both succeed if the random source never runs dry, the cipher is
a generated one and the recipient's key has room for its secrets; the result is an envelope that both
transitions lead to.
-/
import SealedTransfer.Proofs.Envelope.Options
import SealedTransfer.Proofs.Transfer.Advance

namespace SealedTransfer

/-! ## Sources that never run dry -/

namespace Drawing

variable {ε α β : Type}

/-- A computation that succeeds on every source that never runs dry, and what is known of its result. -/
def Succeeds (drawing : Drawing ε α) (known : α → Prop) : Prop :=
  ∀ entropy, entropy.limit = none →
    ∃ a rest, drawing.runFrom entropy = (.ok a, rest) ∧ rest.limit = none ∧ known a

theorem succeeds_pure {a : α} {known : α → Prop} (h : known a) :
    Succeeds (Pure.pure a : Drawing ε α) known := by
  intro entropy endless
  exact ⟨a, entropy, rfl, endless, h⟩

theorem succeeds_ofExcept {result : Except ε α} {a : α} (h : result = .ok a) :
    Succeeds (ofExcept result) (· = a) := by
  intro entropy endless
  exact ⟨a, entropy, by rw [runFrom_ofExcept, h], endless, rfl⟩

/-- A sequence succeeds if both parts do, the second one after every result of the first. -/
theorem Succeeds.bind {first : Drawing ε α} {next : α → Drawing ε β} {known : α → Prop}
    {known' : β → Prop} (h : first.Succeeds known) (h' : ∀ a, known a → (next a).Succeeds known') :
    (first >>= next).Succeeds known' := by
  intro entropy endless
  obtain ⟨a, rest, ran, endless', ha⟩ := h entropy endless
  obtain ⟨b, final, ran', endless'', hb⟩ := h' a ha rest endless'
  exact ⟨b, final, by rw [runFrom_bind_of_ok ran, ran'], endless'', hb⟩

theorem Succeeds.congr {drawing other : Drawing ε α} {known : α → Prop}
    (same : ∀ entropy, drawing.runFrom entropy = other.runFrom entropy) (h : other.Succeeds known) :
    drawing.Succeeds known := by
  intro entropy endless
  rw [same]
  exact h entropy endless

/-- What is known of every result is known of those on endless sources. -/
theorem Succeeds.of_eq_ok {drawing : Drawing ε α} {known : α → Prop}
    (h : drawing.Succeeds fun _ => True)
    (h' : ∀ entropy rest a, drawing.runFrom entropy = (.ok a, rest) → known a) :
    drawing.Succeeds known := by
  intro entropy endless
  obtain ⟨a, rest, ran, endless', -⟩ := h entropy endless
  exact ⟨a, rest, ran, endless', h' entropy rest a ran⟩

theorem succeeds_exactly (count : Nat) (failure : ε) :
    (exactly count failure).Succeeds fun _ => True := by
  intro entropy endless
  have enough : entropy.canGive count = true := by simp [Entropy.canGive, endless]
  have ran := runFrom_exactly count failure entropy
  rw [if_pos enough] at ran
  exact ⟨_, _, ran, endless, trivial⟩

theorem succeeds_octets (count : Nat) (failure : ε) :
    (octets count failure).Succeeds fun _ => True :=
  (succeeds_exactly count failure).bind fun _ _ => succeeds_pure trivial

end Drawing

theorem Drawing.Succeeds.faulting {α : Type} {drawing : Drawing Fault α} {known : α → Prop}
    (h : drawing.Succeeds known) : (Envelope.faulting drawing).Succeeds known := by
  intro entropy endless
  obtain ⟨a, rest, ran, endless', ha⟩ := h entropy endless
  exact ⟨a, rest, Envelope.runFrom_faulting_eq_ok.mpr ran, endless', ha⟩

/-! ## Ciphers -/

theorem PayloadCipher.succeeds_generate : generate.Succeeds fun _ => True := by
  rw [generate, make, dif_neg (by simp)]
  exact (Drawing.succeeds_exactly _ _).bind fun _ _ => Drawing.succeeds_pure trivial

/-- Encryption under a usable key succeeds. -/
theorem PayloadCipher.succeeds_encrypt {cipher : PayloadCipher}
    (usable : Aes.IsKeyLength cipher.key.length) (text : Bytes) :
    (cipher.encrypt text).Succeeds fun ciphertext => IsCiphertext cipher.key text ciphertext := by
  have key : cipher.usableKey = .ok ⟨cipher.key, usable⟩ := usableKey_eq_ok.mpr rfl
  have drawn : (cipher.encrypt text).Succeeds fun _ => True := by
    refine (Drawing.succeeds_octets _ _).bind fun nonce _ => ?_
    exact (Drawing.succeeds_ofExcept key).bind fun _ _ => Drawing.succeeds_pure trivial
  exact drawn.of_eq_ok fun _ _ _ => isCiphertext_of_encrypt

/-- Wrapping a secret that fits succeeds. -/
theorem SealCipher.succeeds_encrypt {cipher : SealCipher} {secret : Bytes}
    (fits : Rsa.Oaep.fits cipher.publicHalf.size secret.length = true) :
    (cipher.encrypt secret).Succeeds fun _ => True := by
  unfold encrypt
  rw [if_pos fits]
  exact (Drawing.succeeds_octets _ _).bind fun _ _ => Drawing.succeeds_pure trivial

/-! ## Closing -/

namespace Envelope

variable {envelope : Envelope} {payload : Payload} {sealCipher : SealCipher}

/-- An encryption succeeds under ciphers with usable keys. -/
theorem succeeds_encryption (clear : envelope.payload = some payload)
    (usable : ∀ cipher, envelope.Equips cipher → Aes.IsKeyLength cipher.key.length) :
    (Transfer.advance .encryption envelope).Succeeds (Advances .encryption envelope) := by
  have expected : envelope.expectState Transition.encryption.source = .ok () :=
    (expectState_eq_ok (by decide)).mpr (state_payload_eq_clear.mpr ⟨payload, clear⟩)
  have chosen : envelope.chosenCipher.Succeeds fun _ => True := by
    unfold chosenCipher
    split
    · exact Drawing.succeeds_pure trivial
    · exact PayloadCipher.succeeds_generate.faulting
  have drawn : envelope.prepareEncryption.Succeeds fun _ => True := by
    refine (Drawing.succeeds_ofExcept expected).bind fun _ _ => ?_
    refine (Drawing.succeeds_ofExcept (clearPayload_eq_ok.mpr clear)).faulting.bind fun _ _ => ?_
    exact chosen.bind fun _ _ => Drawing.succeeds_pure trivial
  have prepared : envelope.prepareEncryption.Succeeds fun prepared => envelope.Equips prepared.2 :=
    drawn.of_eq_ok fun _ _ _ ran => (of_prepareEncryption ran).2
  have advanced : (Transfer.advance .encryption envelope).Succeeds fun _ => True := by
    refine Drawing.Succeeds.congr (Transfer.runFrom_advance_encryption envelope) ?_
    refine prepared.bind fun ⟨payload, cipher⟩ equipped => ?_
    refine (PayloadCipher.succeeds_encrypt (usable cipher equipped) payload.encode).faulting.bind ?_
    intro ciphertext encrypted
    have signed : cipher.sign ciphertext = .ok (Hash.Hmac.tag cipher.secret ciphertext) :=
      PayloadCipher.sign_eq_ok.mpr ⟨encrypted.ne_nil, rfl⟩
    exact (Drawing.succeeds_ofExcept signed).faulting.bind fun _ _ => Drawing.succeeds_pure trivial
  exact advanced.of_eq_ok fun _ _ _ => Transfer.advances_of_advance

/-- A sealing succeeds with a key that has room for the secrets. -/
theorem succeeds_sealing (unsealed : envelope.Protected false)
    (chosen : envelope.sealCipher = some sealCipher)
    (roomForKey : Rsa.Oaep.fits sealCipher.publicHalf.size envelope.message.encryptionKey.length = true)
    (roomForSecret : Rsa.Oaep.fits sealCipher.publicHalf.size envelope.message.hmacSecret.length = true) :
    (Transfer.advance .sealing envelope).Succeeds (Advances .sealing envelope) := by
  have expected : envelope.expectState Transition.sealing.source = .ok () :=
    (expectState_eq_ok (by decide)).mpr (state_payload_eq_unsealed.mpr unsealed)
  have advanced : (Transfer.advance .sealing envelope).Succeeds fun _ => True := by
    refine Drawing.Succeeds.congr (Transfer.runFrom_advance_sealing envelope) ?_
    refine (Drawing.succeeds_ofExcept expected).bind fun _ _ => ?_
    refine (Drawing.succeeds_ofExcept (chosenSeal_eq_ok.mpr chosen)).bind ?_
    rintro _ rfl
    refine (SealCipher.succeeds_encrypt roomForKey).faulting.bind fun _ _ => ?_
    refine (SealCipher.succeeds_encrypt roomForSecret).faulting.bind fun _ _ => ?_
    exact Drawing.succeeds_pure trivial
  exact advanced.of_eq_ok fun _ _ _ => Transfer.advances_of_advance

end Envelope

namespace Transfer

/-- The sealed message of a payload, complete or not. -/
def sealUnchecked (occasion : Occasion) (payload : Payload) (options : Options) :
    Drawing Failure Message := do
  let envelope ← Envelope.faulting (Envelope.create occasion payload options)
  closeEnvelope envelope

/-- A complete payload is sealed as any other is. -/
theorem sealUnchecked_of_sealPayload {occasion : Occasion} {payload : Payload} {options : Options}
    {message : Message} {entropy rest : Entropy}
    (h : (sealPayload occasion payload options).runFrom entropy = (.ok message, rest)) :
    (sealUnchecked occasion payload options).runFrom entropy = (.ok message, rest) := by
  simp only [sealPayload, Drawing.runFrom_bind_eq_ok, Envelope.runFrom_faulting_eq_ok,
    Drawing.runFrom_ofExcept_eq_ok] at h
  obtain ⟨envelope, drawn, made, _, _, ⟨-, rfl⟩, closed⟩ := h
  rw [sealUnchecked, Drawing.runFrom_bind_of_ok (Envelope.runFrom_faulting_eq_ok.mpr made), closed]

/-- What is sealed unchecked would have been sealed after the check, if the payload is complete. -/
theorem sealPayload_of_sealUnchecked {occasion : Occasion} {payload : Payload} {options : Options}
    {message : Message} {entropy rest : Entropy} (complete : payload.validate = .ok ())
    (h : (sealUnchecked occasion payload options).runFrom entropy = (.ok message, rest)) :
    (sealPayload occasion payload options).runFrom entropy = (.ok message, rest) := by
  simp only [sealUnchecked, Drawing.runFrom_bind_eq_ok, Envelope.runFrom_faulting_eq_ok] at h
  obtain ⟨envelope, drawn, made, closed⟩ := h
  have checked : envelope.validatePayload = .ok () := by
    rw [Envelope.validatePayload, Envelope.clearPayload, (Envelope.of_create made).1]
    exact complete
  simp only [sealPayload, Drawing.runFrom_bind_eq_ok, Envelope.runFrom_faulting_eq_ok,
    Drawing.runFrom_ofExcept_eq_ok]
  exact ⟨envelope, drawn, made, (), drawn, ⟨checked, rfl⟩, closed⟩

/-- What is sealed has been made, encrypted and sealed, one after the other. -/
theorem steps_of_sealUnchecked {occasion : Occasion} {payload : Payload} {options : Options}
    {message : Message} {entropy rest : Entropy}
    (h : (sealUnchecked occasion payload options).runFrom entropy = (.ok message, rest)) :
    ∃ new made unsealed encrypted sealed,
      (Envelope.create occasion payload options).runFrom entropy = (.ok new, made) ∧
      (advance .encryption new).runFrom made = (.ok unsealed, encrypted) ∧
      (advance .sealing unsealed).runFrom encrypted = (.ok sealed, rest) ∧
      sealed.message = message := by
  simp only [sealUnchecked, closeEnvelope, Drawing.runFrom_bind_eq_ok,
    Envelope.runFrom_faulting_eq_ok, Drawing.runFrom_pure_eq_ok] at h
  obtain ⟨new, made, creation, unsealed, encrypted, encryption, sealed, _, sealing, same, rfl⟩ := h
  exact ⟨new, made, unsealed, encrypted, sealed, creation, encryption, sealing, same⟩

/-- Closing a clear envelope succeeds with usable ciphers and a key that has room for their secrets. -/
theorem succeeds_closeEnvelope {envelope : Envelope} {payload : Payload} {sealCipher : SealCipher}
    (clear : envelope.payload = some payload) (id : envelope.message.id ≠ "")
    (timestamp : envelope.message.timestamp ≠ "") (chosen : envelope.sealCipher = some sealCipher)
    (usable : ∀ cipher, envelope.Equips cipher → Aes.IsKeyLength cipher.key.length ∧
      Rsa.Oaep.fits sealCipher.publicHalf.size cipher.key.length = true ∧
        Rsa.Oaep.fits sealCipher.publicHalf.size cipher.secret.length = true) :
    (closeEnvelope envelope).Succeeds fun _ => True := by
  have encrypts := Envelope.succeeds_encryption clear fun cipher equipped =>
    (usable cipher equipped).1
  refine encrypts.bind fun unsealed encryption => ?_
  cases encryption with
  | @encryption _ _ cipher _ _ equipped encrypted =>
    have complete := Envelope.complete_protectedMessage cipher id timestamp encrypted.ne_nil
    obtain ⟨-, roomForKey, roomForSecret⟩ := usable cipher equipped
    refine Drawing.Succeeds.bind
      (Envelope.succeeds_sealing ⟨rfl, complete, rfl⟩ chosen roomForKey roomForSecret) ?_
    exact fun _ _ => Drawing.succeeds_pure trivial

/-- **A payload can be sealed** for every key with room for a generated secret, as long as octets can be
drawn. -/
theorem succeeds_sealUnchecked (occasion : Occasion) (payload : Payload) {options : Options}
    {key : Rsa.PublicKey} (named : options.id ≠ some "") (unequipped : options.cipher = none)
    (room : Rsa.Oaep.fits key.size PayloadCipher.generatedLength = true) :
    (sealUnchecked occasion payload (options.set (.sealingKey (.rsa key)))).Succeeds
      fun _ => True := by
  obtain ⟨id, timestamp, cipher, sealCipher⟩ := options
  obtain rfl : cipher = none := unequipped
  intro entropy endless
  have made : (Envelope.create occasion payload
      ⟨id, timestamp, none, some (.sealing (.rsa key))⟩).runFrom entropy = (.ok _, entropy) := rfl
  obtain ⟨clear, -, timestamped, -⟩ := Envelope.of_create made
  have name : id.getD occasion.freshId.text ≠ "" :=
    Options.getD_id_ne_empty named occasion.freshId.text_ne_empty
  -- the envelope has no cipher of its own, so the one that it encrypts with is generated
  have generated (cipher : PayloadCipher)
      (h : cipher.key.length = PayloadCipher.generatedLength ∧ cipher.secret = cipher.key) :
      Aes.IsKeyLength cipher.key.length ∧ Rsa.Oaep.fits key.size cipher.key.length = true ∧
        Rsa.Oaep.fits key.size cipher.secret.length = true := by
    rw [h.2, h.1]
    exact ⟨.inr (.inr rfl), room, room⟩
  have closes := succeeds_closeEnvelope clear name timestamped rfl fun cipher equipped =>
    generated cipher (equipped.resolve_left nofun).2
  obtain ⟨message, rest, closed, endless', -⟩ := closes entropy endless
  refine ⟨message, rest, ?_, endless', trivial⟩
  exact (Drawing.runFrom_bind_of_ok (Envelope.runFrom_faulting_eq_ok.mpr made)).trans closed

end Transfer

end SealedTransfer
