/-
# SealedTransfer.Proofs.Envelope.Drawing — what options and transitions draw

Only a sender draws. Options draw nothing unless they ask for a key to be drawn, and a received message
brings its own key, so unsealing and decrypting draw nothing: what lacks a key is corrupted and never gets as
far as a cipher. An encryption with a cipher at hand draws a nonce, or fails with nothing drawn or with the
nonce wasted on a key that cannot be used.
-/
import SealedTransfer.Proofs.Entropy
import SealedTransfer.Proofs.Envelope.Failing
import SealedTransfer.Proofs.Envelope.Options

namespace SealedTransfer

/-! ## Faults and attempts -/

theorem Drawing.DrawsNothing.faulting {α : Type} {drawing : Drawing Fault α}
    (h : drawing.DrawsNothing) : (Envelope.faulting drawing).DrawsNothing := by
  obtain ⟨result, ran⟩ := h
  refine ⟨result.mapError .fault, ?_⟩
  intro entropy
  rw [Envelope.runFrom_faulting, ran]

theorem Drawing.Forward.faulting {α : Type} {drawing : Drawing Fault α} (h : drawing.Forward) :
    (Envelope.faulting drawing).Forward := by
  intro entropy
  rw [Envelope.runFrom_faulting]
  exact h entropy

/-- An attempt leaves the source where its change leaves it. -/
theorem Envelope.entropy_attempt (change : Drawing Failure Envelope) (envelope : Envelope)
    (entropy : Entropy) :
    (attempt change envelope entropy).entropy = (change.runFrom entropy).2 := by
  rw [attempt]
  obtain ⟨result, rest⟩ := change.runFrom entropy
  cases result <;> rfl

/-- An attempt at a change that draws nothing has one outcome on all sources. -/
theorem Envelope.attempt_of_drawsNothing {change : Drawing Failure Envelope}
    (h : change.DrawsNothing) (envelope : Envelope) :
    ∃ outcome after, ∀ entropy, attempt change envelope entropy = ⟨outcome, after, entropy⟩ := by
  obtain ⟨result, ran⟩ := h
  cases result with
  | ok changed =>
    refine ⟨.ok (), changed, ?_⟩
    intro entropy
    exact attempt_of_ok (ran entropy)
  | error failure =>
    refine ⟨.error failure, envelope, ?_⟩
    intro entropy
    exact attempt_of_error (ran entropy)

/-! ## Options -/

/-- A cipher that is made of a key draws nothing. -/
theorem PayloadCipher.drawsNothing_make {key secret : Bytes} (given : key ≠ []) :
    (make key secret).DrawsNothing :=
  ⟨_, runFrom_make given⟩

/-- A cipher that is made of nothing moves the source forward. -/
theorem PayloadCipher.forward_make (key secret : Bytes) : (make key secret).Forward := by
  by_cases given : key = []
  · rw [make, dif_neg (by simp [given])]
    exact .bind (.exactly _ _) fun _ => .of_drawsNothing (.pure _)
  · exact .of_drawsNothing (drawsNothing_make given)

/-- A choice of cipher draws nothing, unless it asks for a key to be drawn. -/
theorem CipherChoice.drawsNothing_cipher {choice : CipherChoice}
    (given : ∀ secret, choice ≠ .keys [] secret) : choice.cipher.DrawsNothing := by
  cases choice with
  | ready cipher => exact .pure cipher
  | keys key secret =>
    apply PayloadCipher.drawsNothing_make
    rintro rfl
    exact given secret rfl

/-- A choice of cipher moves the source forward, if at all. -/
theorem CipherChoice.forward_cipher (choice : CipherChoice) : choice.cipher.Forward := by
  cases choice with
  | ready cipher => exact .of_drawsNothing (.pure cipher)
  | keys key secret => exact PayloadCipher.forward_make key secret

namespace Options

/-- **Options draw nothing** unless they ask for a key to be drawn. -/
theorem drawsNothing_apply {options : Options} (given : ¬ options.DrawsKey) (envelope : Envelope) :
    (options.apply envelope).DrawsNothing := by
  have chosen : (options.cipher.mapM CipherChoice.cipher).DrawsNothing := by
    cases choice : options.cipher with
    | none => exact .pure _
    | some choice' =>
      have asksNothing : ∀ secret, choice' ≠ .keys [] secret := by
        rintro secret rfl
        exact given ⟨secret, choice⟩
      rw [Option.mapM_some]
      exact .bind (CipherChoice.drawsNothing_cipher asksNothing) fun _ => .pure _
  refine .bind (.bind chosen fun _ => ?_) fun _ => .pure _
  exact .bind (.ofExcept _) fun _ => .pure _

/-- Options move the source forward, if at all. -/
theorem forward_apply (options : Options) (envelope : Envelope) :
    (options.apply envelope).Forward := by
  have chosen : (options.cipher.mapM CipherChoice.cipher).Forward := by
    cases options.cipher with
    | none => exact .of_drawsNothing (.pure _)
    | some choice =>
      rw [Option.mapM_some]
      exact .bind choice.forward_cipher fun _ => .of_drawsNothing (.pure _)
  refine .bind (.bind chosen fun _ => ?_) fun _ => .of_drawsNothing (.pure _)
  exact .of_drawsNothing (.bind (.ofExcept _) fun _ => .pure _)

/-- Options with a choice of cipher still have one after another setting. -/
theorem exists_choice_set {options : Options} (h : ∃ choice, options.cipher = some choice)
    (setting : Setting) : ∃ choice, (options.set setting).cipher = some choice := by
  obtain ⟨choice, chosen⟩ := h
  cases setting with
  | inReplyTo envelope =>
    show ∃ choice, (envelope.cipher.map .ready).or options.cipher = some choice
    cases envelope.cipher with
    | none => exact ⟨choice, chosen⟩
    | some cipher => exact ⟨.ready cipher, rfl⟩
  | cipher cipher => exact ⟨_, rfl⟩
  | cipherKeys key secret => exact ⟨_, rfl⟩
  | _ => exact ⟨choice, chosen⟩

theorem exists_choice_foldl {options : Options} (h : ∃ choice, options.cipher = some choice)
    (settings : List Setting) : ∃ choice, (settings.foldl set options).cipher = some choice := by
  induction settings generalizing options with
  | nil => exact h
  | cons setting settings ih => exact ih (exists_choice_set h setting)

/-- Options with a choice of cipher give an envelope one. -/
theorem exists_cipher_of_apply {options : Options} (h : ∃ choice, options.cipher = some choice)
    {blank new : Envelope} {entropy rest : Entropy}
    (begun : (options.apply blank).runFrom entropy = (.ok new, rest)) :
    ∃ cipher, new.cipher = some cipher := by
  obtain ⟨choice, chosen⟩ := h
  obtain ⟨found, sealCipher, drawn, rfl⟩ := runFrom_apply_eq_ok.mp begun
  simp only [ciphers, chosen, Option.mapM_some, map_eq_pure_bind, Drawing.runFrom_bind_eq_ok,
    Drawing.runFrom_ofExcept_eq_ok, Drawing.runFrom_pure_eq_ok] at drawn
  obtain ⟨_, _, ⟨cipher, _, -, rfl, -⟩, _, _, -, same, -⟩ := drawn
  obtain ⟨rfl, -⟩ := Prod.mk.inj same
  exact ⟨cipher, rfl⟩

section InReplyTo

variable {envelope : Envelope} {cipher : PayloadCipher}

/-- What is set from an envelope with a cipher is that cipher. -/
theorem cipher_inReplyTo (equipped : envelope.cipher = some cipher) (options : Options) :
    (options.set (.inReplyTo envelope)).cipher = some (.ready cipher) := by
  rw [set, equipped]
  rfl

/-- **What is begun in reply to an envelope shares its cipher**, and draws nothing for it. -/
theorem shared_of_inReplyTo (equipped : envelope.cipher = some cipher) {options : Options}
    {blank new : Envelope} {entropy rest : Entropy}
    (begun : ((options.set (.inReplyTo envelope)).apply blank).runFrom entropy = (.ok new, rest)) :
    new.cipher = some cipher ∧ rest = entropy := by
  have ready := cipher_inReplyTo equipped options
  obtain ⟨found, sealCipher, drawn, rfl⟩ := runFrom_apply_eq_ok.mp begun
  have chosen : (Option.mapM CipherChoice.cipher (some (.ready cipher))).runFrom entropy
      = (.ok (some cipher), entropy) := rfl
  rw [ciphers, ready, Drawing.runFrom_bind_of_ok chosen] at drawn
  simp only [Drawing.runFrom_bind_eq_ok, Drawing.runFrom_ofExcept_eq_ok,
    Drawing.runFrom_pure_eq_ok] at drawn
  obtain ⟨_, _, ⟨-, rfl⟩, same, rfl⟩ := drawn
  obtain ⟨rfl, -⟩ := Prod.mk.inj same
  exact ⟨rfl, rfl⟩

end InReplyTo

end Options

namespace Envelope

/-! ## Transitions of a recipient -/

/-- A decryption draws nothing: in the state that it starts in there is a key. -/
theorem drawsNothing_decrypted (envelope : Envelope) : envelope.decrypted.DrawsNothing := by
  cases expected : envelope.expectState Transition.decryption.source with
  | ok _ =>
    have unsealed := state_payload_eq_unsealed.mp ((expectState_eq_ok (by decide)).mp expected)
    exact ⟨_, runFrom_decrypted unsealed⟩
  | error failure =>
    refine ⟨.error failure, ?_⟩
    intro entropy
    rw [decrypted, expected]
    exact Drawing.runFrom_bind_of_error (Drawing.runFrom_ofExcept _ _)

/-- **Unsealing and decrypting draw nothing**, whatever comes of it. -/
theorem take_of_recipient {transition : Transition}
    (receiving : transition = .unsealing ∨ transition = .decryption) (envelope : Envelope) :
    ∃ outcome after, ∀ entropy, envelope.take transition entropy = ⟨outcome, after, entropy⟩ := by
  rcases receiving with rfl | rfl
  · rw [take, unsealSecrets_eq]
    exact attempt_of_drawsNothing (.ofExcept envelope.unsealed) envelope
  · rw [take, decrypt_eq]
    exact attempt_of_drawsNothing envelope.drawsNothing_decrypted envelope

/-! ## Transitions of a sender -/

/-- Wrapping a secret moves the source forward, if at all. -/
theorem forward_wrapping (cipher : SealCipher) (secret : Bytes) : (cipher.encrypt secret).Forward := by
  unfold SealCipher.encrypt
  split
  · exact .bind (.octets _ _) fun _ => .of_drawsNothing (.pure _)
  · exact .of_drawsNothing (.throw _)

/-- A sealing moves the source forward, if at all. -/
theorem forward_sealed (envelope : Envelope) : envelope.sealed.Forward := by
  refine .bind (.of_drawsNothing (.ofExcept _)) fun _ => ?_
  refine .bind (.of_drawsNothing (.ofExcept _)) fun cipher => ?_
  refine .bind (forward_wrapping cipher _).faulting fun _ => ?_
  exact .bind (forward_wrapping cipher _).faulting fun _ => .of_drawsNothing (.pure _)

end Envelope

/-! ## Nonces -/

/-- How an encryption ends that draws a nonce and nothing else. -/
inductive DrawsNonce (entropy : Entropy) : Except Failure Bytes → Entropy → Prop
  /-- The nonce is drawn, and the ciphertext ends in it. -/
  | encrypted (front : Bytes) :
      DrawsNonce entropy (.ok (front ++ entropy.slice entropy.position Aes.Gcm.nonceLength))
        (entropy.past Aes.Gcm.nonceLength)
  /-- The nonce is drawn, and then the key cannot be used. -/
  | wasted (octets : Nat) :
      DrawsNonce entropy (.error (.fault (.unusableKeyLength octets)))
        (entropy.past Aes.Gcm.nonceLength)
  /-- Nothing is drawn. -/
  | undrawn (failure : Failure) : DrawsNonce entropy (.error failure) entropy

/-- A cipher by itself draws a nonce for every text. -/
theorem PayloadCipher.drawsNonce_encrypt (cipher : PayloadCipher) (text : Bytes) (entropy : Entropy) :
    DrawsNonce entropy ((Envelope.faulting (cipher.encrypt text)).runFrom entropy).1
      ((Envelope.faulting (cipher.encrypt text)).runFrom entropy).2 := by
  rw [Envelope.runFrom_faulting]
  cases usable : cipher.usableKey with
  | ok key =>
    rw [runFrom_encrypt (usableKey_eq_ok.mp usable)]
    by_cases enough : entropy.canGive Aes.Gcm.nonceLength
    · rw [if_pos enough]
      exact .encrypted _
    · rw [if_neg enough]
      exact .undrawn _
  | error fault =>
    obtain rfl := usableKey_eq_error usable
    rw [runFrom_encrypt_of_unusable usable]
    by_cases enough : entropy.canGive Aes.Gcm.nonceLength
    · rw [if_pos enough]
      exact .wasted _
    · rw [if_neg enough]
      exact .undrawn _

/-- What comes of a step that encrypts: the ciphertext that the message holds after it. -/
def Step.ciphertext (step : Step) : Except Failure Bytes :=
  step.outcome.map fun _ => step.envelope.message.payload

/-- **An envelope with a cipher draws a nonce and nothing else** for its encryption. -/
theorem Envelope.drawsNonce_encrypt {envelope : Envelope} {cipher : PayloadCipher}
    (equipped : envelope.cipher = some cipher) (entropy : Entropy) :
    DrawsNonce entropy (envelope.encrypt entropy).ciphertext (envelope.encrypt entropy).entropy := by
  cases readable : envelope.payload with
  | none =>
    obtain ⟨failure, fails⟩ := encrypt_of_unreadable readable
    rw [fails]
    exact .undrawn failure
  | some payload =>
    cases usable : cipher.usableKey with
    | ok key =>
      rw [encrypt_of_equipped readable equipped (PayloadCipher.usableKey_eq_ok.mp usable)]
      by_cases enough : entropy.canGive Aes.Gcm.nonceLength
      · rw [if_pos enough]
        exact .encrypted _
      · rw [if_neg enough]
        exact .undrawn _
    | error fault =>
      obtain rfl := PayloadCipher.usableKey_eq_error usable
      rw [encrypt_of_unusable readable equipped usable]
      by_cases enough : entropy.canGive Aes.Gcm.nonceLength
      · rw [if_pos enough]
        exact .wasted _
      · rw [if_neg enough]
        exact .undrawn _

end SealedTransfer
