/-
# SealedTransfer.Proofs.Envelope.Changes — changes that leave nothing half done

A change takes nothing back, so one that fails leaves what it has assigned by then. It leaves the envelope
intact if all that can fail comes first and assigns nothing, and what assigns comes last and cannot fail. Each
transition is followed through its statements to see that it is built so: sealing, unsealing and decryption as
a whole, encryption from the point where it has its cipher. A change like that can be thought of in one piece:
as the attempt to draw the envelope that it leads to, made as a whole or not at all.
-/
import SealedTransfer.Envelope.Transitions
import SealedTransfer.Proofs.Entropy

namespace SealedTransfer

namespace Change

variable {α β : Type}

/-- A change that assigns nothing: it leaves the envelope as it is, whatever comes of it. -/
def AssignsNothing (change : Change α) : Prop :=
  ∀ envelope entropy, (change.runOn envelope entropy).2.1 = envelope

/-- A change that cannot fail. -/
def NeverFails (change : Change α) : Prop :=
  ∀ envelope entropy, ∃ a, (change.runOn envelope entropy).1 = .ok a

/-- A change that leaves the envelope as it was if it fails. -/
def Intact (change : Change α) : Prop :=
  ∀ envelope entropy failure, (change.runOn envelope entropy).1 = .error failure →
    (change.runOn envelope entropy).2.1 = envelope

/-! ## Changes that assign nothing -/

namespace AssignsNothing

theorem current : Change.current.AssignsNothing := by
  intro envelope entropy
  rw [runOn_current]

theorem check (result : Except Failure α) : (Change.check result).AssignsNothing := by
  intro envelope entropy
  rw [runOn_check]

theorem draw (drawing : Drawing Failure α) : (Change.draw drawing).AssignsNothing := by
  intro envelope entropy
  rw [runOn_draw]

end AssignsNothing

/-! ## Changes that cannot fail -/

namespace NeverFails

theorem assign (update : Envelope → Envelope) : (Change.assign update).NeverFails := by
  intro envelope entropy
  refine ⟨(), ?_⟩
  rw [runOn_assign]

theorem assignMessage (update : Message → Message) : (Change.assignMessage update).NeverFails :=
  .assign _

/-- A sequence cannot fail if neither of its parts can. -/
theorem bind {first : Change α} {next : α → Change β} (h : first.NeverFails)
    (h' : ∀ a, (next a).NeverFails) : (first >>= next).NeverFails := by
  intro envelope entropy
  obtain ⟨a, succeeded⟩ := h envelope entropy
  rw [runOn_bind]
  generalize first.runOn envelope entropy = left at succeeded ⊢
  obtain ⟨outcome, after, rest⟩ := left
  cases succeeded
  exact h' a after rest

end NeverFails

/-! ## Changes that leave the envelope intact -/

namespace Intact

theorem of_neverFails {change : Change α} (h : change.NeverFails) : change.Intact := by
  intro envelope entropy failure failed
  obtain ⟨a, succeeded⟩ := h envelope entropy
  rw [succeeded] at failed
  cases failed

/-- A sequence leaves the envelope intact if its first part assigns nothing and its second part leaves the
envelope intact. The first part may fail: then the second, which may assign, is not reached. -/
theorem bind {first : Change α} {next : α → Change β} (h : first.AssignsNothing)
    (h' : ∀ a, (next a).Intact) : (first >>= next).Intact := by
  intro envelope entropy failure failed
  have kept := h envelope entropy
  rw [runOn_bind] at failed ⊢
  generalize first.runOn envelope entropy = left at kept failed ⊢
  obtain ⟨outcome, after, rest⟩ := left
  obtain rfl : after = envelope := kept
  cases outcome with
  | ok a => exact h' a after rest failure failed
  | error cause => rfl

/-- A step that fails leaves the envelope as it was, if its change leaves it intact. -/
theorem envelope_step {change : Change Unit} (h : change.Intact) {envelope : Envelope}
    {entropy : Entropy} {failure : Failure}
    (failed : (change.step envelope entropy).outcome = .error failure) :
    (change.step envelope entropy).envelope = envelope :=
  h envelope entropy failure failed

end Intact

/-! ## The transitions, statement by statement -/

/-- All that protects a payload is made before the message is changed. -/
theorem intact_protection (payload : Payload) (cipher : PayloadCipher) :
    (protection payload cipher).Intact := by
  refine .bind (.draw _) fun _ => ?_
  refine .bind (.draw _) fun _ => ?_
  -- from here on there are assignments only
  apply Intact.of_neverFails
  iterate 8 refine .bind (.assignMessage _) fun _ => ?_
  exact .assign _

/-- Both secrets are wrapped before either is replaced. -/
theorem intact_sealing : sealing.Intact := by
  refine .bind .current fun _ => .bind (.check _) fun _ => ?_
  refine .bind .current fun _ => .bind (.check _) fun _ => ?_
  refine .bind .current fun _ => .bind (.draw _) fun _ => ?_
  refine .bind .current fun _ => .bind (.draw _) fun _ => ?_
  apply Intact.of_neverFails
  iterate 3 refine .bind (.assignMessage _) fun _ => ?_
  exact .assignMessage _

/-- Both secrets are unwrapped before either is replaced. -/
theorem intact_unsealing : unsealing.Intact := by
  refine .bind .current fun _ => .bind (.check _) fun _ => ?_
  refine .bind .current fun _ => .bind (.check _) fun _ => ?_
  refine .bind .current fun _ => .bind (.check _) fun _ => ?_
  refine .bind .current fun _ => .bind (.check _) fun _ => ?_
  refine .bind .current fun _ => .bind (.check _) fun _ => ?_
  apply Intact.of_neverFails
  iterate 3 refine .bind (.assignMessage _) fun _ => ?_
  exact .assignMessage _

/-- Nothing is kept of a payload that is not wholly readable. -/
theorem intact_decryption : decryption.Intact := by
  refine .bind .current fun _ => .bind (.check _) fun _ => ?_
  refine .bind .current fun _ => .bind (.check _) fun _ => ?_
  refine .bind .current fun _ => .bind (.check _) fun _ => ?_
  refine .bind .current fun _ => .bind (.draw _) fun _ => ?_
  refine .bind .current fun _ => .bind (.check _) fun _ => ?_
  apply Intact.of_neverFails
  exact .bind (.assign _) fun _ => .assign _

end Change

/-! ## In one piece -/

namespace Envelope

/-- A change that is made as a whole or not at all. -/
def attempt (change : Drawing Failure Envelope) (envelope : Envelope) (entropy : Entropy) : Step :=
  match change.runFrom entropy with
  | (.ok changed, entropy) => ⟨.ok (), changed, entropy⟩
  | (.error failure, entropy) => ⟨.error failure, envelope, entropy⟩

/-- A change that succeeds is made. -/
theorem attempt_of_ok {change : Drawing Failure Envelope} {envelope changed : Envelope}
    {entropy rest : Entropy} (h : change.runFrom entropy = (.ok changed, rest)) :
    attempt change envelope entropy = ⟨.ok (), changed, rest⟩ := by
  rw [attempt, h]

/-- A change that fails is not made. -/
theorem attempt_of_error {change : Drawing Failure Envelope} {envelope : Envelope}
    {entropy rest : Entropy} {failure : Failure}
    (h : change.runFrom entropy = (.error failure, rest)) :
    attempt change envelope entropy = ⟨.error failure, envelope, rest⟩ := by
  rw [attempt, h]

/-- An attempt that succeeds has made its change. -/
theorem runFrom_of_attempt {change : Drawing Failure Envelope} {envelope : Envelope}
    {entropy : Entropy} (h : (attempt change envelope entropy).outcome = .ok ()) :
    change.runFrom entropy
      = (.ok (attempt change envelope entropy).envelope, (attempt change envelope entropy).entropy) := by
  cases ran : change.runFrom entropy with
  | mk result rest =>
    cases result with
    | ok changed => rw [attempt_of_ok ran]
    | error failure =>
      rw [attempt_of_error ran] at h
      cases h

end Envelope

namespace Change

/-- A change as a drawing: the envelope that it leads to, if it succeeds. -/
def drawing (change : Change Unit) (envelope : Envelope) : Drawing Failure Envelope :=
  ExceptT.mk fun entropy =>
    let (outcome, after, rest) := change.runOn envelope entropy
    (outcome.map fun _ => after, rest)

theorem runFrom_drawing (change : Change Unit) (envelope : Envelope) (entropy : Entropy) :
    (change.drawing envelope).runFrom entropy =
      ((change.runOn envelope entropy).1.map fun _ => (change.runOn envelope entropy).2.1,
        (change.runOn envelope entropy).2.2) := rfl

/-- **A change that leaves the envelope intact if it fails is made as a whole or not at all.** -/
theorem Intact.step_eq {change : Change Unit} (h : change.Intact) (envelope : Envelope) :
    change.step envelope = envelope.attempt (change.drawing envelope) := by
  funext entropy
  have kept := h envelope entropy
  rw [step, Envelope.attempt, runFrom_drawing]
  generalize change.runOn envelope entropy = left at kept ⊢
  obtain ⟨outcome, after, rest⟩ := left
  cases outcome with
  | ok _ => rfl
  | error failure =>
    obtain rfl : after = envelope := kept failure rfl
    rfl

section Drawing

variable {α : Type} (envelope : Envelope)

theorem drawing_current_bind (next : Envelope → Change Unit) :
    (current >>= next).drawing envelope = (next envelope).drawing envelope := rfl

theorem drawing_draw_bind (drawn : Drawing Failure α) (next : α → Change Unit) :
    (draw drawn >>= next).drawing envelope = drawn >>= fun a => (next a).drawing envelope := by
  refine Drawing.ext fun entropy => ?_
  rw [runFrom_drawing, runOn_bind, runOn_draw, Drawing.runFrom_bind]
  obtain ⟨outcome, rest⟩ := drawn.runFrom entropy
  cases outcome <;> rfl

theorem drawing_check_bind (result : Except Failure α) (next : α → Change Unit) :
    (check result >>= next).drawing envelope =
      Drawing.ofExcept result >>= fun a => (next a).drawing envelope := by
  cases result <;> rfl

end Drawing

end Change

/-! ## The transitions in one piece -/

namespace Envelope

/-- The cipher to encrypt with. One is drawn unless there is one. -/
def chosenCipher (envelope : Envelope) : Drawing Failure PayloadCipher :=
  match envelope.cipher with
  | some cipher => pure cipher
  | none => faulting PayloadCipher.generate

/-- The payload to encrypt and the cipher for it. -/
def prepareEncryption (envelope : Envelope) : Drawing Failure (Payload × PayloadCipher) := do
  Drawing.ofExcept (envelope.expectState Transition.encryption.source)
  let payload ← faulting (Drawing.ofExcept envelope.clearPayload)
  let cipher ← envelope.chosenCipher
  return (payload, cipher)

/-- The message of an encrypted and authenticated payload, its secrets in the clear. -/
def protectedMessage (message : Message) (cipher : PayloadCipher) (ciphertext tag : Bytes) :
    Message :=
  { message with
    payload := ciphertext
    encryptionKey := cipher.key
    encryptionAlgorithm := cipher.encryptionAlgorithm
    hmac := tag
    hmacSecret := cipher.secret
    hmacAlgorithm := PayloadCipher.hmacAlgorithm
    isSealed := false
    publicKeySignature := "" }

/-- The envelope with a payload encrypted and authenticated into its message. -/
def protect (envelope : Envelope) (payload : Payload) (cipher : PayloadCipher) :
    Drawing Failure Envelope := do
  let ciphertext ← faulting (cipher.encrypt payload.encode)
  let tag ← faulting (Drawing.ofExcept (cipher.sign ciphertext))
  return { envelope with
    message := protectedMessage envelope.message cipher ciphertext tag
    payload := none }

/-- The envelope with its secrets wrapped for a recipient. -/
def sealed (envelope : Envelope) : Drawing Failure Envelope := do
  Drawing.ofExcept (envelope.expectState Transition.sealing.source)
  let cipher ← Drawing.ofExcept (envelope.chosenSeal .noSealingKey)
  let encryptionKey ← faulting (cipher.encrypt envelope.message.encryptionKey)
  let hmacSecret ← faulting (cipher.encrypt envelope.message.hmacSecret)
  return { envelope with
    message := { envelope.message with
      encryptionKey
      hmacSecret
      isSealed := true
      publicKeySignature := cipher.fingerprint } }

/-- The envelope with its secrets unwrapped. -/
def unsealed (envelope : Envelope) : Except Failure Envelope := do
  envelope.expectState Transition.unsealing.source
  envelope.message.checkAlgorithms
  let cipher ← envelope.chosenSeal .noUnsealingKey
  let encryptionKey ←
    unwrap cipher envelope.message.encryptionKey "encryption key signed incorrectly"
  let hmacSecret ← unwrap cipher envelope.message.hmacSecret "hmac secret signed incorrectly"
  return { envelope with
    message := { envelope.message with
      encryptionKey
      hmacSecret
      isSealed := false
      publicKeySignature := "" } }

/-- The envelope with its payload readable. -/
def decrypted (envelope : Envelope) : Drawing Failure Envelope := do
  Drawing.ofExcept (envelope.expectState Transition.decryption.source)
  Drawing.ofExcept envelope.message.checkAlgorithms
  Drawing.ofExcept envelope.message.checkKeyLength
  let cipher ← faulting
    (PayloadCipher.make envelope.message.encryptionKey envelope.message.hmacSecret)
  let payload ← Drawing.ofExcept (openPayload envelope.message cipher)
  return { envelope with payload := some payload, cipher := some cipher }

end Envelope

namespace Change

open Envelope

variable (envelope : Envelope)

theorem drawing_protection (payload : Payload) (cipher : PayloadCipher) :
    (protection payload cipher).drawing envelope = envelope.protect payload cipher := by
  simp only [protection, drawing_draw_bind]
  rfl

theorem drawing_sealing : sealing.drawing envelope = envelope.sealed := by
  simp only [sealing, drawing_current_bind, drawing_check_bind, drawing_draw_bind]
  rfl

theorem drawing_unsealing : unsealing.drawing envelope = Drawing.ofExcept envelope.unsealed := by
  simp only [unsealing, drawing_current_bind, drawing_check_bind, unsealed, Drawing.ofExcept_bind]
  rfl

theorem drawing_decryption : decryption.drawing envelope = envelope.decrypted := by
  simp only [decryption, drawing_current_bind, drawing_check_bind, drawing_draw_bind]
  rfl

/-- The cipher that is chosen stays in the envelope. One that cannot be drawn leaves it as it was. -/
theorem runOn_chooseCipher (entropy : Entropy) :
    chooseCipher.runOn envelope entropy =
      match envelope.chosenCipher.runFrom entropy with
      | (.ok cipher, rest) => (.ok cipher, { envelope with cipher := some cipher }, rest)
      | (.error failure, rest) => (.error failure, envelope, rest) := by
  obtain ⟨message, payload, cipher, sealCipher⟩ := envelope
  cases cipher with
  | some cipher => rfl
  | none =>
    show (draw (faulting PayloadCipher.generate) >>= fun cipher => _).runOn _ _ = _
    rw [runOn_bind, runOn_draw, chosenCipher]
    obtain ⟨outcome, rest⟩ := (faulting PayloadCipher.generate).runFrom entropy
    cases outcome <;> rfl

/-- **An encryption first gets its cipher, which it keeps, and then protects the payload.** -/
theorem step_encryption (entropy : Entropy) :
    encryption.step envelope entropy =
      match envelope.prepareEncryption.runFrom entropy with
      | (.ok (payload, cipher), rest) =>
        (protection payload cipher).step { envelope with cipher := some cipher } rest
      | (.error failure, rest) => ⟨.error failure, envelope, rest⟩ := by
  simp only [step, encryption, prepareEncryption, runOn_bind, runOn_current, runOn_check, runOn_draw,
    runOn_chooseCipher, Drawing.runFrom_bind, Drawing.runFrom_ofExcept, runFrom_faulting]
  cases envelope.expectState Transition.encryption.source with
  | error failure => rfl
  | ok _ =>
    dsimp only
    cases envelope.clearPayload with
    | error fault => rfl
    | ok payload =>
      dsimp only [Except.mapError]
      generalize envelope.chosenCipher.runFrom entropy = chosen
      obtain ⟨outcome, rest⟩ := chosen
      cases outcome <;> rfl

end Change

namespace Envelope

variable (envelope : Envelope)

/-- A payload is protected as a whole or not at all. -/
theorem step_protection (payload : Payload) (cipher : PayloadCipher) :
    (Change.protection payload cipher).step envelope
      = envelope.attempt (envelope.protect payload cipher) := by
  rw [(Change.intact_protection payload cipher).step_eq, Change.drawing_protection]

/-- Secrets are wrapped as a whole or not at all. -/
theorem sealSecrets_eq : envelope.sealSecrets = envelope.attempt envelope.sealed := by
  rw [sealSecrets, Change.intact_sealing.step_eq, Change.drawing_sealing]

/-- Secrets are unwrapped as a whole or not at all. -/
theorem unsealSecrets_eq :
    envelope.unsealSecrets = envelope.attempt (Drawing.ofExcept envelope.unsealed) := by
  rw [unsealSecrets, Change.intact_unsealing.step_eq, Change.drawing_unsealing]

/-- A payload is decrypted as a whole or not at all. -/
theorem decrypt_eq : envelope.decrypt = envelope.attempt envelope.decrypted := by
  rw [decrypt, Change.intact_decryption.step_eq, Change.drawing_decryption]

end Envelope

end SealedTransfer
