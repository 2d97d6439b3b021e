/-
# SealedTransfer.Proofs.Transfer.Retrying — when a refusal invites another attempt

A sender may have wrapped the secrets for a key that is out of date. That is the one thing that another
attempt can mend, so the one refusal that says so is that of an owner who cannot unwrap the secrets of a
sealed message. Every other refusal that is raised here is final. Opening a message adds only the
refusals that others have raised: a message with nothing but a rejection is refused with that very one.
-/
import SealedTransfer.Proofs.Transfer.Authentic

namespace SealedTransfer

/-! ## Final failures -/

/-- A failure that does not ask for another attempt: a fault, or a rejection that says so. -/
def Failure.IsFinal : Failure → Prop
  | .rejected rejection => rejection.retry = false
  | .fault _ => True

/-- What is rejected for good is final. -/
theorem Failure.isFinal_reject (code : Rejection.Code) (message : String) :
    (Failure.reject code message).IsFinal := rfl

/-- A failure that asks for another attempt, since a key was not the one that was needed. -/
def Failure.AsksAgain (failure : Failure) : Prop :=
  ∃ complaint, failure = .rejected (Rejection.final .invalidKey complaint).withRetry

/-- A rejection that is final unless something holds, and asks for another attempt if it does, says so. -/
theorem Failure.retry_iff {rejection : Rejection} {locked : Prop}
    (h : (rejected rejection).IsFinal ∨ locked ∧ (rejected rejection).AsksAgain)
    (h' : locked → (rejected rejection).AsksAgain) :
    (rejection.retry = true ↔ locked) ∧ (rejection.retry = true → rejection.code = .invalidKey) := by
  have asked : (rejected rejection).AsksAgain →
      rejection.retry = true ∧ rejection.code = .invalidKey := by
    rintro ⟨complaint, same⟩
    cases same
    exact ⟨rfl, rfl⟩
  have because : rejection.retry = true → locked := by
    intro again
    rcases h with final | ⟨because, -⟩
    · change rejection.retry = false at final
      rw [final] at again
      cases again
    · exact because
  refine ⟨⟨because, ?_⟩, ?_⟩
  · intro holds
    exact (asked (h' holds)).1
  · intro again
    exact (asked (h' (because again))).2

namespace Drawing

variable {α β : Type}

/-- A computation with no failures but final ones. -/
def FailsFinally (drawing : Drawing Failure α) : Prop :=
  ∀ entropy failure rest, drawing.runFrom entropy = (.error failure, rest) → failure.IsFinal

namespace FailsFinally

theorem pure (a : α) : (Pure.pure a : Drawing Failure α).FailsFinally := by
  intro entropy failure rest failed
  cases failed

theorem ofExcept {result : Except Failure α}
    (h : ∀ failure, result = .error failure → failure.IsFinal) :
    (Drawing.ofExcept result).FailsFinally := by
  intro entropy failure rest failed
  rw [Drawing.runFrom_ofExcept, Prod.mk.injEq] at failed
  exact h failure failed.1

/-- A sequence fails finally if both of its parts do. -/
theorem bind {first : Drawing Failure α} {next : α → Drawing Failure β} (h : first.FailsFinally)
    (h' : ∀ a, (next a).FailsFinally) : (first >>= next).FailsFinally := by
  intro entropy failure rest failed
  rcases Drawing.runFrom_bind_eq_error.mp failed with failed | ⟨a, drawn, -, failed⟩
  · exact h entropy failure rest failed
  · exact h' a drawn failure rest failed

/-- Faults are final. -/
theorem faulting (drawing : Drawing Fault α) : (Envelope.faulting drawing).FailsFinally := by
  intro entropy failure rest failed
  obtain ⟨fault, rfl, -⟩ := Envelope.runFrom_faulting_eq_error.mp failed
  trivial

end FailsFinally

end Drawing

/-! ## Checks -/

theorem Message.isFinal_of_checkAlgorithms {message : Message} {failure : Failure}
    (h : message.checkAlgorithms = .error failure) : failure.IsFinal := by
  unfold checkAlgorithms at h
  split at h
  · cases h
    exact Failure.isFinal_reject _ _
  split at h
  · cases h
    exact Failure.isFinal_reject _ _
  · cases h

theorem Message.isFinal_of_checkKeyLength {message : Message} {failure : Failure}
    (h : message.checkKeyLength = .error failure) : failure.IsFinal := by
  unfold checkKeyLength at h
  split at h
  · cases h
  · cases h
    exact Failure.isFinal_reject _ _

namespace Envelope

theorem isFinal_of_expectState {envelope : Envelope} {expected : PayloadState} {failure : Failure}
    (h : envelope.expectState expected = .error failure) : failure.IsFinal := by
  unfold expectState at h
  dsimp only at h
  split at h
  · cases h
    exact Failure.isFinal_reject _ _
  split at h
  · cases h
    trivial
  · cases h

theorem isFinal_of_chosenSeal {envelope : Envelope} {missing : Fault} {failure : Failure}
    (h : envelope.chosenSeal missing = .error failure) : failure.IsFinal := by
  unfold chosenSeal at h
  split at h
  · cases h
  · cases h
    trivial

theorem isFinal_of_openPayload {message : Message} {cipher : PayloadCipher} {failure : Failure}
    (h : openPayload message cipher = .error failure) : failure.IsFinal := by
  unfold openPayload at h
  split at h
  · cases h
    exact Failure.isFinal_reject _ _
  split at h
  · cases h
    exact Failure.isFinal_reject _ _
  split at h
  · cases h
    exact Failure.isFinal_reject _ _
  · cases h

/-! ## Transitions -/

theorem failsFinally_prepareEncryption (envelope : Envelope) :
    envelope.prepareEncryption.FailsFinally := by
  have chosen : envelope.chosenCipher.FailsFinally := by
    unfold chosenCipher
    split
    · exact .pure _
    · exact .faulting _
  refine .bind (.ofExcept fun _ => isFinal_of_expectState) fun _ => ?_
  refine .bind (.faulting _) fun payload => ?_
  exact .bind chosen fun cipher => .pure _

theorem failsFinally_protect (envelope : Envelope) (payload : Payload) (cipher : PayloadCipher) :
    (envelope.protect payload cipher).FailsFinally := by
  refine .bind (.faulting _) fun ciphertext => ?_
  exact .bind (.faulting _) fun tag => .pure _

theorem failsFinally_sealed (envelope : Envelope) : envelope.sealed.FailsFinally := by
  refine .bind (.ofExcept fun _ => isFinal_of_expectState) fun _ => ?_
  refine .bind (.ofExcept fun _ => isFinal_of_chosenSeal) fun cipher => ?_
  refine .bind (.faulting _) fun key => ?_
  exact .bind (.faulting _) fun secret => .pure _

theorem failsFinally_decrypted (envelope : Envelope) : envelope.decrypted.FailsFinally := by
  refine .bind (.ofExcept fun _ => isFinal_of_expectState) fun _ => ?_
  refine .bind (.ofExcept fun _ => Message.isFinal_of_checkAlgorithms) fun _ => ?_
  refine .bind (.ofExcept fun _ => Message.isFinal_of_checkKeyLength) fun _ => ?_
  refine .bind (.faulting _) fun cipher => ?_
  exact .bind (.ofExcept fun _ => isFinal_of_openPayload) fun payload => .pure _

/-- A change that fails finally is a step that does. -/
theorem isFinal_of_attempt {change : Drawing Failure Envelope} {envelope : Envelope}
    {entropy : Entropy} {failure : Failure} (final : change.FailsFinally)
    (h : (attempt change envelope entropy).outcome = .error failure) : failure.IsFinal := by
  cases ran : change.runFrom entropy with
  | mk result rest =>
    cases result with
    | ok changed =>
      rw [attempt_of_ok ran] at h
      cases h
    | error cause =>
      rw [attempt_of_error ran] at h
      cases h
      exact final entropy failure rest ran

theorem isFinal_of_encrypt {envelope : Envelope} {entropy : Entropy} {failure : Failure}
    (h : (envelope.encrypt entropy).outcome = .error failure) : failure.IsFinal := by
  rw [encrypt, Change.step_encryption] at h
  split at h
  · rw [step_protection] at h
    exact isFinal_of_attempt (failsFinally_protect _ _ _) h
  · rename_i cause rest failed
    cases h
    exact failsFinally_prepareEncryption envelope entropy failure rest failed

/-! ## Unsealing -/

/-- A sealed envelope with supported algorithms at the owner of a private key that does not unwrap the
key or the secret of the message. -/
structure FailsToUnwrap (envelope : Envelope) : Prop where
  isSealed : envelope.state.payload = .sealed
  supported : envelope.message.Supported
  locked : ∃ key, envelope.sealCipher = some (.owner key) ∧
    (Rsa.Oaep.decrypt? key envelope.message.encryptionKey = none ∨
      Rsa.Oaep.decrypt? key envelope.message.hmacSecret = none)

/-- What the owner of a private key makes of a secret. -/
theorem unwrap_owner (key : Rsa.PrivateKey) (secret : Bytes) (complaint : String) :
    unwrap (.owner key) secret complaint = match Rsa.Oaep.decrypt? key secret with
      | some unwrapped => .ok unwrapped
      | none => .error (.rejected (Rejection.final .invalidKey complaint).withRetry) := by
  rw [unwrap, SealCipher.decrypt_owner]
  cases Rsa.Oaep.decrypt? key secret <;> rfl

/-- A secret that is not unwrapped is a final failure, unless its owner cannot unwrap it. -/
theorem of_unwrap_eq_error {cipher : SealCipher} {secret : Bytes} {complaint : String}
    {failure : Failure} (h : unwrap cipher secret complaint = .error failure) :
    failure.IsFinal ∨ ∃ key, cipher = .owner key ∧ Rsa.Oaep.decrypt? key secret = none ∧
      failure.AsksAgain := by
  cases cipher with
  | recipient key =>
    cases h
    exact .inl trivial
  | owner key =>
    rw [unwrap_owner] at h
    split at h
    · cases h
    · rename_i locked
      cases h
      exact .inr ⟨key, rfl, locked, complaint, rfl⟩

/-- **An unsealing that fails is final, unless the secrets cannot be unwrapped.** -/
theorem of_unsealed_eq_error {envelope : Envelope} {failure : Failure}
    (h : envelope.unsealed = .error failure) :
    failure.IsFinal ∨ envelope.FailsToUnwrap ∧ failure.AsksAgain := by
  simp only [unsealed, bind_eq_error] at h
  rcases h with unexpected | ⟨_, expected, unsupported | ⟨_, checked, missing | ⟨cipher, chosen, h⟩⟩⟩
  · exact .inl (isFinal_of_expectState unexpected)
  · exact .inl (Message.isFinal_of_checkAlgorithms unsupported)
  · exact .inl (isFinal_of_chosenSeal missing)
  have isSealed := (expectState_eq_ok (by decide)).mp expected
  have supported := Message.checkAlgorithms_eq_ok.mp checked
  have held := chosenSeal_eq_ok.mp chosen
  rcases h with lockedKey | ⟨_, -, lockedSecret | ⟨_, -, done⟩⟩
  · rcases of_unwrap_eq_error lockedKey with final | ⟨key, rfl, locked, asks⟩
    · exact .inl final
    · exact .inr ⟨⟨isSealed, supported, key, held, .inl locked⟩, asks⟩
  · rcases of_unwrap_eq_error lockedSecret with final | ⟨key, rfl, locked, asks⟩
    · exact .inl final
    · exact .inr ⟨⟨isSealed, supported, key, held, .inr locked⟩, asks⟩
  · cases done

/-- Secrets that cannot be unwrapped are refused, and another attempt is asked for. -/
theorem FailsToUnwrap.unsealed_eq_error {envelope : Envelope} (h : envelope.FailsToUnwrap) :
    ∃ failure, envelope.unsealed = .error failure ∧ failure.AsksAgain := by
  obtain ⟨isSealed, supported, key, held, locked⟩ := h
  have expected : envelope.expectState Transition.unsealing.source = .ok () :=
    (expectState_eq_ok (by decide)).mpr isSealed
  have checked := Message.checkAlgorithms_eq_ok.mpr supported
  have chosen : envelope.chosenSeal .noUnsealingKey = .ok (.owner key) := chosenSeal_eq_ok.mpr held
  have started : envelope.unsealed = (do
      let encryptionKey ← unwrap (.owner key) envelope.message.encryptionKey
        "encryption key signed incorrectly"
      let hmacSecret ← unwrap (.owner key) envelope.message.hmacSecret
        "hmac secret signed incorrectly"
      return { envelope with
        message := envelope.message.withSecrets encryptionKey hmacSecret false "" }) := by
    rw [unsealed, expected, checked, chosen]
    rfl
  rw [started, unwrap_owner, unwrap_owner]
  -- the key is unwrapped first, so a secret that is locked counts only if the key is not
  cases unwrappedKey : Rsa.Oaep.decrypt? key envelope.message.encryptionKey with
  | none => exact ⟨_, rfl, _, rfl⟩
  | some encryptionKey =>
    have lockedSecret := locked.resolve_left (by simp [unwrappedKey])
    rw [lockedSecret]
    exact ⟨_, rfl, _, rfl⟩

/-- **A step that fails is final, unless it unseals and the secrets cannot be unwrapped.** -/
theorem of_take_eq_error {transition : Transition} {envelope : Envelope} {entropy : Entropy}
    {failure : Failure} (h : (envelope.take transition entropy).outcome = .error failure) :
    failure.IsFinal ∨ (transition = .unsealing ∧ envelope.FailsToUnwrap) ∧ failure.AsksAgain := by
  cases transition with
  | encryption => exact .inl (isFinal_of_encrypt h)
  | sealing =>
    rw [take, sealSecrets_eq] at h
    exact .inl (isFinal_of_attempt (failsFinally_sealed envelope) h)
  | decryption =>
    rw [take, decrypt_eq] at h
    exact .inl (isFinal_of_attempt (failsFinally_decrypted envelope) h)
  | unsealing =>
    cases failed : envelope.unsealed with
    | ok unsealed =>
      rw [take, unsealSecrets_eq, failed] at h
      cases h
    | error cause =>
      rw [take, unsealSecrets_eq, failed] at h
      cases h
      rcases of_unsealed_eq_error failed with final | ⟨locked, asks⟩
      · exact .inl final
      · exact .inr ⟨⟨rfl, locked⟩, asks⟩

/-- A step that unseals asks for another attempt if the secrets cannot be unwrapped. -/
theorem FailsToUnwrap.take_eq_error {envelope : Envelope} (h : envelope.FailsToUnwrap)
    (entropy : Entropy) : ∃ failure,
      (envelope.take .unsealing entropy).outcome = .error failure ∧ failure.AsksAgain := by
  obtain ⟨failure, failed, asks⟩ := h.unsealed_eq_error
  refine ⟨failure, ?_, asks⟩
  rw [take, unsealSecrets_eq, failed]
  rfl

end Envelope

/-! ## Opening -/

namespace Transfer

/-- **Opening fails finally, unless the message has nothing but a rejection or its secrets cannot be
unwrapped.** -/
theorem of_openEnvelope_eq_error {envelope : Envelope} {entropy rest : Entropy} {failure : Failure}
    (other : envelope.state ≠ .error)
    (h : (openEnvelope envelope).runFrom entropy = (.error failure, rest)) :
    failure.IsFinal ∨ envelope.FailsToUnwrap ∧ failure.AsksAgain := by
  have surfaced := surfaceRejection_of_ne_error other
  rw [openEnvelope, surfaced, Drawing.runFrom_bind_of_ok (Drawing.runFrom_ofExcept _ _),
    Drawing.runFrom_bind_eq_error] at h
  rcases h with failed | ⟨unsealed, drawn, -, failed⟩
  · unfold unsealIfSealed at failed
    split at failed
    · rw [runFrom_advance_unsealing, Prod.mk.injEq] at failed
      exact Envelope.of_unsealed_eq_error failed.1
    · cases failed
  · have decryption : (advance .decryption unsealed).FailsFinally := by
      intro entropy failure rest failed
      rw [runFrom_advance_decryption] at failed
      exact Envelope.failsFinally_decrypted unsealed entropy failure rest failed
    exact .inl (decryption.bind (fun _ => .faulting _) drawn failure rest failed)

/-- A message whose secrets cannot be unwrapped is refused, and another attempt is asked for. -/
theorem openEnvelope_of_failsToUnwrap {envelope : Envelope} (h : envelope.FailsToUnwrap)
    (entropy : Entropy) : ∃ failure,
      (openEnvelope envelope).runFrom entropy = (.error failure, entropy) ∧ failure.AsksAgain := by
  obtain ⟨failure, failed, asks⟩ := h.unsealed_eq_error
  have surfaced := surfaceRejection_of_protected (Envelope.state_payload_eq_sealed.mp h.isSealed)
  have refused : (unsealIfSealed envelope).runFrom entropy = (.error failure, entropy) := by
    rw [unsealIfSealed, if_pos h.isSealed, runFrom_advance_unsealing, failed]
  refine ⟨failure, ?_, asks⟩
  rw [openEnvelope, surfaced, Drawing.runFrom_bind_of_ok (Drawing.runFrom_ofExcept _ _),
    Drawing.runFrom_bind_of_error refused]

/-- What opening a message with nothing but a rejection answers is the rejection that it carries. -/
theorem error_of_openEnvelope {message : Message} {options : Options} {envelope : Envelope}
    {entropy drawn rest : Entropy} {rejection : Rejection}
    (wrapped : (Envelope.wrap message options).runFrom entropy = (.ok envelope, drawn))
    (only : envelope.state = .error)
    (h : (openEnvelope envelope).runFrom drawn = (.error (.rejected rejection), rest)) :
    message.error = some rejection := by
  obtain ⟨cipher, sealCipher, -, rfl⟩ := Options.runFrom_apply_eq_ok.mp wrapped
  have status := only
  rw [Envelope.state_of_payload rfl, Message.status_eq_error] at status
  obtain ⟨carried, found⟩ := Option.isSome_iff_exists.mp status.2.2
  have surfaced := surfaceRejection_of_error only found
  rw [openEnvelope, surfaced, Drawing.runFrom_bind_of_error (Drawing.runFrom_ofExcept _ _)] at h
  cases h
  exact (Option.filter_eq_some_iff.mp found).1

/-- **Only an owner who cannot unwrap the secrets asks for another attempt.** A step asks for one exactly
if it unseals a sealed envelope with supported algorithms whose owner does not unwrap its key or its
secret; the key is to blame then. Opening a message asks for one in that case and no other, unless the
message has nothing but a rejection: then the answer is that rejection, with all that it says. -/
theorem retry_iff_failsToUnwrap :
    (∀ (transition : Transition) (envelope : Envelope) (entropy : Entropy) (rejection : Rejection),
      (envelope.take transition entropy).outcome = .error (.rejected rejection) →
        (rejection.retry = true ↔ transition = .unsealing ∧ envelope.FailsToUnwrap) ∧
        (rejection.retry = true → rejection.code = .invalidKey)) ∧
    (∀ envelope : Envelope, envelope.FailsToUnwrap → ∀ entropy, ∃ rejection : Rejection,
      (envelope.take .unsealing entropy).outcome = .error (.rejected rejection) ∧
        rejection.retry = true) ∧
    (∀ (message : Message) (options : Options) (entropy rest : Entropy) (rejection : Rejection),
      (openPayload message options).runFrom entropy = (.error (.rejected rejection), rest) →
        ∃ envelope drawn, (Envelope.wrap message options).runFrom entropy = (.ok envelope, drawn) ∧
          if envelope.state = .error then message.error = some rejection
          else (rejection.retry = true ↔ envelope.FailsToUnwrap) ∧
            (rejection.retry = true → rejection.code = .invalidKey)) := by
  refine ⟨?_, ?_, ?_⟩
  · intro transition envelope entropy rejection refused
    apply Failure.retry_iff (Envelope.of_take_eq_error refused)
    rintro ⟨rfl, locked⟩
    obtain ⟨failure, failed, asks⟩ := locked.take_eq_error entropy
    rw [failed] at refused
    cases refused
    exact asks
  · intro envelope locked entropy
    obtain ⟨_, failed, complaint, rfl⟩ := locked.take_eq_error entropy
    exact ⟨_, failed, rfl⟩
  · intro message options entropy rest rejection refused
    rw [openPayload, Drawing.runFrom_bind_eq_error] at refused
    rcases refused with failed | ⟨envelope, drawn, wrapped, refused⟩
    · -- options only ever fault
      obtain ⟨fault, same, -⟩ := Envelope.runFrom_faulting_eq_error.mp failed
      cases same
    rw [Envelope.runFrom_faulting_eq_ok] at wrapped
    refine ⟨envelope, drawn, wrapped, ?_⟩
    split
    · rename_i only
      exact error_of_openEnvelope wrapped only refused
    · rename_i other
      apply Failure.retry_iff (of_openEnvelope_eq_error other refused)
      intro locked
      obtain ⟨failure, failed, asks⟩ := openEnvelope_of_failsToUnwrap locked drawn
      rw [failed] at refused
      cases refused
      exact asks

/-- A message that holds the empty payload, with a key that nobody has wrapped. -/
def garbledMessage : Message := { sampleMessage with encryptionKey := [2], isSealed := true }

/-- The garbled message in the hands of an owner fails to unwrap. -/
theorem failsToUnwrap_garbledMessage :
    Envelope.FailsToUnwrap ⟨garbledMessage, none, none, some (.owner .mersenne)⟩ := by
  have names : sampleMessage.Names sampleCipher.key.length := ⟨.inl rfl, rfl⟩
  refine ⟨?_, names.supported, .mersenne, rfl, .inl ?_⟩
  · refine Envelope.state_payload_eq_sealed.mpr ⟨rfl, ?_, rfl⟩
    exact { complete_sampleMessage with encryptionKey := by decide }
  · apply Rsa.Oaep.decrypt?_of_length_ne
    rw [Rsa.PrivateKey.size_mersenne]
    decide

/-- The garbled message is refused, and another attempt is asked for. -/
theorem retry_of_garbled_key :
    ∃ rejection : Rejection, rejection.retry = true ∧ rejection.code = .invalidKey ∧
      (openPayload garbledMessage (Options.none.set (.unsealingKey (.rsa .mersenne)))).runFrom
        ⟨fun _ => 0, 0, some 0⟩ = (.error (.rejected rejection), ⟨fun _ => 0, 0, some 0⟩) := by
  have applied := Options.runFrom_ciphers_of_sealCipher
    (show SealChoice.cipher (.unsealing (.rsa .mersenne)) = .ok (.owner .mersenne) from rfl)
    ⟨fun _ => 0, 0, some 0⟩
  obtain ⟨_, refused, _, rfl⟩ := openEnvelope_of_failsToUnwrap failsToUnwrap_garbledMessage
    ⟨fun _ => 0, 0, some 0⟩
  have opened := (runFrom_openPayload rfl rfl applied).trans refused
  obtain ⟨envelope, _, wrapped, asked⟩ := retry_iff_failsToUnwrap.2.2 _ _ _ _ _ opened
  have same : envelope = ⟨garbledMessage, none, none, some (.owner .mersenne)⟩ := by
    obtain ⟨_, _, applied', rfl⟩ := (Envelope.runFrom_wrap_eq_ok rfl rfl).mp wrapped
    rw [applied] at applied'
    cases applied'
    rfl
  subst same
  have other : Envelope.state ⟨garbledMessage, none, none, some (.owner .mersenne)⟩ ≠ .error := by
    intro only
    have isSealed := failsToUnwrap_garbledMessage.isSealed
    rw [only] at isSealed
    cases isSealed
  rw [if_neg other] at asked
  have again := asked.1.mpr failsToUnwrap_garbledMessage
  exact ⟨_, again, asked.2 again, opened⟩

end Transfer

end SealedTransfer
