/-
# SealedTransfer.Proofs.Transfer.Rejections — a received message never causes a fault

Whatever a message says, the owner of a private key who opens it gets a payload or something to send
back. A fault needs a state that no step starts in, a missing cipher or a missing private key; the
states that a received message can be in rule that out, before unsealing and after it. Only the message
without any content has no sender to answer.
-/
import SealedTransfer.Proofs.Transfer.Opening

namespace SealedTransfer

/-! ## Answers -/

/-- A computation that answers: it draws nothing and ends in a value or in a rejection. -/
def Answers {α : Type} (drawing : Drawing Failure α) : Prop :=
  ∀ entropy, ∃ result, drawing.runFrom entropy = (result, entropy) ∧
    ∀ cause, result ≠ .error (.fault cause)

namespace Answers

variable {α β : Type}

theorem ofExcept {result : Except Failure α} (h : ∀ cause, result ≠ .error (.fault cause)) :
    Answers (Drawing.ofExcept result) :=
  fun _ => ⟨result, rfl, h⟩

theorem pure (a : α) : Answers (Pure.pure a : Drawing Failure α) := by
  intro entropy
  exact ⟨.ok a, rfl, by simp⟩

/-- A sequence answers if its first part does, and the second part does after every value. -/
theorem bind {first : Drawing Failure α} {next : α → Drawing Failure β} (h : Answers first)
    (h' : ∀ a entropy, first.runFrom entropy = (.ok a, entropy) → Answers (next a)) :
    Answers (first >>= next) := by
  intro entropy
  obtain ⟨result, ran, faultless⟩ := h entropy
  cases result with
  | ok a =>
    obtain ⟨result', ran', faultless'⟩ := h' a entropy ran entropy
    exact ⟨result', by rw [Drawing.runFrom_bind_of_ok ran, ran'], faultless'⟩
  | error failure =>
    refine ⟨.error failure, Drawing.runFrom_bind_of_error ran, ?_⟩
    intro cause same
    cases same
    exact faultless cause rfl

end Answers

/-! ## Checks that only reject -/

theorem Message.checkAlgorithms_ne_fault (message : Message) (cause : Fault) :
    message.checkAlgorithms ≠ .error (.fault cause) := by
  unfold checkAlgorithms
  split
  · simp [Failure.reject]
  split <;> simp [Failure.reject]

theorem Message.checkKeyLength_ne_fault (message : Message) (cause : Fault) :
    message.checkKeyLength ≠ .error (.fault cause) := by
  unfold checkKeyLength
  split <;> simp [Failure.reject]

namespace Envelope

/-- A transition faults before it starts in a sound state that is not its own. -/
theorem expectState_eq_fault {envelope : Envelope} {expected : PayloadState} {cause : Fault} :
    envelope.expectState expected = .error (.fault cause) ↔
      envelope.state.payload ≠ .corrupted ∧ envelope.state.payload ≠ expected ∧
        cause = .invalidState ⟨expected, envelope.state.hasError⟩ envelope.state := by
  unfold expectState
  dsimp only
  split
  · rename_i isCorrupted
    have corrupted : envelope.state.payload = .corrupted := by
      simpa [State.isCorrupted] using isCorrupted
    constructor
    · intro h
      cases h
    · rintro ⟨sound, -⟩
      exact absurd corrupted sound
  rename_i notCorrupted
  have sound : envelope.state.payload ≠ .corrupted := by
    simpa [State.isCorrupted] using notCorrupted
  split
  · rename_i different
    constructor
    · intro h
      cases h
      exact ⟨sound, different, rfl⟩
    · rintro ⟨-, -, rfl⟩
      rfl
  · rename_i same
    constructor
    · intro h
      cases h
    · rintro ⟨-, different, -⟩
      exact absurd different same

/-- Unwrapping faults only without a private key. -/
theorem unwrap_owner_ne_fault (key : Rsa.PrivateKey) (secret : Bytes) (complaint : String)
    (cause : Fault) : unwrap (.owner key) secret complaint ≠ .error (.fault cause) := by
  unfold unwrap
  split
  · simp
  · rename_i required
    exact absurd required (SealCipher.decrypt_owner_ne_privateKeyRequired key secret)
  · simp

theorem openPayload_ne_fault (message : Message) (cipher : PayloadCipher) (cause : Fault) :
    openPayload message cipher ≠ .error (.fault cause) := by
  unfold openPayload
  split
  · simp [Failure.reject]
  split
  · simp [Failure.reject]
  split <;> simp [Failure.reject]

/-- **The owner of a private key unseals or rejects.** -/
theorem unsealed_ne_fault {envelope : Envelope} {key : Rsa.PrivateKey}
    (owned : envelope.sealCipher = some (.owner key)) (sealed : envelope.state.payload = .sealed)
    (cause : Fault) : envelope.unsealed ≠ .error (.fault cause) := by
  intro h
  simp only [unsealed, bind_eq_error, chosenSeal, owned] at h
  rcases h with h | ⟨_, -, h | ⟨_, -, h | ⟨cipher, chosen, h⟩⟩⟩
  · exact (expectState_eq_fault.mp h).2.1 sealed
  · exact Message.checkAlgorithms_ne_fault _ _ h
  · cases h
  · cases chosen
    rcases h with h | ⟨_, -, h | ⟨_, -, h⟩⟩
    · exact unwrap_owner_ne_fault _ _ _ _ h
    · exact unwrap_owner_ne_fault _ _ _ _ h
    · cases h

/-- **Decryption of an unsealed or corrupted envelope finds a payload or rejects.** -/
theorem answers_decrypted {envelope : Envelope}
    (h : envelope.state.payload = .corrupted ∨ envelope.state.payload = .unsealed) :
    Answers envelope.decrypted := by
  intro entropy
  rcases h with corrupted | unsealed
  · have refused : envelope.expectState Transition.decryption.source
        = .error (.reject .badRequest envelope.message.corruption) := by
      simp [expectState, State.isCorrupted, corrupted]
    refine ⟨.error (.reject .badRequest envelope.message.corruption), ?_, by simp [Failure.reject]⟩
    rw [decrypted, refused]
    rfl
  · rw [runFrom_decrypted (state_payload_eq_unsealed.mp unsealed)]
    refine ⟨_, rfl, ?_⟩
    intro cause h
    simp only [bind_eq_error] at h
    rcases h with h | ⟨_, -, h | ⟨_, -, h | ⟨_, -, h⟩⟩⟩
    · exact Message.checkAlgorithms_ne_fault _ _ h
    · exact Message.checkKeyLength_ne_fault _ _ h
    · exact openPayload_ne_fault _ _ _ h
    · cases h

end Envelope

namespace Transfer

variable {envelope : Envelope} {key : Rsa.PrivateKey}

theorem answers_surfaceRejection (envelope : Envelope) :
    Answers (Drawing.ofExcept (surfaceRejection envelope)) := by
  apply Answers.ofExcept
  intro cause
  unfold surfaceRejection
  split
  · split <;> simp
  · simp

/-- What is left after rejections have surfaced has a payload, or is corrupted. -/
theorem state_of_surfaceRejection (unreadable : envelope.payload = none)
    (some : envelope.message ≠ .empty) (surfaced : surfaceRejection envelope = .ok ()) :
    envelope.state.payload = .corrupted ∨
      envelope.state.payload = if envelope.message.isSealed then .sealed else .unsealed := by
  by_cases none : envelope.message.payload = []
  · rw [Envelope.state_of_payload unreadable]
    rcases Message.status_of_payload_eq_nil some none with corrupted | ⟨only, carries⟩
    · exact .inl (by rw [corrupted]; rfl)
    · obtain ⟨rejection, carried⟩ := Option.isSome_iff_exists.mp carries
      rw [surfaceRejection, Envelope.state_of_payload unreadable, if_pos only, Envelope.rejection?,
        carried] at surfaced
      cases surfaced
  · exact Envelope.state_payload_of_some unreadable none

/-- The owner unseals, if the envelope is sealed, or rejects. -/
theorem answers_unsealIfSealed (owned : envelope.sealCipher = some (.owner key)) :
    Answers (unsealIfSealed envelope) := by
  unfold unsealIfSealed
  split
  · rename_i sealed
    intro entropy
    exact ⟨envelope.unsealed, runFrom_advance_unsealing _ _, Envelope.unsealed_ne_fault owned sealed⟩
  · exact Answers.pure envelope

/-- Unsealing, if the envelope is sealed, leads to one that can be decrypted, unless the secrets that
were unwrapped leave it corrupted. -/
theorem state_of_unsealIfSealed {unsealed : Envelope} {entropy : Entropy}
    (h : envelope.state.payload = .corrupted ∨
      envelope.state.payload = if envelope.message.isSealed then .sealed else .unsealed)
    (ran : (unsealIfSealed envelope).runFrom entropy = (.ok unsealed, entropy)) :
    unsealed.state.payload = .corrupted ∨ unsealed.state.payload = .unsealed := by
  unfold unsealIfSealed at ran
  split at ran
  · rw [runFrom_advance_unsealing, Prod.mk.injEq, Envelope.unsealed_eq_ok] at ran
    obtain ⟨-⟩ | ⟨-⟩ | ⟨sealed, -, -, -, -⟩ | ⟨-⟩ := ran.1
    exact Envelope.state_payload_of_some sealed.payload sealed.complete.payload
  · rename_i notSealed
    obtain ⟨rfl, -⟩ := Drawing.runFrom_pure_eq_ok.mp ran
    rcases h with corrupted | guarded
    · exact .inl corrupted
    · split at guarded
      · exact absurd guarded notSealed
      · exact .inr guarded

/-- The owner of a private key answers every message that has some content. -/
theorem answers_openEnvelope (unreadable : envelope.payload = none)
    (owned : envelope.sealCipher = some (.owner key)) (some : envelope.message ≠ .empty) :
    Answers (openEnvelope envelope) := by
  unfold openEnvelope
  refine Answers.bind (answers_surfaceRejection envelope) ?_
  -- past this point the message has a payload, or it is corrupted
  intro _ _ surfaced
  have state := state_of_surfaceRejection unreadable some (congrArg Prod.fst surfaced)
  refine Answers.bind (answers_unsealIfSealed owned) ?_
  intro unsealed _ ran
  have answered := Envelope.answers_decrypted (state_of_unsealIfSealed state ran)
  refine Answers.bind ?_ ?_
  · intro entropy
    rw [runFrom_advance_decryption]
    exact answered entropy
  · -- after a decryption there is a payload to be had
    intro clear entropy decrypted
    rw [runFrom_advance_decryption, Envelope.runFrom_decrypted_eq_ok] at decrypted
    obtain ⟨-⟩ | ⟨-⟩ | ⟨-⟩ | ⟨-, -⟩ := decrypted.1
    exact Answers.pure _

/-- The message without any content has no state that a decryption could start in. -/
theorem runFrom_openEnvelope_of_empty (cipher : Option PayloadCipher)
    (sealCipher : Option SealCipher) (entropy : Entropy) :
    (openEnvelope ⟨.empty, none, cipher, sealCipher⟩).runFrom entropy
      = (.error (.fault (.invalidState ⟨.unsealed, false⟩ .unknown)), entropy) := rfl

/-- **No message causes a fault** at the owner of a private key, except for the one without any content.
Nothing is drawn. -/
theorem fault_of_openPayload_iff {choice : SealChoice} (owned : choice.cipher = .ok (.owner key))
    (message : Message) (entropy : Entropy) :
    ∃ result, (openPayload message ⟨none, none, none, some choice⟩).runFrom entropy
        = (result, entropy) ∧
      ∀ cause, result = .error (.fault cause) ↔
        message = .empty ∧ cause = .invalidState ⟨.unsealed, false⟩ .unknown := by
  have applied := Options.runFrom_ciphers_of_sealCipher owned entropy
  rw [runFrom_openPayload rfl rfl applied]
  -- only the message without any content is neither corrupted nor in a state to start from
  by_cases none : message = .empty
  · subst none
    exact ⟨_, runFrom_openEnvelope_of_empty _ _ _, by simp [eq_comm]⟩
  · have answers : Answers (openEnvelope ⟨message, .none, .none, some (.owner key)⟩) :=
      answers_openEnvelope rfl rfl none
    obtain ⟨result, ran, faultless⟩ := answers entropy
    exact ⟨result, ran, by simp [faultless, none]⟩

/-- A message with garbled secrets is answered. -/
theorem answered_with_garbled_secrets :
    ∃ result, (openPayload
        { Message.empty with id := "transfer", payload := [1], encryptionKey := [2], isSealed := true }
        ⟨none, none, none, some (.unsealing (.rsa .mersenne))⟩).runFrom ⟨fun _ => 0, 0, some 0⟩
        = (result, ⟨fun _ => 0, 0, some 0⟩) ∧ ∀ cause, result ≠ .error (.fault cause) := by
  have owned : SealChoice.cipher (.unsealing (.rsa .mersenne)) = .ok (.owner .mersenne) := rfl
  obtain ⟨result, ran, faults⟩ := fault_of_openPayload_iff owned _ _
  refine ⟨result, ran, ?_⟩
  intro cause fault
  exact absurd ((faults cause).mp fault).1 (by decide)

end Transfer

end SealedTransfer
