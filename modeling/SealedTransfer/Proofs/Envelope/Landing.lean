/-
# SealedTransfer.Proofs.Envelope.Landing — where transitions land

A transition that succeeds has started in its own state, and it lands in its target state with a
rejection exactly if there was one before. Two things can come in between, since no transition looks at
what it has made: an encryption takes an envelope without a name as it is, and an unsealing takes the
secrets as they come out, empty ones too. Exactly then the envelope is left corrupted.

A timestamp cannot be missing: an envelope that was made by itself has one, and any other has been
complete before its payload became readable. This is an invariant of runs.
-/
import SealedTransfer.Proofs.Envelope.Runs
import SealedTransfer.Proofs.Transfer.Closing

namespace SealedTransfer.Envelope

/-! ## Envelopes on their way -/

/-- An envelope as it comes about: made for a payload, or around a message. -/
inductive Begins : Envelope → Prop
  | created {occasion : Occasion} {payload : Payload} {options : Options} {envelope : Envelope}
      {entropy rest : Entropy}
      (made : (create occasion payload options).runFrom entropy = (.ok envelope, rest)) :
      Begins envelope
  | wrapped {message : Message} {options : Options} {envelope : Envelope} {entropy rest : Entropy}
      (made : (wrap message options).runFrom entropy = (.ok envelope, rest)) : Begins envelope

/-- An envelope that has a timestamp, if its payload is readable. -/
def Dated (envelope : Envelope) : Prop :=
  ∀ payload, envelope.payload = some payload → envelope.message.timestamp ≠ ""

/-- Without a readable payload there is nothing to date. -/
theorem dated_of_unreadable {envelope : Envelope} (h : envelope.payload = none) :
    envelope.Dated := by
  intro payload readable
  cases h.symm.trans readable

theorem Begins.dated {envelope : Envelope} (h : Begins envelope) : envelope.Dated := by
  cases h with
  | created made =>
    intro _ _
    exact (of_create made).2.2.1
  | wrapped made =>
    obtain ⟨_, _, -, rfl⟩ := Options.runFrom_apply_eq_ok.mp made
    exact dated_of_unreadable rfl

/-- A step that succeeds leaves a readable payload only with a timestamp. -/
theorem Advances.dated {transition : Transition} {envelope after : Envelope}
    (h : Advances transition envelope after) : after.Dated := by
  cases h with
  | encryption _ _ _ => exact dated_of_unreadable rfl
  | sealing unsealed _ _ _ => exact dated_of_unreadable unsealed.payload
  | unsealing sealed _ _ _ _ => exact dated_of_unreadable sealed.payload
  | decryption unsealed _ =>
    intro _ _
    exact unsealed.complete.timestamp

/-- Every step keeps an envelope dated, whether it succeeds or fails. -/
theorem dated_take {envelope : Envelope} (h : envelope.Dated) (transition : Transition)
    (entropy : Entropy) : (envelope.take transition entropy).envelope.Dated := by
  cases outcome : (envelope.take transition entropy).outcome with
  | ok _ => exact (advances_of_take outcome).dated
  | error failure =>
    rcases envelope_take_of_error outcome with same | ⟨cipher, -, equipped⟩
    · rw [same]
      exact h
    · rw [equipped]
      exact h

/-- Every run keeps an envelope dated. -/
theorem dated_after {envelope : Envelope} (h : envelope.Dated)
    (steps : List (Transition × Entropy)) : (envelope.after steps).Dated := by
  induction steps generalizing envelope with
  | nil => exact h
  | cons step steps ih => exact ih (dated_take h step.1 step.2)

/-! ## Landing -/

/-- What a transition overlooks and then leaves the envelope corrupted for. -/
inductive Overlooks (envelope : Envelope) : Transition → Prop
  /-- The envelope that is encrypted has no name. -/
  | name (unnamed : envelope.message.id = "") : Overlooks envelope .encryption
  /-- A secret that is unwrapped is empty. -/
  | secret {cipher : SealCipher} {wrapped : Bytes} (chosen : envelope.sealCipher = some cipher)
      (among : wrapped ∈ [envelope.message.encryptionKey, envelope.message.hmacSecret])
      (empty : cipher.decrypt wrapped = .ok []) : Overlooks envelope .unsealing

/-- A rejection says something after a step if it did before. -/
theorem SameTransfer.hasError {envelope other : Envelope} (h : SameTransfer envelope other) :
    other.message.hasError = envelope.message.hasError := by
  rw [Message.hasError, Message.hasError, Message.rejection?, Message.rejection?, h.error]

section Landing

variable {transition : Transition} {envelope after : Envelope}

/-- A transition that succeeds has started in its own state. -/
theorem Advances.state_before (h : Advances transition envelope after) :
    envelope.state = ⟨transition.source, envelope.message.hasError⟩ := by
  cases h with
  | encryption clear _ _ => exact state_of_readable clear
  | sealing unsealed _ _ _ => exact unsealed.whole_state
  | unsealing sealed _ _ _ _ => exact sealed.whole_state
  | decryption unsealed _ => exact unsealed.whole_state

/-- An encryption lands where it leads to, or leaves a nameless envelope corrupted. -/
theorem state_of_encryption (dated : envelope.Dated) (h : Advances .encryption envelope after) :
    after.state =
      if envelope.message.id = "" then .corrupted else ⟨.unsealed, after.message.hasError⟩ := by
  cases h with
  | @encryption _ _ cipher _ clear _ encrypted =>
    split
    · rename_i unnamed
      exact state_of_incomplete rfl encrypted.ne_nil fun complete => complete.id unnamed
    · rename_i named
      have complete := complete_protectedMessage cipher named (dated _ clear) encrypted.ne_nil
      exact Protected.whole_state ⟨rfl, complete, rfl⟩

/-- An unsealing lands where it leads to, or leaves the envelope corrupted if a secret came out empty. -/
theorem state_of_unsealing (h : Advances .unsealing envelope after) :
    after.state =
      if after.message.encryptionKey = [] ∨ after.message.hmacSecret = [] then .corrupted
      else ⟨.unsealed, after.message.hasError⟩ := by
  cases h with
  | @unsealing _ _ key secret sealed _ _ _ _ =>
    split
    · rename_i empty
      refine state_of_incomplete sealed.payload sealed.complete.payload ?_
      intro complete
      exact empty.elim complete.encryptionKey complete.hmacSecret
    · rename_i some
      rw [not_or] at some
      have unsealed : Protected
          { envelope with message := envelope.message.withSecrets key secret false "" } false :=
        ⟨sealed.payload, sealed.complete.withSecrets some.1 some.2 _ _, rfl⟩
      exact unsealed.whole_state

/-- A secret comes out of an unsealing empty exactly if one was overlooked. -/
theorem Advances.overlooks_iff (h : Advances .unsealing envelope after) :
    envelope.Overlooks .unsealing ↔
      after.message.encryptionKey = [] ∨ after.message.hmacSecret = [] := by
  cases h with
  | @unsealing _ cipher key secret _ _ chosen unwrappedKey unwrappedSecret =>
    show _ ↔ key = [] ∨ secret = []
    constructor
    · rintro (_ | ⟨chosen', among, empty⟩)
      cases chosen.symm.trans chosen'
      rcases List.mem_pair.mp among with rfl | rfl
      · exact .inl (Except.ok.inj (unwrappedKey.symm.trans empty))
      · exact .inr (Except.ok.inj (unwrappedSecret.symm.trans empty))
    · rintro (rfl | rfl)
      · exact .secret chosen List.mem_cons_self unwrappedKey
      · exact .secret chosen (List.mem_pair.mpr (.inr rfl)) unwrappedSecret

/-- **A transition that succeeds lands in its target state**, unless it has overlooked something; then
it leaves the envelope corrupted. -/
theorem Advances.state_after (dated : envelope.Dated) (h : Advances transition envelope after) :
    (¬ envelope.Overlooks transition →
      after.state = ⟨transition.target, envelope.message.hasError⟩) ∧
    (envelope.Overlooks transition → after.state = .corrupted) := by
  rw [← h.sameTransfer.hasError]
  cases transition with
  | encryption =>
    rw [state_of_encryption dated h]
    refine ⟨fun attentive => if_neg fun unnamed => attentive (.name unnamed), ?_⟩
    rintro ⟨unnamed⟩
    exact if_pos unnamed
  | sealing => exact ⟨fun _ => h.protected_of_sealing.whole_state, nofun⟩
  | unsealing =>
    rw [state_of_unsealing h, h.overlooks_iff]
    exact ⟨fun attentive => if_neg attentive, fun overlooked => if_pos overlooked⟩
  | decryption =>
    cases h with
    | decryption _ _ => exact ⟨fun _ => state_of_readable rfl, nofun⟩

end Landing

/-! ## Runs -/

/-- **Where every transition of every run lands.** However an envelope came about and whatever was done
with it before: a transition that succeeds has started in its own state and lands in its target state,
with a rejection exactly if there was one before. Exactly those that overlook something are left
corrupted instead. -/
theorem state_of_take_after {envelope : Envelope} (begins : Begins envelope)
    (steps : List (Transition × Entropy)) {transition : Transition} {entropy : Entropy}
    (succeeded : ((envelope.after steps).take transition entropy).outcome = .ok ()) :
    (envelope.after steps).state.payload = transition.source ∧
      (¬ (envelope.after steps).Overlooks transition →
        ((envelope.after steps).take transition entropy).envelope.state
          = ⟨transition.target, (envelope.after steps).state.hasError⟩) ∧
      ((envelope.after steps).Overlooks transition →
        ((envelope.after steps).take transition entropy).envelope.state = .corrupted) := by
  have step := advances_of_take succeeded
  have before := step.state_before
  rw [before]
  exact ⟨rfl, step.state_after (dated_after begins.dated steps)⟩

/-- A sealed message with empty secrets, wrapped for the owner of the Mersenne key. -/
def emptySecrets : Message where
  id := "transfer"
  payload := [1]
  encryptionKey := Rsa.Oaep.encrypt Rsa.PrivateKey.mersenne.publicHalf (Bytes.zeros 64) []
  encryptionAlgorithm := PayloadCipher.aes256
  hmac := [2]
  hmacSecret := Rsa.Oaep.encrypt Rsa.PrivateKey.mersenne.publicHalf (Bytes.zeros 64) []
  hmacAlgorithm := PayloadCipher.hmacAlgorithm
  error := none
  timestamp := "1970-01-01T00:00:00Z"
  isSealed := true
  publicKeySignature := ""

/-- Unsealing a message with empty secrets succeeds and leaves the envelope corrupted. -/
theorem corrupted_by_empty_secrets :
    ∃ envelope entropy,
      (wrap emptySecrets ⟨none, none, none, some (.unsealing (.rsa .mersenne))⟩).runFrom entropy
        = (.ok envelope, entropy) ∧
      (envelope.take .unsealing entropy).outcome = .ok () ∧ envelope.state.payload = .sealed ∧
      (envelope.take .unsealing entropy).envelope.state = .corrupted := by
  have wrapped : SealCipher.IsWrapped Rsa.PrivateKey.mersenne.publicHalf []
      emptySecrets.encryptionKey := by
    refine ⟨?_, _, Bytes.length_zeros 64, by simp only [emptySecrets]⟩
    rw [Rsa.PrivateKey.size_mersenne]
    rfl
  have same : emptySecrets.hmacSecret = emptySecrets.encryptionKey := by simp only [emptySecrets]
  have complete : emptySecrets.Complete :=
    ⟨by decide, by decide, by decide, wrapped.ne_nil, by decide, by decide,
      same ▸ wrapped.ne_nil, by decide⟩
  have isSealed : emptySecrets.isSealed = true := rfl
  have supported : emptySecrets.Supported := ⟨.inl rfl, rfl⟩
  have unwrapped := SealCipher.decrypt_of_isWrapped Rsa.PrivateKey.inverts_mersenne wrapped
  -- no more than this matters of the message and the key, whose octets are better not looked at
  generalize emptySecrets = message at same complete isSealed supported unwrapped ⊢
  generalize Rsa.PrivateKey.mersenne = key at unwrapped ⊢
  have chosen : SealChoice.cipher (.unsealing (.rsa key)) = .ok (.owner key) := rfl
  have made := (runFrom_wrap_eq_ok rfl rfl).mpr
    ⟨_, _, Options.runFrom_ciphers_of_sealCipher chosen ⟨fun _ => 0, 0, some 0⟩,
      Eq.refl (⟨message, none, none, some (.owner key)⟩ : Envelope)⟩
  have step : Advances .unsealing ⟨message, none, none, some (.owner key)⟩ _ :=
    .unsealing ⟨rfl, complete, isSealed⟩ supported rfl unwrapped (same ▸ unwrapped)
  have succeeded : (take ⟨message, none, none, some (.owner key)⟩ .unsealing
      ⟨fun _ => 0, 0, some 0⟩).outcome = .ok () :=
    congrArg Step.outcome (unsealSecrets_of_advances step _)
  have landed := state_of_take_after (.wrapped made) [] succeeded
  exact ⟨_, _, made, succeeded, landed.1, landed.2.2 (.secret rfl List.mem_cons_self unwrapped)⟩

/-- Encrypting an envelope that was given an empty name succeeds and leaves it corrupted. -/
theorem corrupted_without_name :
    ∃ envelope entropy,
      (create ⟨⟨0⟩, .epoch⟩ .empty ⟨some "", none, none, none⟩).runFrom entropy
        = (.ok envelope, entropy) ∧
      (envelope.take .encryption entropy).outcome = .ok () ∧ envelope.state.payload = .clear ∧
      (envelope.take .encryption entropy).envelope.state = .corrupted := by
  have made : (create ⟨⟨0⟩, .epoch⟩ .empty ⟨some "", none, none, none⟩).runFrom
      ⟨fun _ => 1, 0, none⟩
        = (.ok ⟨{ Message.empty with id := "", timestamp := Time.Instant.epoch.text },
            some .empty, none, none⟩, ⟨fun _ => 1, 0, none⟩) := rfl
  -- without a cipher of its own the envelope encrypts with a generated one
  have encrypts := succeeds_encryption (of_create made).1 fun cipher equipped =>
    .inr (.inr (equipped.resolve_left nofun).2.1)
  obtain ⟨after, rest, advanced, -, step⟩ := encrypts ⟨fun _ => 1, 0, none⟩ rfl
  have stepped := Transfer.take_of_advance advanced
  have landed := step.state_after (Begins.created made).dated
  refine ⟨_, _, made, by rw [stepped], rfl, ?_⟩
  rw [stepped]
  exact landed.2 (.name rfl)

end SealedTransfer.Envelope
