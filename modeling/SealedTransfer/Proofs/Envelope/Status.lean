/-
# SealedTransfer.Proofs.Envelope.Status — what a state says about an envelope

An envelope is clear exactly if it has a readable payload. It is unsealed or sealed exactly if it has
none and its message is complete: nothing is missing that every message has or that a payload needs.
-/
import SealedTransfer.Envelope.Transitions
import Mathlib.Tactic.ByContra

namespace SealedTransfer

/-- A sound state has a rejection exactly if there is one. -/
theorem State.withErrorIf_of_sound {payload : PayloadState} (sound : payload ≠ .corrupted)
    (hasError : Bool) : withErrorIf hasError ⟨payload, false⟩ = ⟨payload, hasError⟩ := by
  cases hasError with
  | false => rfl
  | true =>
    cases payload with
    | corrupted => exact absurd rfl sound
    | _ => rfl

namespace Message

/-- A message with a payload and all that a payload needs. -/
structure Complete (message : Message) : Prop where
  id : message.id ≠ ""
  payload : message.payload ≠ []
  timestamp : message.timestamp ≠ ""
  encryptionKey : message.encryptionKey ≠ []
  encryptionAlgorithm : message.encryptionAlgorithm ≠ ""
  hmac : message.hmac ≠ []
  hmacSecret : message.hmacSecret ≠ []
  hmacAlgorithm : message.hmacAlgorithm ≠ ""

/-- A message with a payload is valid exactly if it is complete. -/
theorem validate_eq_ok {message : Message} (h : message.payload ≠ []) :
    message.validate = .ok () ↔ message.Complete := by
  unfold validate
  constructor
  · intro valid
    split at valid
    · cases valid
    rename_i id
    split at valid
    · cases valid
    rename_i timestamp
    split at valid
    · cases valid
    rename_i encryption
    split at valid
    · cases valid
    rename_i hmac
    simp only [not_or] at encryption hmac
    exact ⟨id, h, timestamp, encryption.1, encryption.2, hmac.1, hmac.2.1, hmac.2.2⟩
  · intro complete
    rw [if_neg complete.id, if_neg h, if_neg complete.timestamp,
      if_neg (by simp [complete.encryptionKey, complete.encryptionAlgorithm]),
      if_neg (by simp [complete.hmac, complete.hmacSecret, complete.hmacAlgorithm])]

/-- The state of a complete message. -/
theorem Complete.status {message : Message} (h : message.Complete) :
    message.status
      = State.withErrorIf message.hasError ⟨if message.isSealed then .sealed else .unsealed, false⟩ := by
  have some : message ≠ .empty := by
    rintro rfl
    exact h.id rfl
  rw [Message.status, if_neg some, (validate_eq_ok h.payload).mpr h]
  simp only [protection, if_neg h.payload]

/-- The protection of a complete message. -/
theorem Complete.status_payload {message : Message} (h : message.Complete) :
    message.status.payload = if message.isSealed then .sealed else .unsealed := by
  rw [h.status, State.payload_withErrorIf]

/-- Only a complete message has its payload protected. -/
theorem complete_of_status {message : Message}
    (h : message.status.payload = .unsealed ∨ message.status.payload = .sealed) :
    message.Complete := by
  unfold status at h
  split at h
  · simp [State.unknown] at h
  · split at h
    · simp [State.corrupted] at h
    · rename_i valid
      have some : message.payload ≠ [] := by
        intro empty
        simp [protection, empty] at h
      exact (validate_eq_ok some).mp valid

/-- A message by itself is never clear. -/
theorem status_payload_ne_clear (message : Message) : message.status.payload ≠ .clear := by
  unfold status
  split
  · simp [State.unknown]
  · split
    · simp [State.corrupted]
    · rw [State.payload_withErrorIf]
      unfold protection
      split
      · simp
      · split <;> simp

/-- A message with a payload is corrupted, or its payload is protected as the message says. -/
theorem status_payload_of_some {message : Message} (some : message.payload ≠ []) :
    message.status.payload = .corrupted ∨
      message.status.payload = if message.isSealed then .sealed else .unsealed := by
  cases valid : message.validate with
  | ok _ => exact .inr ((validate_eq_ok some).mp valid).status_payload
  | error fault =>
    have different : message ≠ .empty := by
      rintro rfl
      exact some rfl
    rw [status, if_neg different, valid]
    exact .inl rfl

/-- A message with nothing but a rejection is in the state of one, unless it is corrupted. -/
theorem status_of_payload_eq_nil {message : Message} (different : message ≠ .empty)
    (none : message.payload = []) :
    message.status = .corrupted ∨ message.status = .error ∧ message.hasError = true := by
  rw [status, if_neg different]
  cases valid : message.validate with
  | error fault => exact .inl rfl
  | ok _ =>
    have carries : message.hasError = true := by
      rw [validate, if_pos none] at valid
      split at valid
      · cases valid
      split at valid
      · assumption
      · cases valid
    refine .inr ⟨?_, carries⟩
    simp only [protection, none, if_true, carries]
    rfl

/-- A message is in the state of a rejection alone exactly if it has a name, no payload, and a rejection
that says something. -/
theorem status_eq_error {message : Message} :
    message.status = .error ↔
      message.id ≠ "" ∧ message.payload = [] ∧ message.hasError = true := by
  constructor
  · intro only
    have different : message ≠ .empty := by
      rintro rfl
      cases only
    have none : message.payload = [] := by
      by_contra some
      -- a payload is either protected or corrupted, and neither is the state of a rejection alone
      have state := status_payload_of_some some
      rw [only] at state
      split at state <;> simp [State.error] at state
    rcases status_of_payload_eq_nil different none with corrupted | ⟨-, carries⟩
    · rw [only] at corrupted
      cases corrupted
    · refine ⟨?_, none, carries⟩
      intro unnamed
      rw [status, if_neg different, validate, if_pos unnamed] at only
      cases only
  · rintro ⟨named, none, carries⟩
    have different : message ≠ .empty := by
      rintro rfl
      exact named rfl
    have valid : message.validate = .ok () := by
      rw [validate, if_neg named, if_pos none, if_pos carries]
    rw [status, if_neg different, valid]
    simp only [protection, if_pos none, carries]
    rfl

end Message

namespace Envelope

/-- An envelope with its payload protected: none is readable, and the message is complete. -/
structure Protected (envelope : Envelope) (isSealed : Bool) : Prop where
  payload : envelope.payload = none
  complete : envelope.message.Complete
  isSealed : envelope.message.isSealed = isSealed

/-- An envelope is clear exactly if it has a readable payload. -/
theorem state_payload_eq_clear {envelope : Envelope} :
    envelope.state.payload = .clear ↔ ∃ payload, envelope.payload = some payload := by
  unfold state
  cases envelope.payload with
  | some payload => simp
  | none => simp [Message.status_payload_ne_clear]

theorem state_of_payload {envelope : Envelope} (h : envelope.payload = none) :
    envelope.state = envelope.message.status := by
  rw [state, h]

/-- An envelope with a message that has a payload, none of it readable. -/
theorem state_payload_of_some {envelope : Envelope} (unreadable : envelope.payload = none)
    (some : envelope.message.payload ≠ []) :
    envelope.state.payload = .corrupted ∨
      envelope.state.payload = if envelope.message.isSealed then .sealed else .unsealed := by
  rw [state_of_payload unreadable]
  exact Message.status_payload_of_some some

/-- The state of an envelope with its payload protected. -/
theorem Protected.state {envelope : Envelope} {isSealed : Bool} (h : envelope.Protected isSealed) :
    envelope.state.payload = if isSealed then .sealed else .unsealed := by
  rw [state_of_payload h.payload, h.complete.status_payload, h.isSealed]

/-- The whole state of an envelope with a readable payload. -/
theorem state_of_readable {envelope : Envelope} {payload : Payload}
    (h : envelope.payload = some payload) :
    envelope.state = ⟨.clear, envelope.message.hasError⟩ := by
  rw [state, h]
  exact State.withErrorIf_of_sound (by decide) _

/-- The whole state of an envelope with its payload protected. -/
theorem Protected.whole_state {envelope : Envelope} {isSealed : Bool}
    (h : envelope.Protected isSealed) :
    envelope.state = ⟨if isSealed then .sealed else .unsealed, envelope.message.hasError⟩ := by
  rw [state_of_payload h.payload, h.complete.status, h.isSealed]
  cases isSealed with
  | false => exact State.withErrorIf_of_sound (by decide) _
  | true => exact State.withErrorIf_of_sound (by decide) _

/-- An envelope whose message has a payload but lacks what it needs is corrupted. -/
theorem state_of_incomplete {envelope : Envelope} (unreadable : envelope.payload = none)
    (some : envelope.message.payload ≠ []) (incomplete : ¬ envelope.message.Complete) :
    envelope.state = .corrupted := by
  have different : envelope.message ≠ .empty := by
    intro empty
    rw [empty] at some
    exact some rfl
  rw [state_of_payload unreadable, Message.status, if_neg different]
  cases valid : envelope.message.validate with
  | ok _ => exact absurd ((Message.validate_eq_ok some).mp valid) incomplete
  | error fault => rfl

/-- An envelope is in a state of protection exactly if it is protected so. -/
theorem protected_of_state {envelope : Envelope} {isSealed : Bool}
    (h : envelope.state.payload = if isSealed then .sealed else .unsealed) :
    envelope.Protected isSealed := by
  -- with a readable payload the envelope would be clear
  have unreadable : envelope.payload = none := by
    cases readable : envelope.payload with
    | none => rfl
    | some payload =>
      rw [state_payload_eq_clear.mpr ⟨payload, readable⟩] at h
      cases isSealed <;> cases h
  rw [state_of_payload unreadable] at h
  have complete : envelope.message.Complete := by
    apply Message.complete_of_status
    cases isSealed
    · exact .inl h
    · exact .inr h
  rw [complete.status_payload] at h
  refine ⟨unreadable, complete, ?_⟩
  cases isSealed <;> cases same : envelope.message.isSealed <;> simp [same] at h ⊢

theorem state_payload_eq_unsealed {envelope : Envelope} :
    envelope.state.payload = .unsealed ↔ envelope.Protected false := by
  constructor
  · intro h
    exact protected_of_state (by simpa using h)
  · intro h
    simpa using h.state

theorem state_payload_eq_sealed {envelope : Envelope} :
    envelope.state.payload = .sealed ↔ envelope.Protected true := by
  constructor
  · intro h
    exact protected_of_state (by simpa using h)
  · intro h
    simpa using h.state

/-- A payload can be had exactly if it is readable. -/
theorem clearPayload_eq_ok {envelope : Envelope} {payload : Payload} :
    envelope.clearPayload = .ok payload ↔ envelope.payload = some payload := by
  unfold clearPayload
  split <;> simp_all

/-! ## Checks before a transition -/

/-- A transition may start exactly in its own state. -/
theorem expectState_eq_ok {envelope : Envelope} {expected : PayloadState}
    (sound : expected ≠ .corrupted) :
    envelope.expectState expected = .ok () ↔ envelope.state.payload = expected := by
  unfold expectState
  dsimp only
  split
  · rename_i corrupted
    have : envelope.state.payload = .corrupted := by simpa [State.isCorrupted] using corrupted
    simp [this, sound.symm]
  · split
    · rename_i different
      simp [different]
    · rename_i same
      simpa using same

end Envelope

end SealedTransfer
