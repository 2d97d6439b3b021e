/-
# SealedTransfer.Proofs.Envelope.Carrying — what is said of a carried rejection

Two things are said of a message that may carry a rejection: the rejection, which is read off one field,
and whether the message is in a state with one, for which all fields count. They go together unless the
message is corrupted: then it is in no state with a rejection, whatever it carries. The same goes for an
envelope at every point of a run, which carries what its message did when it was wrapped.
-/
import SealedTransfer.Proofs.Envelope.Landing

namespace SealedTransfer

namespace Message

variable {message : Message}

/-- Messages are said to be corrupted by their checks only. -/
theorem protection_ne_corrupted (message : Message) : message.protection ≠ .corrupted := by
  unfold protection
  split
  · nofun
  · split <;> nofun

/-- A message that passes its checks has the rejection that it carries in its state. -/
theorem status_of_valid (different : message ≠ .empty) (valid : message.validate = .ok ()) :
    message.status = ⟨message.protection, message.hasError⟩ := by
  rw [status, if_neg different, valid]
  exact State.withErrorIf_of_sound message.protection_ne_corrupted _

/-- A message is corrupted exactly if it has anything at all and fails a check. -/
theorem status_eq_corrupted_iff :
    message.status = .corrupted ↔ message ≠ .empty ∧ ∃ fault, message.validate = .error fault := by
  constructor
  · intro corrupted
    have different : message ≠ .empty := by
      rintro rfl
      cases corrupted
    refine ⟨different, ?_⟩
    cases valid : message.validate with
    | error fault => exact ⟨fault, rfl⟩
    | ok _ =>
      rw [status_of_valid different valid] at corrupted
      exact absurd (congrArg State.payload corrupted) message.protection_ne_corrupted
  · rintro ⟨different, fault, failed⟩
    rw [status, if_neg different, failed]

/-- **A message is in a state with a rejection** exactly if it carries one and is not corrupted. -/
theorem hasError_status_iff :
    message.status.hasError = true ↔ message.hasError = true ∧ message.status ≠ .corrupted := by
  by_cases nothing : message = .empty
  · subst nothing
    exact ⟨nofun, fun carries => nomatch carries.1⟩
  · cases valid : message.validate with
    | error fault =>
      have corrupted := status_eq_corrupted_iff.mpr ⟨nothing, fault, valid⟩
      rw [corrupted]
      exact ⟨nofun, fun carries => absurd rfl carries.2⟩
    | ok _ =>
      have sound : message.status ≠ .corrupted := by
        rw [ne_eq, status_eq_corrupted_iff]
        rintro ⟨-, fault, failed⟩
        rw [valid] at failed
        cases failed
      rw [and_iff_left sound, status_of_valid nothing valid]

end Message

namespace Envelope

variable {envelope : Envelope}

/-- An envelope is in a state with a rejection exactly if it carries one and is not corrupted. -/
theorem isError_iff :
    envelope.isError = true ↔ envelope.rejection?.isSome = true ∧ envelope.state ≠ .corrupted := by
  cases readable : envelope.payload with
  | some payload =>
    have clear := state_of_readable readable
    have sound : envelope.state ≠ .corrupted := by
      rw [clear]
      nofun
    rw [and_iff_left sound, isError, clear]
    exact Iff.rfl
  | none =>
    rw [isError, state_of_payload readable]
    exact Message.hasError_status_iff

/-- An envelope is corrupted exactly if its message is and there is no readable payload. -/
theorem state_eq_corrupted_iff :
    envelope.state = .corrupted ↔ envelope.payload = none ∧ envelope.message.status = .corrupted := by
  cases readable : envelope.payload with
  | some payload =>
    rw [state_of_readable readable]
    exact ⟨nofun, nofun⟩
  | none =>
    rw [state_of_payload readable]
    exact ⟨fun corrupted => ⟨rfl, corrupted⟩, fun corrupted => corrupted.2⟩

/-- An envelope carries the rejection of the message that it was wrapped around. -/
theorem rejection?_of_wrap {message : Message} {options : Options} {entropy rest : Entropy}
    (wrapped : (wrap message options).runFrom entropy = (.ok envelope, rest)) :
    envelope.rejection? = message.rejection? := by
  obtain ⟨_, _, -, rfl⟩ := Options.runFrom_apply_eq_ok.mp wrapped
  rfl

/-- **A run neither adds a rejection nor loses one.** -/
theorem rejection?_after (envelope : Envelope) (steps : List (Transition × Entropy)) :
    (envelope.after steps).rejection? = envelope.rejection? := by
  rw [rejection?, rejection?, Message.rejection?, Message.rejection?,
    (sameTransfer_after envelope steps).error]

end Envelope

/-- **A rejection and the state with one go together** unless the message is corrupted, that is, fails a
check: for messages, and for envelopes at every point of a run, which carry what was in the message that
they were wrapped around. A corrupted message is in no state with a rejection. -/
theorem Message.check_goes_together :
    (∀ message : Message,
      (message.check.2 = true ↔ message.check.1.isSome = true ∧ message.status ≠ .corrupted) ∧
      (message.status = .corrupted ↔ message ≠ .empty ∧ ∃ fault, message.validate = .error fault)) ∧
    (∀ (envelope : Envelope) (steps : List (Transition × Entropy)),
      (envelope.after steps).rejection? = envelope.rejection? ∧
      ((envelope.after steps).isError = true ↔
        (envelope.after steps).rejection?.isSome = true ∧ (envelope.after steps).state ≠ .corrupted) ∧
      ((envelope.after steps).state = .corrupted ↔
        (envelope.after steps).payload = none ∧ (envelope.after steps).message.status = .corrupted)) ∧
    ∀ (message : Message) (options : Options) (entropy rest : Entropy) (envelope : Envelope),
      (Envelope.wrap message options).runFrom entropy = (.ok envelope, rest) →
      envelope.rejection? = message.rejection? := by
  refine ⟨?_, ?_, ?_⟩
  · intro message
    exact ⟨hasError_status_iff, status_eq_corrupted_iff⟩
  · intro envelope steps
    exact ⟨envelope.rejection?_after steps, Envelope.isError_iff, Envelope.state_eq_corrupted_iff⟩
  · intro message options entropy rest envelope wrapped
    exact Envelope.rejection?_of_wrap wrapped

/-- A message with a name is in a state with its rejection, and stays there in a run. -/
theorem Message.check_of_named :
    let refusal := Rejection.final ⟨90⟩ "frozen"
    let message := { Message.empty with id := "transfer", error := some refusal }
    let entropy : Entropy := ⟨fun _ => 0, 0, none⟩
    message.check.2 = true ∧
      ∃ envelope, (Envelope.wrap message .none).runFrom entropy = (.ok envelope, entropy) ∧
        (envelope.after [(.unsealing, entropy)]).rejection? = some refusal ∧
        (envelope.after [(.unsealing, entropy)]).isError = true := by
  intro refusal message entropy
  have together := check_goes_together
  have wrapped : (Envelope.wrap message .none).runFrom entropy = (.ok (.ofMessage message), entropy) := rfl
  have carried := (together.2.1 (.ofMessage message) [(.unsealing, entropy)]).1.trans
    (together.2.2 message .none entropy entropy _ wrapped)
  refine ⟨(together.1 message).1.mpr ⟨rfl, by decide⟩, _, wrapped, carried, ?_⟩
  refine (together.2.1 (.ofMessage message) [(.unsealing, entropy)]).2.1.mpr ⟨?_, ?_⟩
  · rw [carried]
    rfl
  · decide

/-- A message without a name is corrupted, and in no state with the rejection that it carries. Neither is
an envelope around it. -/
theorem Message.check_of_unnamed :
    let refusal := Rejection.final ⟨90⟩ "frozen"
    let message := { Message.empty with error := some refusal }
    message.check = (some refusal, false) ∧
      (Envelope.ofMessage message).rejection? = some refusal ∧
      (Envelope.ofMessage message).isError = false ∧
      ¬ ∀ message : Message, message.check.1.isSome = true ↔ message.check.2 = true := by
  intro refusal message
  have checked : message.check = (some refusal, false) := rfl
  refine ⟨checked, rfl, rfl, ?_⟩
  intro together
  have stated := (together message).mp (by rw [checked]; rfl)
  rw [checked] at stated
  cases stated

end SealedTransfer
