/-
# SealedTransfer.Proofs.Transfer.Advance — steps as drawings

A step taken as a drawing runs as its change does in one piece, so what is known of transitions holds of
steps in a row.
-/
import SealedTransfer.Proofs.Envelope.Transitions
import SealedTransfer.Transfer

namespace SealedTransfer.Transfer

theorem runFrom_advance_encryption (envelope : Envelope) (entropy : Entropy) :
    (advance .encryption envelope).runFrom entropy =
      (do
        let (payload, cipher) ← envelope.prepareEncryption
        Envelope.protect { envelope with cipher := some cipher } payload cipher :
          Drawing Failure Envelope).runFrom entropy := by
  show ((envelope.encrypt entropy).outcome.map fun _ => (envelope.encrypt entropy).envelope,
    (envelope.encrypt entropy).entropy) = _
  rw [Drawing.runFrom_bind, Envelope.encrypt, Change.step_encryption]
  obtain ⟨result, rest⟩ := envelope.prepareEncryption.runFrom entropy
  cases result with
  | error failure => rfl
  | ok prepared =>
    dsimp only
    rw [Envelope.step_protection, Envelope.attempt]
    obtain ⟨result, rest⟩ := (Envelope.protect { envelope with cipher := some prepared.2 } prepared.1
      prepared.2).runFrom rest
    cases result <;> rfl

theorem runFrom_advance_sealing (envelope : Envelope) (entropy : Entropy) :
    (advance .sealing envelope).runFrom entropy = envelope.sealed.runFrom entropy := by
  rw [← Change.drawing_sealing]
  rfl

theorem runFrom_advance_unsealing (envelope : Envelope) (entropy : Entropy) :
    (advance .unsealing envelope).runFrom entropy = (envelope.unsealed, entropy) := by
  rw [← Drawing.runFrom_ofExcept, ← Change.drawing_unsealing]
  rfl

theorem runFrom_advance_decryption (envelope : Envelope) (entropy : Entropy) :
    (advance .decryption envelope).runFrom entropy = envelope.decrypted.runFrom entropy := by
  rw [← Change.drawing_decryption]
  rfl

/-- An advance that succeeds is a step that does. -/
theorem take_of_advance {transition : Transition} {envelope after : Envelope}
    {entropy rest : Entropy}
    (h : (advance transition envelope).runFrom entropy = (.ok after, rest)) :
    envelope.take transition entropy = ⟨.ok (), after, rest⟩ := by
  change ((envelope.take transition entropy).outcome.map
    fun _ => (envelope.take transition entropy).envelope,
    (envelope.take transition entropy).entropy) = _ at h
  generalize envelope.take transition entropy = step at h ⊢
  obtain ⟨outcome, stepped, left⟩ := step
  cases outcome with
  | error failure => simp [Except.map] at h
  | ok _ =>
    simp only [Except.map, Prod.mk.injEq, Except.ok.injEq] at h
    rw [h.1, h.2]

/-- An advance that succeeds is in the relation. -/
theorem advances_of_advance {transition : Transition} {envelope after : Envelope}
    {entropy rest : Entropy}
    (h : (advance transition envelope).runFrom entropy = (.ok after, rest)) :
    Envelope.Advances transition envelope after := by
  have stepped := take_of_advance h
  have succeeded : (envelope.take transition entropy).outcome = .ok () := by rw [stepped]
  have step := Envelope.advances_of_take succeeded
  rwa [stepped] at step

end SealedTransfer.Transfer
