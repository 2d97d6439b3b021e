/-
# SealedTransfer.Envelope.State — where an envelope stands

Two things say where an envelope stands: how far its payload is protected, and whether it carries a
rejection. The two are independent, except that a corrupted message is corrupted, whatever it carries.
-/

namespace SealedTransfer

/-- How far a payload is protected. -/
inductive PayloadState where
  /-- Nothing is known about the payload. -/
  | unknown
  /-- Readable. -/
  | clear
  /-- Encrypted, with key and secret in the clear. -/
  | unsealed
  /-- Encrypted, with key and secret wrapped for a recipient. -/
  | sealed
  /-- The message lacks what its state needs. -/
  | corrupted
deriving DecidableEq, Repr

/-- Where an envelope stands. -/
structure State where
  payload : PayloadState
  hasError : Bool
deriving DecidableEq, Repr

namespace State

/-- Nothing is known, and there is no rejection. -/
def unknown : State := ⟨.unknown, false⟩

/-- There is a rejection and no payload. -/
def error : State := ⟨.unknown, true⟩

/-- The message lacks what its state needs. -/
def corrupted : State := ⟨.corrupted, false⟩

/-- Whether the message is corrupted. -/
def isCorrupted (state : State) : Bool := state.payload = .corrupted

/-- The same state with a rejection; a corrupted message stays as it is. -/
def withError (state : State) : State :=
  match state.payload with
  | .corrupted => state
  | payload => ⟨payload, true⟩

/-- The state with a rejection if there is one. -/
def withErrorIf (hasError : Bool) (state : State) : State :=
  if hasError then state.withError else state

/-- A rejection does not change how far the payload is protected. -/
@[simp] theorem payload_withErrorIf (hasError : Bool) (state : State) :
    (withErrorIf hasError state).payload = state.payload := by
  unfold withErrorIf withError
  split
  · split <;> rfl
  · rfl

/-- The name of a state. -/
def name (state : State) : String :=
  match state.payload, state.hasError with
  | .unknown, false => "unknown"
  | .unknown, true => "error"
  | .clear, false => "clear"
  | .clear, true => "clear-error"
  | .unsealed, false => "unsealed"
  | .unsealed, true => "unsealed-error"
  | .sealed, false => "sealed"
  | .sealed, true => "sealed-error"
  | .corrupted, _ => "corrupted"

/-- The name of a state, marked as one. -/
def describe (state : State) : String := "State(" ++ state.name ++ ")"

end State

end SealedTransfer
