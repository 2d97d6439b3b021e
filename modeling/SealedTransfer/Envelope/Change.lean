/-
# SealedTransfer.Envelope.Change — what is done to an envelope, one assignment after the other

A change works on an envelope in hand. It reads the envelope, draws octets, checks, and assigns to one field
at a time. It ends with the first check or draw that fails, and nothing that it has assigned by then is taken
back: whether a change that fails leaves the envelope as it was depends on the order of what it does.
-/
import SealedTransfer.Envelope.Basic

namespace SealedTransfer

/-! ## Faults -/

namespace Envelope

/-- A drawing whose faults are failures. -/
def faulting {α : Type} (drawing : Drawing Fault α) : Drawing Failure α :=
  ExceptT.adapt Failure.fault drawing

theorem runFrom_faulting {α : Type} (drawing : Drawing Fault α) (entropy : Entropy) :
    (faulting drawing).runFrom entropy
      = ((drawing.runFrom entropy).1.mapError .fault, (drawing.runFrom entropy).2) := rfl

/-- What may fault succeeds as it does by itself. -/
theorem runFrom_faulting_eq_ok {α : Type} {drawing : Drawing Fault α} {entropy rest : Entropy}
    {a : α} :
    (faulting drawing).runFrom entropy = (.ok a, rest) ↔ drawing.runFrom entropy = (.ok a, rest) := by
  rw [runFrom_faulting]
  obtain ⟨result, final⟩ := drawing.runFrom entropy
  cases result with
  | ok found =>
    constructor
    · intro h
      cases h
      rfl
    · intro h
      cases h
      rfl
  | error fault =>
    constructor
    · intro h
      cases h
    · intro h
      cases h

/-- What may fault fails with its fault. -/
theorem runFrom_faulting_eq_error {α : Type} {drawing : Drawing Fault α} {entropy rest : Entropy}
    {failure : Failure} :
    (faulting drawing).runFrom entropy = (.error failure, rest) ↔
      ∃ fault, failure = .fault fault ∧ drawing.runFrom entropy = (.error fault, rest) := by
  rw [runFrom_faulting]
  obtain ⟨result, final⟩ := drawing.runFrom entropy
  cases result with
  | ok a =>
    constructor
    · intro h
      cases h
    · rintro ⟨_, -, h⟩
      cases h
  | error fault =>
    constructor
    · intro h
      cases h
      exact ⟨fault, rfl, rfl⟩
    · rintro ⟨_, rfl, same⟩
      cases same
      rfl

end Envelope

/-! ## Changes -/

/-- A change's outcome with the envelope and the random source that it leaves. -/
structure Step where
  outcome : Except Failure Unit
  envelope : Envelope
  entropy : Entropy

/-- A computation on an envelope in hand that may draw octets and may fail. A failure keeps the source
where it got to, and the envelope as it is by then. -/
abbrev Change (α : Type) := ExceptT Failure (StateT Envelope (StateM Entropy)) α

namespace Change

variable {α β : Type}

/-- Makes a change: the outcome, and the envelope and the source as the change leaves them. -/
def runOn (change : Change α) (envelope : Envelope) (entropy : Entropy) :
    Except Failure α × Envelope × Entropy :=
  let ((outcome, after), rest) := (ExceptT.run change) envelope entropy
  (outcome, after, rest)

/-- A change of an envelope is a step. -/
def step (change : Change Unit) (envelope : Envelope) (entropy : Entropy) : Step :=
  let (outcome, after, rest) := change.runOn envelope entropy
  ⟨outcome, after, rest⟩

/-! ## What a change does -/

/-- The envelope as it is now. -/
def current : Change Envelope := get

/-- Goes on with what was found, or ends with the failure. -/
def check (result : Except Failure α) : Change α := liftExcept result

/-- Draws octets, or ends with the failure. -/
def draw (drawing : Drawing Failure α) : Change α :=
  ExceptT.mk fun envelope entropy =>
    let (outcome, rest) := drawing.runFrom entropy
    ((outcome, envelope), rest)

/-- Assigns to a field of the envelope. -/
def assign (update : Envelope → Envelope) : Change Unit := modify update

/-- Assigns to a field of the message. -/
def assignMessage (update : Message → Message) : Change Unit :=
  assign fun envelope => { envelope with message := update envelope.message }

/-! ## How it runs -/

variable (envelope : Envelope) (entropy : Entropy)

@[simp] theorem runOn_current : current.runOn envelope entropy = (.ok envelope, envelope, entropy) := rfl

@[simp] theorem runOn_check (result : Except Failure α) :
    (check result).runOn envelope entropy = (result, envelope, entropy) := by
  cases result <;> rfl

@[simp] theorem runOn_draw (drawing : Drawing Failure α) :
    (draw drawing).runOn envelope entropy =
      ((drawing.runFrom entropy).1, envelope, (drawing.runFrom entropy).2) := rfl

@[simp] theorem runOn_assign (update : Envelope → Envelope) :
    (assign update).runOn envelope entropy = (.ok (), update envelope, entropy) := rfl

/-- A sequence makes the first change, and the second where the first has left envelope and source. -/
theorem runOn_bind (first : Change α) (next : α → Change β) :
    (first >>= next).runOn envelope entropy =
      match first.runOn envelope entropy with
      | (.ok a, after, rest) => (next a).runOn after rest
      | (.error failure, after, rest) => (.error failure, after, rest) := by
  show (let ((outcome, after), rest) := (ExceptT.bind first next) envelope entropy
    (outcome, after, rest)) = _
  simp only [runOn, ExceptT.run, ExceptT.bind, ExceptT.mk, bind, StateT.bind]
  generalize first envelope entropy = left
  obtain ⟨⟨outcome, after⟩, rest⟩ := left
  cases outcome <;> rfl

end Change

end SealedTransfer
