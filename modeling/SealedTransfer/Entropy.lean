/-
# SealedTransfer.Entropy — one stream of random octets, drawn from front to back

All secrets of an envelope come from one source: a stream of octets with a position in it. A draw
takes the next octets and moves the position past them, so no octet is handed out twice. A source
may run dry: then a draw that would pass its end fails and takes nothing.
-/
import SealedTransfer.Bytes

namespace SealedTransfer

/-- A random source: its octets by index, how many have been drawn, and how many it can give. -/
structure Entropy where
  source : Nat → UInt8
  position : Nat
  limit : Option Nat

namespace Entropy

/-- The octets at `start`, `start + 1`, and so on, `count` of them. -/
def slice (entropy : Entropy) (start count : Nat) : Bytes :=
  (List.range count).map fun i => entropy.source (start + i)

@[simp] theorem length_slice (entropy : Entropy) (start count : Nat) :
    (entropy.slice start count).length = count := by
  simp [slice]

/-- Whether the source still has `count` octets to give; nothing can always be given. -/
def canGive (entropy : Entropy) (count : Nat) : Bool :=
  count == 0 || match entropy.limit with
    | none => true
    | some limit => entropy.position + count ≤ limit

/-- Draws the next `count` octets, or fails and leaves the source as it is. -/
def draw (count : Nat) (entropy : Entropy) : Option Bytes × Entropy :=
  if entropy.canGive count then
    (some (entropy.slice entropy.position count),
      { entropy with position := entropy.position + count })
  else (none, entropy)

/-- The source with the next `count` octets drawn. -/
def past (count : Nat) (entropy : Entropy) : Entropy :=
  { entropy with position := entropy.position + count }

/-- A draw either gives the next octets and moves past them, or changes nothing. -/
theorem draw_eq (count : Nat) (entropy : Entropy) :
    draw count entropy = (none, entropy) ∨
      draw count entropy = (some (entropy.slice entropy.position count),
        { entropy with position := entropy.position + count }) := by
  unfold draw
  split
  · exact Or.inr rfl
  · exact Or.inl rfl

/-- What is drawn has the length that was asked for. -/
theorem length_of_draw {count : Nat} {entropy rest : Entropy} {bytes : Bytes}
    (h : draw count entropy = (some bytes, rest)) : bytes.length = count := by
  rcases draw_eq count entropy with hd | hd
  · rw [hd] at h; cases h
  · rw [hd] at h; cases h; simp

end Entropy

/-- A computation that may draw octets and may fail; a failure keeps the source where it got to. -/
abbrev Drawing (ε α : Type) := ExceptT ε (StateM Entropy) α

namespace Drawing

/-- Draws `count` octets, known to be so many, failing with `failure` when the source cannot give
them. -/
def exactly {ε : Type} (count : Nat) (failure : ε) :
    Drawing ε { bytes : Bytes // bytes.length = count } :=
  ExceptT.mk fun entropy =>
    match drawn : Entropy.draw count entropy with
    | (some bytes, rest) => (.ok ⟨bytes, Entropy.length_of_draw drawn⟩, rest)
    | (none, rest) => (.error failure, rest)

/-- Draws `count` octets, failing with `failure` when the source cannot give them. -/
def octets {ε : Type} (count : Nat) (failure : ε) : Drawing ε Bytes := do
  return (← exactly count failure).val

/-- A computation that draws nothing. -/
def ofExcept {ε α : Type} (result : Except ε α) : Drawing ε α :=
  ExceptT.mk fun entropy => (result, entropy)

/-- Runs the computation on a source: the outcome, and the source after it. -/
def runFrom {ε α : Type} (computation : Drawing ε α) (entropy : Entropy) : Except ε α × Entropy :=
  (ExceptT.run computation) entropy

@[simp] theorem runFrom_pure {ε α : Type} (a : α) (entropy : Entropy) :
    (pure a : Drawing ε α).runFrom entropy = (.ok a, entropy) := rfl

@[simp] theorem runFrom_throw {ε α : Type} (e : ε) (entropy : Entropy) :
    (throw e : Drawing ε α).runFrom entropy = (.error e, entropy) := rfl

@[simp] theorem runFrom_ofExcept {ε α : Type} (result : Except ε α) (entropy : Entropy) :
    (ofExcept result : Drawing ε α).runFrom entropy = (result, entropy) := rfl

/-- A sequence runs the first part and goes on from where it left the source. -/
theorem runFrom_bind {ε α β : Type} (first : Drawing ε α) (next : α → Drawing ε β)
    (entropy : Entropy) :
    (first >>= next).runFrom entropy =
      match first.runFrom entropy with
      | (.ok a, rest) => (next a).runFrom rest
      | (.error e, rest) => (.error e, rest) := by
  show (ExceptT.bind first next) entropy = _
  simp only [runFrom, ExceptT.run, ExceptT.bind, ExceptT.mk, bind, StateT.bind]
  generalize first entropy = outcome
  obtain ⟨result, rest⟩ := outcome
  cases result <;> rfl

/-- A computation that draws nothing succeeds as it does by itself. -/
theorem runFrom_ofExcept_eq_ok {ε α : Type} {result : Except ε α} {entropy rest : Entropy} {a : α} :
    (ofExcept result).runFrom entropy = (.ok a, rest) ↔ result = .ok a ∧ entropy = rest := by
  rw [runFrom_ofExcept, Prod.mk.injEq]

theorem runFrom_pure_eq_ok {ε α : Type} {entropy rest : Entropy} {a b : α} :
    (pure a : Drawing ε α).runFrom entropy = (.ok b, rest) ↔ a = b ∧ entropy = rest := by
  rw [runFrom_pure, Prod.mk.injEq, Except.ok.injEq]

/-- A sequence whose first part succeeds goes on with the second. -/
theorem runFrom_bind_of_ok {ε α β : Type} {first : Drawing ε α} {next : α → Drawing ε β}
    {entropy rest : Entropy} {a : α} (h : first.runFrom entropy = (.ok a, rest)) :
    (first >>= next).runFrom entropy = (next a).runFrom rest := by
  rw [runFrom_bind, h]

/-- A sequence whose first part fails ends there. -/
theorem runFrom_bind_of_error {ε α β : Type} {first : Drawing ε α} {next : α → Drawing ε β}
    {entropy rest : Entropy} {e : ε} (h : first.runFrom entropy = (.error e, rest)) :
    (first >>= next).runFrom entropy = (.error e, rest) := by
  rw [runFrom_bind, h]

/-- A sequence that succeeds is two parts that do. -/
theorem runFrom_bind_eq_ok {ε α β : Type} {first : Drawing ε α} {next : α → Drawing ε β}
    {entropy final : Entropy} {b : β} :
    (first >>= next).runFrom entropy = (.ok b, final) ↔
      ∃ a rest, first.runFrom entropy = (.ok a, rest) ∧ (next a).runFrom rest = (.ok b, final) := by
  rw [runFrom_bind]
  obtain ⟨result, rest⟩ := first.runFrom entropy
  cases result with
  | ok a =>
    constructor
    · intro h
      exact ⟨a, rest, rfl, h⟩
    · rintro ⟨_, _, same, h⟩
      cases same
      exact h
  | error e => simp

/-- A sequence that fails fails in its first part, or in the second after the first. -/
theorem runFrom_bind_eq_error {ε α β : Type} {first : Drawing ε α} {next : α → Drawing ε β}
    {entropy final : Entropy} {e : ε} :
    (first >>= next).runFrom entropy = (.error e, final) ↔
      first.runFrom entropy = (.error e, final) ∨
        ∃ a rest, first.runFrom entropy = (.ok a, rest) ∧
          (next a).runFrom rest = (.error e, final) := by
  rw [runFrom_bind]
  obtain ⟨result, rest⟩ := first.runFrom entropy
  cases result with
  | ok a =>
    constructor
    · intro h
      exact .inr ⟨a, rest, rfl, h⟩
    · rintro (h | ⟨_, _, same, h⟩)
      · cases h
      · cases same
        exact h
  | error e => simp

/-- Exactly `count` octets are drawn, or nothing is. -/
theorem runFrom_exactly {ε : Type} (count : Nat) (failure : ε) (entropy : Entropy) :
    (exactly count failure).runFrom entropy =
      if entropy.canGive count then
        (.ok ⟨entropy.slice entropy.position count, entropy.length_slice _ _⟩,
          { entropy with position := entropy.position + count })
      else (.error failure, entropy) := by
  unfold exactly runFrom ExceptT.run ExceptT.mk
  dsimp only
  split
  · rename_i bytes rest drawn
    unfold Entropy.draw at drawn
    split at drawn
    · rename_i enough
      cases drawn
      rw [if_pos enough]
    · cases drawn
  · rename_i rest drawn
    unfold Entropy.draw at drawn
    split at drawn
    · cases drawn
    · rename_i short
      cases drawn
      rw [if_neg short]

/-- The next `count` octets are drawn, or nothing is. -/
theorem runFrom_octets {ε : Type} (count : Nat) (failure : ε) (entropy : Entropy) :
    (octets count failure).runFrom entropy =
      if entropy.canGive count then
        (.ok (entropy.slice entropy.position count),
          { entropy with position := entropy.position + count })
      else (.error failure, entropy) := by
  rw [octets, runFrom_bind, runFrom_exactly]
  by_cases enough : entropy.canGive count
  · rw [if_pos enough, if_pos enough]
    rfl
  · rw [if_neg enough, if_neg enough]

/-- What begins with a draw goes on behind the octets that it drew, or ends there. -/
theorem runFrom_octets_bind {ε β : Type} (count : Nat) (failure : ε) (next : Bytes → Drawing ε β)
    (entropy : Entropy) :
    (octets count failure >>= next).runFrom entropy =
      if entropy.canGive count then
        (next (entropy.slice entropy.position count)).runFrom (entropy.past count)
      else (.error failure, entropy) := by
  rw [runFrom_bind, runFrom_octets]
  by_cases enough : entropy.canGive count
  · rw [if_pos enough, if_pos enough]
    rfl
  · rw [if_neg enough, if_neg enough]

end Drawing

end SealedTransfer
