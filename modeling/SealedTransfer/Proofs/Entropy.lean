/-
# SealedTransfer.Proofs.Entropy — what a computation takes from its source

A computation takes from the front of its source, so all it can do to the source is move it forward. One that
takes nothing leaves the source as it is, and its result is the same on all sources.
-/
import SealedTransfer.Entropy

namespace SealedTransfer

/-- Draws one after the other move the source as one draw does. -/
theorem Entropy.past_past (entropy : Entropy) (count more : Nat) :
    (entropy.past count).past more = entropy.past (count + more) := by
  simp only [past, Nat.add_assoc]

/-- A source that gives these octets first. -/
def Entropy.giving (octets : Bytes) : Entropy := ⟨fun i => octets.getD i 0, 0, none⟩

/-- It gives them. -/
theorem Entropy.slice_giving (octets : Bytes) : (giving octets).slice 0 octets.length = octets := by
  apply List.ext_getElem
  · rw [length_slice]
  · intro i _ inside
    simp [slice, giving, inside]

namespace Drawing

variable {ε α β : Type}

/-- Computations that run alike on all sources are the same. -/
theorem ext {drawing drawing' : Drawing ε α}
    (h : ∀ entropy, drawing.runFrom entropy = drawing'.runFrom entropy) : drawing = drawing' :=
  funext h

/-! ## Computations that draw nothing -/

theorem ofExcept_bind (first : Except ε α) (next : α → Except ε β) :
    (ofExcept (first >>= next) : Drawing ε β) = ofExcept first >>= fun a => ofExcept (next a) := by
  cases first <;> rfl

/-- A computation that draws nothing: it has one result on all sources, and leaves them as they are. -/
def DrawsNothing (drawing : Drawing ε α) : Prop :=
  ∃ result, ∀ entropy, drawing.runFrom entropy = (result, entropy)

namespace DrawsNothing

theorem pure (a : α) : (Pure.pure a : Drawing ε α).DrawsNothing := by
  refine ⟨.ok a, ?_⟩
  intro entropy
  rfl

theorem ofExcept (result : Except ε α) : (Drawing.ofExcept result).DrawsNothing := by
  refine ⟨result, ?_⟩
  intro entropy
  rfl

theorem throw (failure : ε) : (MonadExcept.throw failure : Drawing ε α).DrawsNothing := by
  refine ⟨.error failure, ?_⟩
  intro entropy
  rfl

/-- A sequence draws nothing if neither of its parts does. -/
theorem bind {first : Drawing ε α} {next : α → Drawing ε β} (h : first.DrawsNothing)
    (h' : ∀ a, (next a).DrawsNothing) : (first >>= next).DrawsNothing := by
  obtain ⟨result, ran⟩ := h
  cases result with
  | ok a =>
    obtain ⟨result', ran'⟩ := h' a
    refine ⟨result', ?_⟩
    intro entropy
    rw [runFrom_bind_of_ok (ran entropy), ran']
  | error failure =>
    refine ⟨.error failure, ?_⟩
    intro entropy
    exact runFrom_bind_of_error (ran entropy)

end DrawsNothing

/-! ## Computations that draw -/

/-- A computation that leaves its source where it was or further on. -/
def Forward (drawing : Drawing ε α) : Prop :=
  ∀ entropy, ∃ count, (drawing.runFrom entropy).2 = entropy.past count

namespace Forward

/-- A computation that draws nothing leaves its source where it was. -/
theorem of_drawsNothing {drawing : Drawing ε α} (h : drawing.DrawsNothing) : drawing.Forward := by
  obtain ⟨result, ran⟩ := h
  intro entropy
  refine ⟨0, ?_⟩
  rw [ran]
  rfl

theorem exactly (count : Nat) (failure : ε) : (Drawing.exactly count failure).Forward := by
  intro entropy
  rw [runFrom_exactly]
  by_cases enough : entropy.canGive count
  · rw [if_pos enough]
    exact ⟨count, rfl⟩
  · rw [if_neg enough]
    exact ⟨0, rfl⟩

/-- A sequence moves on if both of its parts do. -/
theorem bind {first : Drawing ε α} {next : α → Drawing ε β} (h : first.Forward)
    (h' : ∀ a, (next a).Forward) : (first >>= next).Forward := by
  intro entropy
  obtain ⟨count, moved⟩ := h entropy
  cases ran : first.runFrom entropy with
  | mk result rest =>
    rw [ran] at moved
    change rest = entropy.past count at moved
    subst moved
    cases result with
    | ok a =>
      obtain ⟨more, moved⟩ := h' a (entropy.past count)
      refine ⟨count + more, ?_⟩
      rw [runFrom_bind_of_ok ran, moved, Entropy.past_past]
    | error failure =>
      refine ⟨count, ?_⟩
      rw [runFrom_bind_of_error ran]

theorem octets (count : Nat) (failure : ε) : (Drawing.octets count failure).Forward :=
  .bind (.exactly count failure) fun _ => .of_drawsNothing (.pure _)

end Forward

end Drawing

end SealedTransfer
