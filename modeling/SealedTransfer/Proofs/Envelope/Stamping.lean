/-
# SealedTransfer.Proofs.Envelope.Stamping — a message is ordered by the instant that it was given

An instant that is set becomes the timestamp of the message, and neither a step nor a reply changes it.
So whatever way a message comes about, it is ordered by that instant as a clock shows it, down to the
nanosecond, as long as the year can be written without a sign. That is the instant itself, in a leap second at
the end of a minute too; a leap second within a minute is taken for the second after it. Outside the years 0
to 9999 the timestamp is written all the same, and whoever reads it has to refuse the message.
-/
import SealedTransfer.Envelope.Reply
import SealedTransfer.Proofs.Envelope.Runs
import SealedTransfer.Proofs.Time.Rfc3339
import SealedTransfer.Proofs.Transfer.Closing

namespace SealedTransfer

open Envelope (create wrap)

/-- The timestamp of a message is the instant that was set. -/
theorem Options.timestamp_of_apply {options : Options} {instant : Time.Instant} {blank made : Envelope}
    {entropy rest : Entropy} (set : options.timestamp = some instant)
    (applied : (options.apply blank).runFrom entropy = (.ok made, rest)) :
    made.message.timestamp = instant.text := by
  obtain ⟨_, _, -, rfl⟩ := runFrom_apply_eq_ok.mp applied
  show (options.applyToMessage blank.message).timestamp = instant.text
  rw [applyToMessage, set]
  rfl

namespace Message

/-- How a message with an instant set for it comes about: it belongs to a new envelope or to one around
another message, after any steps, or it is sealed, or it is a reply. -/
inductive Stamped (instant : Time.Instant) : Message → Prop
  | created {occasion : Occasion} {payload : Payload} {options : Options} {envelope : Envelope}
      {entropy rest : Entropy} (set : options.timestamp = some instant)
      (made : (create occasion payload options).runFrom entropy = (.ok envelope, rest))
      (steps : List (Transition × Entropy)) : Stamped instant (envelope.after steps).message
  | wrapped {message : Message} {options : Options} {envelope : Envelope} {entropy rest : Entropy}
      (set : options.timestamp = some instant)
      (made : (wrap message options).runFrom entropy = (.ok envelope, rest))
      (steps : List (Transition × Entropy)) : Stamped instant (envelope.after steps).message
  | sealed {occasion : Occasion} {payload : Payload} {options : Options} {message : Message}
      {entropy rest : Entropy} (set : options.timestamp = some instant)
      (made : (Transfer.sealPayload occasion payload options).runFrom entropy = (.ok message, rest)) :
      Stamped instant message
  | replied {occasion : Occasion} {id : String} {rejection : Rejection} {options : Options}
      {message : Message} {entropy rest : Entropy} (set : options.timestamp = some instant)
      (made : (reply occasion id rejection options).runFrom entropy = (.ok message, rest)) :
      Stamped instant message

section Stamped

variable {instant : Time.Instant} {message : Message}

/-- A message has the timestamp that it was given, however it came about. -/
theorem Stamped.timestamp (h : message.Stamped instant) : message.timestamp = instant.text := by
  cases h with
  | created set made steps =>
    exact (Envelope.sameTransfer_after _ steps).timestamp.trans (Options.timestamp_of_apply set made)
  | wrapped set made steps =>
    exact (Envelope.sameTransfer_after _ steps).timestamp.trans (Options.timestamp_of_apply set made)
  | sealed set made =>
    obtain ⟨new, _, unsealed, _, sealed, creation, encryption, sealing, rfl⟩ :=
      Transfer.steps_of_sealUnchecked (Transfer.sealUnchecked_of_sealPayload made)
    have closed := (Transfer.advances_of_advance encryption).sameTransfer.trans
      (Transfer.advances_of_advance sealing).sameTransfer
    exact closed.timestamp.trans (Options.timestamp_of_apply set creation)
  | replied set made =>
    rw [reply] at made
    split at made
    · cases made
    · simp only [Drawing.runFrom_bind_eq_ok, Drawing.runFrom_pure_eq_ok] at made
      obtain ⟨envelope, _, wrapped, _, _, -, rfl, -⟩ := made
      have stamp := Options.timestamp_of_apply set wrapped
      -- naming a message leaves its timestamp alone
      rw [withIdUnlessNamed]
      split <;> exact stamp

/-- A message is ordered by its timestamp if the year has no sign; else it has to be refused. -/
theorem instant_of_timestamp (stamp : message.timestamp = instant.text) :
    message.instant =
      if 0 ≤ instant.date.year ∧ instant.date.year ≤ 9999 then .ok instant.onClock
      else .error (.final .badRequest
        "could not parse ordering timestamp on secure envelope as RFC3339 timestamp") := by
  rw [Message.instant, stamp, if_neg instant.text_ne_empty, Time.Instant.ofText?_text]
  by_cases year : 0 ≤ instant.date.year ∧ instant.date.year ≤ 9999
  · rw [if_pos year, if_pos year]
  · rw [if_neg year, if_neg year]

end Stamped

/-! ## Ordering -/

/-- **A message is ordered by the instant that was set for it exactly in the years 0 to 9999 and on the
clock**, to the nanosecond and in leap seconds at the end of a minute, whatever way it came about. A leap
second within a minute is ordered by as the second after it, and in other years the message has to be refused
for good. Setting an instant never fails and draws nothing. -/
theorem instant_of_stamped (instant : Time.Instant) :
    (∀ message : Message, message.Stamped instant →
      (message.instant = .ok instant ↔ (0 ≤ instant.date.year ∧ instant.date.year ≤ 9999) ∧
        Time.IsOnClock instant.seconds instant.nanos) ∧
      (0 ≤ instant.date.year ∧ instant.date.year ≤ 9999 → message.instant = .ok instant.onClock) ∧
      (¬ (0 ≤ instant.date.year ∧ instant.date.year ≤ 9999) →
        message.instant = .error (.final .badRequest
          "could not parse ordering timestamp on secure envelope as RFC3339 timestamp"))) ∧
    (∀ occasion payload entropy, ∃ envelope,
      (create occasion payload ⟨none, some instant, none, none⟩).runFrom entropy
        = (.ok envelope, entropy) ∧ envelope.message.Stamped instant) ∧
    (∀ received entropy, ∃ envelope,
      (wrap received ⟨none, some instant, none, none⟩).runFrom entropy = (.ok envelope, entropy) ∧
        envelope.message.Stamped instant) := by
  refine ⟨?_, ?_, ?_⟩
  · intro message stamped
    rw [instant_of_timestamp stamped.timestamp]
    by_cases year : 0 ≤ instant.date.year ∧ instant.date.year ≤ 9999
    · rw [if_pos year, Except.ok.injEq, Time.Instant.onClock_eq_iff]
      exact ⟨(and_iff_right year).symm, fun _ => rfl, fun signed => absurd year signed⟩
    · rw [if_neg year]
      exact ⟨iff_of_false nofun fun both => year both.1, fun unsigned => absurd unsigned year,
        fun _ => rfl⟩
  · intro occasion payload entropy
    have made : (create occasion payload ⟨none, some instant, none, none⟩).runFrom entropy
        = (.ok _, entropy) := rfl
    exact ⟨_, made, .created rfl made []⟩
  · intro received entropy
    have made : (wrap received ⟨none, some instant, none, none⟩).runFrom entropy
        = (.ok _, entropy) := rfl
    exact ⟨_, made, .wrapped rfl made []⟩

/-- A leap second at the end of a minute is ordered by to the nanosecond, and the year 10000 is refused. -/
theorem instant_of_leap_second :
    (∃ envelope, (wrap .empty ⟨none, some ⟨1483228799, 1123456789, by decide⟩, none, none⟩).runFrom
        ⟨fun _ => 0, 0, some 0⟩ = (.ok envelope, ⟨fun _ => 0, 0, some 0⟩) ∧
      envelope.message.instant = .ok ⟨1483228799, 1123456789, by decide⟩) ∧
    ∃ envelope, (wrap .empty ⟨none, some ⟨253402300800, 0, by decide⟩, none, none⟩).runFrom
        ⟨fun _ => 0, 0, some 0⟩ = (.ok envelope, ⟨fun _ => 0, 0, some 0⟩) ∧
      envelope.message.instant = .error (.final .badRequest
        "could not parse ordering timestamp on secure envelope as RFC3339 timestamp") := by
  constructor
  · obtain ⟨ordered, -, wrapped⟩ := instant_of_stamped ⟨1483228799, 1123456789, by decide⟩
    obtain ⟨envelope, made, stamped⟩ := wrapped .empty ⟨fun _ => 0, 0, some 0⟩
    exact ⟨envelope, made, (ordered _ stamped).1.mpr (by decide)⟩
  · obtain ⟨ordered, -, wrapped⟩ := instant_of_stamped ⟨253402300800, 0, by decide⟩
    obtain ⟨envelope, made, stamped⟩ := wrapped .empty ⟨fun _ => 0, 0, some 0⟩
    exact ⟨envelope, made, (ordered _ stamped).2.2 (by decide)⟩

/-- The leap second after 23:56:04 is set in the year 1970 and is not what the message is ordered by: its
timestamp is that of 23:56:05, with the same fraction. -/
theorem instant_of_leap_second_within_minute :
    let instant : Time.Instant := ⟨86164, 1333333333, by decide⟩
    let envelope : Envelope := .ofMessage { Message.empty with timestamp := instant.text }
    (wrap .empty ⟨none, some instant, none, none⟩).runFrom ⟨fun _ => 0, 0, some 0⟩
        = (.ok envelope, ⟨fun _ => 0, 0, some 0⟩) ∧
      (0 ≤ instant.date.year ∧ instant.date.year ≤ 9999) ∧
      instant.text = "1970-01-01T23:56:05.333333333Z" ∧
      envelope.message.instant = .ok ⟨86165, 333333333, by decide⟩ ∧
      envelope.message.instant ≠ .ok instant := by
  refine ⟨rfl, by decide, ?_, ?_, ?_⟩
  · decide +kernel
  · decide +kernel
  · decide +kernel

end Message

end SealedTransfer
