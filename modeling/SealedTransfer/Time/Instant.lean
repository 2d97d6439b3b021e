/-
# SealedTransfer.Time.Instant — points in time

An instant is a number of seconds since the beginning of 1970 (UTC) and a number of nanoseconds in
that second. A leap second has no second of its own: it is the second before it, with nanoseconds from
one billion up. Any second may be followed by one, though a clock has a leap second at the end of a
minute only, where it is shown as second sixty. Instants lie in the years from -262143 to 262142.
-/
import SealedTransfer.Time.Calendar

namespace SealedTransfer.Time

/-- The first second of the year -262143. -/
def firstSecond : Int := -8334601228800

/-- The last second of the year 262142. -/
def lastSecond : Int := 8210266876799

/-- How many nanoseconds a second has. -/
def nanosPerSecond : Nat := 1000000000

/-- Seconds and nanoseconds that make an instant. -/
def IsInstant (seconds : Int) (nanos : Nat) : Prop :=
  firstSecond ≤ seconds ∧ seconds ≤ lastSecond ∧ nanos < 2 * nanosPerSecond

instance (seconds : Int) (nanos : Nat) : Decidable (IsInstant seconds nanos) := by
  unfold IsInstant; infer_instance

/-- Seconds and nanoseconds that a clock shows: in no leap second, or in one at the end of a minute. -/
def IsOnClock (seconds : Int) (nanos : Nat) : Prop := nanos < nanosPerSecond ∨ seconds % 60 = 59

instance (seconds : Int) (nanos : Nat) : Decidable (IsOnClock seconds nanos) := by
  unfold IsOnClock; infer_instance

/-- A point in time. -/
structure Instant where
  seconds : Int
  nanos : Nat
  isInstant : IsInstant seconds nanos
deriving DecidableEq

namespace Instant

/-- The instant at the given seconds and nanoseconds, if there is one on the clock. -/
def of? (seconds : Int) (nanos : Nat) : Option Instant :=
  if h : IsInstant seconds nanos ∧ IsOnClock seconds nanos then some ⟨seconds, nanos, h.1⟩ else none

/-- The beginning of 1970. -/
def epoch : Instant := ⟨0, 0, by decide⟩

/-- The date of the instant. -/
def date (instant : Instant) : Date := Date.ofDayNumber (instant.seconds / 86400)

/-- The second of the day. -/
def secondOfDay (instant : Instant) : Nat := (instant.seconds % 86400).toNat

/-- Whether the instant lies in a leap second. -/
def isLeapSecond (instant : Instant) : Bool := nanosPerSecond ≤ instant.nanos

end Instant

end SealedTransfer.Time
