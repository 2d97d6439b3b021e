/-
# SealedTransfer.Proofs.Time.Rfc3339 — timestamps are read back

A timestamp has a fixed place for each part of date and time, so what is written is read part by part.
It names the instant that it was written for if the year has no sign, which is so from year 0 to year
9999, and if its fraction is what the instant has beyond the second. Fractions are written in as many
digits as they need and keep their value, so a timestamp is read back in exactly these years; a sign in
front is read as no year at all. What is read back is an instant on the clock. A leap second within a minute
is written as the second after it, and that is what becomes of it.
-/
import SealedTransfer.Proofs.Text.Digits
import SealedTransfer.Proofs.Time.Calendar
import SealedTransfer.Time.Rfc3339

namespace SealedTransfer.Time

open Text (decimalValue? decimalValue?_digitChar digitChar fixedDigits fixedDigits_ten lastValues
  length_lastValues lt_of_mem_lastValues ofDecimalDigits ofDecimalDigits_cons ofDecimalDigits_lastValues
  takeDecimal takeDecimal_fixedDigits)

/-! ## Parts -/

@[simp] theorem expect_cons (c : Char) (rest : List Char) : expect c (c :: rest) = some rest :=
  if_pos rfl

/-- A date with an unsigned year is read back. -/
theorem takeDate_text {date : Date} (year : 0 ≤ date.year ∧ date.year ≤ 9999)
    (month : date.month < 10 ^ 2) (day : date.day < 10 ^ 2) (rest : List Char) :
    takeDate (yearText date.year ++ '-' :: (fixedDigits 10 2 date.month
      ++ '-' :: (fixedDigits 10 2 date.day ++ rest))) = some (date, rest) := by
  have unsigned : date.year.toNat < 10 ^ 4 := by omega
  have same : ((date.year.toNat : Nat) : Int) = date.year := Int.toNat_of_nonneg year.1
  rw [takeDate, yearText, if_pos year, takeDecimal_fixedDigits unsigned]
  simp only [Option.bind_eq_bind, Option.bind_some, expect_cons, takeDecimal_fixedDigits month,
    takeDecimal_fixedDigits day, same]

/-- Hour, minute and second are read back. -/
theorem takeClock_text {hour minute second : Nat} (hours : hour < 10 ^ 2) (minutes : minute < 10 ^ 2)
    (seconds : second < 10 ^ 2) (rest : List Char) :
    takeClock (fixedDigits 10 2 hour ++ ':' :: (fixedDigits 10 2 minute
      ++ ':' :: (fixedDigits 10 2 second ++ rest))) = some ((hour, minute, second), rest) := by
  rw [takeClock, takeDecimal_fixedDigits hours]
  simp only [Option.bind_eq_bind, Option.bind_some, expect_cons, takeDecimal_fixedDigits minutes,
    takeDecimal_fixedDigits seconds]

/-- A date whose year is signed is no date. -/
theorem takeDate_signed {year : Int} (signed : ¬ (0 ≤ year ∧ year ≤ 9999)) (rest : List Char) :
    takeDate (yearText year ++ rest) = none := by
  rw [yearText, if_neg signed]
  split <;> rfl

/-- The digits of a fraction count by their places, up to something that is no digit. -/
theorem takePlaces_map_digitChar {values : List Nat} (digits : ∀ value ∈ values, value < 10)
    {places : Nat} (enough : values.length ≤ places) {c : Char} (other : decimalValue? c = none)
    (rest : List Char) :
    takePlaces places (values.map digitChar ++ c :: rest)
      = (ofDecimalDigits values * 10 ^ (places - values.length), c :: rest) := by
  induction values generalizing places with
  | nil =>
    show takePlaces places (c :: rest) = (0 * 10 ^ places, c :: rest)
    unfold takePlaces
    rw [other, Nat.zero_mul]
  | cons value values ih =>
    cases places with
    | zero => exact absurd enough (Nat.not_succ_le_zero _)
    | succ places =>
      have digit := decimalValue?_digitChar (digits value List.mem_cons_self)
      have fewer : values.length ≤ places := Nat.le_of_succ_le_succ enough
      have low := ih (fun v member => digits v (List.mem_cons_of_mem _ member)) fewer
      -- the value of the first digit, by its place among the digits and by its place in the fraction
      have high : value * 10 ^ places
          = value * 10 ^ values.length * 10 ^ (places - values.length) := by
        rw [Nat.mul_assoc, ← Nat.pow_add, Nat.add_sub_cancel' fewer]
      rw [List.map_cons, List.cons_append]
      unfold takePlaces
      rw [digit]
      dsimp only
      rw [low, List.length_cons, Nat.add_sub_add_right, ofDecimalDigits_cons, Nat.add_mul, ← high]
      rfl

/-- A fraction in a fixed number of digits, nine at most, is read back. -/
theorem takeFraction_fixedDigits {width n : Nat} (positive : 0 < width) (few : width ≤ 9)
    (small : n < 10 ^ width) :
    takeFraction ('.' :: fixedDigits 10 width n ++ ['Z']) = some (n * 10 ^ (9 - width), ['Z']) := by
  have digits : ∀ value ∈ lastValues width n, value < 10 := fun _ => lt_of_mem_lastValues
  have length := length_lastValues width n
  have read := takePlaces_map_digitChar digits (length.symm ▸ few) (show decimalValue? 'Z' = none by rfl) []
  rw [length, ofDecimalDigits_lastValues small] at read
  rw [fixedDigits_ten]
  cases values : lastValues width n with
  | nil =>
    rw [values] at length
    exact absurd positive (by simp [← length])
  | cons first others =>
    rw [values] at read digits
    have digit := decimalValue?_digitChar (digits first List.mem_cons_self)
    show takeFraction ('.' :: digitChar first :: (others.map digitChar ++ ['Z'])) = _
    rw [takeFraction, digit]
    exact congrArg some read

/-- **The fraction of a second is read back**, in whichever of its forms it is written. -/
theorem takeFraction_fractionText {nanos : Nat} (small : nanos < nanosPerSecond) :
    takeFraction (fractionText nanos ++ ['Z']) = some (nanos, ['Z']) := by
  unfold nanosPerSecond at small
  rw [fractionText]
  split
  · rename_i zero
    rw [zero]
    rfl
  split
  · rename_i millis
    rw [takeFraction_fixedDigits (by decide) (by decide) (by omega)]
    congr 2
    show _ * 1000000 = nanos
    omega
  split
  · rename_i micros
    rw [takeFraction_fixedDigits (by decide) (by decide) (by omega)]
    congr 2
    show _ * 1000 = nanos
    omega
  · rw [takeFraction_fixedDigits (by decide) (by decide) (by omega)]
    rw [Nat.sub_self, Nat.pow_zero, Nat.mul_one]

/-- Months and days have two digits. -/
theorem Date.lt_hundred_of_isValid {date : Date} (valid : date.isValid = true) :
    date.month < 10 ^ 2 ∧ date.day < 10 ^ 2 := by
  have longest (leap : Bool) : ∀ length ∈ monthLengths leap, length ≤ 31 := by
    cases leap <;> decide
  have twelve (leap : Bool) : (monthLengths leap).length = 12 := rfl
  obtain ⟨index, inside, month, positive, upper⟩ := Date.exists_index_of_isValid valid
  have short := longest _ _ (List.getElem_mem inside)
  rw [twelve] at inside
  omega

/-! ## Instants -/

namespace Instant

/-- The day of an instant, and its second in the day. -/
theorem seconds_eq (instant : Instant) :
    instant.date.dayNumber * 86400 + instant.secondOfDay = instant.seconds := by
  have day : instant.date.dayNumber = instant.seconds / 86400 :=
    (Date.ofDayNumber_spec (instant.seconds / 86400)).2
  rw [day, secondOfDay]
  omega

theorem secondOfDay_lt (instant : Instant) : instant.secondOfDay < 86400 := by
  rw [secondOfDay]
  omega

/-- A leap second has one second's nanoseconds too many. -/
theorem nanos_of_isLeapSecond {instant : Instant} (leap : instant.isLeapSecond = true) :
    instant.nanos % nanosPerSecond + nanosPerSecond = instant.nanos := by
  have large : nanosPerSecond ≤ instant.nanos := of_decide_eq_true leap
  have kept := instant.isInstant.2.2
  unfold nanosPerSecond at large kept ⊢
  omega

/-- A leap second on the clock follows the last second of a minute. -/
theorem secondOfDay_of_isLeapSecond {instant : Instant}
    (shown : IsOnClock instant.seconds instant.nanos) (leap : instant.isLeapSecond = true) :
    instant.secondOfDay % 60 = 59 := by
  have large : nanosPerSecond ≤ instant.nanos := of_decide_eq_true leap
  have last := shown.resolve_left (by omega)
  rw [secondOfDay]
  omega

/-- Any other second has its nanoseconds to itself. -/
theorem of_not_isLeapSecond {instant : Instant} (plain : instant.isLeapSecond = false) :
    instant.nanos % nanosPerSecond = instant.nanos := by
  have small : ¬ nanosPerSecond ≤ instant.nanos := of_decide_eq_false plain
  exact Nat.mod_eq_of_lt (by omega)

/-- The second that a clock shows, sixty for a leap second, gives second and nanoseconds back. -/
theorem of_shown_second {instant : Instant} (on : IsOnClock instant.seconds instant.nanos) {second : Nat}
    (shown : second = instant.secondOfDay % 60 + if instant.isLeapSecond then 1 else 0) :
    second ≤ 60 ∧ (if second = 60 then 59 else second) = instant.secondOfDay % 60 ∧
      (if second = 60 then instant.nanos % nanosPerSecond + nanosPerSecond
        else instant.nanos % nanosPerSecond) = instant.nanos := by
  cases leap : instant.isLeapSecond with
  | true =>
    have last := secondOfDay_of_isLeapSecond on leap
    have sixty : second = 60 := by
      rw [shown, leap, last]
      rfl
    rw [if_pos sixty, if_pos sixty]
    exact ⟨Nat.le_of_eq sixty, last.symm, nanos_of_isLeapSecond leap⟩
  | false =>
    have plain : second = instant.secondOfDay % 60 := by
      rw [shown, leap]
      rfl
    have notSixty : second ≠ 60 := by omega
    rw [if_neg notSixty, if_neg notSixty]
    exact ⟨by omega, plain, of_not_isLeapSecond leap⟩

/-- **The timestamp of an instant on the clock is read back** if its year has no sign and its fraction is
that of the instant. -/
theorem ofChars?_textWith {instant : Instant} {fraction : List Char}
    (on : IsOnClock instant.seconds instant.nanos)
    (year : 0 ≤ instant.date.year ∧ instant.date.year ≤ 9999)
    (read : takeFraction (fraction ++ ['Z']) = some (instant.nanos % nanosPerSecond, ['Z'])) :
    ofChars? (textWith instant fraction) = some instant := by
  have inDay := instant.secondOfDay_lt
  have hours : instant.secondOfDay / 3600 < 24 := by omega
  have minutes : instant.secondOfDay / 60 % 60 < 60 := by omega
  obtain ⟨second, shown⟩ : ∃ second,
      second = instant.secondOfDay % 60 + if instant.isLeapSecond then 1 else 0 := ⟨_, rfl⟩
  obtain ⟨seconds, clockSecond, nanos⟩ := of_shown_second on shown
  have valid : instant.date.isValid = true := (Date.ofDayNumber_spec _).1
  -- the parts of the text, one after the other
  obtain ⟨month, day⟩ := Date.lt_hundred_of_isValid valid
  have date := takeDate_text year month day
  have clock := takeClock_text (show instant.secondOfDay / 3600 < 10 ^ 2 by omega)
    (show instant.secondOfDay / 60 % 60 < 10 ^ 2 by omega) (show second < 10 ^ 2 by omega)
  have separator (rest : List Char) : skipSeparator ('T' :: rest) = some rest := rfl
  have offset : takeOffset ['Z'] = some (0, []) := rfl
  have text : textWith instant fraction = yearText instant.date.year
      ++ '-' :: (fixedDigits 10 2 instant.date.month ++ '-' :: (fixedDigits 10 2 instant.date.day
      ++ 'T' :: (fixedDigits 10 2 (instant.secondOfDay / 3600)
      ++ ':' :: (fixedDigits 10 2 (instant.secondOfDay / 60 % 60)
      ++ ':' :: (fixedDigits 10 2 second ++ (fraction ++ ['Z'])))))) := by
    simp only [textWith, shown, List.append_assoc, List.cons_append]
  rw [text, ofChars?, date]
  simp only [Option.bind_eq_bind, Option.bind_some, separator, clock, read, offset, valid, hours,
    minutes, seconds, clockSecond, nanos, List.isEmpty_nil, and_true, if_true]
  -- day and time of day make the second of the instant
  have whole := instant.seconds_eq
  have total : instant.date.dayNumber * 86400 + ((instant.secondOfDay / 3600 : Nat) * 3600
      + (instant.secondOfDay / 60 % 60 : Nat) * 60 + (instant.secondOfDay % 60 : Nat)) - 0
        = instant.seconds := by omega
  rw [total, of?, dif_pos ⟨instant.isInstant, on⟩]

/-- **A timestamp to the second is read back** if there is nothing beyond the second. -/
theorem ofText?_textToSecond {instant : Instant} (whole : instant.nanos = 0)
    (year : 0 ≤ instant.date.year ∧ instant.date.year ≤ 9999) :
    ofText? instant.textToSecond = some instant := by
  have read : takeFraction ([] ++ ['Z']) = some (instant.nanos % nanosPerSecond, ['Z']) := by
    rw [whole]
    rfl
  have on : IsOnClock instant.seconds instant.nanos := by
    rw [whole]
    exact .inl (by decide)
  rw [ofText?, textToSecond, String.toList_ofList]
  exact ofChars?_textWith on year read

/-- In years with a sign no timestamp is read back. -/
theorem ofText?_text_of_signed {instant : Instant}
    (signed : ¬ (0 ≤ instant.date.year ∧ instant.date.year ≤ 9999)) : ofText? instant.text = none := by
  rw [ofText?, text, String.toList_ofList]
  simp only [textWith, List.append_assoc]
  rw [ofChars?, takeDate_signed signed]
  rfl

/-! ## Instants on the clock -/

/-- A leap second within a minute is followed by a second. -/
theorem isInstant_of_not_isOnClock {instant : Instant}
    (off : ¬ IsOnClock instant.seconds instant.nanos) :
    IsInstant (instant.seconds + 1) (instant.nanos - nanosPerSecond) := by
  obtain ⟨first, last, short⟩ := instant.isInstant
  unfold IsOnClock at off
  unfold IsInstant nanosPerSecond firstSecond lastSecond at *
  omega

/-- The instant as a clock shows it: a leap second within a minute is the second after it. -/
def onClock (instant : Instant) : Instant :=
  if on : IsOnClock instant.seconds instant.nanos then instant
  else ⟨instant.seconds + 1, instant.nanos - nanosPerSecond, isInstant_of_not_isOnClock on⟩

theorem onClock_of_isOnClock {instant : Instant} (on : IsOnClock instant.seconds instant.nanos) :
    instant.onClock = instant :=
  dif_pos on

section OffClock

variable {instant : Instant} (off : ¬ IsOnClock instant.seconds instant.nanos)
include off

theorem onClock_of_not_isOnClock :
    instant.onClock =
      ⟨instant.seconds + 1, instant.nanos - nanosPerSecond, isInstant_of_not_isOnClock off⟩ :=
  dif_neg off

/-- What is not on the clock is a leap second. -/
theorem isLeapSecond_of_not_isOnClock : instant.isLeapSecond = true := by
  unfold IsOnClock at off
  rw [isLeapSecond, decide_eq_true_eq]
  omega

/-- The second after a leap second is no leap second. -/
theorem isLeapSecond_onClock : instant.onClock.isLeapSecond = false := by
  have short := instant.isInstant.2.2
  rw [onClock_of_not_isOnClock off, isLeapSecond, decide_eq_false_iff_not]
  show ¬ nanosPerSecond ≤ instant.nanos - nanosPerSecond
  omega

/-- The second after a leap second within a minute is the next of the same minute. -/
theorem secondOfDay_onClock :
    instant.onClock.secondOfDay = instant.secondOfDay + 1 ∧ instant.secondOfDay % 60 ≠ 59 := by
  rw [onClock_of_not_isOnClock off]
  show ((instant.seconds + 1) % 86400).toNat = (instant.seconds % 86400).toNat + 1 ∧
    (instant.seconds % 86400).toNat % 60 ≠ 59
  unfold IsOnClock at off
  omega

end OffClock

variable (instant : Instant)

/-- What a clock shows is on the clock. -/
theorem isOnClock_onClock : IsOnClock instant.onClock.seconds instant.onClock.nanos := by
  by_cases on : IsOnClock instant.seconds instant.nanos
  · rw [onClock_of_isOnClock on]
    exact on
  · have plain : ¬ nanosPerSecond ≤ instant.onClock.nanos :=
      of_decide_eq_false (isLeapSecond_onClock on)
    exact .inl (Nat.lt_of_not_le plain)

/-- Only an instant on the clock is what a clock shows of it. -/
theorem onClock_eq_iff : instant.onClock = instant ↔ IsOnClock instant.seconds instant.nanos := by
  refine ⟨fun same => ?_, onClock_of_isOnClock⟩
  have on := instant.isOnClock_onClock
  rwa [same] at on

/-- A leap second within a minute is in no other day than the second after it. -/
theorem date_onClock : instant.onClock.date = instant.date := by
  by_cases on : IsOnClock instant.seconds instant.nanos
  · rw [onClock_of_isOnClock on]
  · rw [onClock_of_not_isOnClock on]
    unfold IsOnClock at on
    show Date.ofDayNumber ((instant.seconds + 1) / 86400) = Date.ofDayNumber (instant.seconds / 86400)
    congr 1
    omega

/-- The fraction of a leap second is that of the second after it. -/
theorem nanos_onClock : instant.onClock.nanos % nanosPerSecond = instant.nanos % nanosPerSecond := by
  by_cases on : IsOnClock instant.seconds instant.nanos
  · rw [onClock_of_isOnClock on]
  · have nanos := nanos_of_isLeapSecond (isLeapSecond_of_not_isOnClock on)
    rw [onClock_of_not_isOnClock on]
    show (instant.nanos - nanosPerSecond) % nanosPerSecond = _
    rw [← nanos, Nat.add_sub_cancel, Nat.add_mod_right]

/-- **A leap second within a minute and the second after it are written alike.** -/
theorem text_onClock : instant.onClock.text = instant.text := by
  rw [text, text, nanos_onClock]
  by_cases on : IsOnClock instant.seconds instant.nanos
  · rw [onClock_of_isOnClock on]
  obtain ⟨next, within⟩ := secondOfDay_onClock on
  -- the second that is shown is one more, by the clock or for the leap second
  have sameHour : (instant.secondOfDay + 1) / 3600 = instant.secondOfDay / 3600 := by omega
  have sameMinute : (instant.secondOfDay + 1) / 60 = instant.secondOfDay / 60 := by omega
  have second : (instant.secondOfDay + 1) % 60 = instant.secondOfDay % 60 + 1 := by omega
  simp only [textWith, isLeapSecond_of_not_isOnClock on, isLeapSecond_onClock on, date_onClock, next,
    sameHour, sameMinute, second]
  rfl

/-- **A timestamp is read back** in the years 0 to 9999, to the nanosecond, as the instant that a clock
shows; in other years it is not read at all. -/
theorem ofText?_text :
    ofText? instant.text =
      if 0 ≤ instant.date.year ∧ instant.date.year ≤ 9999 then some instant.onClock else none := by
  split
  · rename_i year
    rw [← date_onClock] at year
    rw [← text_onClock, ofText?, text, String.toList_ofList]
    exact ofChars?_textWith instant.isOnClock_onClock year
      (takeFraction_fractionText (Nat.mod_lt _ (by decide)))
  · rename_i signed
    exact ofText?_text_of_signed signed

end Instant

end SealedTransfer.Time
