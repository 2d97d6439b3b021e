/-
# SealedTransfer.Proofs.Time.Calendar — a day is the day of its date

Taking the longest periods out of a day number leaves fewer of each than there are in the next longer
one: at most three centuries of four hundred years, twenty-four spans of four years in a century, and
three single years in a span. So the year that is found is the one that the day falls in, the month is
the one of the year, and the date has the day number that it was made of. Of two dates of one day the
years are the same, since years do not overlap.
-/
import SealedTransfer.Time.Calendar
import Mathlib.Algebra.Ring.Nat

namespace SealedTransfer.Time

/-! ## Years -/

/-- The number of days in a year. -/
def daysInYear (leap : Bool) : Nat := if leap then 366 else 365

/-- The days before a year that is so many centuries, spans of four years and single years into its four
hundred. -/
theorem daysBeforeYear_of_periods {era : Int} {century cycle single : Nat} (centuries : century ≤ 3)
    (cycles : cycle ≤ 24) (singles : single ≤ 3) :
    daysBeforeYear (400 * era + (100 * century + 4 * cycle + single : Nat) + 1)
      = 146097 * era + (36524 * century + 1461 * cycle + 365 * single : Nat) := by
  have fourths : (400 * era + (100 * century + 4 * cycle + single : Nat)) / 4
      = 100 * era + (25 * century + cycle : Nat) := by omega
  have hundredths : (400 * era + (100 * century + 4 * cycle + single : Nat)) / 100
      = 4 * era + century := by omega
  have parts : (400 * era + (100 * century + 4 * cycle + single : Nat)) / 400 = era := by omega
  rw [daysBeforeYear]
  simp only [Int.add_sub_cancel, fourths, hundredths, parts]
  omega

/-- Such a year is a leap year if it is the last of its span, unless it is the last of a century that is
not the last. -/
theorem isLeapYear_of_periods {era : Int} {century cycle single : Nat} (centuries : century ≤ 3)
    (cycles : cycle ≤ 24) (singles : single ≤ 3) :
    isLeapYear (400 * era + (100 * century + 4 * cycle + single : Nat) + 1) = true ↔
      single = 3 ∧ (cycle = 24 → century = 3) := by
  simp only [isLeapYear, Bool.and_eq_true, Bool.or_eq_true, beq_iff_eq, bne_iff_ne, ne_eq]
  omega

/-- **The year that a day falls in**, and its place in it. -/
theorem yearOfDay_spec (day : Int) :
    daysBeforeYear (yearOfDay day).1 + (yearOfDay day).2 = day ∧
      (yearOfDay day).2 < daysInYear (isLeapYear (yearOfDay day).1) := by
  have inEra : (day % 146097).toNat < 146097 := by omega
  have whole : 146097 * (day / 146097) + ((day % 146097).toNat : Int) = day := by omega
  generalize era_eq : day / 146097 = era at whole
  generalize rest_eq : (day % 146097).toNat = rest at inEra whole
  -- what is left after each kind of period, and how many periods there were
  obtain ⟨century, century_eq⟩ : ∃ n, n = min 3 (rest / 36524) := ⟨_, rfl⟩
  obtain ⟨inCentury, inCentury_eq⟩ : ∃ n, n = rest - 36524 * century := ⟨_, rfl⟩
  obtain ⟨cycle, cycle_eq⟩ : ∃ n, n = inCentury / 1461 := ⟨_, rfl⟩
  obtain ⟨inCycle, inCycle_eq⟩ : ∃ n, n = inCentury - 1461 * cycle := ⟨_, rfl⟩
  obtain ⟨single, single_eq⟩ : ∃ n, n = min 3 (inCycle / 365) := ⟨_, rfl⟩
  have found : yearOfDay day
      = (400 * era + (100 * century + 4 * cycle + single : Nat) + 1, inCycle - 365 * single) := by
    simp only [yearOfDay, era_eq, rest_eq, single_eq, inCycle_eq, cycle_eq, inCentury_eq, century_eq]
  have centuries : century ≤ 3 := by omega
  have inCentury_lt : inCentury < 36524 ∨ century = 3 ∧ inCentury < 36525 := by omega
  have cycles : cycle ≤ 24 := by omega
  have inCycle_lt : inCycle < 1461 := by omega
  have lastCycle : cycle = 24 → century = 3 ∨ inCycle < 1460 := by omega
  have singles : single ≤ 3 := by omega
  have place : inCycle - 365 * single < 365 ∨ single = 3 ∧ inCycle - 365 * single = 365 := by omega
  rw [found]
  refine ⟨?_, ?_⟩
  · show daysBeforeYear _ + ((inCycle - 365 * single : Nat) : Int) = day
    rw [daysBeforeYear_of_periods centuries cycles singles]
    omega
  · show inCycle - 365 * single < daysInYear (isLeapYear _)
    cases leap : isLeapYear (400 * era + (100 * century + 4 * cycle + single : Nat) + 1) with
    | true =>
      show _ < 366
      omega
    | false =>
      have common : ¬ (single = 3 ∧ (cycle = 24 → century = 3)) := by
        intro last
        rw [(isLeapYear_of_periods centuries cycles singles).mpr last] at leap
        cases leap
      show _ < 365
      omega

/-- Years come one after the other. -/
theorem daysBeforeYear_le {year later : Int} (h : year ≤ later) :
    daysBeforeYear year ≤ daysBeforeYear later := by
  simp only [daysBeforeYear]
  omega

/-- A year ends where the next one begins. -/
theorem daysBeforeYear_succ (year : Int) :
    daysBeforeYear (year + 1) = daysBeforeYear year + daysInYear (isLeapYear year) := by
  have add (past : Int) : daysBeforeYear (past + 1) = 365 * past + past / 4 - past / 100 + past / 400 := by
    rw [daysBeforeYear, Int.add_sub_cancel]
  cases leap : isLeapYear year with
  | true =>
    simp only [isLeapYear, Bool.and_eq_true, Bool.or_eq_true, beq_iff_eq, bne_iff_ne, ne_eq] at leap
    rw [add, daysBeforeYear]
    show _ = _ + (366 : Int)
    omega
  | false =>
    simp only [isLeapYear, Bool.and_eq_false_iff, Bool.or_eq_false_iff, beq_eq_false_iff_ne,
      bne_eq_false_iff_eq, ne_eq] at leap
    rw [add, daysBeforeYear]
    show _ = _ + (365 : Int)
    omega

/-! ## Months -/

/-- **The month that a place falls in**, and the day in it. -/
theorem monthOfDay_spec {lengths : List Nat} {place : Nat} (within : place < lengths.sum)
    (first : Nat) :
    ∃ index, ∃ inside : index < lengths.length, (monthOfDay first lengths place).1 = first + index ∧
      1 ≤ (monthOfDay first lengths place).2 ∧
      (monthOfDay first lengths place).2 ≤ lengths[index] ∧
      (lengths.take index).sum + (monthOfDay first lengths place).2 = place + 1 := by
  induction lengths generalizing first place with
  | nil => simp at within
  | cons length lengths ih =>
    rw [List.sum_cons] at within
    by_cases here : place < length
    · rw [monthOfDay, if_pos here]
      exact ⟨0, Nat.zero_lt_succ _, rfl, Nat.le_add_left 1 place, here, Nat.zero_add _⟩
    · rw [monthOfDay, if_neg here]
      obtain ⟨index, inside, month, positive, upper, total⟩ :=
        ih (show place - length < lengths.sum by omega) (first + 1)
      refine ⟨index + 1, Nat.succ_lt_succ inside, by omega, positive, upper, ?_⟩
      rw [List.take_succ_cons, List.sum_cons]
      omega

theorem sum_monthLengths (leap : Bool) : (monthLengths leap).sum = daysInYear leap := by
  cases leap <;> rfl

/-! ## Dates -/

/-- A date in the calendar, by its month counted from zero. -/
theorem isValid_and_dayNumber {year : Int} {index day : Nat}
    (inside : index < (monthLengths (isLeapYear year)).length) (positive : 1 ≤ day)
    (upper : day ≤ (monthLengths (isLeapYear year))[index]) :
    (Date.mk year (1 + index) day).isValid = true ∧
      (Date.mk year (1 + index) day).dayNumber
        = daysBeforeYear year
          + (((monthLengths (isLeapYear year)).take index).sum + day : Nat) - 1 - epochDay := by
  have month : 1 + index ≠ 0 := by omega
  have before : 1 + index - 1 = index := by omega
  constructor
  · simp only [Date.isValid, daysInMonth, if_neg month, before, List.getElem?_eq_getElem inside,
      Option.getD_some, Bool.and_eq_true, decide_eq_true_eq]
    exact ⟨positive, upper⟩
  · rw [Date.dayNumber]
    simp only [before, ← List.sum_eq_foldl]
    omega

namespace Date

/-- The month and the day of a date in the calendar. -/
theorem exists_index_of_isValid {date : Date} (valid : date.isValid = true) :
    ∃ index, ∃ inside : index < (monthLengths (isLeapYear date.year)).length,
      date.month = 1 + index ∧ 1 ≤ date.day ∧
        date.day ≤ (monthLengths (isLeapYear date.year))[index] := by
  simp only [isValid, Bool.and_eq_true, decide_eq_true_eq] at valid
  obtain ⟨positive, upper⟩ := valid
  rw [daysInMonth] at upper
  split at upper
  · omega
  · rename_i month
    cases found : (monthLengths (isLeapYear date.year))[date.month - 1]? with
    | none =>
      rw [found, Option.getD_none] at upper
      omega
    | some length =>
      rw [found, Option.getD_some] at upper
      obtain ⟨inside, same⟩ := List.getElem?_eq_some_iff.mp found
      exact ⟨date.month - 1, inside, by omega, positive, same.symm ▸ upper⟩

/-- **A day is the day of its date**, and its date stands in the calendar. -/
theorem ofDayNumber_spec (day : Int) :
    (ofDayNumber day).isValid = true ∧ (ofDayNumber day).dayNumber = day := by
  obtain ⟨whole, within⟩ := yearOfDay_spec (day + epochDay)
  rw [← sum_monthLengths] at within
  obtain ⟨index, inside, month, positive, upper, total⟩ := monthOfDay_spec within 1
  have valid := isValid_and_dayNumber inside positive upper
  rw [total, ← month] at valid
  refine ⟨valid.1, valid.2.trans ?_⟩
  omega

/-- A date lies in its year. -/
theorem dayNumber_within {date : Date} (valid : date.isValid = true) :
    daysBeforeYear date.year ≤ date.dayNumber + epochDay ∧
      date.dayNumber + epochDay < daysBeforeYear (date.year + 1) := by
  obtain ⟨index, inside, month, positive, upper⟩ := exists_index_of_isValid valid
  obtain ⟨year, _, day⟩ := date
  obtain rfl : _ = 1 + index := month
  dsimp only at inside positive upper
  have total := sum_monthLengths (isLeapYear year)
  -- the months before, the month of the date and the months after make the year
  have split := congrArg List.sum (List.take_append_drop index (monthLengths (isLeapYear year)))
  rw [List.drop_eq_getElem_cons inside, List.sum_append, List.sum_cons] at split
  rw [(isValid_and_dayNumber inside positive upper).2, daysBeforeYear_succ]
  dsimp only
  omega

/-- The year of a day is that of every date of the day. -/
theorem year_ofDayNumber {date : Date} (valid : date.isValid = true) :
    (ofDayNumber date.dayNumber).year = date.year := by
  obtain ⟨valid', same⟩ := ofDayNumber_spec date.dayNumber
  obtain ⟨lower, upper⟩ := dayNumber_within valid
  obtain ⟨lower', upper'⟩ := dayNumber_within valid'
  rw [same] at lower' upper'
  rcases Int.lt_trichotomy (ofDayNumber date.dayNumber).year date.year with before | same | after
  · have := daysBeforeYear_le (show (ofDayNumber date.dayNumber).year + 1 ≤ date.year from before)
    omega
  · exact same
  · have := daysBeforeYear_le (show date.year + 1 ≤ (ofDayNumber date.dayNumber).year from after)
    omega

end Date

end SealedTransfer.Time
