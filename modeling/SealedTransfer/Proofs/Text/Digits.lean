/-
# SealedTransfer.Proofs.Text.Digits — numbers are read back from their digits

A number is written as the characters of its digits, the highest first. Reading goes the other way: each
character has the value of its digit, and the values spell the number again. The same holds of a fixed
number of digits, as long as the number fits.
-/
import SealedTransfer.Text.Digits
import Mathlib.Algebra.Group.Nat.Defs
import Mathlib.Data.List.Induction

namespace SealedTransfer.Text

/-! ## Single digits -/

theorem decimalValue?_digitChar {value : Nat} (h : value < 10) :
    decimalValue? (digitChar value) = some value := by
  revert value
  decide

theorem hexValue?_digitChar {value : Nat} (h : value < 16) :
    hexValue? (digitChar value) = some value := by
  revert value
  decide

/-! ## Values of digits -/

/-- The values of the decimal digits of a number. -/
def digitValues (n : Nat) : List Nat :=
  if n < 10 then [n] else digitValues (n / 10) ++ [n % 10]

/-- The values of the last digits of a number, so many of them. -/
def lastValues : Nat → Nat → List Nat
  | 0, _ => []
  | width + 1, n => lastValues width (n / 10) ++ [n % 10]

@[simp] theorem length_lastValues (width n : Nat) : (lastValues width n).length = width := by
  induction width generalizing n with
  | zero => rfl
  | succ width ih => rw [lastValues, List.length_append, ih, List.length_singleton]

theorem digits_ten (n : Nat) : digits 10 n = (digitValues n).map digitChar := by
  induction n using digitValues.induct with
  | case1 n small => rw [digits, digitValues, if_pos (.inl small), if_pos small, List.map_singleton]
  | case2 n large ih =>
    have more : ¬ (n < 10 ∨ 10 < 2) := by omega
    rw [digits, digitValues, if_neg more, if_neg large, ih, List.map_append, List.map_singleton]

theorem fixedDigits_ten (width n : Nat) :
    fixedDigits 10 width n = (lastValues width n).map digitChar := by
  induction width generalizing n with
  | zero => rfl
  | succ width ih => rw [fixedDigits, lastValues, ih, List.map_append, List.map_singleton]

theorem lt_of_mem_digitValues {n value : Nat} (h : value ∈ digitValues n) : value < 10 := by
  induction n using digitValues.induct with
  | case1 n small =>
    rw [digitValues, if_pos small, List.mem_singleton] at h
    exact h ▸ small
  | case2 n large ih =>
    rw [digitValues, if_neg large, List.mem_append, List.mem_singleton] at h
    rcases h with high | rfl
    · exact ih high
    · exact Nat.mod_lt n (by decide)

theorem lt_of_mem_lastValues {width n value : Nat} (h : value ∈ lastValues width n) : value < 10 := by
  induction width generalizing n with
  | zero => exact absurd h List.not_mem_nil
  | succ width ih =>
    rw [lastValues, List.mem_append, List.mem_singleton] at h
    rcases h with high | rfl
    · exact ih high
    · exact Nat.mod_lt n (by decide)

/-- Only zero has a zero in front. -/
theorem digitValues_eq_cons (n : Nat) :
    ∃ first others, digitValues n = first :: others ∧ (first = 0 → n = 0) := by
  induction n using digitValues.induct with
  | case1 n small => exact ⟨n, [], by rw [digitValues, if_pos small], id⟩
  | case2 n large ih =>
    obtain ⟨first, others, front, leading⟩ := ih
    refine ⟨first, others ++ [n % 10], by rw [digitValues, if_neg large, front]; rfl, ?_⟩
    -- the digits in front are those of a tenth of the number, which is not zero
    intro zero
    have none := leading zero
    omega

/-! ## Spelling -/

theorem ofDecimalDigits_append_singleton (values : List Nat) (value : Nat) :
    ofDecimalDigits (values ++ [value]) = ofDecimalDigits values * 10 + value := by
  rw [ofDecimalDigits, List.foldl_append]
  rfl

/-- A digit in front counts as many times as the place says. -/
theorem ofDecimalDigits_cons (value : Nat) (values : List Nat) :
    ofDecimalDigits (value :: values) = value * 10 ^ values.length + ofDecimalDigits values := by
  induction values using List.reverseRecOn with
  | nil => simp [ofDecimalDigits]
  | append_singleton values last ih =>
    rw [← List.cons_append, ofDecimalDigits_append_singleton, ih, ofDecimalDigits_append_singleton,
      List.length_append, List.length_singleton, Nat.pow_succ, Nat.add_mul, Nat.mul_assoc,
      Nat.add_assoc]

/-- **The digits of a number spell it.** -/
theorem ofDecimalDigits_digitValues (n : Nat) : ofDecimalDigits (digitValues n) = n := by
  induction n using digitValues.induct with
  | case1 n small =>
    rw [digitValues, if_pos small]
    simp [ofDecimalDigits]
  | case2 n large ih =>
    rw [digitValues, if_neg large, ofDecimalDigits_append_singleton, ih]
    exact Nat.div_add_mod' n 10

/-- The last digits of a number spell it, if it has no more. -/
theorem ofDecimalDigits_lastValues {width n : Nat} (h : n < 10 ^ width) :
    ofDecimalDigits (lastValues width n) = n := by
  induction width generalizing n with
  | zero =>
    obtain rfl : n = 0 := by simpa using h
    rfl
  | succ width ih =>
    have fits : n / 10 < 10 ^ width := Nat.div_lt_of_lt_mul (by rwa [Nat.pow_succ'] at h)
    rw [lastValues, ofDecimalDigits_append_singleton, ih fits]
    exact Nat.div_add_mod' n 10

/-! ## Reading -/

/-- Digits are taken by their values. -/
theorem takeDecimal_map_digitChar (values : List Nat) (digits : ∀ value ∈ values, value < 10)
    (rest : List Char) :
    takeDecimal values.length (values.map digitChar ++ rest) = some (ofDecimalDigits values, rest) := by
  induction values with
  | nil => rfl
  | cons value values ih =>
    rw [List.map_cons, List.cons_append, List.length_cons, takeDecimal,
      decimalValue?_digitChar (digits value List.mem_cons_self),
      ih fun value member => digits value (List.mem_cons_of_mem _ member), ofDecimalDigits_cons]
    rfl

/-- As many digits as were taken are enough for the number. -/
theorem lt_of_takeDecimal {width n : Nat} {text rest : List Char}
    (taken : takeDecimal width text = some (n, rest)) : n < 10 ^ width := by
  induction width generalizing text n with
  | zero =>
    rw [takeDecimal] at taken
    cases taken
    exact Nat.one_pos
  | succ width ih =>
    cases text with
    | nil => cases taken
    | cons c text =>
      simp only [takeDecimal, Option.bind_eq_bind, Option.bind_eq_some_iff] at taken
      obtain ⟨value, digit, ⟨low, _⟩, others, same⟩ := taken
      cases same
      have small : value ≤ 9 := by
        rw [decimalValue?] at digit
        split at digit
        · cases digit
          omega
        · cases digit
      have below := ih others
      have high := Nat.mul_le_mul_right (10 ^ width) small
      rw [Nat.pow_succ]
      show value * 10 ^ width + low < 10 ^ width * 10
      omega

/-- **A number in a fixed number of digits is read back**, if it has no more. -/
theorem takeDecimal_fixedDigits {width n : Nat} (h : n < 10 ^ width) (rest : List Char) :
    takeDecimal width (fixedDigits 10 width n ++ rest) = some (n, rest) := by
  have taken := takeDecimal_map_digitChar (lastValues width n) (fun _ => lt_of_mem_lastValues) rest
  rwa [length_lastValues, ← fixedDigits_ten, ofDecimalDigits_lastValues h] at taken

end SealedTransfer.Text
