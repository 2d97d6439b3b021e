/-
# SealedTransfer.Proofs.Rsa.Arithmetic — powers and inverses are what they should be

Squaring computes the power, and Euclid's algorithm finds an inverse: the remainders that it goes
through are multiples of the number, with the multipliers that it keeps beside them.
-/
import SealedTransfer.Rsa.Arithmetic
import Mathlib.Data.Int.ModEq
import Mathlib.Tactic.Ring

namespace SealedTransfer.Rsa

/-! ## Powers -/

/-- Computing by squaring gives the power. -/
theorem powMod_eq (modulus base exponent : Nat) :
    powMod modulus base exponent = base ^ exponent % modulus := by
  induction exponent using Nat.strongRecOn generalizing base with
  | _ exponent ih =>
    rw [powMod]
    split
    · rename_i zero
      rw [zero, Nat.pow_zero]
    · have half : powMod modulus (base * base % modulus) (exponent / 2)
          = base ^ (2 * (exponent / 2)) % modulus := by
        rw [ih (exponent / 2) (by omega), ← Nat.pow_mod, ← Nat.pow_two, ← Nat.pow_mul]
      simp only [half]
      split
      · have halves : Nat.succ (2 * (exponent / 2)) = exponent := by omega
        rw [Nat.mul_mod_mod, ← Nat.pow_succ', halves]
      · have halves : 2 * (exponent / 2) = exponent := by omega
        rw [halves]

/-! ## Inverses -/

/-- Euclid's algorithm keeps its remainders at multiples of the number under inversion. -/
theorem euclid_modEq {n modulus : Int} (r₀ r₁ : Nat) (t₀ t₁ : Int)
    (h₀ : (r₀ : Int) ≡ t₀ * n [ZMOD modulus]) (h₁ : (r₁ : Int) ≡ t₁ * n [ZMOD modulus]) :
    ((euclid r₀ r₁ t₀ t₁).1 : Int) ≡ (euclid r₀ r₁ t₀ t₁).2 * n [ZMOD modulus] := by
  fun_induction euclid r₀ r₁ t₀ t₁ with
  | case1 => exact h₀
  | case2 r₀ r₁ t₀ t₁ _ ih =>
    apply ih h₁
    have remainder : ((r₀ % r₁ : Nat) : Int) = r₀ - (r₀ / r₁ : Nat) * r₁ := by
      rw [Int.natCast_mod, Int.emod_def, Int.natCast_div]
      ring
    have multiplier : (t₀ - (r₀ / r₁ : Nat) * t₁) * n = t₀ * n - (r₀ / r₁ : Nat) * (t₁ * n) := by
      ring
    rw [remainder, multiplier]
    exact h₀.sub (h₁.mul_left _)

/-- What is found as an inverse is one. -/
theorem mul_modEq_of_inverse? {n modulus inverse : Nat} (positive : 0 < modulus)
    (h : inverse? n modulus = some inverse) : n * inverse ≡ 1 [MOD modulus] := by
  have start : ((n % modulus : Nat) : Int) ≡ 1 * n [ZMOD modulus] := by
    rw [Int.natCast_mod, one_mul]
    exact Int.mod_modEq _ _
  have whole : ((modulus : Nat) : Int) ≡ 0 * n [ZMOD modulus] := by
    rw [zero_mul]
    exact Int.modEq_zero_iff_dvd.mpr (dvd_refl _)
  have found := euclid_modEq modulus (n % modulus) 0 1 whole start
  unfold inverse? at h
  split at h
  · rename_i t result
    rw [result] at found
    cases h
    rw [← Int.natCast_modEq_iff, Nat.cast_mul, Int.toNat_of_nonneg (Int.emod_nonneg _ (by omega)),
      mul_comm]
    exact ((Int.mod_modEq t modulus).mul_right n).trans found.symm
  · cases h

end SealedTransfer.Rsa
