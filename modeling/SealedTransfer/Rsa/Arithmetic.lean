/-
# SealedTransfer.Rsa.Arithmetic — powers and inverses modulo a number

Powers are computed by squaring, so that exponents of thousands of bits are no burden, and inverses
by the extended Euclidean algorithm.
-/
import SealedTransfer.Bytes

namespace SealedTransfer.Rsa

/-- `base ^ exponent` modulo `modulus`. -/
def powMod (modulus base exponent : Nat) : Nat :=
  if exponent = 0 then 1 % modulus
  else
    let square := powMod modulus (base * base % modulus) (exponent / 2)
    if exponent % 2 = 1 then base * square % modulus else square
termination_by exponent
decreasing_by omega

/-- Goes on with Euclid's algorithm from the remainders `r₀` and `r₁`, which are `t₀` and `t₁` times
the number under inversion, up to multiples of the modulus. The answer is the greatest common divisor
and its multiplier. -/
def euclid (r₀ r₁ : Nat) (t₀ t₁ : Int) : Nat × Int :=
  if r₁ = 0 then (r₀, t₀) else euclid r₁ (r₀ % r₁) t₁ (t₀ - (r₀ / r₁ : Nat) * t₁)
termination_by r₁
decreasing_by exact Nat.mod_lt _ (by omega)

/-- The inverse of a number modulo another, if they have no common divisor. -/
def inverse? (n modulus : Nat) : Option Nat :=
  match euclid modulus (n % modulus) 0 1 with
  | (1, t) => some (t % modulus).toNat
  | _ => none

end SealedTransfer.Rsa
