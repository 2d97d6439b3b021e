/-
# SealedTransfer.Proofs.Rsa.Key — when the private operation undoes the public one

A private key does not have to be made of primes, and then its private operation may find nothing, or
a different number with the same image. A key that inverts is one whose private operation finds every
number again. If the two factors are different primes, it does: both powers modulo the factors are the
number itself by Fermat's little theorem, and joining them gives back the number.
-/
import SealedTransfer.Proofs.Bytes
import SealedTransfer.Proofs.Rsa.Arithmetic
import SealedTransfer.Rsa.Key
import Mathlib.FieldTheory.Finite.Basic
import Mathlib.NumberTheory.LucasLehmer

namespace SealedTransfer.Rsa

/-! ## The range of the public operation -/

namespace PublicKey

theorem modulus_pos (key : PublicKey) : 0 < key.modulus := by
  have := key.isPublicKey.2.2.2.2
  omega

/-- The modulus fits into as many octets as a ciphertext has. -/
theorem modulus_lt (key : PublicKey) : key.modulus < 256 ^ key.size :=
  Bytes.lt_pow_octetLength key.modulus

/-- The modulus does not fit into one octet less. -/
theorem le_modulus (key : PublicKey) : 256 ^ (key.size - 1) ≤ key.modulus :=
  Bytes.pow_octetLength_sub_one_le (Nat.pos_iff_ne_zero.mp key.modulus_pos)

theorem apply_lt (key : PublicKey) (n : Nat) : key.apply n < key.modulus := by
  rw [apply, powMod_eq]
  exact Nat.mod_lt _ key.modulus_pos

end PublicKey

/-! ## Keys of two primes -/

/-- Fermat's little theorem for exponents that leave one modulo the prime less one. -/
theorem pow_modEq_self {p exponent : Nat} (prime : p.Prime) (h : exponent % (p - 1) = 1) (n : Nat) :
    n ^ exponent ≡ n [MOD p] := by
  have : Fact p.Prime := ⟨prime⟩
  rw [← ZMod.natCast_eq_natCast_iff, Nat.cast_pow]
  have split : exponent = 1 + (p - 1) * (exponent / (p - 1)) := by
    have := Nat.mod_add_div exponent (p - 1)
    omega
  by_cases zero : (n : ZMod p) = 0
  · rw [zero, split, pow_add, pow_one, zero_mul]
  · rw [split, pow_add, pow_one, pow_mul, ZMod.pow_card_sub_one_eq_one zero, one_pow, mul_one]

/-- The power of an image with an exponent that inverts modulo a prime factor. -/
theorem image_pow_modEq {p modulus n exponent d : Nat} (prime : p.Prime) (factor : p ∣ modulus)
    (h : d * exponent % (p - 1) = 1) : (n ^ exponent % modulus) ^ d ≡ n [MOD p] := by
  have image : n ^ exponent % modulus ≡ n ^ exponent [MOD p] :=
    (Nat.mod_modEq _ _).of_dvd factor
  calc (n ^ exponent % modulus) ^ d
      ≡ (n ^ exponent) ^ d [MOD p] := image.pow d
    _ = n ^ (d * exponent) := by rw [← Nat.pow_mul, Nat.mul_comm]
    _ ≡ n [MOD p] := pow_modEq_self prime h n

namespace PrivateKey

/-- A key whose private operation finds again what its public operation was applied to. -/
def Inverts (key : PrivateKey) : Prop :=
  ∀ n < key.publicHalf.modulus, key.invert? (key.publicHalf.apply n) = some n

/-- The power with the private exponent, if it is computed modulo the factors and joined. -/
def join (key : PrivateKey) (coefficient m₁ m₂ : Nat) : Nat :=
  m₂ + (((m₁ : Int) - m₂) % key.p).toNat * coefficient % key.p * key.q

/-- Joining leaves the second part modulo the second factor. -/
theorem join_modEq_right (key : PrivateKey) (coefficient m₁ m₂ : Nat) :
    key.join coefficient m₁ m₂ ≡ m₂ [MOD key.q] := by
  unfold join Nat.ModEq
  rw [Nat.add_mul_mod_self_right]

/-- Joining leaves the first part modulo the first factor. -/
theorem join_modEq_left (key : PrivateKey) {coefficient : Nat} (m₁ m₂ : Nat)
    (h : key.q * coefficient ≡ 1 [MOD key.p]) : key.join coefficient m₁ m₂ ≡ m₁ [MOD key.p] := by
  have positive : (key.p : Int) ≠ 0 := by
    have := key.isPrivateKey.1
    omega
  rw [← Int.natCast_modEq_iff] at h ⊢
  unfold join
  push_cast at h ⊢
  rw [Int.toNat_of_nonneg (Int.emod_nonneg _ positive)]
  have difference := Int.mod_modEq ((m₁ : Int) - m₂) key.p
  calc (m₂ : Int) + ((m₁ : Int) - m₂) % key.p * coefficient % key.p * key.q
      ≡ m₂ + ((m₁ : Int) - m₂) * coefficient * key.q [ZMOD key.p] :=
        (((Int.mod_modEq _ _).trans (difference.mul_right _)).mul_right _).add_left _
    _ = m₂ + ((m₁ : Int) - m₂) * (key.q * coefficient) := by ring
    _ ≡ m₂ + ((m₁ : Int) - m₂) * 1 [ZMOD key.p] := (h.mul_left _).add_left _
    _ = m₁ := by ring

/-- Joining stays below the modulus. -/
theorem join_lt (key : PrivateKey) (coefficient m₁ : Nat) {m₂ : Nat} (h : m₂ < key.q) :
    key.join coefficient m₁ m₂ < key.publicHalf.modulus := by
  obtain ⟨hp, -, product, -⟩ := key.isPrivateKey
  have quotient : (((m₁ : Int) - m₂) % key.p).toNat * coefficient % key.p ≤ key.p - 1 := by
    have := Nat.mod_lt ((((m₁ : Int) - m₂) % key.p).toNat * coefficient)
      (show key.p > 0 by omega)
    omega
  have multiple := Nat.mul_le_mul_right key.q quotient
  have less : (key.p - 1) * key.q + key.q = key.p * key.q := by
    rw [← Nat.succ_mul]
    congr 1
    omega
  unfold join
  omega

/-- The private power stays below the modulus, however it is computed. -/
theorem power_lt (key : PrivateKey) (n : Nat) : key.power n < key.publicHalf.modulus := by
  obtain ⟨-, oneLtQ, -⟩ := key.isPrivateKey
  unfold power
  split
  · rw [powMod_eq key.q]
    exact key.join_lt _ _ (Nat.mod_lt _ (by omega))
  · rw [powMod_eq]
    exact Nat.mod_lt _ key.publicHalf.modulus_pos

/-- The private power of an image is the number itself modulo each prime factor. -/
theorem power_apply_modEq {key : PrivateKey} (hp : key.p.Prime) (hq : key.q.Prime) (n : Nat) :
    key.power (key.publicHalf.apply n) ≡ n [MOD key.p] ∧
      key.power (key.publicHalf.apply n) ≡ n [MOD key.q] := by
  obtain ⟨oneLtP, oneLtQ, product, hd₁, hd₂⟩ := key.isPrivateKey
  have left : key.p ∣ key.publicHalf.modulus := ⟨key.q, product.symm⟩
  have right : key.q ∣ key.publicHalf.modulus := ⟨key.p, by rw [← product, Nat.mul_comm]⟩
  simp only [power, PublicKey.apply, powMod_eq]
  split
  · rename_i coefficient found
    have inverse := mul_modEq_of_inverse? (by omega) found
    have m₁ : (n ^ key.publicHalf.exponent % key.publicHalf.modulus) ^ key.exponent₁ ≡ n
        [MOD key.p] := image_pow_modEq hp left (by rw [exponent₁, Nat.mod_mul_mod, hd₁])
    have m₂ : (n ^ key.publicHalf.exponent % key.publicHalf.modulus) ^ key.exponent₂ ≡ n
        [MOD key.q] := image_pow_modEq hq right (by rw [exponent₂, Nat.mod_mul_mod, hd₂])
    refine ⟨?_, ?_⟩
    · exact (key.join_modEq_left _ _ inverse).trans ((Nat.mod_modEq _ _).trans m₁)
    · exact (key.join_modEq_right _ _ _).trans ((Nat.mod_modEq _ _).trans m₂)
  · refine ⟨?_, ?_⟩
    · exact ((Nat.mod_modEq _ _).of_dvd left).trans (image_pow_modEq hp left hd₁)
    · exact ((Nat.mod_modEq _ _).of_dvd right).trans (image_pow_modEq hq right hd₂)

/-- **A key of two different primes inverts.** -/
theorem inverts_of_prime {key : PrivateKey} (hp : key.p.Prime) (hq : key.q.Prime)
    (different : key.p ≠ key.q) : key.Inverts := by
  intro n below
  obtain ⟨modP, modQ⟩ := power_apply_modEq hp hq n
  -- agreeing modulo both factors is agreeing modulo their product
  have coprime : Nat.Coprime key.p key.q := (Nat.coprime_primes hp hq).mpr different
  have modulo : key.power (key.publicHalf.apply n) ≡ n [MOD key.publicHalf.modulus] := by
    rw [← key.isPrivateKey.2.2.1]
    exact (Nat.modEq_and_modEq_iff_modEq_mul coprime).mp ⟨modP, modQ⟩
  have found : key.power (key.publicHalf.apply n) = n :=
    modulo.eq_of_lt_of_lt (key.power_lt _) below
  simp only [invert?, found]
  rw [if_pos ⟨key.publicHalf.apply_lt n, trivial⟩]

/-- What the private operation finds is below the modulus. -/
theorem lt_of_invert? {key : PrivateKey} {n m : Nat} (h : key.invert? n = some m) :
    m < key.publicHalf.modulus := by
  unfold invert? at h
  dsimp only at h
  split at h
  · cases h
    exact key.power_lt n
  · cases h

/-- **A key that inverts finds something for every number below the modulus**: its public operation takes no
two of them to one, so it takes one of them to each. -/
theorem Inverts.exists_invert? {key : PrivateKey} (inverts : key.Inverts) {n : Nat}
    (below : n < key.publicHalf.modulus) : ∃ m, key.invert? n = some m := by
  let image (i : Fin key.publicHalf.modulus) : Fin key.publicHalf.modulus :=
    ⟨key.publicHalf.apply i, key.publicHalf.apply_lt i⟩
  have injective : Function.Injective image := by
    intro i j same
    have found := inverts i i.isLt
    rw [show key.publicHalf.apply i = key.publicHalf.apply j from congrArg Fin.val same,
      inverts j j.isLt] at found
    exact Fin.ext (Option.some.inj found).symm
  obtain ⟨m, isImage⟩ := Finite.injective_iff_surjective.mp injective ⟨n, below⟩
  have value : key.publicHalf.apply m = n := congrArg Fin.val isImage
  refine ⟨m, ?_⟩
  rw [← value]
  exact inverts m m.isLt

/-! ## A key that inverts -/

/-- A key of two Mersenne primes. Its modulus has 1886 bits. -/
def mersenne : PrivateKey where
  publicHalf := ⟨(2 ^ 607 - 1) * (2 ^ 1279 - 1), 5, by decide +kernel⟩
  d := (4 * (2 ^ 607 - 2) * (2 ^ 1279 - 2) + 1) / 5
  p := 2 ^ 607 - 1
  q := 2 ^ 1279 - 1
  isPrivateKey := by decide +kernel

theorem inverts_mersenne : mersenne.Inverts := by
  have hp : Nat.Prime mersenne.p := lucas_lehmer_sufficiency 607 (by norm_num) (by norm_num)
  have hq : Nat.Prime mersenne.q := lucas_lehmer_sufficiency 1279 (by norm_num) (by norm_num)
  exact inverts_of_prime hp hq (by decide +kernel)

theorem size_mersenne : mersenne.publicHalf.size = 236 := by decide +kernel

end PrivateKey

end SealedTransfer.Rsa
