/-
# SealedTransfer.Rsa.Key — RSA keys and their operations

A public key is an odd modulus and an odd exponent within bounds. A private key adds the private
exponent and the two factors of the modulus; whether the factors are prime is nobody's business but
its owner's. The private operation works modulo each factor and joins the two results. It then applies
the public operation to what it found and gives nothing away if that does not lead back.
-/
import SealedTransfer.Rsa.Arithmetic

namespace SealedTransfer.Rsa

/-! ## Public keys -/

/-- A modulus and an exponent that make a public key. -/
def IsPublicKey (modulus exponent : Nat) : Prop :=
  modulus % 2 = 1 ∧ exponent % 2 = 1 ∧ 2 ≤ exponent ∧ exponent < 0x200000000 ∧ exponent < modulus

instance (modulus exponent : Nat) : Decidable (IsPublicKey modulus exponent) := by
  unfold IsPublicKey; infer_instance

/-- A public key. -/
structure PublicKey where
  modulus : Nat
  exponent : Nat
  isPublicKey : IsPublicKey modulus exponent
deriving DecidableEq

namespace PublicKey

/-- The key of a modulus and an exponent, if they make one. -/
def of? (modulus exponent : Nat) : Option PublicKey :=
  if h : IsPublicKey modulus exponent then some ⟨modulus, exponent, h⟩ else none

/-- How many bits the modulus has. -/
def bits (key : PublicKey) : Nat := Bytes.bitLength key.modulus

/-- How many octets a ciphertext or a signature has. -/
def size (key : PublicKey) : Nat := (key.bits + 7) / 8

/-- The longest modulus, in bits, that a key received by itself may have. -/
def longestReceived : Nat := 4096

/-- The public operation. -/
def apply (key : PublicKey) (n : Nat) : Nat := powMod key.modulus n key.exponent

end PublicKey

/-! ## Private keys -/

/-- A private exponent and two factors that make a private key for a modulus and an exponent. -/
def IsPrivateKey (modulus exponent d p q : Nat) : Prop :=
  1 < p ∧ 1 < q ∧ p * q = modulus ∧ d * exponent % (p - 1) = 1 ∧ d * exponent % (q - 1) = 1

instance (modulus exponent d p q : Nat) : Decidable (IsPrivateKey modulus exponent d p q) := by
  unfold IsPrivateKey; infer_instance

/-- A private key. -/
structure PrivateKey where
  publicHalf : PublicKey
  d : Nat
  p : Nat
  q : Nat
  isPrivateKey : IsPrivateKey publicHalf.modulus publicHalf.exponent d p q
deriving DecidableEq

namespace PrivateKey

/-- The key of the given numbers, if they make one. -/
def of? (modulus exponent d p q : Nat) : Option PrivateKey :=
  match PublicKey.of? modulus exponent with
  | none => none
  | some key =>
    if h : IsPrivateKey key.modulus key.exponent d p q then some ⟨key, d, p, q, h⟩ else none

/-- The inverse of the second factor modulo the first, if it has one. -/
def coefficient? (key : PrivateKey) : Option Nat := inverse? key.q key.p

/-- The private exponent modulo the first factor less one. -/
def exponent₁ (key : PrivateKey) : Nat := key.d % (key.p - 1)

/-- The private exponent modulo the second factor less one. -/
def exponent₂ (key : PrivateKey) : Nat := key.d % (key.q - 1)

/-- The power with the private exponent: modulo each factor and joined, or modulo their product where
the factors have no coefficient to join with. -/
def power (key : PrivateKey) (n : Nat) : Nat :=
  match key.coefficient? with
  | some coefficient =>
    let m₁ := powMod key.p n key.exponent₁
    let m₂ := powMod key.q n key.exponent₂
    let difference := (((m₁ : Int) - m₂) % key.p).toNat
    m₂ + difference * coefficient % key.p * key.q
  | none => powMod key.publicHalf.modulus n key.d

/-- The private operation: the number that the public operation takes to `n`, if the private exponent
finds it. -/
def invert? (key : PrivateKey) (n : Nat) : Option Nat :=
  let m := key.power n
  if n < key.publicHalf.modulus ∧ key.publicHalf.apply m = n then some m else none

/-- What the private operation finds, the public operation takes back. -/
theorem apply_of_invert? {key : PrivateKey} {n m : Nat} (h : key.invert? n = some m) :
    key.publicHalf.apply m = n := by
  simp only [invert?] at h
  split at h
  · rename_i checked
    cases h
    exact checked.2
  · cases h

end PrivateKey

end SealedTransfer.Rsa
