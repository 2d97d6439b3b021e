/-
# SealedTransfer.Proofs.Rsa.Encoding — RSA keys are read back

A private key that can be written is the key that is read from what was written: its numbers make one key
only, and those that are computed anew do not matter. A public key is read from nothing but what it is
written as, and it is read from that unless its modulus is too long.
-/
import SealedTransfer.Proofs.Asn1.Integer
import SealedTransfer.Rsa.Encoding

namespace SealedTransfer.Rsa

open Asn1 (Element)

/-- Numbers are read back from their elements. -/
theorem mapM_natural?_ofNat (numbers : List Nat) :
    (numbers.map Element.ofNat).mapM Element.natural? = some numbers := by
  induction numbers with
  | nil => rfl
  | cons n numbers ih =>
    rw [List.map_cons, List.mapM_cons, Asn1.natural?_ofNat, ih]
    rfl

namespace PublicKey

/-- The numbers of a key make that key. -/
theorem of?_self (key : PublicKey) : of? key.modulus key.exponent = some key := by
  rw [of?, dif_pos key.isPublicKey]

/-- The key that numbers make consists of them. -/
theorem of_of? {modulus exponent : Nat} {key : PublicKey} (made : of? modulus exponent = some key) :
    key.modulus = modulus ∧ key.exponent = exponent := by
  rw [of?] at made
  split at made
  · cases made
    exact ⟨rfl, rfl⟩
  · cases made

/-- What is read as a public key is the one way to write it, and may be received. -/
theorem of_decode? {octets : Bytes} {key : PublicKey} (read : decode? octets = some key) :
    octets = key.encode ∧ key.bits ≤ longestReceived := by
  simp only [decode?, Option.bind_eq_bind, Option.bind_eq_some_iff] at read
  obtain ⟨element, whole, elements, parts, shape⟩ := read
  split at shape
  · rename_i first second
    simp only [Option.bind_eq_some_iff] at shape
    obtain ⟨modulus, readModulus, exponent, readExponent, received⟩ := shape
    rw [Asn1.natural?_eq_some_iff] at readModulus readExponent
    rw [received?] at received
    split at received
    · rename_i short
      obtain ⟨sameModulus, sameExponent⟩ := of_of? received
      rw [(Asn1.element?_eq_some_iff.mp whole).1, (Asn1.eq_of_sequence? parts).1, readModulus,
        readExponent, encode, PublicKey.element, bits, sameModulus, sameExponent]
      exact ⟨rfl, short⟩
    · cases received
  · cases shape

/-- A key that may be received is written in few octets. -/
theorem length_encode_le {key : PublicKey} (received : key.bits ≤ longestReceived) :
    key.encode.length ≤ 537 := by
  have modulus : (Element.ofNat key.modulus).contents.length ≤ (4096 + 7) / 8 + 1 :=
    Asn1.length_naturalOctets_le received
  have exponent : (Element.ofNat key.exponent).contents.length ≤ (33 + 7) / 8 + 1 :=
    Asn1.length_naturalOctets_le (Bytes.bitLength_le key.isPublicKey.2.2.2.1)
  have short : (Element.ofNat key.modulus).contents.length
      + (Element.ofNat key.exponent).contents.length + 12 < Asn1.contentsBound := by
    unfold Asn1.contentsBound
    omega
  have pair := Asn1.length_encode_pair_le short
  rw [encode, element]
  omega

/-- The parts of a key that may be received are read from its encoding. -/
theorem read_encode {key : PublicKey} (received : key.bits ≤ longestReceived) :
    Asn1.element? key.encode = some key.element ∧
      key.element.sequence? = some [.ofNat key.modulus, .ofNat key.exponent] := by
  have known : ∀ e ∈ ([.ofNat key.modulus, .ofNat key.exponent] : List Element),
      Asn1.isIdentifier e.identifier = true := by
    simp only [List.forall_mem_cons]
    exact ⟨Asn1.isIdentifier_ofNat _, Asn1.isIdentifier_ofNat _, nofun⟩
  have short := length_encode_le received
  exact Asn1.read_sequence known (Nat.lt_of_le_of_lt short (by decide))

/-- **Reading a public key** accepts exactly what writing produces, of the keys that may be received. -/
theorem decode?_eq_some_iff {octets : Bytes} {key : PublicKey} :
    decode? octets = some key ↔ octets = key.encode ∧ key.bits ≤ longestReceived := by
  constructor
  · exact of_decode?
  · rintro ⟨rfl, received⟩
    obtain ⟨whole, parts⟩ := read_encode received
    have short : Bytes.bitLength key.modulus ≤ longestReceived := received
    rw [decode?, whole]
    simp only [Option.bind_eq_bind, Option.bind_some, parts, Asn1.natural?_ofNat, received?]
    rw [if_pos short]
    exact key.of?_self

end PublicKey

namespace PrivateKey

/-- The numbers of a key make that key. -/
theorem of?_self (key : PrivateKey) :
    of? key.publicHalf.modulus key.publicHalf.exponent key.d key.p key.q = some key := by
  rw [of?, key.publicHalf.of?_self]
  exact dif_pos key.isPrivateKey

/-- **A private key is read back**, if its factors have a coefficient and it is short enough. -/
theorem decode?_of_encode? {key : PrivateKey} {octets : Bytes} (written : key.encode? = some octets)
    (fits : octets.length < Asn1.contentsBound) : decode? octets = some key := by
  obtain ⟨coefficient, -, rfl⟩ := Option.map_eq_some_iff.mp written
  have known : ∀ e ∈ ([twoFactors, key.publicHalf.modulus, key.publicHalf.exponent, key.d, key.p,
      key.q, key.exponent₁, key.exponent₂, coefficient] : List Nat).map Element.ofNat,
      Asn1.isIdentifier e.identifier = true := by
    intro e inside
    obtain ⟨n, -, rfl⟩ := List.mem_map.mp inside
    exact Asn1.isIdentifier_ofNat n
  obtain ⟨whole, parts⟩ := Asn1.read_sequence known fits
  rw [decode?, element, whole]
  simp only [Option.bind_eq_bind, Option.bind_some, parts, mapM_natural?_ofNat, if_true]
  exact key.of?_self

end PrivateKey

end SealedTransfer.Rsa
