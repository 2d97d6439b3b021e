/-
# SealedTransfer.Proofs.Asn1.Integer — natural numbers are read back

The octets of a natural number are the shortest that leave the sign bit clear, which is the one form in
which a number is read. So reading is the exact inverse of writing, as it is for elements.
-/
import SealedTransfer.Asn1.Integer
import SealedTransfer.Proofs.Asn1.Canonical

namespace SealedTransfer.Asn1

/-- What the octets of a natural number are: shortest, without a sign, and of that value. -/
structure IsNatural (octets : Bytes) (n : Nat) : Prop where
  shortest : isShortest octets = true
  unsigned : octets.head?.all (· < 0x80) = true
  value : Bytes.toNat octets = n

/-- A first octet that counts and has no sign bit needs no zero before it. -/
theorem isShortest_of_positive {first : UInt8} {rest : Bytes} (some : first ≠ 0)
    (unsigned : first < 0x80) : isShortest (first :: rest) = true := by
  have notOnes : first ≠ 0xFF := by
    rintro rfl
    exact absurd unsigned (by decide)
  cases rest with
  | nil => rfl
  | cons second rest => simp [isShortest, some, notOnes]

/-- A zero stands before a sign bit. -/
theorem isShortest_of_sign {first : UInt8} {rest : Bytes} (signed : 0x80 ≤ first) :
    isShortest (0 :: first :: rest) = true := by
  have notBelow : ¬ first < 0x80 := by
    rw [UInt8.not_lt]
    exact signed
  simp [isShortest, notBelow]

/-- The octets of a natural number are just that. -/
theorem isNatural_naturalOctets (n : Nat) : IsNatural (naturalOctets n) n := by
  have value := Bytes.toNat_ofNatMinimal n
  unfold naturalOctets
  cases minimal : Bytes.ofNatMinimal n with
  | nil =>
    rw [minimal] at value
    exact ⟨rfl, rfl, value⟩
  | cons first rest =>
    have some := Bytes.ne_zero_of_ofNatMinimal minimal
    rw [minimal] at value
    dsimp only
    split
    · rename_i signed
      exact ⟨isShortest_of_sign signed, rfl, (Bytes.toNat_zero_cons _).trans value⟩
    · rename_i unsigned
      rw [UInt8.not_le] at unsigned
      exact ⟨isShortest_of_positive some unsigned, by simpa using unsigned, value⟩

/-- **A natural number is read back** from its element. -/
@[simp] theorem natural?_ofNat (n : Nat) : (Element.ofNat n).natural? = some n := by
  have natural := isNatural_naturalOctets n
  have octets : (Element.ofNat n).integerOctets? = some (naturalOctets n) := by
    rw [Element.integerOctets?, Element.ofNat, if_pos ⟨rfl, natural.shortest⟩]
  rw [Element.natural?, octets]
  simp only [Option.bind_eq_bind, Option.bind_some, natural.unsigned, if_true, natural.value]

/-- Octets that are read as a number are those that the number is written in. -/
theorem IsNatural.naturalOctets_eq {octets : Bytes} {n : Nat} (natural : IsNatural octets n) :
    naturalOctets n = octets := by
  obtain ⟨shortest, unsigned, rfl⟩ := natural
  cases octets with
  | nil => cases shortest
  | cons first rest =>
    have below : first < 0x80 := by simpa using unsigned
    by_cases zero : first = 0
    · subst zero
      rw [Bytes.toNat_zero_cons]
      cases rest with
      | nil => rfl
      | cons second rest =>
        -- after a zero there is a sign bit, so it was written to leave the bit clear
        have signed : 0x80 ≤ second := by simpa [isShortest] using shortest
        have counts : second ≠ 0 := by
          rintro rfl
          exact absurd signed (by decide)
        simp only [naturalOctets, Bytes.ofNatMinimal_toNat counts]
        exact if_pos signed
    · simp only [naturalOctets, Bytes.ofNatMinimal_toNat zero]
      exact if_neg (UInt8.not_le.mpr below)

/-- **Reading a natural number** accepts exactly what writing produces. -/
theorem natural?_eq_some_iff {element : Element} {n : Nat} :
    element.natural? = some n ↔ element = .ofNat n := by
  constructor
  · intro read
    simp only [Element.natural?, Element.integerOctets?, Option.bind_eq_bind,
      Option.bind_eq_some_iff] at read
    obtain ⟨octets, integer, number⟩ := read
    split at integer
    · rename_i known
      split at number
      · rename_i unsigned
        cases integer
        cases number
        rw [Element.ofNat, IsNatural.naturalOctets_eq ⟨known.2, unsigned, rfl⟩, ← known.1]
      · cases number
    · cases integer
  · rintro rfl
    exact natural?_ofNat n

/-- A natural number of few binary digits is written in few octets. -/
theorem length_naturalOctets_le {n bits : Nat} (h : Bytes.bitLength n ≤ bits) :
    (naturalOctets n).length ≤ (bits + 7) / 8 + 1 := by
  have minimal : (Bytes.ofNatMinimal n).length ≤ (bits + 7) / 8 := by
    rw [Bytes.length_ofNatMinimal, Bytes.octetLength]
    omega
  unfold naturalOctets
  cases octets : Bytes.ofNatMinimal n with
  | nil =>
    show 1 ≤ _
    omega
  | cons first rest =>
    rw [octets] at minimal
    dsimp only
    split
    · rw [List.length_cons]
      omega
    · omega

theorem isIdentifier_ofNat (n : Nat) : isIdentifier (Element.ofNat n).identifier = true := by
  show isIdentifier integerIdentifier = true
  decide

end SealedTransfer.Asn1
