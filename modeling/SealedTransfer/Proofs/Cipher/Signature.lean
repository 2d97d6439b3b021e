/-
# SealedTransfer.Proofs.Cipher.Signature — signatures are checked with every salt

A signature does not tell how long its salt is. The lengths that signers prefer are tried first and then the
others, and a digest's length is tried even where the key has no room for it. No salt is found that the key
has no room for, so the order of the search and the extra length make no difference. What the owner signs,
with the longest salt, is among what everyone accepts.
-/
import SealedTransfer.Cipher.Seal
import SealedTransfer.Proofs.Rsa.Pss

namespace SealedTransfer.SealCipher

/-! ## Checking -/

section Checking

variable {cipher : SealCipher} {data signature : Bytes}

/-- The lengths that are tried: all that the key has room for, and that of a digest. -/
theorem mem_saltLengths {length : Nat} :
    length ∈ cipher.saltLengths ↔ length ≤ cipher.longestSalt ∨ length = Rsa.digestLength := by
  have preferred : length ∈ cipher.preferredSalts ↔
      length = cipher.longestSalt ∨ length = Rsa.digestLength := by
    simp [preferredSalts]
  by_cases first : length ∈ cipher.preferredSalts
  · have known := preferred.mp first
    simp only [saltLengths, List.mem_append, first, true_or, true_iff]
    omega
  · have others : cipher.preferredSalts.contains length = false := by simpa using first
    simp only [saltLengths, List.mem_append, List.mem_filter, List.mem_range, others, first]
    rw [preferred] at first
    simp only [Bool.not_false, and_true, false_or]
    omega

/-- **The search over the lengths finds what the plain search does**, from none to the longest. -/
theorem any_saltLengths :
    cipher.saltLengths.any (Rsa.Pss.verify cipher.publicHalf (Hash.Sha512.digest data) signature)
      = (List.range (cipher.longestSalt + 1)).any
        (Rsa.Pss.verify cipher.publicHalf (Hash.Sha512.digest data) signature) := by
  rw [Bool.eq_iff_iff, List.any_eq_true, List.any_eq_true]
  constructor
  · rintro ⟨length, -, accepted⟩
    -- what is accepted has room, the digest's length included
    have room : length ≤ cipher.longestSalt := Rsa.Pss.le_longestSalt_of_verify accepted
    exact ⟨length, List.mem_range.mpr (Nat.lt_succ_of_le room), accepted⟩
  · rintro ⟨length, inRange, accepted⟩
    have room := Nat.le_of_lt_succ (List.mem_range.mp inRange)
    exact ⟨length, mem_saltLengths.mpr (.inl room), accepted⟩

/-- Checking is the plain search. -/
theorem verify_eq :
    cipher.verify data signature =
      if (List.range (cipher.longestSalt + 1)).any
          (Rsa.Pss.verify cipher.publicHalf (Hash.Sha512.digest data) signature) then .ok ()
      else .error .signatureMismatch := by
  rw [verify, Rsa.Pss.verifyAny_eq, any_saltLengths]

/-- **A signature is accepted** exactly if it is with a salt of some length that the key has room for. -/
theorem verify_eq_ok : cipher.verify data signature = .ok () ↔ ∃ length ≤ cipher.longestSalt,
    Rsa.Pss.verify cipher.publicHalf (Hash.Sha512.digest data) signature length = true := by
  rw [verify_eq]
  constructor
  · intro accepted
    split at accepted
    · rename_i found
      obtain ⟨length, inRange, found⟩ := List.any_eq_true.mp found
      exact ⟨length, Nat.le_of_lt_succ (List.mem_range.mp inRange), found⟩
    · cases accepted
  · rintro ⟨length, room, found⟩
    exact if_pos (List.any_eq_true.mpr
      ⟨length, List.mem_range.mpr (Nat.lt_succ_of_le room), found⟩)

/-- **A signature is accepted** exactly if it stands for an encoding of the digest, whatever the salt. -/
theorem verify_eq_ok_iff_encode : cipher.verify data signature = .ok () ↔
    signature.length = cipher.publicHalf.size ∧
      ∃ salt, Rsa.Pss.encode? cipher.publicHalf.bits (Hash.Sha512.digest data) salt
        = some (Rsa.Pss.represented cipher.publicHalf signature) := by
  rw [verify_eq_ok]
  constructor
  · rintro ⟨length, -, accepted⟩
    obtain ⟨long, salt, -, made⟩ := Rsa.Pss.verify_iff.mp accepted
    exact ⟨long, salt, made⟩
  · rintro ⟨long, salt, made⟩
    have accepted := Rsa.Pss.verify_iff.mpr ⟨long, salt, rfl, made⟩
    exact ⟨salt.length, Rsa.Pss.le_longestSalt_of_verify accepted, accepted⟩

end Checking

/-! ## Signing -/

section Signing

variable (key : Rsa.PrivateKey) (data : Bytes) {entropy rest : Entropy} {signature : Bytes}

/-- The owner signs with the next octets for a salt, of the longest length. -/
theorem runFrom_sign : ((owner key).sign data).runFrom entropy =
    if entropy.canGive (owner key).longestSalt then
      (match Rsa.Pss.sign? key (Hash.Sha512.digest data)
          (entropy.slice entropy.position (owner key).longestSalt) with
        | some signature => .ok signature
        | none => .error .signingFailed, entropy.past (owner key).longestSalt)
    else (.error .signingFailed, entropy) := by
  show (Drawing.octets (owner key).longestSalt Fault.signingFailed >>= _).runFrom entropy = _
  rw [Drawing.runFrom_octets_bind]
  cases Rsa.Pss.sign? key (Hash.Sha512.digest data)
    (entropy.slice entropy.position (owner key).longestSalt) with
  | some signature => rfl
  | none => rfl

/-- What is signed is signed with these octets. -/
theorem sign?_of_sign
    (signed : ((owner key).sign data).runFrom entropy = (.ok signature, rest)) :
    Rsa.Pss.sign? key (Hash.Sha512.digest data)
      (entropy.slice entropy.position (owner key).longestSalt) = some signature := by
  rw [runFrom_sign] at signed
  split at signed
  · obtain ⟨made, -⟩ := Prod.mk.inj signed
    split at made
    · rename_i found
      rw [found, Except.ok.inj made]
    · cases made
  · cases signed

/-- **What the owner signs, everyone with the public half accepts.** -/
theorem verify_of_sign (signed : ((owner key).sign data).runFrom entropy = (.ok signature, rest)) :
    (recipient key.publicHalf).verify data signature = .ok () := by
  have accepted := Rsa.Pss.verify_of_sign? (sign?_of_sign key data signed)
  rw [Entropy.length_slice] at accepted
  exact verify_eq_ok.mpr ⟨_, Nat.le_refl _, accepted⟩

/-- **The owner of a key that inverts signs**, if there is room for a digest and the source can give a salt. -/
theorem exists_sign (inverts : key.Inverts)
    (room : Rsa.digestLength + 2 ≤ Rsa.Pss.encodedLength key.publicHalf.bits)
    (enough : entropy.canGive (owner key).longestSalt = true) :
    ∃ signature, ((owner key).sign data).runFrom entropy
      = (.ok signature, entropy.past (owner key).longestSalt) := by
  have fits : Rsa.digestLength + (entropy.slice entropy.position (owner key).longestSalt).length + 2
      ≤ Rsa.Pss.encodedLength key.publicHalf.bits := by
    rw [Entropy.length_slice]
    show _ + (Rsa.Pss.encodedLength key.publicHalf.bits - (Rsa.digestLength + 2)) + 2 ≤ _
    omega
  obtain ⟨signature, signed⟩ := Rsa.Pss.exists_sign? inverts (Hash.Sha512.digest data) fits
  refine ⟨signature, ?_⟩
  rw [runFrom_sign, if_pos enough, signed]

/-- Without room for a digest the salt is empty, and nothing is drawn or signed. -/
theorem sign_of_narrow
    (narrow : Rsa.Pss.encodedLength key.publicHalf.bits < Rsa.digestLength + 2) (entropy : Entropy) :
    ((owner key).sign data).runFrom entropy = (.error .signingFailed, entropy) := by
  have empty : (owner key).longestSalt = 0 := Nat.sub_eq_zero_of_le (Nat.le_of_lt narrow)
  have enough : entropy.canGive (owner key).longestSalt = true := by
    rw [empty]
    rfl
  rw [runFrom_sign, if_pos enough, Rsa.Pss.sign?_of_narrow narrow, empty]
  rfl

end Signing

/-! ## Both sides -/

/-- **Signatures are checked with every salt, and what is signed is accepted.** A signature is accepted
exactly if it is with a salt of some length from none to the longest, and so exactly if it stands for an
encoding of the digest; trying the preferred lengths first comes to the same as trying all of these in order.
What the owner of a key signs is accepted by everyone with its public half. Keys with an encoded message of
less than sixty-six octets sign nothing. -/
theorem signatures_checked_with_every_salt :
    (∀ (cipher : SealCipher) (data signature : Bytes),
      (cipher.verify data signature = .ok () ↔ ∃ length ≤ cipher.longestSalt,
        Rsa.Pss.verify cipher.publicHalf (Hash.Sha512.digest data) signature length = true) ∧
      (cipher.verify data signature = .ok () ↔ signature.length = cipher.publicHalf.size ∧
        ∃ salt, Rsa.Pss.encode? cipher.publicHalf.bits (Hash.Sha512.digest data) salt
          = some (Rsa.Pss.represented cipher.publicHalf signature)) ∧
      cipher.verify data signature =
        if (List.range (cipher.longestSalt + 1)).any
            (Rsa.Pss.verify cipher.publicHalf (Hash.Sha512.digest data) signature) then .ok ()
        else .error .signatureMismatch) ∧
    (∀ (key : Rsa.PrivateKey) (data : Bytes) (entropy rest : Entropy) (signature : Bytes),
      ((owner key).sign data).runFrom entropy = (.ok signature, rest) →
        (recipient key.publicHalf).verify data signature = .ok ()) ∧
    (∀ (key : Rsa.PrivateKey) (data : Bytes) (entropy : Entropy),
      Rsa.Pss.encodedLength key.publicHalf.bits < 66 →
        ((owner key).sign data).runFrom entropy = (.error .signingFailed, entropy)) := by
  refine ⟨?_, ?_, ?_⟩
  · intro cipher data signature
    exact ⟨verify_eq_ok, verify_eq_ok_iff_encode, verify_eq⟩
  · intro key data entropy rest signature signed
    exact verify_of_sign key data signed
  · intro key data entropy narrow
    exact sign_of_narrow key data narrow entropy

/-- A signature with a large key, and a key too small for one. -/
theorem signatures_checked_for_samples :
    (∃ signature, ((owner .mersenne).sign [1, 2, 3]).runFrom ⟨fun _ => 1, 0, none⟩
        = (.ok signature, Entropy.past (owner .mersenne).longestSalt ⟨fun _ => 1, 0, none⟩) ∧
      (recipient Rsa.PrivateKey.mersenne.publicHalf).verify [1, 2, 3] signature = .ok ()) ∧
    ((owner ⟨⟨33, 3, by decide⟩, 7, 3, 11, by decide⟩).sign [1, 2, 3]).runFrom ⟨fun _ => 1, 0, none⟩
      = (.error .signingFailed, ⟨fun _ => 1, 0, none⟩) := by
  obtain ⟨-, accepts, fails⟩ := signatures_checked_with_every_salt
  constructor
  · have bits : Rsa.PrivateKey.mersenne.publicHalf.bits = 1886 := by decide +kernel
    have room : Rsa.digestLength + 2
        ≤ Rsa.Pss.encodedLength Rsa.PrivateKey.mersenne.publicHalf.bits := by
      rw [bits]
      decide
    have endless (count : Nat) : Entropy.canGive ⟨fun _ => 1, 0, none⟩ count = true := by
      simp [Entropy.canGive]
    obtain ⟨signature, signed⟩ :=
      exists_sign .mersenne [1, 2, 3] Rsa.PrivateKey.inverts_mersenne room (endless _)
    exact ⟨signature, signed, accepts _ _ _ _ _ signed⟩
  · exact fails _ _ _ (by decide)

end SealedTransfer.SealCipher
