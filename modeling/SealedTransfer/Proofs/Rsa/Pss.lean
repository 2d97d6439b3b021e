/-
# SealedTransfer.Proofs.Rsa.Pss — checking accepts exactly what encoding makes

Taking the mask off an encoded message undoes putting it on, but for the leading bits, which are cleared both
times; nothing is lost with them, since what is masked begins with zeros. So checking with a salt length is
asking for a salt of that length whose encoding the message is. Signatures are accepted because the public
operation leads back to the encoded message, which is shorter than the modulus by a bit.
-/
import SealedTransfer.Proofs.Rsa.Key
import SealedTransfer.Rsa.Pss

namespace SealedTransfer.Rsa.Pss

/-! ## Leading bits -/

/-- An octet without its leading bits. -/
def lowBits (spare : Nat) (octet : UInt8) : UInt8 := UInt8.ofNat (octet.toNat % (1 <<< (8 - spare)))

section LeadingBits

variable (spare : Nat)

theorem clearBits_cons (first : UInt8) (rest : Bytes) :
    clearBits spare (first :: rest) = lowBits spare first :: rest := rfl

@[simp] theorem length_clearBits (octets : Bytes) :
    (clearBits spare octets).length = octets.length := by
  cases octets <;> rfl

theorem toNat_lowBits (octet : UInt8) :
    (lowBits spare octet).toNat = octet.toNat % 2 ^ (8 - spare) := by
  have small : octet.toNat % 2 ^ (8 - spare) < 256 :=
    Nat.lt_of_le_of_lt (Nat.mod_le _ _) octet.toNat_lt
  rw [lowBits, Nat.one_shiftLeft, UInt8.toNat_ofNat']
  exact Nat.mod_eq_of_lt small

/-- An octet that is small has no leading bits to lose. -/
theorem lowBits_of_lt {octet : UInt8} (h : octet.toNat < 2 ^ (8 - spare)) :
    lowBits spare octet = octet := by
  rw [← UInt8.toNat_inj, toNat_lowBits, Nat.mod_eq_of_lt h]

theorem lowBits_lowBits (octet : UInt8) : lowBits spare (lowBits spare octet) = lowBits spare octet := by
  apply lowBits_of_lt
  rw [toNat_lowBits]
  exact Nat.mod_lt _ (Nat.two_pow_pos _)

/-- An octet masked and unmasked, its leading bits cleared each time, has lost nothing else. -/
theorem lowBits_xor_lowBits_xor (octet other : UInt8) :
    lowBits spare (lowBits spare (octet ^^^ other) ^^^ other) = lowBits spare octet := by
  rw [← UInt8.toNat_inj]
  simp only [toNat_lowBits, UInt8.toNat_xor, Nat.xor_mod_two_pow, Nat.mod_mod, Nat.xor_assoc,
    Nat.xor_self, Nat.xor_zero]

/-- Clearing twice clears no more. -/
theorem clearBits_clearBits (octets : Bytes) :
    clearBits spare (clearBits spare octets) = clearBits spare octets := by
  cases octets with
  | nil => rfl
  | cons first rest => rw [clearBits_cons, clearBits_cons, lowBits_lowBits]

/-- **Masking and unmasking**, with the leading bits cleared each time, clears them. -/
theorem clearBits_xor_clearBits_xor {data mask : Bytes} (long : data.length ≤ mask.length) :
    clearBits spare (Bytes.xor (clearBits spare (Bytes.xor data mask)) mask) = clearBits spare data := by
  cases data with
  | nil => rfl
  | cons first data =>
    cases mask with
    | nil => cases long
    | cons other mask =>
      have rest : Bytes.xor (Bytes.xor data mask) mask = data :=
        Bytes.xor_xor_cancel (Nat.le_of_succ_le_succ long)
      show lowBits spare (lowBits spare (first ^^^ other) ^^^ other)
        :: Bytes.xor (Bytes.xor data mask) mask = lowBits spare first :: data
      rw [rest, lowBits_xor_lowBits_xor]

end LeadingBits

/-- The leading bits are those that an encoded message has more than the modulus, but for one. -/
theorem spareBits_add (bits : Nat) : spareBits bits + (bits - 1) = 8 * encodedLength bits := by
  unfold spareBits encodedLength
  omega

/-- They are less than an octet. -/
theorem spareBits_lt (bits : Nat) : spareBits bits < 8 := by
  unfold spareBits encodedLength
  omega

/-- What is masked loses no bits: it begins with a zero octet, or with a one. -/
theorem clearBits_dataBlock (bits length : Nat) (salt : Bytes) :
    clearBits (spareBits bits) (dataBlock length salt) = dataBlock length salt := by
  have room : 1 ≤ 8 - spareBits bits := by
    have := spareBits_lt bits
    omega
  have two : 2 ^ 1 ≤ 2 ^ (8 - spareBits bits) := Nat.pow_le_pow_right (by decide) room
  unfold dataBlock
  cases length - salt.length - 1 with
  | zero =>
    show lowBits (spareBits bits) 1 :: salt = 1 :: salt
    rw [lowBits_of_lt _ (show (1 : UInt8).toNat < _ from Nat.lt_of_lt_of_le (by decide) two)]
  | succ count =>
    show lowBits (spareBits bits) 0 :: _ = 0 :: _
    rw [lowBits_of_lt _ (show (0 : UInt8).toNat < _ from Nat.lt_of_lt_of_le (by decide) two)]

/-! ## The mask -/

/-- What the mask is put on and taken off with alike: the mask of a digest, and the leading bits cleared. -/
def turn (bits : Nat) (bound data : Bytes) : Bytes :=
  clearBits (spareBits bits) (Bytes.xor data (mask bound data.length))

section Turning

variable (bits : Nat) (bound data : Bytes)

@[simp] theorem length_turn : (turn bits bound data).length = data.length := by
  rw [turn, length_clearBits, length_xor_mask]

/-- **The mask comes off as it was put on**, and takes the leading bits with it. -/
theorem turn_turn : turn bits bound (turn bits bound data) = clearBits (spareBits bits) data := by
  rw [turn, length_turn, turn]
  exact clearBits_xor_clearBits_xor _ (Nat.le_of_eq (length_mask bound data.length).symm)

theorem clearBits_turn : clearBits (spareBits bits) (turn bits bound data) = turn bits bound data :=
  clearBits_clearBits _ _

end Turning

/-! ## Checking an encoded message -/

section Checking

variable {bits saltLength : Nat} {digest encoded : Bytes} {opened : Opened}

theorem length_dataBlock {length : Nat} {salt : Bytes} (room : salt.length + 1 ≤ length) :
    (dataBlock length salt).length = length := by
  rw [dataBlock, List.length_append, Bytes.length_zeros, List.length_cons]
  omega

@[simp] theorem length_saltedDigest (digest salt : Bytes) :
    (saltedDigest digest salt).length = digestLength :=
  Hash.Sha512.length_digest _

/-- An encoded message has room for digest and salt, and is put together from them. -/
theorem encode?_eq_some_iff {salt : Bytes} :
    encode? bits digest salt = some encoded ↔ digestLength + salt.length + 2 ≤ encodedLength bits ∧
      encoded = turn bits (saltedDigest digest salt)
        (dataBlock (encodedLength bits - digestLength - 1) salt) ++ saltedDigest digest salt ++ [0xBC] := by
  unfold encode?
  dsimp only
  split
  · rename_i room
    rw [Option.some.injEq]
    exact ⟨fun same => ⟨room, same.symm⟩, fun same => same.2.symm⟩
  · rename_i narrow
    simp [narrow]

/-- **The mask comes off** an encoded message that is a masked part, a digest and the closing octet. -/
theorem open?_eq_some_iff (long : encoded.length = encodedLength bits) :
    open? bits encoded = some opened ↔ digestLength + 2 ≤ encodedLength bits ∧
      ∃ masked bound, masked.length = encodedLength bits - digestLength - 1 ∧
        bound.length = digestLength ∧ encoded = masked ++ bound ++ [0xBC] ∧
        clearBits (spareBits bits) masked = masked ∧ opened = ⟨turn bits bound masked, bound⟩ := by
  constructor
  · intro h
    unfold open? at h
    dsimp only at h
    split at h
    · rename_i sound
      obtain ⟨room, closed, cleared⟩ := sound
      obtain ⟨front, rfl⟩ := List.getLast?_eq_some_iff.mp closed
      rw [List.length_append, List.length_singleton] at long
      have cut : encodedLength bits - digestLength - 1 ≤ front.length := by omega
      have rest : (front.drop (encodedLength bits - digestLength - 1)).length = digestLength := by
        rw [List.length_drop]
        omega
      rw [List.take_append_of_le_length cut] at h cleared
      rw [List.drop_append_of_le_length cut, List.take_left' rest] at h
      refine ⟨room, _, _, List.length_take_of_le cut, rest, ?_, cleared, (Option.some.inj h).symm⟩
      rw [List.take_append_drop]
    · cases h
  · rintro ⟨room, masked, bound, maskedLong, boundLong, rfl, cleared, rfl⟩
    have first : (masked ++ bound ++ [0xBC]).take (encodedLength bits - digestLength - 1) = masked := by
      rw [List.append_assoc]
      exact List.take_left' maskedLong
    have second : ((masked ++ bound ++ [0xBC]).drop (encodedLength bits - digestLength - 1)).take
        digestLength = bound := by
      rw [List.append_assoc, List.drop_left' maskedLong]
      exact List.take_left' boundLong
    unfold open?
    simp only [first, second]
    rw [if_pos ⟨room, List.getLast?_concat, cleared⟩]
    rfl

/-- **An opened message holds a salt** that stands behind zeros and a one and binds the digest. -/
theorem Opened.holds_iff :
    opened.holds digest saltLength = true ↔ ∃ salt, salt.length = saltLength ∧
      saltLength + 1 ≤ opened.data.length ∧ opened.data = dataBlock opened.data.length salt ∧
      opened.bound = saltedDigest digest salt := by
  simp only [Opened.holds, Bool.and_eq_true, decide_eq_true_eq, beq_iff_eq]
  constructor
  · rintro ⟨⟨room, front⟩, binds⟩
    have long : (opened.data.drop (opened.data.length - saltLength - 1 + 1)).length = saltLength := by
      rw [List.length_drop]
      omega
    refine ⟨_, long, room, ?_, binds.symm⟩
    rw [dataBlock, long]
    calc opened.data
        = opened.data.take (opened.data.length - saltLength - 1 + 1)
          ++ opened.data.drop (opened.data.length - saltLength - 1 + 1) :=
          (List.take_append_drop _ _).symm
      _ = Bytes.zeros (opened.data.length - saltLength - 1)
          ++ 1 :: opened.data.drop (opened.data.length - saltLength - 1 + 1) := by
          rw [front, List.append_assoc]
          rfl
  · rintro ⟨salt, rfl, room, shape, binds⟩
    have whole : opened.data
        = Bytes.zeros (opened.data.length - salt.length - 1) ++ [1] ++ salt := by
      rw [List.append_assoc]
      exact shape
    have front : (Bytes.zeros (opened.data.length - salt.length - 1) ++ [1]).length
        = opened.data.length - salt.length - 1 + 1 := by
      rw [List.length_append, Bytes.length_zeros, List.length_singleton]
    refine ⟨⟨room, ?_⟩, ?_⟩
    · exact (congrArg (List.take _) whole).trans (List.take_left' front)
    · have behind : opened.data.drop (opened.data.length - salt.length - 1 + 1) = salt :=
        (congrArg (List.drop _) whole).trans (List.drop_left' front)
      rw [behind, binds]

/-- **Checking accepts exactly what encoding makes**: a salt of the given length is found in an encoded message
if the message is the encoding of the digest with such a salt. -/
theorem exists_open?_iff (long : encoded.length = encodedLength bits) :
    (∃ opened, open? bits encoded = some opened ∧ opened.holds digest saltLength = true) ↔
      ∃ salt, salt.length = saltLength ∧ encode? bits digest salt = some encoded := by
  simp only [open?_eq_some_iff long, Opened.holds_iff, encode?_eq_some_iff]
  constructor
  · rintro ⟨_, ⟨room, masked, bound, maskedLong, -, rfl, cleared, rfl⟩, salt, rfl, fits, shape, binds⟩
    dsimp only at fits shape binds
    rw [length_turn, maskedLong] at fits shape
    have remasked : turn bits bound (dataBlock (encodedLength bits - digestLength - 1) salt)
        = masked := by
      rw [← shape, turn_turn, cleared]
    refine ⟨salt, rfl, by omega, ?_⟩
    rw [← binds, remasked]
  · rintro ⟨salt, rfl, room, whole⟩
    have fits : salt.length + 1 ≤ encodedLength bits - digestLength - 1 := by omega
    have dataLong := length_dataBlock fits
    refine ⟨⟨dataBlock (encodedLength bits - digestLength - 1) salt, saltedDigest digest salt⟩,
      ⟨by omega, _, saltedDigest digest salt, ?_, length_saltedDigest _ _, whole,
        clearBits_turn _ _ _, ?_⟩, salt, rfl, ?_, ?_, rfl⟩
    · rw [length_turn, dataLong]
    · rw [turn_turn, clearBits_dataBlock]
    · rw [dataLong]
      exact fits
    · rw [dataLong]

end Checking

/-! ## Signatures -/

section Signatures

/-- The encoded message that a signature of the right length stands for. -/
def represented (key : PublicKey) (signature : Bytes) : Bytes :=
  (Bytes.ofNat key.size (key.apply (Bytes.toNat signature))).drop (key.size - encodedLength key.bits)

variable {key : PublicKey} {digest signature : Bytes} {saltLength : Nat}

/-- An encoded message is not longer than the modulus. -/
theorem encodedLength_le_size (key : PublicKey) : encodedLength key.bits ≤ key.size := by
  unfold encodedLength PublicKey.size
  omega

theorem length_represented (key : PublicKey) (signature : Bytes) :
    (represented key signature).length = encodedLength key.bits := by
  rw [represented, List.length_drop, Bytes.length_ofNat]
  have := encodedLength_le_size key
  omega

/-- **A signature is accepted** exactly if it has the right length and stands for an encoding of the digest
with a salt of the given length. -/
theorem verify_iff :
    verify key digest signature saltLength = true ↔ signature.length = key.size ∧
      ∃ salt, salt.length = saltLength ∧
        encode? key.bits digest salt = some (represented key signature) := by
  rw [← exists_open?_iff (length_represented key signature)]
  unfold verify
  by_cases long : signature.length = key.size
  · have recovered : recover? key signature = open? key.bits (represented key signature) :=
      if_pos long
    rw [recovered]
    cases open? key.bits (represented key signature) with
    | none => simp
    | some opened => simp [long]
  · have unrecovered : recover? key signature = none := if_neg long
    rw [unrecovered]
    simp [long]

/-- No salt is longer than the longest that the key has room for. -/
theorem le_longestSalt_of_verify (h : verify key digest signature saltLength = true) :
    saltLength ≤ longestSalt key.bits := by
  obtain ⟨-, salt, rfl, made⟩ := verify_iff.mp h
  have room := (encode?_eq_some_iff.mp made).1
  unfold longestSalt
  omega

end Signatures

/-! ## Signing -/

section Signing

variable {bits : Nat} {digest salt encoded signature : Bytes} {key : PrivateKey}

/-- An encoded message has the length of encoded messages. -/
theorem length_of_encode? (made : encode? bits digest salt = some encoded) :
    encoded.length = encodedLength bits := by
  obtain ⟨room, rfl⟩ := encode?_eq_some_iff.mp made
  have dataLong := length_dataBlock
    (show salt.length + 1 ≤ encodedLength bits - digestLength - 1 by omega)
  rw [List.length_append, List.length_append, length_turn, dataLong, length_saltedDigest,
    List.length_singleton]
  omega

/-- **A signature is accepted** with the salt that it was made with. -/
theorem verify_of_sign? (signed : sign? key digest salt = some signature) :
    verify key.publicHalf digest signature salt.length = true := by
  obtain ⟨encoded, made, signed⟩ := Option.bind_eq_some_iff.mp signed
  obtain ⟨m, found, signed⟩ := Option.bind_eq_some_iff.mp signed
  obtain rfl := Option.some.inj signed
  have long := length_of_encode? made
  have short := encodedLength_le_size key.publicHalf
  -- the signature is the number that was found, and that leads back to the encoded message
  have value : Bytes.toNat (Bytes.ofNat key.publicHalf.size m) = m := by
    rw [Bytes.toNat_ofNat]
    exact Nat.mod_eq_of_lt ((PrivateKey.lt_of_invert? found).trans key.publicHalf.modulus_lt)
  have back : represented key.publicHalf (Bytes.ofNat key.publicHalf.size m) = encoded := by
    rw [represented, value, PrivateKey.apply_of_invert? found,
      Bytes.ofNat_toNat_of_le (long.trans_le short), ← long]
    exact List.drop_left' (Bytes.length_zeros _)
  refine verify_iff.mpr ⟨Bytes.length_ofNat _ _, salt, rfl, ?_⟩
  rw [back, made]

/-- An encoded message is a number with a bit less than the modulus. -/
theorem toNat_lt_of_encode? (made : encode? bits digest salt = some encoded) :
    Bytes.toNat encoded < 2 ^ (bits - 1) := by
  have long := length_of_encode? made
  obtain ⟨room, whole⟩ := encode?_eq_some_iff.mp made
  obtain ⟨first, rest, front⟩ : ∃ first rest, turn bits (saltedDigest digest salt)
      (dataBlock (encodedLength bits - digestLength - 1) salt) = first :: rest := by
    apply List.exists_cons_of_length_pos
    rw [length_turn, length_dataBlock (by omega)]
    omega
  have cleared := clearBits_turn bits (saltedDigest digest salt)
    (dataBlock (encodedLength bits - digestLength - 1) salt)
  rw [front, clearBits_cons, List.cons.injEq] at cleared
  have small : first.toNat < 2 ^ (8 - spareBits bits) := by
    rw [← cleared.1, toNat_lowBits]
    exact Nat.mod_lt _ (Nat.two_pow_pos _)
  rw [front, List.append_assoc, List.cons_append] at whole
  rw [whole] at long ⊢
  rw [List.length_cons] at long
  have below := Bytes.toNat_cons_lt small (rest ++ (saltedDigest digest salt ++ [0xBC]))
  have spare := spareBits_lt bits
  have sum := spareBits_add bits
  rwa [show bits - 1 = 8 * (rest ++ (saltedDigest digest salt ++ [0xBC])).length
    + (8 - spareBits bits) by omega]

/-- **The owner of a key that inverts signs every digest**, with every salt that the key has room for. -/
theorem exists_sign? (inverts : key.Inverts) (digest : Bytes)
    (room : digestLength + salt.length + 2 ≤ encodedLength key.publicHalf.bits) :
    ∃ signature, sign? key digest salt = some signature := by
  obtain ⟨encoded, made⟩ : ∃ encoded, encode? key.publicHalf.bits digest salt = some encoded :=
    ⟨_, encode?_eq_some_iff.mpr ⟨room, rfl⟩⟩
  have below := (toNat_lt_of_encode? made).trans_le
    (Bytes.two_pow_bitLength_sub_one_le (Nat.pos_iff_ne_zero.mp key.publicHalf.modulus_pos))
  obtain ⟨m, found⟩ := inverts.exists_invert? below
  refine ⟨Bytes.ofNat key.publicHalf.size m, ?_⟩
  exact Option.bind_eq_some_iff.mpr
    ⟨encoded, made, Option.bind_eq_some_iff.mpr ⟨m, found, rfl⟩⟩

/-- Without room for digest and closing octets nothing is signed. -/
theorem sign?_of_narrow (narrow : encodedLength key.publicHalf.bits < digestLength + 2)
    (digest salt : Bytes) : sign? key digest salt = none := by
  have unmade : encode? key.publicHalf.bits digest salt = none := by
    unfold encode?
    exact if_neg (by omega)
  rw [sign?, unmade]
  rfl

end Signing

end SealedTransfer.Rsa.Pss
