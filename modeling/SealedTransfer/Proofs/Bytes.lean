/-
# SealedTransfer.Proofs.Bytes — how large the numbers of byte strings are

A byte string of `n` octets spells a number below `256 ^ n`, and a number below that is read back from
its `n` digits. How many binary digits a number has says between which powers of two it lies, so the
fewest octets are enough.
-/
import SealedTransfer.Bytes
import Mathlib.Algebra.Group.Nat.Defs

namespace SealedTransfer.Bytes

/-! ## Least significant octet first -/

/-- A number is read back from its digits, up to what the width holds. -/
theorem littleNat_ofLittleNat (width n : Nat) :
    littleNat (ofLittleNat width n) = n % 256 ^ width := by
  induction width generalizing n with
  | zero => simp [ofLittleNat, littleNat, Nat.mod_one]
  | succ width ih =>
    rw [ofLittleNat, littleNat, ih, Nat.pow_succ, Nat.mul_comm (256 ^ width) 256, Nat.mod_mul]
    simp

/-- The octets behind others count for as much more as the others have room for. -/
theorem littleNat_append (low high : Bytes) :
    littleNat (low ++ high) = littleNat low + 256 ^ low.length * littleNat high := by
  induction low with
  | nil => simp [littleNat]
  | cons b low ih =>
    rw [List.cons_append, littleNat, ih, littleNat, List.length_cons, Nat.pow_succ, Nat.mul_add,
      Nat.mul_comm (256 ^ low.length) 256, Nat.mul_assoc, Nat.add_assoc]

/-- A byte string of `n` octets spells a number below `256 ^ n`. -/
theorem littleNat_lt (bytes : Bytes) : littleNat bytes < 256 ^ bytes.length := by
  induction bytes with
  | nil => simp [littleNat]
  | cons b rest ih =>
    have hb : b.toNat < 256 := b.toNat_lt
    rw [littleNat, List.length_cons, Nat.pow_succ]
    omega

/-! ## Most significant octet first -/

theorem toNat_ofNat (width n : Nat) : toNat (ofNat width n) = n % 256 ^ width := by
  simp [toNat, ofNat, littleNat_ofLittleNat]

/-- The first octet counts for as much more as the others have room for. -/
theorem toNat_cons (first : UInt8) (rest : Bytes) :
    toNat (first :: rest) = toNat rest + 256 ^ rest.length * first.toNat := by
  rw [toNat, List.reverse_cons, littleNat_append, List.length_reverse, toNat]
  rfl

/-- A leading zero adds nothing. -/
theorem toNat_zero_cons (bytes : Bytes) : toNat (0 :: bytes) = toNat bytes := by
  rw [toNat_cons]
  exact Nat.add_zero _

/-- Neither do several. -/
theorem toNat_zeros_append (count : Nat) (bytes : Bytes) :
    toNat (zeros count ++ bytes) = toNat bytes := by
  induction count with
  | zero => rfl
  | succ count ih =>
    rw [zeros, List.replicate_succ, List.cons_append, toNat_zero_cons]
    exact ih

/-- A first octet that counts makes the number as long as the string. -/
theorem pow_le_toNat {first : UInt8} {rest : Bytes} (counts : first ≠ 0) :
    256 ^ rest.length ≤ toNat (first :: rest) := by
  have positive : 1 ≤ first.toNat := by
    have : first.toNat ≠ 0 := fun zero => counts (UInt8.toNat_inj.mp zero)
    omega
  have multiple := Nat.mul_le_mul_left (256 ^ rest.length) positive
  rw [toNat_cons]
  omega

/-- A byte string of `n` octets spells a number below `256 ^ n`. -/
theorem toNat_lt (bytes : Bytes) : toNat bytes < 256 ^ bytes.length := by
  have below := littleNat_lt bytes.reverse
  rwa [List.length_reverse] at below

/-- A first octet of `k` bits makes a number of `k` bits more than the others have. -/
theorem toNat_cons_lt {first : UInt8} {k : Nat} (small : first.toNat < 2 ^ k) (rest : Bytes) :
    toNat (first :: rest) < 2 ^ (8 * rest.length + k) := by
  have others := toNat_lt rest
  calc toNat (first :: rest)
      = toNat rest + 256 ^ rest.length * first.toNat := toNat_cons first rest
    _ < 256 ^ rest.length * first.toNat + 256 ^ rest.length := by omega
    _ = 256 ^ rest.length * (first.toNat + 1) := (Nat.mul_succ _ _).symm
    _ ≤ 256 ^ rest.length * 2 ^ k := Nat.mul_le_mul_left _ small
    _ = 2 ^ (8 * rest.length + k) := by
        rw [show (256 : Nat) = 2 ^ 8 from rfl, ← Nat.pow_mul, ← Nat.pow_add]

/-- In a greater width the octets stand behind zeros. -/
theorem ofNat_toNat_of_le {bytes : Bytes} {width : Nat} (h : bytes.length ≤ width) :
    ofNat width (toNat bytes) = zeros (width - bytes.length) ++ bytes := by
  have long : (zeros (width - bytes.length) ++ bytes).length = width := by
    rw [List.length_append, length_zeros, Nat.sub_add_cancel h]
  have digits := ofNat_toNat (zeros (width - bytes.length) ++ bytes)
  rwa [long, toNat_zeros_append] at digits

/-! ## The fewest octets -/

theorem lt_two_pow_bitLength (n : Nat) : n < 2 ^ bitLength n := by
  unfold bitLength
  split
  · omega
  · exact Nat.lt_log2_self

/-- The leading binary digit of a number is not zero. -/
theorem two_pow_bitLength_sub_one_le {n : Nat} (h : n ≠ 0) : 2 ^ (bitLength n - 1) ≤ n := by
  rw [bitLength, if_neg h, Nat.add_sub_cancel]
  exact Nat.log2_self_le h

/-- A number below `2 ^ bits` has at most that many binary digits. -/
theorem bitLength_le {n bits : Nat} (h : n < 2 ^ bits) : bitLength n ≤ bits := by
  unfold bitLength
  split
  · omega
  · rename_i positive
    have := (Nat.log2_lt positive).mpr h
    omega

/-- The fewest octets have room for the number. -/
theorem lt_pow_octetLength (n : Nat) : n < 256 ^ octetLength n := by
  have bits : n < 2 ^ bitLength n := lt_two_pow_bitLength n
  have wide : 2 ^ bitLength n ≤ 256 ^ octetLength n := by
    rw [show (256 : Nat) = 2 ^ 8 from rfl, ← Nat.pow_mul]
    exact Nat.pow_le_pow_right (by omega) (by unfold octetLength; omega)
  omega

/-- One octet less has none. -/
theorem pow_octetLength_sub_one_le {n : Nat} (h : n ≠ 0) : 256 ^ (octetLength n - 1) ≤ n := by
  have leading : 2 ^ (bitLength n - 1) ≤ n := two_pow_bitLength_sub_one_le h
  have narrow : 256 ^ (octetLength n - 1) ≤ 2 ^ (bitLength n - 1) := by
    rw [show (256 : Nat) = 2 ^ 8 from rfl, ← Nat.pow_mul]
    exact Nat.pow_le_pow_right (by omega) (by unfold octetLength; omega)
  omega

/-- The fewest octets are enough to read the number back. -/
theorem toNat_ofNatMinimal (n : Nat) : toNat (ofNatMinimal n) = n := by
  rw [ofNatMinimal, toNat_ofNat]
  exact Nat.mod_eq_of_lt (lt_pow_octetLength n)

/-- How many octets a number needs is told by the powers that it lies between. -/
theorem octetLength_eq {n count : Nat} (lower : 256 ^ count ≤ n) (upper : n < 256 ^ (count + 1)) :
    octetLength n = count + 1 := by
  have positive : n ≠ 0 := by
    have := Nat.pow_pos (n := count) (show 0 < 256 by decide)
    omega
  have above := lt_pow_octetLength n
  have below := pow_octetLength_sub_one_le positive
  have enough : count < octetLength n :=
    (Nat.pow_lt_pow_iff_right (by decide)).mp (Nat.lt_of_le_of_lt lower above)
  have few : octetLength n - 1 < count + 1 :=
    (Nat.pow_lt_pow_iff_right (by decide)).mp (Nat.lt_of_le_of_lt below upper)
  omega

/-- **Octets are the fewest of their number** if the first of them counts. -/
theorem ofNatMinimal_toNat {first : UInt8} {rest : Bytes} (counts : first ≠ 0) :
    ofNatMinimal (toNat (first :: rest)) = first :: rest := by
  have length : octetLength (toNat (first :: rest)) = (first :: rest).length :=
    octetLength_eq (pow_le_toNat counts) (toNat_lt (first :: rest))
  rw [ofNatMinimal, length, ofNat_toNat]

/-- The fewest octets begin with one that counts. -/
theorem ne_zero_of_ofNatMinimal {n : Nat} {first : UInt8} {rest : Bytes}
    (h : ofNatMinimal n = first :: rest) : first ≠ 0 := by
  rintro rfl
  have count : octetLength n - 1 = rest.length := by
    rw [← length_ofNatMinimal, h, List.length_cons, Nat.add_sub_cancel]
  have positive : n ≠ 0 := by
    rintro rfl
    cases h
  -- with a leading zero the number would fit into one octet less
  have short : n < 256 ^ rest.length := by
    have value := toNat_ofNatMinimal n
    rw [h, toNat_zero_cons] at value
    rw [← value]
    exact toNat_lt rest
  have long := pow_octetLength_sub_one_le positive
  rw [count] at long
  omega

end SealedTransfer.Bytes
