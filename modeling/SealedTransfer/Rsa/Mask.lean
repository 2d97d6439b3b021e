/-
# SealedTransfer.Rsa.Mask — masks made from a seed

The mask generation function of the RSA paddings: digests of the seed with a running number behind it,
one after the other, cut to the length that is wanted. Hash and mask both use SHA-512.
-/
import SealedTransfer.Hash.Sha512

namespace SealedTransfer.Rsa

/-- The length of a digest. -/
def digestLength : Nat := 64

/-- A mask of `length` octets. -/
def mask (seed : Bytes) (length : Nat) : Bytes :=
  ((List.range ((length + digestLength - 1) / digestLength)).flatMap fun count =>
    Hash.Sha512.digest (seed ++ Bytes.ofNat 4 count)).take length

/-- A mask has the length that was asked for. -/
@[simp] theorem length_mask (seed : Bytes) (length : Nat) : (mask seed length).length = length := by
  simp only [mask, List.length_take, List.length_flatMap, Hash.Sha512.length_digest,
    List.map_const', List.length_range, List.sum_replicate_nat, digestLength]
  omega

/-- Masking with a mask of the same length and back changes nothing. -/
theorem xor_mask_xor_mask (data seed : Bytes) :
    Bytes.xor (Bytes.xor data (mask seed data.length)) (mask seed data.length) = data :=
  Bytes.xor_xor_cancel (Nat.le_of_eq (length_mask seed data.length).symm)

theorem length_xor_mask (data seed : Bytes) :
    (Bytes.xor data (mask seed data.length)).length = data.length := by
  rw [Bytes.length_xor, length_mask, Nat.min_self]

end SealedTransfer.Rsa
