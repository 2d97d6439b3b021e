/-
# SealedTransfer.Protobuf.Varint — numbers in groups of seven bits

A varint spells a number in groups of seven bits, the lowest group first; every octet but the last
has its high bit set. Readers accept up to ten octets, as many as sixty-four bits need, and longer
spellings than necessary; the tenth octet can only add the highest bit.
-/
import SealedTransfer.Bytes

namespace SealedTransfer.Protobuf

/-- A number in the fewest octets. -/
def varint (n : Nat) : Bytes :=
  if n < 128 then [UInt8.ofNat n] else UInt8.ofNat (n % 128 + 128) :: varint (n / 128)
termination_by n
decreasing_by omega

/-- The number at the front, spelled in at most `octets` octets, the last of which may not exceed
one, and what follows it. -/
def varintWithin? : Nat → Bytes → Option (Nat × Bytes)
  | 0, _ => none
  | _, [] => none
  | 1, b :: rest => if b.toNat ≤ 1 then some (b.toNat, rest) else none
  | octets + 2, b :: rest =>
    if b.toNat < 128 then some (b.toNat, rest)
    else match varintWithin? (octets + 1) rest with
      | some (high, rest) => some (b.toNat - 128 + 128 * high, rest)
      | none => none

/-- The number at the front of a byte string and what follows it. -/
def varint? (bytes : Bytes) : Option (Nat × Bytes) := varintWithin? 10 bytes

/-- Reading a number uses up at least one octet. -/
theorem length_of_varintWithin? {octets n : Nat} {bytes rest : Bytes}
    (h : varintWithin? octets bytes = some (n, rest)) : rest.length < bytes.length := by
  fun_induction varintWithin? octets bytes generalizing n with
  | case1 => cases h
  | case2 => cases h
  | case3 => cases h; simp
  | case4 => cases h
  | case5 => cases h; simp
  | case6 octets b tail _ high rest' found ih =>
    cases h
    have := ih found
    simp only [List.length_cons]
    omega
  | case7 => cases h

end SealedTransfer.Protobuf
