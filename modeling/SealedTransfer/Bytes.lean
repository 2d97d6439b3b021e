/-
# SealedTransfer.Bytes — byte strings and the numbers they spell

Every message, key and ciphertext of this library is a `Bytes`: a list of octets, first octet first.
The module fixes how such a list spells a natural number, most significant octet first (keys and
ASN.1) or least significant octet first (stored records), and how a number is spelled back in a
given width or in the fewest octets.
-/

namespace SealedTransfer

/-- A byte string, first octet first. -/
abbrev Bytes := List UInt8

namespace Bytes

/-! ## Least significant octet first -/

/-- The number whose base-256 digits are the octets, least significant first. -/
def littleNat : Bytes → Nat
  | [] => 0
  | b :: rest => b.toNat + 256 * littleNat rest

/-- The `width` low base-256 digits of a number, least significant first. -/
def ofLittleNat : Nat → Nat → Bytes
  | 0, _ => []
  | width + 1, n => UInt8.ofNat (n % 256) :: ofLittleNat width (n / 256)

@[simp] theorem length_ofLittleNat (width n : Nat) : (ofLittleNat width n).length = width := by
  induction width generalizing n with
  | zero => rfl
  | succ width ih => simp [ofLittleNat, ih]

/-- The octets are read back from the number that they spell. -/
theorem ofLittleNat_littleNat (bytes : Bytes) :
    ofLittleNat bytes.length (littleNat bytes) = bytes := by
  induction bytes with
  | nil => rfl
  | cons b rest ih =>
    have hb : b.toNat < 256 := b.toNat_lt
    have low : (b.toNat + 256 * littleNat rest) % 256 = b.toNat := by omega
    have high : (b.toNat + 256 * littleNat rest) / 256 = littleNat rest := by omega
    simp only [List.length_cons, littleNat, ofLittleNat, low, high, ih, UInt8.ofNat_toNat]

/-! ## Most significant octet first -/

/-- The number whose base-256 digits are the octets, most significant first. -/
def toNat (bytes : Bytes) : Nat := littleNat bytes.reverse

/-- The `width` low base-256 digits of a number, most significant first. -/
def ofNat (width n : Nat) : Bytes := (ofLittleNat width n).reverse

@[simp] theorem length_ofNat (width n : Nat) : (ofNat width n).length = width := by
  simp [ofNat]

theorem ofNat_toNat (bytes : Bytes) : ofNat bytes.length (toNat bytes) = bytes := by
  have digits := ofLittleNat_littleNat bytes.reverse
  rw [List.length_reverse] at digits
  rw [ofNat, toNat, digits, List.reverse_reverse]

/-- How many binary digits a number has; zero has none. -/
def bitLength (n : Nat) : Nat := if n = 0 then 0 else n.log2 + 1

/-- How many octets a number needs; zero needs none. -/
def octetLength (n : Nat) : Nat := (bitLength n + 7) / 8

/-- The number in the fewest octets, most significant first. -/
def ofNatMinimal (n : Nat) : Bytes := ofNat (octetLength n) n

@[simp] theorem length_ofNatMinimal (n : Nat) : (ofNatMinimal n).length = octetLength n := by
  simp [ofNatMinimal]

/-! ## Octet by octet -/

/-- Exclusive or, octet by octet, as far as the shorter string goes. -/
def xor (a b : Bytes) : Bytes := List.zipWith (· ^^^ ·) a b

/-- A run of zero octets. -/
def zeros (count : Nat) : Bytes := List.replicate count 0

@[simp] theorem length_zeros (count : Nat) : (zeros count).length = count := by
  simp [zeros]

theorem length_xor (a b : Bytes) : (xor a b).length = min a.length b.length := by
  simp [xor]

/-- Masking twice with the same string, long enough, gives the first string back. -/
theorem xor_xor_cancel {a b : Bytes} (h : a.length ≤ b.length) : xor (xor a b) b = a := by
  induction a generalizing b with
  | nil => simp [xor]
  | cons x a ih =>
    cases b with
    | nil => simp at h
    | cons y b =>
      simp only [List.length_cons, Nat.add_le_add_iff_right] at h
      have := ih h
      simp only [xor] at this
      simp only [xor, List.zipWith_cons_cons, this, UInt8.xor_assoc, UInt8.xor_self, UInt8.xor_zero]

end Bytes

/-- Consecutive pieces of at most `size` entries; with `size = 0` nothing can be cut off. -/
def chunks {α : Type} (size : Nat) (list : List α) : List (List α) :=
  if size = 0 ∨ list.isEmpty then [] else list.take size :: chunks size (list.drop size)
termination_by list.length
decreasing_by
  rename_i more
  have : list.length ≠ 0 := by
    intro hl
    exact more (Or.inr (by simp [List.eq_nil_of_length_eq_zero hl]))
  simp only [List.length_drop]
  omega

/-- The pieces put together again are the list. -/
theorem flatten_chunks {α : Type} {size : Nat} (h : size ≠ 0) (list : List α) :
    (chunks size list).flatten = list := by
  fun_induction chunks size list with
  | case1 list done =>
    rcases done with hs | he
    · exact absurd hs h
    · simp [List.isEmpty_iff.mp he]
  | case2 list more ih => simp [ih]

end SealedTransfer
