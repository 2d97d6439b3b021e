/-
# SealedTransfer.Proofs.Text.Utf8 — what is written in UTF-8 is read back

Each character is read back from its octets whatever follows them, so a text is read back from the
octets of its characters.
-/
import SealedTransfer.Text.Utf8

namespace SealedTransfer.Text.Utf8

/-! ## The parts of a sequence -/

/-- Scalar values end at U+10FFFF. -/
theorem toNat_lt (c : Char) : c.toNat < 0x110000 := by
  have valid : c.toNat.isValidChar := c.valid
  unfold Nat.isValidChar at valid
  omega

/-- A character is its own scalar value, if the sequence is the shortest one for it. -/
theorem scalar?_toNat {least : Nat} {c : Char} (h : least ≤ c.toNat) :
    scalar? least c.toNat = some c := by
  have valid : c.toNat.isValidChar := c.valid
  simp only [scalar?, h, valid, and_self, if_true, Char.ofNat_toNat]

/-- Six bits are read back from their continuation octet. -/
theorem continuation?_ofNat {bits : Nat} (h : bits < 64) :
    continuation? (UInt8.ofNat (0x80 + bits)) = some bits := by
  have octet : (UInt8.ofNat (0x80 + bits)).toNat = 0x80 + bits := by
    rw [UInt8.toNat_ofNat']; omega
  simp only [continuation?, octet]
  rw [if_pos (by omega)]
  simp

/-- An octet below 128 announces nothing. -/
theorem leading?_single {n : Nat} (h : n < 0x80) : leading? (UInt8.ofNat n) = some (0, n) := by
  have octet : (UInt8.ofNat n).toNat = n := by rw [UInt8.toNat_ofNat']; omega
  simp only [leading?, octet]
  rw [if_pos h]

/-- The five bits of a leading octet that announces one more. -/
theorem leading?_double {n : Nat} (h : n < 32) :
    leading? (UInt8.ofNat (0xC0 + n)) = some (1, n) := by
  have octet : (UInt8.ofNat (0xC0 + n)).toNat = 0xC0 + n := by rw [UInt8.toNat_ofNat']; omega
  simp only [leading?, octet]
  rw [if_neg (by omega), if_pos (by omega)]
  simp

/-- The four bits of a leading octet that announces two more. -/
theorem leading?_triple {n : Nat} (h : n < 16) :
    leading? (UInt8.ofNat (0xE0 + n)) = some (2, n) := by
  have octet : (UInt8.ofNat (0xE0 + n)).toNat = 0xE0 + n := by rw [UInt8.toNat_ofNat']; omega
  simp only [leading?, octet]
  rw [if_neg (by omega), if_neg (by omega), if_pos (by omega)]
  simp

/-- The three bits of a leading octet that announces three more. -/
theorem leading?_quadruple {n : Nat} (h : n < 8) :
    leading? (UInt8.ofNat (0xF0 + n)) = some (3, n) := by
  have octet : (UInt8.ofNat (0xF0 + n)).toNat = 0xF0 + n := by rw [UInt8.toNat_ofNat']; omega
  simp only [leading?, octet]
  rw [if_neg (by omega), if_neg (by omega), if_neg (by omega), if_pos (by omega)]
  simp

/-! ## Sequences -/

section Sequences

variable {n x y z : Nat} {c : Char} (rest : Bytes)

theorem decodeChars?_single (hn : n < 0x80) (spelled : scalar? 0 n = some c) :
    decodeChars? (UInt8.ofNat n :: rest) = (decodeChars? rest).map (c :: ·) := by
  rw [decodeChars?, leading?_single hn]
  simp only [spelled]
  cases decodeChars? rest <;> rfl

theorem decodeChars?_double (hn : n < 32) (hx : x < 64)
    (spelled : scalar? 0x80 (n * 64 + x) = some c) :
    decodeChars? (UInt8.ofNat (0xC0 + n) :: UInt8.ofNat (0x80 + x) :: rest)
      = (decodeChars? rest).map (c :: ·) := by
  rw [decodeChars?, leading?_double hn]
  simp only [continuation?_ofNat hx, spelled, Option.bind_eq_bind, Option.bind_some]
  cases decodeChars? rest <;> rfl

theorem decodeChars?_triple (hn : n < 16) (hx : x < 64) (hy : y < 64)
    (spelled : scalar? 0x800 (n * 4096 + x * 64 + y) = some c) :
    decodeChars? (UInt8.ofNat (0xE0 + n) :: UInt8.ofNat (0x80 + x) :: UInt8.ofNat (0x80 + y) :: rest)
      = (decodeChars? rest).map (c :: ·) := by
  rw [decodeChars?, leading?_triple hn]
  simp only [continuation?_ofNat hx, continuation?_ofNat hy, spelled, Option.bind_eq_bind,
    Option.bind_some]
  cases decodeChars? rest <;> rfl

theorem decodeChars?_quadruple (hn : n < 8) (hx : x < 64) (hy : y < 64) (hz : z < 64)
    (spelled : scalar? 0x10000 (n * 262144 + x * 4096 + y * 64 + z) = some c) :
    decodeChars? (UInt8.ofNat (0xF0 + n) :: UInt8.ofNat (0x80 + x) :: UInt8.ofNat (0x80 + y)
      :: UInt8.ofNat (0x80 + z) :: rest) = (decodeChars? rest).map (c :: ·) := by
  rw [decodeChars?, leading?_quadruple hn]
  -- A definitional step would make the kernel multiply by 262144 in unary.
  simp -implicitDefEqProofs only [continuation?_ofNat hx, continuation?_ofNat hy,
    continuation?_ofNat hz, spelled, Option.bind_eq_bind, Option.bind_some]
  cases decodeChars? rest <;> rfl

end Sequences

/-! ## Characters and texts -/

/-- **A character is read back** from its octets, whatever follows them. -/
theorem decodeChars?_encodeChar_append (c : Char) (rest : Bytes) :
    decodeChars? (encodeChar c ++ rest) = (decodeChars? rest).map (c :: ·) := by
  have below : c.toNat < 0x110000 := toNat_lt c
  -- The numbers in a sequence are the digits of the scalar value.
  have spelled (least n : Nat) (whole : n = c.toNat) (shortest : least ≤ c.toNat) :
      scalar? least n = some c := by rw [whole, scalar?_toNat shortest]
  unfold encodeChar
  dsimp only
  split
  · rename_i single
    exact decodeChars?_single rest single (spelled _ _ rfl (by omega))
  split
  · exact decodeChars?_double rest (by omega) (by omega) (spelled _ _ (by omega) (by omega))
  split
  · exact decodeChars?_triple rest (by omega) (by omega) (by omega)
      (spelled _ _ (by omega) (by omega))
  · exact decodeChars?_quadruple rest (by omega) (by omega) (by omega) (by omega)
      (spelled _ _ (by omega) (by omega))

/-- A run of characters is read back from its octets. -/
theorem decodeChars?_encodeChars (text : List Char) :
    decodeChars? (encodeChars text) = some text := by
  induction text with
  | nil => rfl
  | cons c text ih =>
    rw [encodeChars, List.flatMap_cons, decodeChars?_encodeChar_append, ← encodeChars, ih]
    rfl

/-- **A text is read back** from its octets. -/
@[simp] theorem decode?_encode (text : String) : decode? (encode text) = some text := by
  rw [decode?, encode, decodeChars?_encodeChars, Option.map_some, String.ofList_toList]

/-- Only the empty text has no octets. -/
theorem encode_eq_nil {text : String} : encode text = [] ↔ text = "" := by
  constructor
  · intro h
    have read := decode?_encode text
    rw [h] at read
    exact (Option.some.inj read).symm
  · rintro rfl
    rfl

/-! ## Octets below 128 -/

theorem encodeChars_append (text more : List Char) :
    encodeChars (text ++ more) = encodeChars text ++ encodeChars more :=
  List.flatMap_append

/-- An octet below 128 stands for its own character only. -/
theorem toNat_of_mem_encodeChar {b : UInt8} {c : Char} (low : b.toNat < 0x80)
    (h : b ∈ encodeChar c) : c.toNat = b.toNat := by
  have below : c.toNat < 0x110000 := toNat_lt c
  unfold encodeChar at h
  dsimp only at h
  split at h
  · rw [List.mem_singleton.mp h, UInt8.toNat_ofNat']
    omega
  -- every octet of a longer sequence has its leading bit set
  split at h
  · simp only [List.mem_cons, List.not_mem_nil, or_false] at h
    rcases h with rfl | rfl <;> rw [UInt8.toNat_ofNat'] at low <;> omega
  split at h
  · simp only [List.mem_cons, List.not_mem_nil, or_false] at h
    rcases h with rfl | rfl | rfl <;> rw [UInt8.toNat_ofNat'] at low <;> omega
  · simp only [List.mem_cons, List.not_mem_nil, or_false] at h
    rcases h with rfl | rfl | rfl | rfl <;> rw [UInt8.toNat_ofNat'] at low <;> omega

/-- A text has an octet below 128 only if it has its character. -/
theorem not_mem_encodeChars {b : UInt8} {text : List Char} (low : b.toNat < 0x80)
    (h : ∀ c ∈ text, c.toNat ≠ b.toNat) : b ∉ encodeChars text := by
  intro member
  obtain ⟨c, inText, inChar⟩ := List.mem_flatMap.mp member
  exact h c inText (toNat_of_mem_encodeChar low inChar)

/-- Every character has an octet. -/
theorem encodeChars_ne_nil {text : List Char} (h : text ≠ []) : encodeChars text ≠ [] := by
  intro empty
  have read := decodeChars?_encodeChars text
  rw [empty] at read
  exact h (Option.some.inj read).symm

end SealedTransfer.Text.Utf8
