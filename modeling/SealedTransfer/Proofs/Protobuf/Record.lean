/-
# SealedTransfer.Proofs.Protobuf.Record — what is written as a field is read back as its record

A number of sixty-four bits is read back from its varint, and a length-delimited field from its key,
length and content, whatever follows. A coded message that begins with a field therefore begins with
the field's record.
-/
import SealedTransfer.Protobuf.Record
import Mathlib.Algebra.Group.Nat.Defs

namespace SealedTransfer.Protobuf

/-! ## Numbers -/

theorem toNat_ofNat_octet {n : Nat} (h : n < 256) : (UInt8.ofNat n).toNat = n := by
  rw [UInt8.toNat_ofNat']
  omega

/-- A number is read back from its varint, as long as the octets allowed have room for it: seven bits
each, and one bit in the last. -/
theorem varintWithin?_varint_append (octets n : Nat) (rest : Bytes) (h : n < 2 * 128 ^ octets) :
    varintWithin? (octets + 1) (varint n ++ rest) = some (n, rest) := by
  -- on the octets that are left; the number loses seven bits with each
  induction octets generalizing n with
  | zero =>
    have octet : (UInt8.ofNat n).toNat = n := toNat_ofNat_octet (by omega)
    rw [varint, if_pos (by omega), List.singleton_append, varintWithin?, octet, if_pos (by omega)]
  | succ octets ih =>
    rw [varint]
    split
    · rename_i single
      have octet : (UInt8.ofNat n).toNat = n := toNat_ofNat_octet (by omega)
      rw [List.singleton_append, varintWithin?, octet, if_pos single]
    · have octet : (UInt8.ofNat (n % 128 + 128)).toNat = n % 128 + 128 :=
        toNat_ofNat_octet (by omega)
      have high : n / 128 < 2 * 128 ^ octets := by
        rw [Nat.pow_succ] at h
        omega
      have whole : n % 128 + 128 - 128 + 128 * (n / 128) = n := by omega
      rw [List.cons_append, varintWithin?, octet, if_neg (by omega), ih _ high]
      simp only [whole]

/-- **A number of sixty-four bits is read back** from its varint. -/
theorem varint?_varint_append {n : Nat} (rest : Bytes) (h : n < 2 ^ 64) :
    varint? (varint n ++ rest) = some (n, rest) :=
  varintWithin?_varint_append 9 n rest (by omega)

/-! ## Fields -/

/-- A field number that a key has room for. -/
def IsFieldNumber (number : Nat) : Prop := 1 ≤ number ∧ number < 2 ^ 29

/-- The key of a length-delimited field is read back. -/
theorem key?_varint_append {number : Nat} (rest : Bytes) (h : IsFieldNumber number) :
    key? (varint (number * 8 + 2) ++ rest) = some ((number, .delimited), rest) := by
  obtain ⟨least, most⟩ := h
  have low : (number * 8 + 2) % 8 = 2 := by omega
  have high : (number * 8 + 2) / 8 = number := by omega
  have below : number * 8 + 2 < UInt32.size := by
    unfold UInt32.size
    omega
  simp only [key?, varint?_varint_append rest (show number * 8 + 2 < 2 ^ 64 by omega),
    Option.bind_eq_bind, Option.bind_some, low, high, WireType.ofNat?]
  rw [if_pos ⟨below, least⟩]

/-- A content is read back from behind its length. -/
theorem delimited?_varint_append (content rest : Bytes) (h : content.length < 2 ^ 64) :
    delimited? (varint content.length ++ (content ++ rest)) = some (content, rest) := by
  have room : content.length ≤ (content ++ rest).length := by
    rw [List.length_append]
    omega
  simp only [delimited?, varint?_varint_append _ h, Option.bind_eq_bind, Option.bind_some]
  rw [if_pos room, List.take_left, List.drop_left]

/-- **A field is read back** as its record, whatever follows it. -/
theorem record?_field_append {number : Nat} (budget : Nat) (content rest : Bytes)
    (numbered : IsFieldNumber number) (short : content.length < 2 ^ 64) :
    record? budget (field number content ++ rest) = some (⟨number, .delimited, content⟩, rest) := by
  simp only [record?, field, List.append_assoc, key?_varint_append _ numbered,
    delimited?_varint_append content rest short, Option.bind_eq_bind, Option.bind_some, if_true]

/-- A content is no longer than its field. -/
theorem length_le_field (number : Nat) (content : Bytes) :
    content.length ≤ (field number content).length := by
  simp only [field, List.length_append]
  omega

/-! ## Coded messages -/

@[simp] theorem records?_nil (budget : Nat) : records? budget [] = some [] := by
  rw [records?]
  rfl

/-- A coded message begins with the record at its front. -/
theorem records?_of_record? {budget : Nat} {bytes rest : Bytes} {record : Record}
    (h : record? budget bytes = some (record, rest)) :
    records? budget bytes = (records? budget rest).map (record :: ·) := by
  have more : bytes.isEmpty = false := by
    cases bytes with
    | nil => exact absurd (length_of_record? h) (by simp)
    | cons => rfl
  rw [records?, more, if_neg (by simp)]
  split
  · rename_i missing
    rw [h] at missing
    cases missing
  · rename_i found
    rw [h] at found
    cases found
    cases records? budget rest <;> rfl

/-- The record of a field that is left out when its content is empty. -/
def recordUnlessEmpty (number : Nat) (content : Bytes) : List Record :=
  if content.isEmpty then [] else [⟨number, .delimited, content⟩]

/-- Taking in the record of such a field leads to the same end whether it is there or not. -/
theorem foldlM_recordUnlessEmpty {α : Type} {step : α → Record → Option α} {number : Nat}
    {content : Bytes} {base next : α} (absent : content = [] → base = next)
    (present : content ≠ [] → step base ⟨number, .delimited, content⟩ = some next) :
    (recordUnlessEmpty number content).foldlM step base = some next := by
  by_cases h : content = []
  · rw [recordUnlessEmpty, h, if_pos (by rfl), ← absent h]
    rfl
  · rw [recordUnlessEmpty, if_neg (by simpa using h), List.foldlM_cons, present h]
    rfl

/-- A field in front of a coded message adds its record. -/
theorem records?_field_append {number : Nat} (budget : Nat) (content rest : Bytes)
    (numbered : IsFieldNumber number) (short : content.length < 2 ^ 64) :
    records? budget (field number content ++ rest)
      = (records? budget rest).map ([⟨number, .delimited, content⟩] ++ ·) :=
  records?_of_record? (record?_field_append budget content rest numbered short)

/-- **A field in front of a coded message adds its record**, or nothing if it is left out. -/
theorem records?_fieldUnlessEmpty_append {number : Nat} (budget : Nat) (content rest : Bytes)
    (numbered : IsFieldNumber number) (short : content.length < 2 ^ 64) :
    records? budget (fieldUnlessEmpty number content ++ rest)
      = (records? budget rest).map (recordUnlessEmpty number content ++ ·) := by
  unfold fieldUnlessEmpty recordUnlessEmpty
  split
  · simp
  · exact records?_field_append budget content rest numbered short

/-- A content is no longer than its field, if the field is left out when it is empty. -/
theorem length_le_fieldUnlessEmpty (number : Nat) (content : Bytes) :
    content.length ≤ (fieldUnlessEmpty number content).length := by
  unfold fieldUnlessEmpty
  split
  · rename_i empty
    simp [List.isEmpty_iff.mp empty]
  · exact length_le_field number content

end SealedTransfer.Protobuf
