/-
# SealedTransfer.Protobuf.Record — the fields of a coded message

A coded message is a run of records: a field number, a wire type and a content that the wire type
delimits. Readers of a message pick the fields they know and skip the rest, so a record keeps the
contents of length-delimited fields and only the presence of the others. Groups nest; how deep is
bounded by a budget of which every level uses one.
-/
import SealedTransfer.Protobuf.Varint

namespace SealedTransfer.Protobuf

/-- How the content of a record is delimited. -/
inductive WireType where
  | varint
  | fixed64
  | delimited
  | startGroup
  | endGroup
  | fixed32
deriving DecidableEq, Repr

/-- The wire type with the given number; six and seven name none. -/
def WireType.ofNat? : Nat → Option WireType
  | 0 => some .varint
  | 1 => some .fixed64
  | 2 => some .delimited
  | 3 => some .startGroup
  | 4 => some .endGroup
  | 5 => some .fixed32
  | _ => none

/-- A record of a coded message. -/
structure Record where
  number : Nat
  wireType : WireType
  /-- The content of a length-delimited record; empty for the others. -/
  content : Bytes
deriving DecidableEq, Repr

/-! ## Writing -/

/-- A length-delimited field. -/
def field (number : Nat) (content : Bytes) : Bytes :=
  varint (number * 8 + 2) ++ varint content.length ++ content

/-- A length-delimited field that is left out when its content is empty. -/
def fieldUnlessEmpty (number : Nat) (content : Bytes) : Bytes :=
  if content.isEmpty then [] else field number content

/-! ## Reading -/

/-- The key at the front: a field number of at least one and a wire type, in thirty-two bits. -/
def key? (bytes : Bytes) : Option ((Nat × WireType) × Bytes) := do
  let (key, rest) ← varint? bytes
  let wireType ← WireType.ofNat? (key % 8)
  if key < UInt32.size ∧ 1 ≤ key / 8 then some ((key / 8, wireType), rest) else none

/-- What is left after the first `count` octets, if there are so many. -/
def dropExactly? (count : Nat) (bytes : Bytes) : Option Bytes :=
  if count ≤ bytes.length then some (bytes.drop count) else none

/-- A content behind its length, and what follows it. -/
def delimited? (bytes : Bytes) : Option (Bytes × Bytes) := do
  let (count, rest) ← varint? bytes
  if count ≤ rest.length then some (rest.take count, rest.drop count) else none

/-- Skips the records of group `number` up to its end key, each with `skip`; the first argument
bounds their number. -/
def skipGroup (skip : WireType → Nat → Bytes → Option Bytes) (number : Nat) :
    Nat → Bytes → Option Bytes
  | 0, _ => none
  | records + 1, bytes => do
    let ((inner, wireType), rest) ← key? bytes
    if wireType = .endGroup then
      if inner = number then some rest else none
    else
      let rest ← skip wireType inner rest
      skipGroup skip number records rest

/-- Skips a content of the given wire type in field `number`; a group spends one of the budget on
each level below it, and nothing is skipped on an empty budget. -/
def skipContent : Nat → WireType → Nat → Bytes → Option Bytes
  | 0, _, _, _ => none
  | budget + 1, wireType, number, bytes =>
    match wireType with
    | .varint => (varint? bytes).map (·.2)
    | .fixed64 => dropExactly? 8 bytes
    | .fixed32 => dropExactly? 4 bytes
    | .delimited => (delimited? bytes).map (·.2)
    | .startGroup => skipGroup (skipContent budget) number bytes.length bytes
    | .endGroup => none

/-- The record at the front, with `budget` levels of groups allowed, and what follows it. -/
def record? (budget : Nat) (bytes : Bytes) : Option (Record × Bytes) := do
  let ((number, wireType), rest) ← key? bytes
  if wireType = .delimited then
    let (content, rest) ← delimited? rest
    some (⟨number, wireType, content⟩, rest)
  else
    let rest ← skipContent budget wireType number rest
    some (⟨number, wireType, []⟩, rest)

/-! ## What reading leaves is shorter -/

theorem length_of_key? {bytes rest : Bytes} {key : Nat × WireType}
    (h : key? bytes = some (key, rest)) : rest.length < bytes.length := by
  simp only [key?, Option.bind_eq_bind, Option.bind_eq_some_iff] at h
  obtain ⟨⟨n, tail⟩, hv, _, _, h⟩ := h
  split at h
  · cases h; exact length_of_varintWithin? hv
  · cases h

theorem length_of_dropExactly? {count : Nat} {bytes rest : Bytes}
    (h : dropExactly? count bytes = some rest) : rest.length ≤ bytes.length := by
  unfold dropExactly? at h
  split at h
  · cases h; simp
  · cases h

theorem length_of_delimited? {bytes content rest : Bytes}
    (h : delimited? bytes = some (content, rest)) : rest.length ≤ bytes.length := by
  simp only [delimited?, Option.bind_eq_bind, Option.bind_eq_some_iff] at h
  obtain ⟨⟨n, tail⟩, hv, h⟩ := h
  have := length_of_varintWithin? hv
  split at h
  · cases h; simp only [List.length_drop]; omega
  · cases h

theorem length_of_skipGroup {skip : WireType → Nat → Bytes → Option Bytes}
    (hs : ∀ w n b r, skip w n b = some r → r.length ≤ b.length)
    {number records : Nat} {bytes rest : Bytes}
    (h : skipGroup skip number records bytes = some rest) : rest.length ≤ bytes.length := by
  induction records generalizing bytes with
  | zero => simp [skipGroup] at h
  | succ records ih =>
    simp only [skipGroup, Option.bind_eq_bind, Option.bind_eq_some_iff] at h
    obtain ⟨⟨⟨inner, wireType⟩, tail⟩, hk, h⟩ := h
    have hl := length_of_key? hk
    simp only at h
    split at h
    · split at h
      · cases h; omega
      · cases h
    · simp only [Option.bind_eq_some_iff] at h
      obtain ⟨next, hn, h⟩ := h
      have h₁ := hs _ _ _ _ hn
      have h₂ := ih h
      omega

theorem length_of_skipContent {budget number : Nat} {wireType : WireType} {bytes rest : Bytes}
    (h : skipContent budget wireType number bytes = some rest) :
    rest.length ≤ bytes.length := by
  induction budget generalizing wireType number bytes rest with
  | zero => simp [skipContent] at h
  | succ budget ih =>
    cases wireType with
    | varint =>
      simp only [skipContent, Option.map_eq_some_iff] at h
      obtain ⟨⟨n, tail⟩, hv, rfl⟩ := h
      exact Nat.le_of_lt (length_of_varintWithin? hv)
    | fixed64 => exact length_of_dropExactly? h
    | fixed32 => exact length_of_dropExactly? h
    | delimited =>
      simp only [skipContent, Option.map_eq_some_iff] at h
      obtain ⟨⟨content, tail⟩, hv, rfl⟩ := h
      exact length_of_delimited? hv
    | startGroup => exact length_of_skipGroup (fun _ _ _ _ hs => ih hs) h
    | endGroup => simp [skipContent] at h

/-- Reading a record uses up octets. -/
theorem length_of_record? {budget : Nat} {bytes rest : Bytes} {record : Record}
    (h : record? budget bytes = some (record, rest)) : rest.length < bytes.length := by
  simp only [record?, Option.bind_eq_bind, Option.bind_eq_some_iff] at h
  obtain ⟨⟨⟨number, wireType⟩, tail⟩, hk, h⟩ := h
  have hl := length_of_key? hk
  simp only at h
  split at h
  · simp only [Option.bind_eq_some_iff] at h
    obtain ⟨⟨content, next⟩, hd, h⟩ := h
    have := length_of_delimited? hd
    simp only [Option.some.injEq, Prod.mk.injEq] at h
    rw [← h.2]; omega
  · simp only [Option.bind_eq_some_iff] at h
    obtain ⟨next, hd, h⟩ := h
    have := length_of_skipContent hd
    simp only [Option.some.injEq, Prod.mk.injEq] at h
    rw [← h.2]; omega

/-! ## Whole messages -/

/-- The records of a coded message. -/
def records? (budget : Nat) (bytes : Bytes) : Option (List Record) :=
  if bytes.isEmpty then some []
  else match _h : record? budget bytes with
    | none => none
    | some (record, rest) =>
      match records? budget rest with
      | some records => some (record :: records)
      | none => none
termination_by bytes.length
decreasing_by exact length_of_record? _h

end SealedTransfer.Protobuf
