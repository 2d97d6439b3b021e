/-
# SealedTransfer.Proofs.Asn1.Canonical — each element has one encoding

Reading is the exact inverse of writing: octets are read as an element if and only if they are what that
element is written as, and the same goes for elements one after the other. So no two byte strings are
read as the same element, and whatever is read is written again as it was.
-/
import SealedTransfer.Asn1.Element
import SealedTransfer.Proofs.Bytes

namespace SealedTransfer.Asn1

/-! ## One element -/

/-- Whether an element can be encoded: its identifier is known, and its contents are not too long. -/
def Element.IsWellFormed (element : Element) : Prop :=
  isIdentifier element.identifier ∧ element.contents.length < contentsBound

/-- Four octets are enough for a length. -/
theorem octetLength_le_four {length : Nat} (h : length < contentsBound) :
    Bytes.octetLength length ≤ 4 := by
  have := Bytes.bitLength_le (show length < 2 ^ 28 from h)
  unfold Bytes.octetLength
  omega

/-- A length is read back from its octets, whatever follows them. -/
theorem takeLength?_lengthOctets {length : Nat} (h : length < contentsBound) (rest : Bytes) :
    takeLength? (lengthOctets length ++ rest) = some (length, rest) := by
  by_cases short : length < 0x80
  · have octet : (UInt8.ofNat length).toNat = length := by
      rw [UInt8.toNat_ofNat']
      omega
    have below : UInt8.ofNat length < 0x80 := by
      rw [UInt8.lt_iff_toNat_lt, octet]
      exact short
    simp [lengthOctets, takeLength?, short, below, octet]
  · have few := octetLength_le_four h
    have octet : (UInt8.ofNat (0x80 + Bytes.octetLength length)).toNat
        = 0x80 + Bytes.octetLength length := by
      rw [UInt8.toNat_ofNat']
      omega
    have notBelow : ¬ UInt8.ofNat (0x80 + Bytes.octetLength length) < 0x80 := by
      rw [UInt8.lt_iff_toNat_lt, octet]
      simp
    have taken : (Bytes.ofNatMinimal length ++ rest).take (Bytes.octetLength length)
        = Bytes.ofNatMinimal length :=
      List.take_left' (Bytes.length_ofNatMinimal length)
    simp only [lengthOctets, short, if_false, List.cons_append, takeLength?, notBelow, octet,
      Nat.add_sub_cancel_left, taken, Bytes.toNat_ofNatMinimal, h, true_and, if_true]
    rw [List.drop_left' (Bytes.length_ofNatMinimal length)]

/-- An element is read back from its encoding, whatever follows it. -/
theorem takeElement?_encode {element : Element} (h : element.IsWellFormed) (rest : Bytes) :
    takeElement? (element.encode ++ rest) = some (element, rest) := by
  simp only [Element.encode, List.cons_append, List.append_assoc, takeElement?, h.1, if_true,
    takeLength?_lengthOctets h.2]
  simp

/-- What is read as a length is the one way to write it. -/
theorem eq_of_takeLength? {bytes rest : Bytes} {length : Nat}
    (h : takeLength? bytes = some (length, rest)) :
    bytes = lengthOctets length ++ rest ∧ length < contentsBound := by
  cases bytes with
  | nil => cases h
  | cons first tail =>
    simp only [takeLength?] at h
    split at h
    · rename_i below
      cases h
      rw [UInt8.lt_iff_toNat_lt] at below
      have short : first.toNat < 0x80 := below
      refine ⟨?_, ?_⟩
      · simp [lengthOctets, short]
      · unfold contentsBound
        omega
    · split at h
      · rename_i found
        simp only [Option.some.injEq, Prod.mk.injEq] at h
        obtain ⟨rfl, rfl⟩ := h
        refine ⟨?_, found.1⟩
        rw [found.2, List.cons_append, List.take_append_drop]
      · cases h

/-- What is read as an element is the one way to write it. -/
theorem eq_of_takeElement? {bytes rest : Bytes} {element : Element}
    (h : takeElement? bytes = some (element, rest)) :
    bytes = element.encode ++ rest ∧ element.IsWellFormed := by
  cases bytes with
  | nil => cases h
  | cons identifier tail =>
    simp only [takeElement?] at h
    split at h
    · rename_i known
      split at h
      · rename_i length after found
        split at h
        · rename_i enough
          cases h
          have lengths := eq_of_takeLength? found
          have exact_length : (after.take length).length = length := by
            rw [List.length_take]
            omega
          refine ⟨?_, known, ?_⟩
          · simp only [Element.encode, exact_length, List.cons_append, List.append_assoc,
              List.take_append_drop]
            rw [lengths.1]
          · rw [exact_length]
            exact lengths.2
        · cases h
      · cases h
    · cases h

/-- Reading an element accepts exactly what writing produces. -/
theorem element?_eq_some_iff {bytes : Bytes} {element : Element} :
    element? bytes = some element ↔ bytes = element.encode ∧ element.IsWellFormed := by
  unfold element?
  constructor
  · intro h
    split at h
    · rename_i found
      cases h
      simpa using eq_of_takeElement? found
    · cases h
  · intro h
    have found := takeElement?_encode h.2 []
    rw [List.append_nil, ← h.1] at found
    rw [found]

/-! ## Several elements -/

/-- An encoding has an octet at least. -/
theorem length_encode_pos (element : Element) : 0 < element.encode.length := by
  simp [Element.encode]

/-- Elements are read back from their encodings if the budget covers these. -/
theorem elementsWithin_encodeAll {elements : List Element} (h : ∀ e ∈ elements, e.IsWellFormed)
    {budget : Nat} (enough : (encodeAll elements).length ≤ budget) :
    elementsWithin budget (encodeAll elements) = some elements := by
  induction elements generalizing budget with
  | nil => cases budget <;> rfl
  | cons element elements ih =>
    have all : encodeAll (element :: elements) = element.encode ++ encodeAll elements := rfl
    rw [all, List.length_append] at enough
    have positive := length_encode_pos element
    cases budget with
    | zero => omega
    | succ budget =>
      have first := takeElement?_encode (h element List.mem_cons_self) (encodeAll elements)
      have others := ih (fun e he => h e (List.mem_cons_of_mem _ he))
        (show (encodeAll elements).length ≤ budget by omega)
      rw [all]
      revert first
      rw [Element.encode, List.cons_append]
      intro first
      rw [elementsWithin, first]
      simp [others]

/-- What is read as elements is the one way to write them. -/
theorem eq_of_elementsWithin {budget : Nat} {bytes : Bytes} {elements : List Element}
    (h : elementsWithin budget bytes = some elements) :
    bytes = encodeAll elements ∧ ∀ e ∈ elements, e.IsWellFormed := by
  induction budget generalizing bytes elements with
  | zero =>
    cases bytes with
    | nil => cases h; exact ⟨rfl, by simp⟩
    | cons b rest => cases h
  | succ budget ih =>
    cases bytes with
    | nil => cases h; exact ⟨rfl, by simp⟩
    | cons b rest =>
      rw [elementsWithin] at h
      split at h
      · rename_i element after found
        obtain ⟨others, tail, rfl⟩ := Option.map_eq_some_iff.mp h
        have front := eq_of_takeElement? found
        have back := ih tail
        refine ⟨?_, ?_⟩
        · rw [front.1, back.1]; rfl
        · intro e he
          rcases List.mem_cons.mp he with rfl | he
          · exact front.2
          · exact back.2 e he
      · cases h

/-- Reading elements accepts exactly what writing produces. -/
theorem elements?_eq_some_iff {bytes : Bytes} {elements : List Element} :
    elements? bytes = some elements ↔
      bytes = encodeAll elements ∧ ∀ e ∈ elements, e.IsWellFormed :=
  ⟨eq_of_elementsWithin, fun h => by
    rw [elements?, h.1]
    exact elementsWithin_encodeAll h.2 (Nat.le_refl _)⟩

/-! ## Sequences -/

section Sequences

variable {element : Element} {elements : List Element}

/-- Contents are shorter than the encoding. -/
theorem length_contents_lt (element : Element) : element.contents.length < element.encode.length := by
  simp only [Element.encode, List.length_cons, List.length_append]
  omega

/-- An encoding is at most six octets longer than the contents: the identifier and the length. -/
theorem length_encode_le (element : Element) (short : element.contents.length < contentsBound) :
    element.encode.length ≤ element.contents.length + 6 := by
  have few := octetLength_le_four short
  have length : (lengthOctets element.contents.length).length ≤ 5 := by
    unfold lengthOctets
    split
    · simp
    · simp only [List.length_cons, Bytes.length_ofNatMinimal]
      omega
  simp only [Element.encode, List.length_cons, List.length_append]
  omega

/-- An encoding is not longer than that of a sequence that it is part of. -/
theorem length_encode_lt_sequence (h : element ∈ elements) :
    element.encode.length < (Element.sequence elements).encode.length := by
  have part : element.encode.Sublist (elements.map Element.encode).flatten :=
    List.sublist_flatten_of_mem (List.mem_map_of_mem h)
  have whole : (Element.sequence elements).contents = (elements.map Element.encode).flatten :=
    List.flatMap_def
  have below := length_contents_lt (Element.sequence elements)
  rw [whole] at below
  exact Nat.lt_of_le_of_lt part.length_le below

/-- A sequence of two elements is at most eighteen octets longer than what the two contain. -/
theorem length_encode_pair_le {first second : Element}
    (short : first.contents.length + second.contents.length + 12 < contentsBound) :
    (Element.sequence [first, second]).encode.length
      ≤ first.contents.length + second.contents.length + 18 := by
  have front := length_encode_le first (by omega)
  have back := length_encode_le second (by omega)
  have contents : (Element.sequence [first, second]).contents.length
      = first.encode.length + second.encode.length := by
    simp [Element.sequence, Element.ofElements, encodeAll]
  have whole := length_encode_le (.sequence [first, second]) (by omega)
  omega

/-- What is read as a sequence is the one way to write it. -/
theorem eq_of_sequence? (read : element.sequence? = some elements) :
    element = .sequence elements ∧ ∀ e ∈ elements, e.IsWellFormed := by
  rw [Element.sequence?] at read
  split at read
  · rename_i marked
    obtain ⟨contents, wellFormed⟩ := elements?_eq_some_iff.mp read
    refine ⟨?_, wellFormed⟩
    rw [Element.sequence, Element.ofElements, ← contents, ← marked]
  · cases read

/-- Reading a sequence accepts exactly what writing produces. -/
theorem sequence?_eq_some_iff :
    element.sequence? = some elements ↔
      element = .sequence elements ∧ ∀ e ∈ elements, e.IsWellFormed := by
  constructor
  · exact eq_of_sequence?
  · rintro ⟨rfl, wellFormed⟩
    exact elements?_eq_some_iff.mpr ⟨rfl, wellFormed⟩

/-- **A sequence is read back** from its encoding if the identifiers in it are known and it is short
enough. -/
theorem read_sequence (known : ∀ e ∈ elements, isIdentifier e.identifier = true)
    (fits : (Element.sequence elements).encode.length < contentsBound) :
    element? (Element.sequence elements).encode = some (.sequence elements) ∧
      (Element.sequence elements).sequence? = some elements := by
  have short (e : Element) (inside : e ∈ elements) : e.contents.length < contentsBound := by
    have := length_contents_lt e
    have := length_encode_lt_sequence inside
    omega
  have whole := length_contents_lt (Element.sequence elements)
  have parts : elements? (encodeAll elements) = some elements :=
    elements?_eq_some_iff.mpr ⟨rfl, fun e inside => ⟨known e inside, short e inside⟩⟩
  exact ⟨element?_eq_some_iff.mpr ⟨rfl, rfl, by omega⟩, parts⟩

end Sequences

end SealedTransfer.Asn1
