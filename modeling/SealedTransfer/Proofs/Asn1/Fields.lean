/-
# SealedTransfer.Proofs.Asn1.Fields — what optional numbered fields hold

A numbered field that wraps an element has its number in its identifier and the element's encoding for
contents. Whoever looks for a field passes over those with lower numbers, takes the next element if it
is the field, and leaves it alone otherwise. This is stated as a relation between what was found, the
elements before and the elements after, and the reader computes exactly that relation.
-/
import SealedTransfer.Proofs.Asn1.Canonical

namespace SealedTransfer.Asn1

/-! ## The relation -/

/-- Whether an element is a numbered field with a lower number. -/
def Element.IsFieldBelow (element : Element) (number : Nat) : Prop :=
  element.isField = true ∧ element.fieldNumber < number

/-- The field of a number that wraps an element. -/
def Element.field (number : Nat) (inner : Element) : Element :=
  ⟨UInt8.ofNat (0xA0 + number), inner.encode⟩

/-- What an optional field holds that is looked for at the front of elements, and which elements come
after it. `Holds` tells which elements hold a value. -/
inductive FieldHolds {α : Type} (number : Nat) (Holds : α → Element → Prop) :
    Option α → List Element → List Element → Prop
  | passed {element : Element} {value : Option α} {elements rest : List Element} :
      element.IsFieldBelow number → FieldHolds number Holds value elements rest →
      FieldHolds number Holds value (element :: elements) rest
  | present {inner : Element} {value : α} {rest : List Element} :
      inner.IsWellFormed → Holds value inner →
      FieldHolds number Holds (some value) (.field number inner :: rest) rest
  | absent {rest : List Element} :
      (∀ next ∈ rest.head?, ¬ next.IsFieldBelow (number + 1)) →
      FieldHolds number Holds none rest rest

/-! ## Identifiers of fields -/

/-- The three upper bits of an identifier mark a field that wraps an element, and the five lower ones are
its number. -/
theorem identifier_bits : ∀ octet < 256, ∀ number < 32,
    (UInt8.ofNat octet &&& 0xC0 = 0x80 ∧ (UInt8.ofNat octet &&& 0x1F).toNat = number ∧
        UInt8.ofNat octet &&& 0x20 ≠ 0) ↔ octet = 0xA0 + number := by
  decide +kernel

/-- A field that wraps an element is known by its identifier. -/
theorem identifier_eq_iff {element : Element} {number : Nat} (few : number < 32) :
    (element.isField = true ∧ element.fieldNumber = number ∧ element.isConstructed = true) ↔
      element.identifier = UInt8.ofNat (0xA0 + number) := by
  have bits := identifier_bits element.identifier.toNat element.identifier.toNat_lt number few
  rw [UInt8.ofNat_toNat] at bits
  simp only [Element.isField, Element.fieldNumber, Element.isConstructed, beq_iff_eq, bne_iff_ne, bits]
  constructor
  · intro same
    rw [← same, UInt8.ofNat_toNat]
  · intro same
    rw [same, UInt8.toNat_ofNat']
    omega

section Reading

variable {α : Type} {number : Nat} {read : Element → Option α} {element inner : Element}
  {elements rest : List Element} {value : α}

/-- A wrapping field is a field of its number, and the element in it is read back. -/
theorem wrapped?_field (few : number < 32) (wellFormed : inner.IsWellFormed) :
    (Element.field number inner).isField = true ∧ (Element.field number inner).fieldNumber = number ∧
      (Element.field number inner).wrapped? = some inner := by
  obtain ⟨field, same, constructed⟩ := (identifier_eq_iff few).mpr
    (show (Element.field number inner).identifier = _ from rfl)
  refine ⟨field, same, ?_⟩
  rw [Element.wrapped?, if_pos constructed]
  exact element?_eq_some_iff.mpr ⟨rfl, wellFormed⟩

/-- A wrapping field can be written if it is not too long. -/
theorem isWellFormed_field (few : number < 31) (fits : inner.encode.length < contentsBound) :
    (Element.field number inner).IsWellFormed := by
  have known : ∀ number < 31, isIdentifier (UInt8.ofNat (0xA0 + number)) = true := by decide +kernel
  exact ⟨known number few, fits⟩

/-- What an element is read from in a field of a number is the field that wraps it. -/
theorem eq_field_of_wrapped? (few : number < 32) (field : element.isField = true)
    (same : element.fieldNumber = number) (wrapped : element.wrapped? = some inner) :
    element = .field number inner ∧ inner.IsWellFormed := by
  rw [Element.wrapped?] at wrapped
  split at wrapped
  · rename_i constructed
    obtain ⟨contents, wellFormed⟩ := element?_eq_some_iff.mp wrapped
    have identifier := (identifier_eq_iff few).mp ⟨field, same, constructed⟩
    refine ⟨?_, wellFormed⟩
    rw [Element.field, ← identifier, ← contents]
  · cases wrapped

/-! ## The reader -/

theorem wrappedField?_of_below (below : element.IsFieldBelow number) :
    wrappedField? number read (element :: elements) = wrappedField? number read elements := by
  simp only [wrappedField?, takeField, if_pos (And.intro below.1 below.2)]

theorem wrappedField?_of_field (field : element.isField = true)
    (same : element.fieldNumber = number) :
    wrappedField? number read (element :: elements)
      = (element.wrapped?.bind read).map fun value => (some value, elements) := by
  have notBelow : ¬ (element.isField = true ∧ element.fieldNumber < number) := by
    rintro ⟨-, below⟩
    omega
  simp only [wrappedField?, takeField, if_neg notBelow, if_pos (And.intro field same)]
  cases element.wrapped? with
  | none => rfl
  | some inner =>
    rw [Option.bind_eq_bind, Option.bind_some, Option.bind_some]
    cases read inner <;> rfl

theorem wrappedField?_of_other (other : ∀ next ∈ elements.head?, ¬ next.IsFieldBelow (number + 1)) :
    wrappedField? number read elements = some (none, elements) := by
  cases elements with
  | nil => rfl
  | cons element elements =>
    have notBelow : ¬ (element.isField = true ∧ element.fieldNumber < number) := by
      rintro ⟨field, below⟩
      exact other element rfl ⟨field, by omega⟩
    have notField : ¬ (element.isField = true ∧ element.fieldNumber = number) := by
      rintro ⟨field, same⟩
      exact other element rfl ⟨field, by omega⟩
    simp only [wrappedField?, takeField, if_neg notBelow, if_neg notField]

/-- **Reading a field** finds exactly what the field holds, if `read` reads exactly what elements hold. -/
theorem wrappedField?_eq_some_iff {Holds : α → Element → Prop} (few : number < 32)
    (exact_read : ∀ {element value}, read element = some value ↔ Holds value element)
    {value : Option α} :
    wrappedField? number read elements = some (value, rest) ↔
      FieldHolds number Holds value elements rest := by
  constructor
  · intro found
    induction elements with
    | nil =>
      rw [wrappedField?_of_other (by simp)] at found
      cases found
      exact .absent (by simp)
    | cons element elements ih =>
      by_cases below : element.IsFieldBelow number
      · rw [wrappedField?_of_below below] at found
        exact .passed below (ih found)
      · by_cases wanted : element.isField = true ∧ element.fieldNumber = number
        · rw [wrappedField?_of_field wanted.1 wanted.2] at found
          simp only [Option.map_eq_some_iff, Option.bind_eq_some_iff] at found
          obtain ⟨_, ⟨inner, wrapped, held⟩, same⟩ := found
          cases same
          obtain ⟨rfl, wellFormed⟩ := eq_field_of_wrapped? few wanted.1 wanted.2 wrapped
          exact .present wellFormed (exact_read.mp held)
        · have other : ∀ next ∈ (element :: elements).head?, ¬ next.IsFieldBelow (number + 1) := by
            rintro _ ⟨⟩ ⟨field, atMost⟩
            rcases Nat.lt_succ_iff_lt_or_eq.mp atMost with less | same
            · exact below ⟨field, less⟩
            · exact wanted ⟨field, same⟩
          rw [wrappedField?_of_other other] at found
          cases found
          exact .absent other
  · intro held
    induction held with
    | passed below _ ih => rw [wrappedField?_of_below below, ih]
    | present wellFormed holds =>
      obtain ⟨field, same, wrapped⟩ := wrapped?_field few wellFormed
      rw [wrappedField?_of_field field same, wrapped, Option.bind_some, exact_read.mpr holds]
      rfl
    | absent other => exact wrappedField?_of_other other

end Reading

end SealedTransfer.Asn1
