/-
# SealedTransfer.Proofs.Certificate.SignatureName — when probabilistic signatures get a name

The parameters of a probabilistic signature are four optional fields, two of them with algorithms inside.
What they hold is stated as a grammar, and the reader accepts exactly what the grammar holds, for
elements of every kind. So a signature gets a name exactly if its parameters hold the digest that is
named, the same digest for the mask, and the length of salt that goes with it. The identifier of the
mask function is read and then left alone: parameters with another function get the name as well.
-/
import SealedTransfer.Certificate.SignatureName
import SealedTransfer.Proofs.Asn1.Fields
import SealedTransfer.Proofs.Asn1.Integer
import SealedTransfer.Proofs.Key.Public

namespace SealedTransfer

open Asn1 (AlgorithmId Element FieldHolds ObjectId)

/-! ## What elements hold -/

/-- Which elements hold a number from 0 to 255. -/
def Asn1.IsSmall (n : Nat) (element : Element) : Prop := element = .ofNat n ∧ n < 256

theorem Asn1.small?_eq_some_iff {element : Element} {n : Nat} :
    element.small? = some n ↔ IsSmall n element := by
  rw [Element.small?, Option.filter_eq_some_iff, natural?_eq_some_iff, decide_eq_true_eq, IsSmall]

namespace MaskFunction

/-- Which elements hold a mask generation function: an algorithm without parameters, or one that has
another algorithm for them. -/
inductive IsHeldBy : MaskFunction → Element → Prop
  | bare {id : ObjectId} {element : Element} :
      (AlgorithmId.mk id none).IsHeldBy element → IsHeldBy ⟨id, none⟩ element
  | withDigest {id : ObjectId} {digest : AlgorithmId} {inner element : Element} :
      (AlgorithmId.mk id (some inner)).IsHeldBy element → digest.IsHeldBy inner →
      IsHeldBy ⟨id, some digest.id⟩ element

/-- A mask generation function is read as an algorithm whose parameters are an algorithm. -/
theorem ofElement?_eq (element : Element) :
    ofElement? element = element.algorithmId?.bind fun algorithm =>
      match algorithm.parameters with
      | none => some ⟨algorithm.id, none⟩
      | some inner => inner.algorithmId?.bind fun digest => some ⟨algorithm.id, some digest.id⟩ := by
  rw [ofElement?, Element.algorithmId?]
  cases element.sequence? with
  | none => rfl
  | some elements =>
    rcases elements with _ | ⟨id, _ | ⟨inner, _ | _⟩⟩
    · rfl
    · cases named : id.objectId? <;> simp [named]
    · cases named : id.objectId? <;> simp [named]
    · rfl

/-- **Reading a mask generation function** accepts exactly the elements that hold one. -/
theorem ofElement?_eq_some_iff {element : Element} {mask : MaskFunction} :
    ofElement? element = some mask ↔ mask.IsHeldBy element := by
  rw [ofElement?_eq]
  simp only [Option.bind_eq_some_iff]
  constructor
  · rintro ⟨⟨id, parameters⟩, function, shape⟩
    have held := Asn1.algorithmId?_eq_some_iff.mp function
    cases parameters with
    | none =>
      cases shape
      exact .bare held
    | some inner =>
      obtain ⟨digest, read, same⟩ := Option.bind_eq_some_iff.mp shape
      cases same
      exact .withDigest held (Asn1.algorithmId?_eq_some_iff.mp read)
  · intro held
    cases held with
    | bare function => exact ⟨_, Asn1.algorithmId?_eq_some_iff.mpr function, rfl⟩
    | withDigest function digest =>
      refine ⟨_, Asn1.algorithmId?_eq_some_iff.mpr function, ?_⟩
      exact Option.bind_eq_some_iff.mpr ⟨_, Asn1.algorithmId?_eq_some_iff.mpr digest, rfl⟩

end MaskFunction

namespace PssParameters

/-- Which elements hold parameters: sequences of the fields for digest, mask generation function, length
of the salt and trailer, each of which may be left out for what is standard. -/
inductive IsHeldBy : PssParameters → Element → Prop
  | fields {element : Element} {elements afterDigest afterMask afterSalt : List Element}
      {digest : Option AlgorithmId} {mask : Option MaskFunction} {saltLength given : Option Nat} :
      element = .sequence elements → (∀ e ∈ elements, e.IsWellFormed) →
      FieldHolds 0 AlgorithmId.IsHeldBy digest elements afterDigest →
      FieldHolds 1 MaskFunction.IsHeldBy mask afterDigest afterMask →
      FieldHolds 2 Asn1.IsSmall saltLength afterMask afterSalt →
      FieldHolds 3 Asn1.IsSmall given afterSalt [] →
      given.getD trailer = trailer →
      IsHeldBy ⟨(digest.map AlgorithmId.id).getD standard.digest, mask.getD standard.mask,
        saltLength.getD standard.saltLength⟩ element

/-- **Reading parameters** accepts exactly the elements that hold some. -/
theorem ofElement?_eq_some_iff {element : Element} {parameters : PssParameters} :
    ofElement? element = some parameters ↔ parameters.IsHeldBy element := by
  simp only [ofElement?, Option.bind_eq_bind, Option.bind_eq_some_iff, Prod.exists,
    Asn1.sequence?_eq_some_iff,
    Asn1.wrappedField?_eq_some_iff (show 0 < 32 by decide) Asn1.algorithmId?_eq_some_iff,
    Asn1.wrappedField?_eq_some_iff (show 1 < 32 by decide) MaskFunction.ofElement?_eq_some_iff,
    Asn1.wrappedField?_eq_some_iff (show 2 < 32 by decide) Asn1.small?_eq_some_iff,
    Asn1.wrappedField?_eq_some_iff (show 3 < 32 by decide) Asn1.small?_eq_some_iff]
  constructor
  · rintro ⟨elements, ⟨shape, wellFormed⟩, digest, afterDigest, digestField, mask, afterMask,
      maskField, saltLength, afterSalt, saltField, given, rest, trailerField, checked⟩
    split at checked
    · rename_i passed
      obtain rfl : rest = [] := List.isEmpty_iff.mp passed.1
      cases checked
      exact .fields shape wellFormed digestField maskField saltField trailerField passed.2
    · cases checked
  · intro held
    cases held with
    | fields shape wellFormed digestField maskField saltField trailerField passed =>
      exact ⟨_, ⟨shape, wellFormed⟩, _, _, digestField, _, _, maskField, _, _, saltField, _, _,
        trailerField, if_pos ⟨rfl, passed⟩⟩

/-- Elements hold no more than one kind of parameters. -/
theorem IsHeldBy.unique {parameters others : PssParameters} {element : Element}
    (held : parameters.IsHeldBy element) (other : others.IsHeldBy element) : parameters = others := by
  rw [← ofElement?_eq_some_iff] at held other
  exact Option.some.inj (held.symm.trans other)

/-- A digest as an algorithm. Its parameters are the null value. -/
def digestAlgorithm (digest : ObjectId) : AlgorithmId := ⟨digest, some .null⟩

/-- A mask generation function as an algorithm. Its parameters are its digest. -/
def maskAlgorithm (function digest : ObjectId) : AlgorithmId :=
  ⟨function, some (digestAlgorithm digest).element⟩

/-- Parameters as they are written when the first three are given. -/
def written (digest function : ObjectId) (saltLength : Nat) : Element :=
  .sequence [.field 0 (digestAlgorithm digest).element,
    .field 1 (maskAlgorithm function digest).element, .field 2 (.ofNat saltLength)]

/-- An algorithm with short parameters can be written, in at most fifty-seven octets more than these
contain. -/
theorem written_algorithm (algorithm : AlgorithmId) {inner : Element}
    (valid : ObjectId.isValid algorithm.id.octets = true) (given : algorithm.parameters = some inner)
    (wellFormed : inner.IsWellFormed) (short : inner.contents.length ≤ 100) :
    algorithm.IsHeldBy algorithm.element ∧ algorithm.element.IsWellFormed ∧
      algorithm.element.encode.length ≤ inner.contents.length + 57 := by
  have shape : algorithm.element = .sequence [algorithm.id.element, inner] := by
    rw [AlgorithmId.element, given]
    rfl
  have bound : Asn1.contentsBound = 0x10000000 := rfl
  have few : algorithm.id.element.contents.length ≤ 39 := ObjectId.length_le_most valid
  have pair := Asn1.length_encode_pair_le (show algorithm.id.element.contents.length
    + inner.contents.length + 12 < Asn1.contentsBound by omega)
  rw [← shape] at pair
  have contents := Asn1.length_contents_lt algorithm.element
  refine ⟨⟨rfl, valid, ?_⟩, ⟨show Asn1.isIdentifier Asn1.sequenceIdentifier = true by decide, ?_⟩, ?_⟩
  · rw [given]
    rintro _ ⟨⟩
    exact wellFormed
  · omega
  · omega

/-- A small number can be written, in at most eight octets. -/
theorem written_small {n : Nat} (small : n < 256) :
    (Element.ofNat n).IsWellFormed ∧ (Element.ofNat n).encode.length ≤ 8 := by
  have bound : Asn1.contentsBound = 0x10000000 := rfl
  have contents : (Element.ofNat n).contents.length ≤ 2 :=
    Asn1.length_naturalOctets_le (Bytes.bitLength_le (show n < 2 ^ 8 from small))
  have length := Asn1.length_encode_le (.ofNat n) (by omega)
  exact ⟨⟨Asn1.isIdentifier_ofNat n, by omega⟩, by omega⟩

/-- **Written parameters** are held, with any function for the mask. -/
theorem isHeldBy_written {digest function : ObjectId} {saltLength : Nat}
    (digestValid : ObjectId.isValid digest.octets = true)
    (functionValid : ObjectId.isValid function.octets = true) (small : saltLength < 256) :
    IsHeldBy ⟨digest, ⟨function, some digest⟩, saltLength⟩ (written digest function saltLength) := by
  have bound : Asn1.contentsBound = 0x10000000 := rfl
  have nullWellFormed : Element.null.IsWellFormed := ⟨by decide, by decide⟩
  have nullLength : Element.null.contents.length = 0 := rfl
  obtain ⟨digestHeld, digestWellFormed, digestLength⟩ :=
    written_algorithm (digestAlgorithm digest) digestValid rfl nullWellFormed (by decide)
  have inside := Asn1.length_contents_lt (digestAlgorithm digest).element
  obtain ⟨maskHeld, maskWellFormed, maskLength⟩ :=
    written_algorithm (maskAlgorithm function digest) functionValid rfl digestWellFormed
      (by omega)
  obtain ⟨numberWellFormed, numberLength⟩ := written_small small
  have wellFormed : ∀ e ∈ [Element.field 0 (digestAlgorithm digest).element,
      .field 1 (maskAlgorithm function digest).element, .field 2 (.ofNat saltLength)],
      e.IsWellFormed := by
    simp only [List.forall_mem_cons, List.not_mem_nil, false_imp_iff, implies_true, and_true]
    exact ⟨Asn1.isWellFormed_field (by decide) (by omega),
      Asn1.isWellFormed_field (by decide) (by omega), Asn1.isWellFormed_field (by decide) (by omega)⟩
  have held := IsHeldBy.fields rfl wellFormed (.present digestWellFormed digestHeld)
    (.present maskWellFormed (.withDigest maskHeld digestHeld))
    (.present numberWellFormed ⟨rfl, small⟩) (.absent (by simp))
    (show (none : Option Nat).getD trailer = trailer from rfl)
  exact held

end PssParameters

/-! ## Names -/

/-- Parameters go together for a digest and a length of salt: the digest is that of the mask as well, and
the length is that of the salt. Nothing is asked of the function that makes the mask. -/
structure PssParameters.GoTogether (parameters : PssParameters) (digest : String) (saltLength : Nat) :
    Prop where
  digest : parameters.digest.dotted = digest
  mask : parameters.mask.digest = some parameters.digest
  saltLength : parameters.saltLength = saltLength

/-- Whether parameters are given that can be read and go together. -/
def PssParameters.AreFor (parameters : Option Element) (digest : String) (saltLength : Nat) : Prop :=
  ∃ element held, parameters = some element ∧ IsHeldBy held element ∧
    held.GoTogether digest saltLength

/-- No two names are for one digest, or are the same, and none is the text of the identifier. -/
theorem pssNames_distinct : ∀ known ∈ pssNames, known.name ≠ "1.2.840.113549.1.1.10" ∧
    ∀ other ∈ pssNames, (known.digest = other.digest ∨ known.name = other.name) → known = other := by
  simp [pssNames]

/-- Names are given to the parameters that go together for them. -/
theorem PssParameters.name?_eq_some_iff {parameters : PssParameters} {name : String} :
    parameters.name? = some name ↔
      ∃ known ∈ pssNames, known.name = name ∧
        parameters.GoTogether known.digest known.saltLength := by
  rw [name?]
  constructor
  · intro named
    split at named
    · rename_i mask
      obtain ⟨known, found, same⟩ := Option.map_eq_some_iff.mp named
      have fits := List.find?_some found
      simp only [decide_eq_true_eq] at fits
      exact ⟨known, List.mem_of_find?_eq_some found, same, fits.1.symm, mask, fits.2.symm⟩
    · cases named
  · rintro ⟨known, listed, rfl, digest, mask, saltLength⟩
    rw [if_pos mask]
    cases found : pssNames.find? fun known =>
        known.digest = parameters.digest.dotted ∧ known.saltLength = parameters.saltLength with
    | none =>
      have refused := List.find?_eq_none.mp found known listed
      exact absurd (decide_eq_true (And.intro digest.symm saltLength.symm)) refused
    | some other =>
      have fits := List.find?_some found
      simp only [decide_eq_true_eq] at fits
      have also := List.mem_of_find?_eq_some found
      rw [(pssNames_distinct other also).2 known listed (.inl (fits.1.trans digest))]
      rfl

section Signatures

variable {parameters : Option Element}

theorem pssName?_eq_some_iff {name : String} :
    pssName? ⟨pssId, parameters⟩ = some name ↔
      ∃ known ∈ pssNames, known.name = name ∧
        PssParameters.AreFor parameters known.digest known.saltLength := by
  simp only [pssName?, Option.bind_eq_bind, Option.bind_eq_some_iff,
    PssParameters.ofElement?_eq_some_iff, PssParameters.name?_eq_some_iff]
  constructor
  · rintro ⟨element, given, held, holds, known, listed, same, together⟩
    exact ⟨known, listed, same, element, held, given, holds, together⟩
  · rintro ⟨known, listed, same, element, held, given, holds, together⟩
    exact ⟨element, given, held, holds, known, listed, same, together⟩

theorem dotted_pssId : pssId.dotted = "1.2.840.113549.1.1.10" := by decide +kernel

/-- Without a name, a signature is called by its identifier. -/
theorem signatureName_pssId :
    signatureName ⟨pssId, parameters⟩
      = (pssName? ⟨pssId, parameters⟩).getD "1.2.840.113549.1.1.10" := by
  simp only [signatureName, if_true, dotted_pssId]

theorem signatureName_eq_name_iff {known : PssName} (listed : known ∈ pssNames) :
    signatureName ⟨pssId, parameters⟩ = known.name ↔
      PssParameters.AreFor parameters known.digest known.saltLength := by
  rw [signatureName_pssId]
  constructor
  · intro named
    cases found : pssName? ⟨pssId, parameters⟩ with
    | none =>
      rw [found] at named
      exact absurd named.symm (pssNames_distinct known listed).1
    | some name =>
      obtain ⟨other, also, same, given⟩ := pssName?_eq_some_iff.mp found
      rw [found, Option.getD_some, ← same] at named
      rwa [(pssNames_distinct other also).2 known listed (.inr named)] at given
  · intro given
    rw [pssName?_eq_some_iff.mpr ⟨known, listed, rfl, given⟩]
    rfl

theorem signatureName_eq_dotted_iff :
    signatureName ⟨pssId, parameters⟩ = "1.2.840.113549.1.1.10" ↔
      ∀ known ∈ pssNames, ¬ PssParameters.AreFor parameters known.digest known.saltLength := by
  constructor
  · intro called known listed given
    rw [(signatureName_eq_name_iff listed).mpr given] at called
    exact (pssNames_distinct known listed).1 called
  · intro without
    rw [signatureName_pssId]
    cases found : pssName? ⟨pssId, parameters⟩ with
    | none => rfl
    | some name =>
      obtain ⟨known, listed, -, given⟩ := pssName?_eq_some_iff.mp found
      exact absurd given (without known listed)

/-- Written parameters that go together for a name get it, with any function for the mask. -/
theorem signatureName_written {known : PssName} (listed : known ∈ pssNames) {digest function : ObjectId}
    (digestValid : ObjectId.isValid digest.octets = true)
    (functionValid : ObjectId.isValid function.octets = true) (named : digest.dotted = known.digest) :
    signatureName ⟨pssId, some (PssParameters.written digest function known.saltLength)⟩
      = known.name := by
  have small : known.saltLength < 256 := by
    revert known
    simp [pssNames]
  refine (signatureName_eq_name_iff listed).mpr ?_
  exact ⟨_, _, rfl, PssParameters.isHeldBy_written digestValid functionValid small, named, rfl, rfl⟩

/-- **A probabilistic signature is called** by a name exactly if its parameters hold the digest of the
name, the same digest for the mask and the length of salt that goes with it, whatever function makes the
mask. In all other cases it is called by its identifier: if there are no parameters or none that can be
read, and for other digests and lengths. -/
theorem signatureName_probabilistic (parameters : Option Element) :
    (signatureName ⟨pssId, parameters⟩ = "SHA256-RSAPSS" ↔
      PssParameters.AreFor parameters "2.16.840.1.101.3.4.2.1" 32) ∧
    (signatureName ⟨pssId, parameters⟩ = "SHA384-RSAPSS" ↔
      PssParameters.AreFor parameters "2.16.840.1.101.3.4.2.2" 48) ∧
    (signatureName ⟨pssId, parameters⟩ = "SHA512-RSAPSS" ↔
      PssParameters.AreFor parameters "2.16.840.1.101.3.4.2.3" 64) ∧
    (signatureName ⟨pssId, parameters⟩ = "1.2.840.113549.1.1.10" ↔
      ¬ PssParameters.AreFor parameters "2.16.840.1.101.3.4.2.1" 32 ∧
      ¬ PssParameters.AreFor parameters "2.16.840.1.101.3.4.2.2" 48 ∧
      ¬ PssParameters.AreFor parameters "2.16.840.1.101.3.4.2.3" 64) := by
  have named := @signatureName_eq_name_iff parameters
  have unnamed := @signatureName_eq_dotted_iff parameters
  simp only [pssNames, List.mem_cons, List.not_mem_nil, or_false, forall_eq_or_imp, forall_eq]
    at named unnamed
  exact ⟨named.1, named.2.1, named.2.2, unnamed⟩

/-- A signature is called by a name although something else makes its mask than the function that the name
stands for: its identifier is 1.2.840.113549.1.1.7. -/
theorem named_despite_other_mask :
    let sha256Id : ObjectId := ⟨[0x60, 0x86, 0x48, 0x01, 0x65, 0x03, 0x04, 0x02, 0x01]⟩
    let otherId : ObjectId := ⟨[0x2A, 0x86, 0x48, 0x86, 0xF7, 0x0D, 0x01, 0x01, 0x07]⟩
    let element := PssParameters.written sha256Id otherId 32
    signatureName ⟨pssId, some element⟩ = "SHA256-RSAPSS" ∧
      ∀ held, PssParameters.IsHeldBy held element → held.mask.id ≠ maskId := by
  intro sha256Id otherId element
  have known : (⟨"2.16.840.1.101.3.4.2.1", "SHA256-RSAPSS", 32⟩ : PssName) ∈ pssNames := by
    simp [pssNames]
  constructor
  · exact signatureName_written known (by decide) (by decide) (by decide +kernel)
  · intro held holds
    rw [holds.unique (PssParameters.isHeldBy_written (by decide) (by decide) (by decide))]
    decide

end Signatures

end SealedTransfer
