/-
# SealedTransfer.Proofs.Key.Public — a public key is written as it was read

Every part of a public key is read from one encoding only: identifiers and parameters are kept as they
came, bit strings keep their unused bits, and of an RSA key nothing is left open, since its parameters
are null, its bits whole octets and its numbers in the fewest octets. So the octets that a key is read
from are the key's encoding, and they are key data for it. An RSA key is read back from its encoding as
long as its modulus is not too long, and its older encoding is no encoding of any key.
-/
import SealedTransfer.Key.Exchanged
import SealedTransfer.Proofs.Rsa.Encoding

namespace SealedTransfer

/-! ## Parts -/

namespace Asn1

section Parts

variable {element : Element}

/-- Which elements hold an identifier: its own one, if its octets are an identifier's. -/
def ObjectId.IsHeldBy (id : ObjectId) (element : Element) : Prop :=
  element = id.element ∧ isValid id.octets = true

/-- Which elements hold an algorithm: its own one, if it can be written. -/
def AlgorithmId.IsHeldBy (algorithm : AlgorithmId) (element : Element) : Prop :=
  element = algorithm.element ∧ ObjectId.isValid algorithm.id.octets = true ∧
    ∀ parameters ∈ algorithm.parameters, parameters.IsWellFormed

/-- Reading an identifier accepts exactly the elements that hold one. -/
theorem objectId?_eq_some_iff {id : ObjectId} :
    element.objectId? = some id ↔ id.IsHeldBy element := by
  constructor
  · intro read
    rw [Element.objectId?] at read
    split at read
    · rename_i found
      cases read
      refine ⟨?_, found.2⟩
      rw [ObjectId.element, ← found.1]
    · cases read
  · rintro ⟨rfl, valid⟩
    rw [Element.objectId?, ObjectId.element, if_pos ⟨rfl, valid⟩]

theorem ObjectId.length_le_most {id : ObjectId} (valid : isValid id.octets = true) :
    id.octets.length ≤ most := by
  simp only [isValid, Bool.and_eq_true, decide_eq_true_eq] at valid
  exact valid.1.1.2

/-- An identifier can be written. -/
theorem ObjectId.isWellFormed_element {id : ObjectId} (valid : isValid id.octets = true) :
    id.element.IsWellFormed := by
  refine ⟨show isIdentifier objectIdIdentifier = true by decide, ?_⟩
  exact Nat.lt_of_le_of_lt (length_le_most valid) (by decide)

/-- **Reading an algorithm** accepts exactly the elements that hold one. -/
theorem algorithmId?_eq_some_iff {algorithm : AlgorithmId} :
    element.algorithmId? = some algorithm ↔ algorithm.IsHeldBy element := by
  constructor
  · intro read
    simp only [Element.algorithmId?, Option.bind_eq_bind, Option.bind_eq_some_iff] at read
    obtain ⟨elements, parts, shape⟩ := read
    obtain ⟨rfl, wellFormed⟩ := eq_of_sequence? parts
    split at shape
    · obtain ⟨id, named, same⟩ := Option.bind_eq_some_iff.mp shape
      cases same
      obtain ⟨rfl, valid⟩ := objectId?_eq_some_iff.mp named
      exact ⟨rfl, valid, by simp⟩
    · obtain ⟨id, named, same⟩ := Option.bind_eq_some_iff.mp shape
      cases same
      obtain ⟨rfl, valid⟩ := objectId?_eq_some_iff.mp named
      refine ⟨rfl, valid, ?_⟩
      rintro _ ⟨⟩
      exact wellFormed _ (by simp)
    · cases shape
  · rintro ⟨rfl, valid, wellFormed⟩
    obtain ⟨id, parameters⟩ := algorithm
    have named : id.element.objectId? = some id := objectId?_eq_some_iff.mpr ⟨rfl, valid⟩
    have parts : (AlgorithmId.mk id parameters).element.sequence?
        = some (id.element :: parameters.toList) := by
      refine sequence?_eq_some_iff.mpr ⟨rfl, ?_⟩
      intro part inside
      rcases List.mem_cons.mp inside with rfl | inside
      · exact ObjectId.isWellFormed_element valid
      · exact wellFormed part (Option.mem_toList.mp inside)
    rw [Element.algorithmId?, parts]
    cases parameters with
    | none => simp [named]
    | some parameters => simp [named]

/-- What is read as an algorithm is the one way to write it. -/
theorem eq_of_algorithmId? {algorithm : AlgorithmId} (read : element.algorithmId? = some algorithm) :
    element = algorithm.element :=
  (algorithmId?_eq_some_iff.mp read).1

/-- What is read as a bit string is the one way to write it. -/
theorem eq_of_bitString? {bits : BitString} (read : element.bitString? = some bits) :
    element = bits.element := by
  obtain ⟨identifier, contents⟩ := element
  rw [Element.bitString?] at read
  split at read
  · rename_i marked
    dsimp only at marked read
    rw [marked, BitString.element]
    cases contents with
    | nil => cases read
    | cons unused octets =>
      rw [BitString.ofContents?] at read
      split at read
      · cases read
        rfl
      · cases read
  · cases read

/-- Whole octets are all that there is of a bit string that has them. -/
theorem BitString.eq_of_wholeOctets? {bits : BitString} {octets : Bytes}
    (whole : bits.wholeOctets? = some octets) : bits = .ofOctets octets := by
  rw [wholeOctets?] at whole
  split at whole
  · rename_i aligned
    cases whole
    rw [ofOctets, ← aligned]
  · cases whole

/-- Whole octets are read back from their bit string. -/
theorem bitString?_ofOctets (octets : Bytes) :
    (BitString.ofOctets octets).element.bitString? = some (.ofOctets octets) := by
  have marked : (BitString.ofOctets octets).element.identifier = bitStringIdentifier := rfl
  have aligned : (0 : UInt8) ≤ 7 ∧ (octets = [] → (0 : UInt8) = 0) := ⟨by decide, fun _ => rfl⟩
  rw [Element.bitString?, if_pos marked]
  exact if_pos aligned

end Parts

end Asn1

/-! ## Keys -/

open Asn1 (Element)

namespace SubjectKey

/-- What is read as a key is the one way to write it. -/
theorem eq_of_ofElement? {element : Element} {key : SubjectKey}
    (read : ofElement? element = some key) : element = key.element := by
  simp only [ofElement?, Option.bind_eq_bind, Option.bind_eq_some_iff] at read
  obtain ⟨elements, parts, shape⟩ := read
  rw [(Asn1.eq_of_sequence? parts).1]
  split at shape
  · simp only [Option.bind_eq_some_iff] at shape
    obtain ⟨algorithm, readAlgorithm, bits, readBits, same⟩ := shape
    cases same
    rw [Asn1.eq_of_algorithmId? readAlgorithm, Asn1.eq_of_bitString? readBits]
    rfl
  · cases shape

/-- The octets that a key is read from are its encoding. -/
theorem eq_of_decode? {bytes : Bytes} {key : SubjectKey} (read : decode? bytes = some key) :
    bytes = key.encode := by
  simp only [decode?, Option.bind_eq_bind, Option.bind_eq_some_iff] at read
  obtain ⟨element, whole, found⟩ := read
  rw [(Asn1.element?_eq_some_iff.mp whole).1, eq_of_ofElement? found, encode]

/-- A key that an element was read as is read back from its encoding. -/
theorem decode?_encode_of_ofElement? {element : Element} {key : SubjectKey}
    (wellFormed : element.IsWellFormed) (read : ofElement? element = some key) :
    decode? key.encode = some key := by
  have same := eq_of_ofElement? read
  have whole : Asn1.element? key.encode = some element :=
    Asn1.element?_eq_some_iff.mpr ⟨congrArg Element.encode same.symm, wellFormed⟩
  rw [decode?, whole]
  exact read

end SubjectKey

namespace PublicKey

/-- An RSA key stands in no other common form than its own, and may be received. -/
theorem of_rsaKey? {subject : SubjectKey} {key : Rsa.PublicKey}
    (read : rsaKey? subject = some key) :
    subject = subjectKey key ∧ key.bits ≤ Rsa.PublicKey.longestReceived := by
  obtain ⟨algorithm, bits⟩ := subject
  rw [rsaKey?] at read
  split at read
  · rename_i rsa
    simp only [Option.bind_eq_bind, Option.bind_eq_some_iff] at read
    obtain ⟨octets, whole, found⟩ := read
    obtain ⟨same, received⟩ := Rsa.PublicKey.of_decode? found
    dsimp only at rsa whole
    rw [rsa, Asn1.BitString.eq_of_wholeOctets? whole, same, subjectKey]
    exact ⟨rfl, received⟩
  · cases read

theorem decode_eq_ok_iff {bytes : Bytes} {key : PublicKey} :
    decode bytes = .ok key ↔ decode? bytes = some key := by
  rw [decode]
  cases decode? bytes with
  | none => exact ⟨nofun, nofun⟩
  | some found => rw [Except.ok.injEq, Option.some.injEq]

/-- How octets are read as a key: an RSA key is opened, any other key is kept as it came. -/
inductive Reads (bytes : Bytes) : PublicKey → Prop
  | rsa {subject : SubjectKey} {key : Rsa.PublicKey}
      (found : SubjectKey.decode? bytes = some subject) (named : subject.algorithm.id = rsaId)
      (opened : rsaKey? subject = some key) : Reads bytes (.rsa key)
  | other {subject : SubjectKey} (found : SubjectKey.decode? bytes = some subject)
      (named : subject.algorithm.id ≠ rsaId) :
      Reads bytes (.other (keyAlgorithmName subject.algorithm.id) bytes)

theorem decode?_eq_some_iff {bytes : Bytes} {key : PublicKey} :
    decode? bytes = some key ↔ Reads bytes key := by
  constructor
  · intro read
    simp only [decode?, Option.bind_eq_bind, Option.bind_eq_some_iff] at read
    obtain ⟨subject, found, kept⟩ := read
    split at kept
    · rename_i named
      obtain ⟨inner, opened, same⟩ := Option.bind_eq_some_iff.mp kept
      cases same
      exact .rsa found named opened
    · rename_i named
      cases kept
      exact .other found named
  · intro reads
    cases reads with
    | rsa found named opened =>
      simp only [decode?, found, Option.bind_eq_bind, Option.bind_some, opened, if_pos named]
    | other found named =>
      simp only [decode?, found, Option.bind_eq_bind, Option.bind_some, if_neg named]

/-- **A public key is written as it was read.** -/
theorem encode_of_decode? {bytes : Bytes} {key : PublicKey} (read : decode? bytes = some key) :
    key.encode = bytes := by
  cases decode?_eq_some_iff.mp read with
  | rsa found named opened =>
    rw [SubjectKey.eq_of_decode? found, (of_rsaKey? opened).1, encode]
  | other found named => rfl

/-- A public key is named as its algorithm is. -/
theorem algorithm_of_decode? {bytes : Bytes} {subject : SubjectKey} {key : PublicKey}
    (found : SubjectKey.decode? bytes = some subject) (read : decode? bytes = some key) :
    key.algorithm = keyAlgorithmName subject.algorithm.id := by
  cases decode?_eq_some_iff.mp read with
  | rsa found' named opened =>
    cases found.symm.trans found'
    rw [named]
    rfl
  | other found' named =>
    cases found.symm.trans found'
    rfl

/-- The encoding of a key that was read is key data for it. -/
theorem publicKey_encode_of_decode? {bytes : Bytes} {key : PublicKey}
    (read : decode? bytes = some key) : KeyData.publicKey key.encode = .ok key := by
  rw [encode_of_decode? read, KeyData.publicKey, read]

/-- The common form of an RSA key that may be received is short enough to be read. -/
theorem length_encode_subjectKey_lt {key : Rsa.PublicKey}
    (received : key.bits ≤ Rsa.PublicKey.longestReceived) :
    (subjectKey key).encode.length < Asn1.contentsBound := by
  have inner := Rsa.PublicKey.length_encode_le received
  have algorithm : rsaAlgorithm.element.contents.length = 13 := rfl
  have bits : (Asn1.BitString.ofOctets key.encode).element.contents.length = key.encode.length + 1 := rfl
  have bound : Asn1.contentsBound = 0x10000000 := rfl
  have pair := Asn1.length_encode_pair_le (show rsaAlgorithm.element.contents.length
    + (Asn1.BitString.ofOctets key.encode).element.contents.length + 12 < Asn1.contentsBound by omega)
  rw [SubjectKey.encode, SubjectKey.element, subjectKey]
  dsimp only
  omega

/-- An RSA key that may be received is read back from its common form. -/
theorem decode?_encode_rsa {key : Rsa.PublicKey}
    (received : key.bits ≤ Rsa.PublicKey.longestReceived) :
    decode? (PublicKey.rsa key).encode = some (.rsa key) := by
  have known : ∀ e ∈ [rsaAlgorithm.element, (Asn1.BitString.ofOctets key.encode).element],
      Asn1.isIdentifier e.identifier = true := by
    simp only [List.forall_mem_cons]
    exact ⟨rfl, rfl, nofun⟩
  obtain ⟨whole, parts⟩ := Asn1.read_sequence known (length_encode_subjectKey_lt received)
  have algorithm : rsaAlgorithm.element.algorithmId? = some rsaAlgorithm := by decide
  have subject : SubjectKey.decode? (subjectKey key).encode = some (subjectKey key) := by
    rw [SubjectKey.decode?, SubjectKey.encode, SubjectKey.element, subjectKey, whole]
    simp only [Option.bind_eq_bind, Option.bind_some, SubjectKey.ofElement?, parts, algorithm,
      Asn1.bitString?_ofOctets]
  have own : rsaKey? (subjectKey key) = some key := by
    have whole : (Asn1.BitString.ofOctets key.encode).wholeOctets? = some key.encode := rfl
    rw [rsaKey?, subjectKey, if_pos rfl, whole]
    exact Rsa.PublicKey.decode?_eq_some_iff.mpr ⟨rfl, received⟩
  rw [decode?, encode, subject]
  simp only [Option.bind_eq_bind, Option.bind_some, own]
  exact if_pos rfl

/-- **Reading an RSA key** accepts exactly its common form, if the key may be received. -/
theorem decode?_eq_some_rsa_iff {bytes : Bytes} {key : Rsa.PublicKey} :
    decode? bytes = some (.rsa key) ↔
      bytes = (PublicKey.rsa key).encode ∧ key.bits ≤ Rsa.PublicKey.longestReceived := by
  constructor
  · intro read
    refine ⟨(encode_of_decode? read).symm, ?_⟩
    cases decode?_eq_some_iff.mp read with
    | rsa found named opened => exact (of_rsaKey? opened).2
  · rintro ⟨rfl, received⟩
    exact decode?_encode_rsa received

/-- An RSA key by itself is no key in the common form: it begins with a number, not with an algorithm. -/
theorem decode?_encode_pkcs {key : Rsa.PublicKey}
    (received : key.bits ≤ Rsa.PublicKey.longestReceived) : decode? key.encode = none := by
  obtain ⟨whole, parts⟩ := Rsa.PublicKey.read_encode received
  have number : (Element.ofNat key.modulus).algorithmId? = none := rfl
  rw [decode?, SubjectKey.decode?, whole]
  simp only [Option.bind_eq_bind, Option.bind_some, SubjectKey.ofElement?, parts, number,
    Option.bind_none]

end PublicKey

end SealedTransfer
