/-
# SealedTransfer.Proofs.Envelope.Algorithms — which names pass the checks

A message names the algorithms of its payload. Four names of the encryption are supported; three of
them ask for a key of one length, the fourth leaves the length open.
-/
import SealedTransfer.Envelope.Transitions
import Mathlib.Tactic.ByContra

namespace SealedTransfer.Message

/-- The algorithms of a message are supported. -/
def Supported (message : Message) : Prop :=
  (message.encryptionAlgorithm = PayloadCipher.aes256 ∨
    message.encryptionAlgorithm = PayloadCipher.aes192 ∨
    message.encryptionAlgorithm = PayloadCipher.aes128 ∨
    message.encryptionAlgorithm = PayloadCipher.aesAny) ∧
  message.hmacAlgorithm = PayloadCipher.hmacAlgorithm

/-- The algorithms of a message are those of a cipher with a key of the given length. The name of the
encryption may leave the length open. -/
def Names (message : Message) (length : Nat) : Prop :=
  (message.encryptionAlgorithm = PayloadCipher.algorithmOfLength length ∨
    message.encryptionAlgorithm = PayloadCipher.aesAny) ∧
  message.hmacAlgorithm = PayloadCipher.hmacAlgorithm

/-- Supported algorithms pass the check, and no others do. -/
theorem checkAlgorithms_eq_ok {message : Message} :
    message.checkAlgorithms = .ok () ↔ message.Supported := by
  unfold checkAlgorithms Supported PayloadCipher.algorithms
  simp only [List.any_cons, List.any_nil, Bool.or_false, Bool.not_eq_true', Bool.or_eq_false_iff,
    decide_eq_false_iff_not]
  split
  · rename_i none
    simp only [reduceCtorEq, false_iff, not_and]
    rintro (h | h | h | h)
    · exact absurd h.symm none.1
    · exact absurd h.symm none.2.1
    · exact absurd h.symm none.2.2.1
    · exact absurd h.symm none.2.2.2
  · rename_i some
    have supported : message.encryptionAlgorithm = PayloadCipher.aes256 ∨
        message.encryptionAlgorithm = PayloadCipher.aes192 ∨
        message.encryptionAlgorithm = PayloadCipher.aes128 ∨
        message.encryptionAlgorithm = PayloadCipher.aesAny := by
      by_contra unsupported
      simp only [not_or] at unsupported
      exact some ⟨Ne.symm unsupported.1, Ne.symm unsupported.2.1, Ne.symm unsupported.2.2.1,
        Ne.symm unsupported.2.2.2⟩
    split
    · rename_i other
      simp [other]
    · rename_i same
      simp [supported, not_not.mp same]

/-- A message with unsupported algorithms is refused for good, and the refusal is for them. -/
theorem checkAlgorithms_of_unsupported {message : Message} (unsupported : ¬ message.Supported) :
    ∃ rejection : Rejection, rejection.code = .unhandledAlgorithm ∧ rejection.retry = false ∧
      message.checkAlgorithms = .error (.rejected rejection) := by
  cases checked : message.checkAlgorithms with
  | ok _ => exact absurd (checkAlgorithms_eq_ok.mp checked) unsupported
  | error failure =>
    unfold checkAlgorithms at checked
    split at checked
    · cases checked
      exact ⟨_, rfl, rfl, rfl⟩
    split at checked
    · cases checked
      exact ⟨_, rfl, rfl, rfl⟩
    · cases checked

/-- The names of a cipher are supported. -/
theorem Names.supported {message : Message} {length : Nat} (h : message.Names length) :
    message.Supported := by
  refine ⟨?_, h.2⟩
  rcases h.1 with named | any
  · rw [named]
    unfold PayloadCipher.algorithmOfLength
    split
    · exact .inl rfl
    split
    · exact .inr (.inl rfl)
    split
    · exact .inr (.inr (.inl rfl))
    · exact .inr (.inr (.inr rfl))
  · exact .inr (.inr (.inr any))

/-- A name is looked up entry by entry. -/
theorem lookup_cons_eq_ite {α : Type} (name key : String) (value : α) (rest : List (String × α)) :
    ((key, value) :: rest).lookup name = if name = key then some value else rest.lookup name := by
  rw [List.lookup_cons]
  by_cases same : name = key
  · rw [if_pos same, beq_iff_eq.mpr same]
  · rw [if_neg same, beq_eq_false_iff_ne.mpr same]

/-- The length that the name of an encryption asks for. -/
theorem expectedKeyLength?_eq {message : Message} :
    message.expectedKeyLength? =
      if message.encryptionAlgorithm = PayloadCipher.aes256 then some 32
      else if message.encryptionAlgorithm = PayloadCipher.aes192 then some 24
      else if message.encryptionAlgorithm = PayloadCipher.aes128 then some 16
      else none := by
  unfold expectedKeyLength? PayloadCipher.algorithms
  simp only [lookup_cons_eq_ite, List.lookup_nil]
  split
  · rfl
  split
  · rfl
  split
  · rfl
  -- the name that leaves the length open and the unknown ones ask for none
  split <;> rfl

/-- Algorithms and key pass the checks exactly if the algorithms are those of a cipher with the key. -/
theorem checks_eq_ok {message : Message} :
    message.Supported ∧ message.checkKeyLength = .ok () ↔
      message.Names message.encryptionKey.length := by
  have checked : message.checkKeyLength = .ok () ↔
      message.expectedKeyLength?.all (· = message.encryptionKey.length) = true := by
    unfold checkKeyLength
    split <;> simp_all
  rw [checked, expectedKeyLength?_eq]
  -- one case for each name: three of them fix the length, the fourth fixes nothing
  constructor
  · rintro ⟨supported, fits⟩
    refine ⟨?_, supported.2⟩
    rcases supported.1 with h | h | h | h
    · simp only [h, if_true, Option.all_some, decide_eq_true_iff] at fits
      exact .inl (by rw [h, ← fits]; rfl)
    · have other : PayloadCipher.aes192 ≠ PayloadCipher.aes256 := by decide
      simp only [h, if_neg other, if_true, Option.all_some, decide_eq_true_iff] at fits
      exact .inl (by rw [h, ← fits]; rfl)
    · have other : PayloadCipher.aes128 ≠ PayloadCipher.aes256 := by decide
      have another : PayloadCipher.aes128 ≠ PayloadCipher.aes192 := by decide
      simp only [h, if_neg other, if_neg another, if_true, Option.all_some,
        decide_eq_true_iff] at fits
      exact .inl (by rw [h, ← fits]; rfl)
    · exact .inr h
  · intro names
    refine ⟨names.supported, ?_⟩
    rcases names.1 with h | h
    · rw [h]
      unfold PayloadCipher.algorithmOfLength
      split
      · simp_all
      split
      · simp_all [PayloadCipher.aes192, PayloadCipher.aes256]
      split
      · simp_all [PayloadCipher.aes128, PayloadCipher.aes192, PayloadCipher.aes256]
      · simp [PayloadCipher.aesAny, PayloadCipher.aes128, PayloadCipher.aes192,
          PayloadCipher.aes256]
    · rw [h]
      simp [PayloadCipher.aesAny, PayloadCipher.aes128, PayloadCipher.aes192, PayloadCipher.aes256]

/-! ## Names that ask for a length -/

section Sized

variable {message : Message} {name : String} {length : Nat}

/-- The names that ask for a length. -/
theorem mem_algorithms :
    (name, some length) ∈ PayloadCipher.algorithms ↔
      name = PayloadCipher.aes256 ∧ length = 32 ∨ name = PayloadCipher.aes192 ∧ length = 24 ∨
        name = PayloadCipher.aes128 ∧ length = 16 := by
  simp [PayloadCipher.algorithms]

/-- A name that asks for a length is that of the ciphers with such a key. -/
theorem eq_algorithmOfLength_of_mem (sized : (name, some length) ∈ PayloadCipher.algorithms) :
    name = PayloadCipher.algorithmOfLength length := by
  rcases mem_algorithms.mp sized with ⟨rfl, rfl⟩ | ⟨rfl, rfl⟩ | ⟨rfl, rfl⟩ <;> rfl

/-- The length that a name in the table asks for. -/
theorem expectedKeyLength?_of_mem
    (sized : (message.encryptionAlgorithm, some length) ∈ PayloadCipher.algorithms) :
    message.expectedKeyLength? = some length := by
  rw [expectedKeyLength?]
  rcases mem_algorithms.mp sized with ⟨same, rfl⟩ | ⟨same, rfl⟩ | ⟨same, rfl⟩ <;> rw [same] <;> rfl

/-- A key of another length is refused for good, and the refusal is for the key. -/
theorem checkKeyLength_of_ne
    (sized : (message.encryptionAlgorithm, some length) ∈ PayloadCipher.algorithms)
    (different : message.encryptionKey.length ≠ length) :
    ∃ rejection : Rejection, rejection.code = .invalidKey ∧ rejection.retry = false ∧
      message.checkKeyLength = .error (.rejected rejection) := by
  have unfit : ¬ message.expectedKeyLength?.all (· = message.encryptionKey.length) = true := by
    simp [expectedKeyLength?_of_mem sized, different.symm]
  rw [checkKeyLength, if_neg unfit]
  exact ⟨_, rfl, rfl, rfl⟩

end Sized

/-- What is made of a key depends on the name of the encryption and on the length of the key. -/
theorem checkKeyLength_congr (message : Message) {other : Message}
    (sameName : other.encryptionAlgorithm = message.encryptionAlgorithm)
    (sameLength : other.encryptionKey.length = message.encryptionKey.length) :
    other.checkKeyLength = message.checkKeyLength := by
  have sameExpected : other.expectedKeyLength? = message.expectedKeyLength? := by
    rw [expectedKeyLength?, expectedKeyLength?, sameName]
  rw [checkKeyLength, checkKeyLength, sameExpected, sameLength, sameName]

end SealedTransfer.Message
