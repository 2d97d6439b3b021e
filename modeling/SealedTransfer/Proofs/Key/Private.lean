/-
# SealedTransfer.Proofs.Key.Private — private keys are read back from their blocks

Whatever block a private key was read from, the block that it is stored in is read as the same key. An
RSA key may come in either form and is always stored in the common one; any other key is stored in the
block that it came in.
-/
import SealedTransfer.Key.Private
import SealedTransfer.Proofs.Pem
import SealedTransfer.Proofs.Rsa.Encoding

namespace SealedTransfer

open Asn1 (Element)

/-- The octets of a key are fewer than those of the common form. -/
theorem PrivateKeyInfo.length_octets_lt {info : PrivateKeyInfo} {bound : Nat}
    (fits : info.element.encode.length < bound) : info.octets.length < bound := by
  have inside : (⟨Asn1.octetStringIdentifier, info.octets⟩ : Element) ∈
      [.ofNat plainVersion, info.algorithm.element, ⟨Asn1.octetStringIdentifier, info.octets⟩] := by
    simp
  have inner := Asn1.length_contents_lt ⟨Asn1.octetStringIdentifier, info.octets⟩
  have outer : _ < info.element.encode.length := Asn1.length_encode_lt_sequence inside
  dsimp only at inner
  omega

/-- An RSA key in the common form is read back. -/
theorem PrivateKeyInfo.decode?_rsa {octets : Bytes}
    (fits : (element ⟨rsaAlgorithm, octets⟩).encode.length < Asn1.contentsBound) :
    decode? (element ⟨rsaAlgorithm, octets⟩).encode = some ⟨rsaAlgorithm, octets⟩ := by
  have known : ∀ e ∈ ([.ofNat plainVersion, rsaAlgorithm.element,
      ⟨Asn1.octetStringIdentifier, octets⟩] : List Element), Asn1.isIdentifier e.identifier = true := by
    simp only [List.forall_mem_cons]
    exact ⟨Asn1.isIdentifier_ofNat _, rfl, rfl, nofun⟩
  obtain ⟨whole, parts⟩ := Asn1.read_sequence known fits
  have version : (Element.ofNat plainVersion).small? = some plainVersion := by
    rw [Element.small?, Asn1.natural?_ofNat]
    rfl
  have algorithm : rsaAlgorithm.element.algorithmId? = some rsaAlgorithm := by decide
  have unpaired : publicHalf? [] = some none := rfl
  rw [decode?, element, whole]
  simp only [Option.bind_eq_bind, Option.bind_some, parts, version, algorithm, unpaired]
  rfl

namespace PrivateKey

theorem isTag_of_mem_tags : ∀ tag ∈ tags, Pem.IsTag tag := by decide

/-- An RSA key that can be written in the common form is read back. -/
theorem decodeCommon?_of_encodeCommon? {key : Rsa.PrivateKey} {bytes : Bytes}
    (written : encodeCommon? key = some bytes) : decodeCommon? bytes = some (.rsa key) := by
  simp only [encodeCommon?, Option.bind_eq_bind, Option.bind_eq_some_iff] at written
  obtain ⟨octets, inner, outer⟩ := written
  split at outer
  · rename_i fits
    cases outer
    have key := Rsa.PrivateKey.decode?_of_encode? inner (PrivateKeyInfo.length_octets_lt fits)
    rw [decodeCommon?, PrivateKeyInfo.decode?_rsa fits]
    simp only [Option.bind_eq_bind, Option.bind_some, key, if_true]
    exact if_pos rfl
  · cases outer

theorem block_of_decodeCommon? {algorithm : String} {bytes : Bytes} {block : Pem.Block}
    (decoded : decodeCommon? bytes = some (.other algorithm block)) : block = ⟨commonTag, bytes⟩ := by
  simp only [decodeCommon?, Option.bind_eq_bind, Option.bind_eq_some_iff] at decoded
  obtain ⟨info, -, kept⟩ := decoded
  split at kept
  · -- an RSA key is opened or refused
    split at kept
    · obtain ⟨_, -, opened⟩ := Option.bind_eq_some_iff.mp kept
      cases opened
    · cases kept
  · cases kept
    rfl

/-- A key that is no RSA key is kept as the block that it came in. -/
theorem source_of_other {algorithm : String} {source block : Pem.Block}
    (read : ofBlock source = .ok (.other algorithm block)) :
    block = source ∧ source.tag ∈ tags := by
  unfold ofBlock at read
  split at read
  · split at read <;> cases read
  split at read
  · rename_i tagged
    cases read
    exact ⟨rfl, tagged ▸ by decide⟩
  split at read
  · rename_i tagged
    split at read
    · rename_i decoded
      cases read
      refine ⟨?_, tagged ▸ by decide⟩
      rw [block_of_decodeCommon? decoded, ← tagged]
    · cases read
  · cases read

/-- **A private key is read back** from the block that it is stored in, whatever block it came in. -/
theorem ofBlock_of_block {key : PrivateKey} {source block : Pem.Block}
    (read : ofBlock source = .ok key) (stored : key.block = .ok block) :
    block.tag ∈ tags ∧ ofBlock block = .ok key := by
  cases key with
  | rsa key =>
    simp only [PrivateKey.block] at stored
    split at stored
    · rename_i bytes written
      cases stored
      have tagged : commonTag ∈ tags ∧ commonTag ≠ rsaTag ∧ commonTag ≠ ecdsaTag := by decide
      refine ⟨tagged.1, ?_⟩
      rw [ofBlock, if_neg tagged.2.1, if_neg tagged.2.2, if_pos rfl,
        decodeCommon?_of_encodeCommon? written]
    · cases stored
  | other algorithm kept =>
    cases stored
    obtain ⟨rfl, tagged⟩ := source_of_other read
    exact ⟨tagged, read⟩

end PrivateKey

end SealedTransfer
