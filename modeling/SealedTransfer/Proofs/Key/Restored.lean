/-
# SealedTransfer.Proofs.Key.Restored — stored keys come back as they were

A certified key is stored as a chain, its certificate and its private key in PEM, and reading the chain
makes the key again in the way in which it was made: of the same certificate, with the private key that
its block is read as. A received key is stored as its message, which is all that it was made of. So
every key that can be stored is restored, the mark of its source included.
-/
import SealedTransfer.Key.Any
import SealedTransfer.Proofs.Key.Exchanged
import SealedTransfer.Proofs.Key.Private
import SealedTransfer.Proofs.Message.SigningKey

namespace SealedTransfer

/-! ## Certified keys -/

namespace CertifiedKey

/-- A key is made of a certificate that can be read, and keeps it as it came. -/
theorem of_ofCertificate {encoded : Bytes} {key : CertifiedKey}
    (made : ofCertificate encoded = .ok key) :
    key.encoded = encoded ∧ key.privateKey = none ∧
      Certificate.decode encoded = .ok key.certificate := by
  simp only [ofCertificate, bind_eq_ok] at made
  obtain ⟨certificate, read, publicKey, -, same⟩ := made
  cases same
  exact ⟨rfl, rfl, read⟩

theorem of_ofPair {encoded : Bytes} {privateKey : PrivateKey} {key : CertifiedKey}
    (made : ofPair encoded privateKey = .ok key) :
    key.encoded = encoded ∧ key.privateKey = some privateKey ∧
      Certificate.decode encoded = .ok key.certificate := by
  simp only [ofPair, bind_eq_ok] at made
  obtain ⟨single, certified, paired⟩ := made
  obtain ⟨same, -, read⟩ := of_ofCertificate certified
  split at paired
  · cases paired
    exact ⟨same, rfl, read⟩
  · cases paired

/-- A block of a certificate is a link of a chain. -/
theorem chainItem_certificate {encoded : Bytes} {certificate : Certificate}
    (read : Certificate.decode encoded = .ok certificate) :
    chainItem ⟨certificateTag, encoded⟩ = .ok (.certificate encoded) := by
  rw [chainItem, if_pos rfl, read]
  rfl

/-- A block of a private key is a link of a chain. -/
theorem chainItem_privateKey {block : Pem.Block} {privateKey : PrivateKey}
    (tagged : block.tag ∈ PrivateKey.tags) (read : PrivateKey.ofBlock block = .ok privateKey) :
    chainItem block = .ok (.privateKey privateKey) := by
  have other : block.tag ≠ certificateTag := by
    intro same
    rw [same] at tagged
    exact absurd tagged (by decide)
  rw [chainItem, if_neg other, if_pos tagged, read]
  rfl

/-- A key without a private key is stored as one block. -/
theorem stored_of_single {key : CertifiedKey} (single : key.privateKey = none) :
    key.stored = .ok (Pem.Block.encode ⟨certificateTag, key.encoded⟩) := by
  rw [stored, storedText, single]
  rfl

/-- A key with a private key is stored as two blocks with a blank line between. -/
theorem stored_eq_ok_of_paired {key : CertifiedKey} {privateKey : PrivateKey} {data : Bytes}
    (paired : key.privateKey = some privateKey) :
    key.stored = .ok data ↔ ∃ block, privateKey.block = .ok block ∧
      Pem.Block.encode ⟨certificateTag, key.encoded⟩ ++ ([0x0A] ++ block.encode) = data := by
  have joined (block : Pem.Block) : Text.Utf8.encodeChars
      (Pem.Block.text ⟨certificateTag, key.encoded⟩ ++ '\n' :: block.text)
        = Pem.Block.encode ⟨certificateTag, key.encoded⟩ ++ ([0x0A] ++ block.encode) := by
    rw [Text.Utf8.encodeChars_append]
    rfl
  simp only [stored, storedText, paired, bind_eq_ok]
  constructor
  · rintro ⟨_, ⟨block, written, text⟩, whole⟩
    cases text
    cases whole
    exact ⟨block, written, (joined block).symm⟩
  · rintro ⟨block, written, rfl⟩
    exact ⟨_, ⟨block, written, rfl⟩, congrArg Except.ok (joined block)⟩

/-- **A certified key without a private key is restored.** -/
theorem ofStored_of_ofCertificate {encoded data : Bytes} {key : CertifiedKey}
    (made : ofCertificate encoded = .ok key) (stored : key.stored = .ok data) :
    ofStored data = .ok key := by
  obtain ⟨same, single, read⟩ := of_ofCertificate made
  rw [stored_of_single single, same] at stored
  cases stored
  have items : [(⟨certificateTag, encoded⟩ : Pem.Block)].mapM chainItem
      = .ok [.certificate encoded] := by
    rw [List.mapM_cons, chainItem_certificate read]
    rfl
  rw [ofStored, Pem.blocks?_encode isTag_certificateTag]
  dsimp only
  rw [ofBlocks, items]
  exact made

/-- **A certified key with a private key is restored**, if the private key came in a block. -/
theorem ofStored_of_ofPair {encoded data : Bytes} {source : Pem.Block} {privateKey : PrivateKey}
    {key : CertifiedKey} (opened : PrivateKey.ofBlock source = .ok privateKey)
    (made : ofPair encoded privateKey = .ok key) (stored : key.stored = .ok data) :
    ofStored data = .ok key := by
  obtain ⟨same, paired, read⟩ := of_ofPair made
  obtain ⟨block, written, rfl⟩ := (stored_eq_ok_of_paired paired).mp stored
  obtain ⟨tagged, reopened⟩ := PrivateKey.ofBlock_of_block opened written
  have items : [⟨certificateTag, encoded⟩, block].mapM chainItem
      = .ok [.certificate encoded, .privateKey privateKey] := by
    rw [List.mapM_cons, chainItem_certificate read, List.mapM_cons,
      chainItem_privateKey tagged reopened]
    rfl
  have found : Pem.blocks? (Pem.Block.encode ⟨certificateTag, encoded⟩ ++ ([0x0A] ++ block.encode))
      = some [⟨certificateTag, encoded⟩, block] :=
    Pem.blocks?_encode_gap isTag_certificateTag (List.forall_mem_singleton.mpr rfl)
      (PrivateKey.isTag_of_mem_tags _ tagged)
  rw [ofStored, same, found]
  dsimp only
  rw [ofBlocks, items]
  exact made

end CertifiedKey

/-! ## Received keys -/

/-- **A received key is restored**, if its stored form is not too long to be told. -/
theorem ReceivedKey.ofStored_of_ofMessage {message : SigningKey} {key : ReceivedKey}
    (made : ofMessage message = .ok key) (fits : key.stored.length < 256 ^ 8) :
    ofStored key.stored = .ok key := by
  have same : key.message = message := by
    simp only [ofMessage, bind_eq_ok] at made
    obtain ⟨publicKey, -, whole⟩ := made
    cases whole
    rfl
  rw [ofStored, stored, SigningKey.ofStored?_stored fits, same]
  exact made

/-! ## Keys of either source -/

namespace AnyKey

/-- A key as it comes about: of a certificate, with a private key from a block or without, or of a
message. -/
inductive Obtained : AnyKey → Prop
  | certificate {encoded : Bytes} {key : CertifiedKey}
      (made : CertifiedKey.ofCertificate encoded = .ok key) : Obtained (.certified key)
  | pair {encoded : Bytes} {source : Pem.Block} {privateKey : PrivateKey} {key : CertifiedKey}
      (opened : PrivateKey.ofBlock source = .ok privateKey)
      (made : CertifiedKey.ofPair encoded privateKey = .ok key) : Obtained (.certified key)
  | message {message : SigningKey} {key : ReceivedKey}
      (made : ReceivedKey.ofMessage message = .ok key) : Obtained (.received key)

/-- The mark and the inner form are read back. -/
theorem takeStored_append {mark : Nat} {inner : Bytes}
    (known : mark = certifiedMark ∨ mark = receivedMark) (fits : inner.length < 256 ^ 8) :
    takeStored (Storage.natField 4 mark ++ Storage.bytesField inner) = some ((mark, inner), []) := by
  have small : mark < 256 ^ 4 := by
    rcases known with rfl | rfl <;> decide
  have tail := Storage.takeBytes_bytesField fits []
  rw [List.append_nil] at tail
  rw [takeStored, Storage.bind_eq (Storage.takeNat_natField small _), Storage.bind_eq tail,
    if_pos known]
  rfl

/-- A stored form is a mark and an inner form, which are told apart again. -/
theorem takeStored_of_stored {key : AnyKey} {data : Bytes} (stored : key.stored = .ok data)
    (fits : data.length < 256 ^ 8) :
    ∃ inner, key.storedInner = .ok inner ∧ inner.length < 256 ^ 8 ∧
      takeStored.run data = some ((key.mark, inner), []) := by
  simp only [AnyKey.stored, bind_eq_ok] at stored
  obtain ⟨inner, written, joined⟩ := stored
  cases joined
  have short : inner.length < 256 ^ 8 := by
    have := Storage.length_lt_bytesField inner
    rw [List.length_append] at fits
    omega
  have known : key.mark = certifiedMark ∨ key.mark = receivedMark := by
    cases key
    · exact .inl rfl
    · exact .inr rfl
  exact ⟨inner, written, short, takeStored_append known short⟩

theorem ofStored_certified {key : CertifiedKey} {data : Bytes} (obtained : (certified key).Obtained)
    (stored : key.stored = .ok data) : CertifiedKey.ofStored data = .ok key := by
  cases obtained with
  | certificate made => exact CertifiedKey.ofStored_of_ofCertificate made stored
  | pair opened made => exact CertifiedKey.ofStored_of_ofPair opened made stored

theorem ofStored_received {key : ReceivedKey} (obtained : (received key).Obtained)
    (fits : key.stored.length < 256 ^ 8) : ReceivedKey.ofStored key.stored = .ok key := by
  cases obtained with
  | message made => exact ReceivedKey.ofStored_of_ofMessage made fits

/-- **Stored keys are restored as they were**: a certified key, a received key, and either of them with
the mark of its source. -/
theorem ofStored_of_obtained :
    (∀ {key : CertifiedKey} {data : Bytes}, (certified key).Obtained → key.stored = .ok data →
      CertifiedKey.ofStored data = .ok key) ∧
    (∀ {key : ReceivedKey}, (received key).Obtained → key.stored.length < 256 ^ 8 →
      ReceivedKey.ofStored key.stored = .ok key) ∧
    ∀ {key : AnyKey} {data : Bytes}, key.Obtained → key.stored = .ok data →
      data.length < 256 ^ 8 → ofStored data = .ok key := by
  refine ⟨ofStored_certified, ofStored_received, ?_⟩
  intro key data obtained stored fits
  obtain ⟨inner, written, short, taken⟩ := takeStored_of_stored stored fits
  rw [ofStored, taken]
  dsimp only
  cases key with
  | certified key =>
    have marked : (certified key).mark = certifiedMark := rfl
    rw [if_pos marked, ofStored_certified obtained written]
    rfl
  | received key =>
    have marked : (received key).mark ≠ certifiedMark := by
      show receivedMark ≠ certifiedMark
      decide
    cases written
    rw [if_neg marked, ofStored_received obtained short]
    rfl

/-- A private key for a modulus of one octet. -/
def samplePrivateKey : Rsa.PrivateKey := ⟨⟨33, 3, by decide⟩, 7, 3, 11, by decide⟩

/-- The octets of a certificate for its public half. -/
def samplePairCertificate : Bytes :=
  KeyData.sampleCertificate (PublicKey.subjectKey samplePrivateKey.publicHalf) []

/-- The key of the certificate and the private key. -/
theorem exists_sample_pair :
    ∃ key, CertifiedKey.ofPair samplePairCertificate (.rsa samplePrivateKey) = .ok key := by
  obtain ⟨key, made, -⟩ := KeyData.exists_ofPair
    (show (Certificate.decode? samplePairCertificate).map (·.subjectKey)
      = some (PublicKey.subjectKey samplePrivateKey.publicHalf) by decide +kernel)
    (by decide +kernel)
  exact ⟨key, made⟩

/-- A pair whose private key came in the older form is restored, by itself and as a key of either
source. -/
theorem restores_sample_pair :
    ∃ (source : Pem.Block) (key : CertifiedKey) (data marked : Bytes),
      PrivateKey.ofBlock source = .ok (.rsa samplePrivateKey) ∧ source.tag = PrivateKey.rsaTag ∧
      CertifiedKey.ofPair samplePairCertificate (.rsa samplePrivateKey) = .ok key ∧
      key.stored = .ok data ∧ CertifiedKey.ofStored data = .ok key ∧
      (certified key).stored = .ok marked ∧ ofStored marked = .ok (certified key) := by
  obtain ⟨octets, -, read⟩ : ∃ octets, samplePrivateKey.encode? = some octets ∧
      Rsa.PrivateKey.decode? octets = some samplePrivateKey := by
    rw [← Option.bind_eq_some_iff]
    decide +kernel
  have opened : PrivateKey.ofBlock ⟨PrivateKey.rsaTag, octets⟩ = .ok (.rsa samplePrivateKey) := by
    rw [PrivateKey.ofBlock, if_pos rfl, read]
  obtain ⟨key, made⟩ := exists_sample_pair
  have common : (PrivateKey.encodeCommon? samplePrivateKey).any (fun bytes =>
      (Pem.Block.encode ⟨certificateTag, samplePairCertificate⟩
        ++ ([0x0A] ++ Pem.Block.encode ⟨PrivateKey.commonTag, bytes⟩)).length < 1000) = true := by
    decide +kernel
  obtain ⟨bytes, written, short⟩ := (Option.any_eq_true _ _).mp common
  have block : (PrivateKey.rsa samplePrivateKey).block = .ok ⟨PrivateKey.commonTag, bytes⟩ := by
    simp only [PrivateKey.block, written]
  obtain ⟨same, paired, -⟩ := CertifiedKey.of_ofPair made
  have stored := (CertifiedKey.stored_eq_ok_of_paired paired).mpr ⟨_, block, rfl⟩
  rw [same] at stored
  have marked : (certified key).stored
      = .ok (Storage.natField 4 certifiedMark ++ Storage.bytesField _) :=
    bind_eq_ok.mpr ⟨_, stored, rfl⟩
  have fits {inner : Bytes} (short : inner.length < 1000) :
      (Storage.natField 4 certifiedMark ++ Storage.bytesField inner).length < 256 ^ 8 := by
    simp only [Storage.natField, Storage.bytesField, List.length_append, Bytes.length_ofLittleNat]
    omega
  have obtained := Obtained.pair opened made
  exact ⟨_, key, _, _, opened, rfl, made, stored, ofStored_of_obtained.1 obtained stored, marked,
    ofStored_of_obtained.2.2 obtained marked (fits (of_decide_eq_true short))⟩

end AnyKey

end SealedTransfer
