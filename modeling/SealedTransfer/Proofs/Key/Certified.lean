/-
# SealedTransfer.Proofs.Key.Certified — what a counterparty has of a certified key

However a certified key comes about, it is made of one certificate that can be read, and a private RSA
key is the one that goes with that certificate. The message that tells of the key has it in the one way
in which it is written, so a counterparty finds the same key there, under the same name and with the
same fingerprint, and the times of the certificate to the second.
-/
import SealedTransfer.Key.Any
import SealedTransfer.Proofs.Certificate

namespace SealedTransfer

namespace CertifiedKey

/-! ## How certified keys come about -/

/-- A certified key as it comes about: of a certificate, with a private key or without, of what a
provider has, or of a stored form. -/
inductive Made : CertifiedKey → Prop
  | certificate {encoded : Bytes} {key : CertifiedKey} (made : ofCertificate encoded = .ok key) :
      Made key
  | pair {encoded : Bytes} {privateKey : PrivateKey} {key : CertifiedKey}
      (made : ofPair encoded privateKey = .ok key) : Made key
  | provider {provider : KeyProvider} {key : CertifiedKey} (made : ofProvider provider = .ok key) :
      Made key
  | stored {data : Bytes} {key : CertifiedKey} (made : ofStored data = .ok key) : Made key

/-- A key whose parts belong together: the certificate is the one that was received, the public key is
the certificate's, and a private RSA key goes with it. -/
structure IsCoherent (key : CertifiedKey) : Prop where
  read : Certificate.decode? key.encoded = some key.certificate
  own : key.certificate.publicKey = .ok key.publicKey
  paired : ∀ privateKey, key.privateKey = some (.rsa privateKey) →
    key.publicKey = .rsa privateKey.publicHalf

variable {key : CertifiedKey} {encoded : Bytes}

theorem isCoherent_of_ofCertificate (made : ofCertificate encoded = .ok key) : key.IsCoherent := by
  simp only [ofCertificate, bind_eq_ok] at made
  obtain ⟨certificate, decoded, publicKey, own, same⟩ := made
  cases same
  exact ⟨Certificate.decode_eq_ok_iff.mp decoded, own, nofun⟩

theorem isCoherent_of_ofPair {privateKey : PrivateKey} (made : ofPair encoded privateKey = .ok key) :
    key.IsCoherent := by
  simp only [ofPair, bind_eq_ok] at made
  obtain ⟨single, certified, paired⟩ := made
  obtain ⟨read, own, -⟩ := isCoherent_of_ofCertificate certified
  split at paired
  · rename_i fits
    cases paired
    refine ⟨read, own, ?_⟩
    rintro rsa ⟨⟩
    exact of_decide_eq_true fits
  · cases paired

theorem isCoherent_of_ofParts {privateKey : Option PrivateKey}
    (made : ofParts encoded privateKey = .ok key) : key.IsCoherent := by
  cases privateKey with
  | some privateKey => exact isCoherent_of_ofPair made
  | none => exact isCoherent_of_ofCertificate made

/-- The key of a chain is made of the first certificate and of the private key, if there is one. -/
theorem exists_parts_of_ofChain {certificates : List Bytes} {privateKeys : List PrivateKey}
    (made : ofChain certificates privateKeys = .ok key) :
    ∃ encoded privateKey, ofParts encoded privateKey = .ok key := by
  unfold ofChain at made
  split at made
  · cases made
  · cases made
  · exact ⟨_, some _, made⟩
  · exact ⟨_, none, made⟩

/-- **The parts of a certified key belong together**, however it is made. -/
theorem Made.isCoherent (made : key.Made) : key.IsCoherent := by
  cases made with
  | certificate made => exact isCoherent_of_ofCertificate made
  | pair made => exact isCoherent_of_ofPair made
  | provider made =>
    simp only [ofProvider, bind_eq_ok] at made
    obtain ⟨encoded, -, made⟩ := made
    exact isCoherent_of_ofParts made
  | stored made =>
    rw [ofStored] at made
    split at made
    · simp only [ofBlocks, bind_eq_ok] at made
      obtain ⟨items, -, made⟩ := made
      obtain ⟨encoded, privateKey, made⟩ := exists_parts_of_ofChain made
      exact isCoherent_of_ofParts made
    · cases made

/-! ## What is told of them -/

/-- The times of the certificate are read from the message. -/
theorem IsCoherent.times (h : key.IsCoherent) :
    Time.Instant.ofText? key.signingKey.notBefore = some key.certificate.notBefore ∧
      Time.Instant.ofText? key.signingKey.notAfter = some key.certificate.notAfter := by
  have tells := Certificate.tells_of_decode? h.read
  exact ⟨tells.notBefore, tells.notAfter⟩

end CertifiedKey

/-- Keys that a party cannot tell apart by what can be asked of both without the private half. -/
structure AnyKey.SameFace (key other : AnyKey) : Prop where
  sealingKey : key.sealingKey = other.sealingKey
  fingerprint : key.fingerprint = other.fingerprint
  algorithm : key.algorithm = other.algorithm
  signingKey : key.signingKey = other.signingKey

/-- **A counterparty has the same key** of the message that tells of it. -/
theorem CertifiedKey.IsCoherent.exists_received {key : CertifiedKey} (h : key.IsCoherent) :
    ∃ received, ReceivedKey.ofMessage key.signingKey = .ok received ∧
      (AnyKey.received received).SameFace (.certified key) := by
  obtain ⟨data, named⟩ := Certificate.of_publicKey h.read h.own
  have made : ReceivedKey.ofMessage key.signingKey = .ok ⟨key.signingKey, key.publicKey⟩ := by
    have told : KeyData.publicKey key.signingKey.data = .ok key.publicKey := data
    rw [ReceivedKey.ofMessage, told]
    rfl
  refine ⟨_, made, rfl, rfl, ?_, rfl⟩
  -- the name in the message is the one that the key has itself, so it does not matter which counts
  show (if key.algorithm = "" then key.publicKey.algorithm else key.algorithm) = key.algorithm
  split
  · exact named
  · rfl

end SealedTransfer
