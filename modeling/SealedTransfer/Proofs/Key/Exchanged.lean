/-
# SealedTransfer.Proofs.Key.Exchanged — certificates as key data

A certificate in PEM is key data for its own key. The octets of the certificate by themselves are too,
as long as no PEM block is found in them: the forms are tried in order, PEM comes before certificates,
and it is searched for anywhere. So a certificate whose signature has a block in it is read as that
block, whoever's key is in there.
-/
import SealedTransfer.Key.Certified
import SealedTransfer.Key.Received
import SealedTransfer.Proofs.Asn1.Canonical
import SealedTransfer.Proofs.Pem

namespace SealedTransfer

/-! ## Forms apart -/

theorem isTag_certificateTag : Pem.IsTag certificateTag := by decide

/-- A certificate is a sequence of three elements. -/
theorem Certificate.exists_three_of_decode? {der : Bytes} {certificate : Certificate}
    (read : Certificate.decode? der = some certificate) :
    ∃ element elements, Asn1.element? der = some element ∧ element.sequence? = some elements ∧
      elements.length = 3 := by
  simp only [Certificate.decode?, Option.bind_eq_bind, Option.bind_eq_some_iff] at read
  obtain ⟨element, whole, elements, parts, shape⟩ := read
  refine ⟨element, elements, whole, parts, ?_⟩
  split at shape
  · rfl
  · cases shape

/-- A certificate is no key in the common form, which is a sequence of two. -/
theorem PublicKey.decode?_of_certificate {der : Bytes} {certificate : Certificate}
    (read : Certificate.decode? der = some certificate) : PublicKey.decode? der = none := by
  obtain ⟨element, elements, whole, parts, three⟩ := Certificate.exists_three_of_decode? read
  have other : SubjectKey.ofElement? element = none := by
    rw [SubjectKey.ofElement?, parts]
    simp only [Option.bind_eq_bind, Option.bind_some]
    split
    · cases three
    · rfl
  rw [PublicKey.decode?, SubjectKey.decode?, whole]
  simp only [Option.bind_eq_bind, Option.bind_some, other, Option.bind_none]

/-- A block is no key in the common form: a dash begins no element. -/
theorem PublicKey.decode?_block (block : Pem.Block) : PublicKey.decode? block.encode = none := by
  obtain ⟨rest, dash⟩ := Pem.exists_encode_eq block
  rw [dash]
  rfl

/-! ## Certificates as key data -/

/-- A key is made of a certificate if there is one in it. -/
theorem CertifiedKey.ofCertificate_eq {der : Bytes} {certificate : Certificate}
    (read : Certificate.decode? der = some certificate) :
    CertifiedKey.ofCertificate der
      = certificate.publicKey.map fun publicKey => ⟨certificate, der, publicKey, none⟩ := by
  have decoded : Certificate.decode der = .ok certificate := by rw [Certificate.decode, read]
  simp only [CertifiedKey.ofCertificate, decoded, bind, Except.bind]
  cases certificate.publicKey <;> rfl

/-- A key is made of a message if there is one in it. -/
theorem ReceivedKey.ofMessage_eq (message : SigningKey) :
    ReceivedKey.ofMessage message = (KeyData.publicKey message.data).map (⟨message, ·⟩) := by
  rw [ReceivedKey.ofMessage]
  cases KeyData.publicKey message.data <;> rfl

namespace KeyData

/-- A block by itself is key data for what it holds. -/
theorem publicKey_encode_block {block : Pem.Block} (tagged : Pem.IsTag block.tag) :
    publicKey block.encode = ofBlocks [block] := by
  have found : blocks? block.encode = some [block] := by
    rw [blocks?, Pem.blocks?_encode tagged]
    rfl
  rw [publicKey, PublicKey.decode?_block, found]

/-- Key data that stand for the key of a certificate, or for the same fault: by themselves, and in every
message that a counterparty sends them in. -/
structure StandsFor (data der : Bytes) (certificate : Certificate) : Prop where
  key : publicKey data = certificate.publicKey
  received : ∀ message : SigningKey,
    (ReceivedKey.ofMessage { message with data }).map (·.publicKey)
      = (CertifiedKey.ofCertificate der).map (·.publicKey)

section Certificates

variable {data der : Bytes} {certificate : Certificate}

theorem standsFor_of_publicKey (read : Certificate.decode? der = some certificate)
    (key : publicKey data = certificate.publicKey) : StandsFor data der certificate := by
  refine ⟨key, fun message => ?_⟩
  rw [ReceivedKey.ofMessage_eq, CertifiedKey.ofCertificate_eq read]
  dsimp only
  rw [key]
  cases certificate.publicKey <;> rfl

/-- The block of a certificate is key data for its key. -/
theorem publicKey_certificate_block (read : Certificate.decode? der = some certificate) :
    publicKey (Pem.Block.encode ⟨certificateTag, der⟩) = certificate.publicKey := by
  have item : item? ⟨certificateTag, der⟩ = some (.certificate certificate) := by
    rw [item?, if_pos rfl, read]
    rfl
  have items : [(⟨certificateTag, der⟩ : Pem.Block)].mapM item? = some [.certificate certificate] := by
    rw [List.mapM_cons, item]
    rfl
  rw [publicKey_encode_block isTag_certificateTag, ofBlocks, items]
  rfl

/-- The blocks in a certificate are what its octets are read as. -/
theorem publicKey_of_captured {blocks : List Pem.Block}
    (read : Certificate.decode? der = some certificate) (found : blocks? der = some blocks) :
    publicKey der = ofBlocks blocks := by
  simp only [publicKey, PublicKey.decode?_of_certificate read, found]

/-- Without blocks in it the octets of a certificate are read as the certificate. -/
theorem publicKey_of_blockless (read : Certificate.decode? der = some certificate)
    (blockless : blocks? der = none) : publicKey der = certificate.publicKey := by
  simp only [publicKey, PublicKey.decode?_of_certificate read, blockless, read]

/-- **A certificate as key data.** In PEM it stands for its key. The octets by themselves stand for it if
no blocks are read from them, which is so wherever they hold no begin marker. Else they are what these
blocks are. -/
theorem certificate_as_key_data (read : Certificate.decode? der = some certificate) :
    StandsFor (Pem.Block.encode ⟨certificateTag, der⟩) der certificate ∧
      (blocks? der = none → StandsFor der der certificate) ∧
      (¬ Text.Utf8.encode "-----BEGIN " <:+: der → StandsFor der der certificate) ∧
      ∀ blocks, blocks? der = some blocks → publicKey der = ofBlocks blocks := by
  have blockless (none : blocks? der = none) : StandsFor der der certificate :=
    standsFor_of_publicKey read (publicKey_of_blockless read none)
  have unmarked (plain : ¬ Text.Utf8.encode "-----BEGIN " <:+: der) : blocks? der = none := by
    rw [blocks?, Pem.blocks?_of_no_marker plain]
    rfl
  exact ⟨standsFor_of_publicKey read (publicKey_certificate_block read), blockless,
    fun plain => blockless (unmarked plain), fun _ found => publicKey_of_captured read found⟩

end Certificates

/-! ## A certificate that reads as somebody else's key -/

/-- An Edwards curve key of one octet. -/
def sampleKey (octet : UInt8) : SubjectKey := ⟨⟨ed25519Id, none⟩, .ofOctets [octet]⟩

/-- The octets of a certificate for a key, with any signature. -/
def sampleCertificate (subjectKey : SubjectKey) (signature : Bytes) : Bytes :=
  let algorithm : Asn1.Element := subjectKey.algorithm.element
  let epoch : Asn1.Element := ⟨Asn1.shortTimeIdentifier, Text.Utf8.encode "700101000000Z"⟩
  let body : Asn1.Element := .sequence [.ofNat 1, algorithm, .sequence [], .sequence [epoch, epoch],
    .sequence [], subjectKey.element]
  (Asn1.Element.sequence [body, algorithm, (Asn1.BitString.ofOctets signature).element]).encode

end KeyData

/-- A certificate is for the key that its subject key is read as. -/
theorem Certificate.exists_of_subjectKey {encoded : Bytes} {subjectKey : SubjectKey} {key : PublicKey}
    (certified : (Certificate.decode? encoded).map (·.subjectKey) = some subjectKey)
    (decoded : PublicKey.decode? subjectKey.encode = some key) :
    ∃ certificate, Certificate.decode? encoded = some certificate ∧
      certificate.publicKey = .ok key := by
  obtain ⟨certificate, read, own⟩ := Option.map_eq_some_iff.mp certified
  refine ⟨certificate, read, ?_⟩
  rw [Certificate.publicKey, own, PublicKey.decode, decoded]

namespace KeyData

/-- A private key makes a pair with a certificate for its public half. -/
theorem exists_ofPair {encoded : Bytes} {privateKey : Rsa.PrivateKey}
    (certified : (Certificate.decode? encoded).map (·.subjectKey)
      = some (PublicKey.subjectKey privateKey.publicHalf))
    (decoded : PublicKey.decode? (PublicKey.subjectKey privateKey.publicHalf).encode
      = some (.rsa privateKey.publicHalf)) :
    ∃ key, CertifiedKey.ofPair encoded (.rsa privateKey) = .ok key ∧
      key.privateKey = some (.rsa privateKey) := by
  obtain ⟨certificate, read, publicKey⟩ := Certificate.exists_of_subjectKey certified decoded
  have fits : CertifiedKey.goesWith (.rsa privateKey) (.rsa privateKey.publicHalf) = true :=
    decide_eq_true rfl
  rw [CertifiedKey.ofPair, CertifiedKey.ofCertificate_eq read, publicKey]
  show ∃ key, (if CertifiedKey.goesWith (.rsa privateKey) (.rsa privateKey.publicHalf) = true then _
    else _) = _ ∧ _
  rw [if_pos fits]
  exact ⟨_, rfl, rfl⟩

/-- A sample key is read back, as a key that can only be named. -/
theorem decode?_sampleKey {octet : UInt8} (small : octet = 1 ∨ octet = 2) :
    PublicKey.decode? (sampleKey octet).encode
      = some (.other "Ed25519" (sampleKey octet).encode) := by
  rcases small with rfl | rfl <;> decide +kernel

/-- A certificate without a block in it stands for its key. -/
theorem standsFor_unsigned_certificate :
    ∃ certificate, Certificate.decode? (sampleCertificate (sampleKey 1) []) = some certificate ∧
      certificate.publicKey = .ok (.other "Ed25519" (sampleKey 1).encode) ∧
      blocks? (sampleCertificate (sampleKey 1) []) = none ∧
      StandsFor (sampleCertificate (sampleKey 1) []) (sampleCertificate (sampleKey 1) [])
        certificate := by
  have keyed : (Certificate.decode? (sampleCertificate (sampleKey 1) [])).map (·.subjectKey)
      = some (sampleKey 1) := by
    decide +kernel
  have blockless : blocks? (sampleCertificate (sampleKey 1) []) = none := by
    decide +kernel
  obtain ⟨certificate, read, own⟩ := Option.map_eq_some_iff.mp keyed
  have key : certificate.publicKey = .ok (.other "Ed25519" (sampleKey 1).encode) := by
    rw [Certificate.publicKey, own, PublicKey.decode, decode?_sampleKey (.inl rfl)]
  exact ⟨certificate, read, key, blockless, (certificate_as_key_data read).2.1 blockless⟩

/-- A certificate with another's key in PEM for a signature. -/
def disguisedCertificate : Bytes :=
  sampleCertificate (sampleKey 1) (Pem.Block.encode ⟨publicKeyTag, (sampleKey 2).encode⟩)

/-- In PEM such a certificate stands for its own key, but its octets are read as the other one. -/
theorem captured_by_signature :
    ∃ certificate, Certificate.decode? disguisedCertificate = some certificate ∧
      certificate.publicKey = .ok (.other "Ed25519" (sampleKey 1).encode) ∧
      publicKey (Pem.Block.encode ⟨certificateTag, disguisedCertificate⟩) = certificate.publicKey ∧
      publicKey disguisedCertificate = .ok (.other "Ed25519" (sampleKey 2).encode) ∧
      publicKey disguisedCertificate ≠ certificate.publicKey := by
  have keyed : (Certificate.decode? disguisedCertificate).map (·.subjectKey)
      = some (sampleKey 1) := by
    decide +kernel
  have found : blocks? disguisedCertificate = some [⟨publicKeyTag, (sampleKey 2).encode⟩] := by
    decide +kernel
  obtain ⟨certificate, read, own⟩ := Option.map_eq_some_iff.mp keyed
  have key : certificate.publicKey = .ok (.other "Ed25519" (sampleKey 1).encode) := by
    rw [Certificate.publicKey, own, PublicKey.decode, decode?_sampleKey (.inl rfl)]
  have captured : publicKey disguisedCertificate = .ok (.other "Ed25519" (sampleKey 2).encode) := by
    rw [publicKey_of_captured read found, ofBlocks, List.mapM_cons, item?, if_neg (by decide),
      if_pos rfl, decode?_sampleKey (.inr rfl)]
    rfl
  refine ⟨certificate, read, key, publicKey_certificate_block read, captured, ?_⟩
  rw [captured, key]
  intro same
  have different : (sampleKey 2).encode ≠ (sampleKey 1).encode := by decide
  exact different (PublicKey.other.inj (Except.ok.inj same)).2

end KeyData

end SealedTransfer
