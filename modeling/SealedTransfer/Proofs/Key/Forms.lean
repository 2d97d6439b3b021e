/-
# SealedTransfer.Proofs.Key.Forms — one key, whatever form it comes in

The common form of a public key is the key: what is read from it is written as it was, so no two byte
strings are read as one key and a fingerprint is the digest of what was received. The other forms lead
there. A key by itself may come as it is or in a block, under either tag, and an RSA key in the older form
under its own; nothing that is tried before takes one form for another.
-/
import SealedTransfer.Key.Fingerprint
import SealedTransfer.Proofs.Certificate
import SealedTransfer.Proofs.Key.Resolution

namespace SealedTransfer

/-! ## The common form -/

namespace PublicKey

section Common

variable {bytes : Bytes} {key : PublicKey}

/-- A public key as it is obtained: from the common form, or from a certificate. -/
inductive Obtained : PublicKey → Prop
  | decoded {bytes : Bytes} {key : PublicKey} (read : decode bytes = .ok key) : Obtained key
  | certified {der : Bytes} {certificate : Certificate} {key : PublicKey}
      (read : Certificate.decode der = .ok certificate) (own : certificate.publicKey = .ok key) :
      Obtained key

/-- A key that is obtained is read from octets. -/
theorem Obtained.exists_decode (obtained : Obtained key) : ∃ bytes, decode bytes = .ok key := by
  cases obtained with
  | decoded read => exact ⟨_, read⟩
  | certified read own => exact ⟨_, own⟩

/-- A key that was read is read again from what it is written as. -/
theorem decode_encode_of_decode (read : decode bytes = .ok key) : decode key.encode = .ok key := by
  rw [encode_of_decode? (decode_eq_ok_iff.mp read)]
  exact read

/-- **Keys and their common forms are the same thing.** What a key is read from is what it is written as, so
the key is read from nothing else and its digest is that of the octets received. Of RSA keys just those
forms are accepted that writing gives and whose modulus is not too long. Any key that was read, also from a
certificate, is read back from what it is written as. -/
theorem canonical_of_decode :
    (∀ bytes key, decode bytes = .ok key →
      key.encode = bytes ∧ (∀ other, decode other = .ok key → other = bytes) ∧
        ∀ hash, Fingerprint.ofKey hash key = ⟨hash, hash.digest bytes⟩) ∧
    (∀ bytes (key : Rsa.PublicKey), decode bytes = .ok (.rsa key) ↔
      bytes = (PublicKey.rsa key).encode ∧ key.bits ≤ Rsa.PublicKey.longestReceived) ∧
    ∀ key, Obtained key → decode key.encode = .ok key := by
  refine ⟨?written, ?accepted, ?again⟩
  case written =>
    intro bytes key read
    have whole : key.encode = bytes := encode_of_decode? (decode_eq_ok_iff.mp read)
    refine ⟨whole, ?_, ?_⟩
    · intro other readOther
      rw [← whole, encode_of_decode? (decode_eq_ok_iff.mp readOther)]
    · intro hash
      rw [Fingerprint.ofKey, whole]
  case accepted =>
    intro bytes key
    rw [decode_eq_ok_iff]
    exact decode?_eq_some_rsa_iff
  case again =>
    intro key obtained
    obtain ⟨bytes, read⟩ := obtained.exists_decode
    exact decode_encode_of_decode read

end Common

/-- An RSA key with a modulus of one octet. -/
def small : Rsa.PublicKey := ⟨35, 3, by decide⟩

theorem bits_small_le : small.bits ≤ Rsa.PublicKey.longestReceived := by decide

/-- The small key is what its common form says and nothing else says, and the key of a certificate for it is
read back. -/
theorem canonical_small :
    decode (PublicKey.rsa small).encode = .ok (.rsa small) ∧
      (∀ other, decode other = .ok (.rsa small) → other = (PublicKey.rsa small).encode) ∧
      (∀ hash, Fingerprint.ofKey hash (.rsa small) = ⟨hash, hash.digest (PublicKey.rsa small).encode⟩) ∧
      ∃ certificate key,
        Certificate.decode (KeyData.sampleCertificate (subjectKey small) []) = .ok certificate ∧
        certificate.publicKey = .ok key ∧ decode key.encode = .ok key := by
  obtain ⟨written, accepted, again⟩ := canonical_of_decode
  have read : decode (PublicKey.rsa small).encode = .ok (.rsa small) :=
    (accepted _ small).mpr ⟨rfl, bits_small_le⟩
  obtain ⟨-, only, digest⟩ := written _ _ read
  have keyed : (Certificate.decode? (KeyData.sampleCertificate (subjectKey small) [])).map (·.subjectKey)
      = some (subjectKey small) := by
    decide +kernel
  obtain ⟨certificate, found, own⟩ :=
    Certificate.exists_of_subjectKey keyed (decode?_encode_rsa bits_small_le)
  have decoded : Certificate.decode (KeyData.sampleCertificate (subjectKey small) [])
      = .ok certificate :=
    Certificate.decode_eq_ok_iff.mpr found
  exact ⟨read, only, digest, certificate, _, decoded, own, again _ (.certified decoded own)⟩

end PublicKey

/-! ## The other forms -/

namespace KeyData

/-- An RSA key that is accepted from somebody else: in the common form, by itself, in a certificate, or as
key data in any form. -/
inductive Accepted (key : Rsa.PublicKey) : Prop
  | common {bytes : Bytes} (read : PublicKey.decode? bytes = some (.rsa key)) : Accepted key
  | bare {bytes : Bytes} (read : Rsa.PublicKey.decode? bytes = some key) : Accepted key
  | certified {certificate : Certificate} (own : certificate.publicKey = .ok (.rsa key)) : Accepted key
  | data {data : Bytes} (found : publicKey data = .ok (.rsa key)) : Accepted key

section Accepting

variable {key : Rsa.PublicKey} {certificate : Certificate} {block : Pem.Block}

theorem bits_le_of_certificate (own : certificate.publicKey = .ok (.rsa key)) :
    key.bits ≤ Rsa.PublicKey.longestReceived :=
  (PublicKey.decode?_eq_some_rsa_iff.mp (PublicKey.decode_eq_ok_iff.mp own)).2

theorem bits_le_of_means (means : Means block (.key (.rsa key))) :
    key.bits ≤ Rsa.PublicKey.longestReceived := by
  cases means with
  | key tagged read => exact (PublicKey.decode?_eq_some_rsa_iff.mp read).2
  | legacy tagged uncommon read => exact (Rsa.PublicKey.of_decode? read).2

theorem bits_le_of_resolves {blocks : List Pem.Block} {answer : Except Fault PublicKey}
    (resolves : Resolves blocks answer) (found : answer = .ok (.rsa key)) :
    key.bits ≤ Rsa.PublicKey.longestReceived := by
  cases resolves with
  | single sound uncertified only means =>
    cases found
    exact bits_le_of_means means
  | leaf sound first means unkeyed => exact bits_le_of_certificate found
  | spoiled | ambiguous | several | nothing => cases found

/-- No key of any form has a longer modulus. -/
theorem bits_le_of_publicKey {data : Bytes} (found : publicKey data = .ok (.rsa key)) :
    key.bits ≤ Rsa.PublicKey.longestReceived := by
  unfold publicKey at found
  split at found
  · rename_i read
    cases found
    exact (PublicKey.decode?_eq_some_rsa_iff.mp read).2
  split at found
  · rename_i blocks held
    exact bits_le_of_resolves (resolves_ofBlocks blocks) found
  split at found
  · exact bits_le_of_certificate found
  · cases found

/-- **A key is accepted if its modulus is not too long**, and in every form alike. -/
theorem accepted_iff : Accepted key ↔ key.bits ≤ Rsa.PublicKey.longestReceived := by
  constructor
  · intro accepted
    cases accepted with
    | common read => exact (PublicKey.decode?_eq_some_rsa_iff.mp read).2
    | bare read => exact (Rsa.PublicKey.of_decode? read).2
    | certified own => exact bits_le_of_certificate own
    | data found => exact bits_le_of_publicKey found
  · intro received
    exact .bare (Rsa.PublicKey.decode?_eq_some_iff.mpr ⟨rfl, received⟩)

end Accepting

/-- The forms that a key may come in when octets are its common form: by themselves, and in a block under
either tag. -/
def commonForms (bytes : Bytes) : List Bytes :=
  [bytes, Pem.Block.encode ⟨publicKeyTag, bytes⟩, Pem.Block.encode ⟨rsaPublicKeyTag, bytes⟩]

/-- The forms that an RSA key may come in: the common ones, and the older one in a block of its own. -/
def rsaForms (key : Rsa.PublicKey) : List Bytes :=
  commonForms (PublicKey.rsa key).encode ++ [Pem.Block.encode ⟨rsaPublicKeyTag, key.encode⟩]

/-- Key data that stand for a key, and so have its fingerprint under each hash. -/
structure Names (data : Bytes) (key : PublicKey) : Prop where
  found : publicKey data = .ok key
  fingerprint : ∀ hash, (publicKey data).map (Fingerprint.ofKey hash) = .ok ⟨hash, hash.digest key.encode⟩

section Forms

variable {bytes : Bytes} {key : PublicKey} {block : Pem.Block}

theorem isTag_of_mem_keyTags : ∀ tag ∈ keyTags, Pem.IsTag tag := by decide

theorem publicKeyTag_mem_keyTags : publicKeyTag ∈ keyTags := by decide

theorem rsaPublicKeyTag_mem_keyTags : rsaPublicKeyTag ∈ keyTags := by decide

theorem names_of_publicKey {data : Bytes} (found : publicKey data = .ok key) : Names data key := by
  refine ⟨found, fun hash => ?_⟩
  rw [found]
  rfl

/-- A block that means a key is key data for it. -/
theorem publicKey_of_means (tagged : block.tag ∈ keyTags) (means : Means block (.key key)) :
    publicKey block.encode = .ok key := by
  have items : [block].mapM item? = some [.key key] := by
    rw [List.mapM_cons, item?_eq_some_iff.mpr means]
    rfl
  rw [publicKey_encode_block (isTag_of_mem_keyTags _ tagged), ofBlocks, items]
  rfl

/-- A key is the same in all the forms that its common form comes in. -/
theorem publicKey_of_mem_commonForms (read : PublicKey.decode? bytes = some key) :
    ∀ data ∈ commonForms bytes, publicKey data = .ok key := by
  simp only [commonForms, List.forall_mem_cons]
  refine ⟨?bare, ?block, ?legacy, nofun⟩
  case bare => rw [publicKey, read]
  case block =>
    exact publicKey_of_means publicKeyTag_mem_keyTags (.key publicKeyTag_mem_keyTags read)
  case legacy =>
    exact publicKey_of_means rsaPublicKeyTag_mem_keyTags (.key rsaPublicKeyTag_mem_keyTags read)

/-- An RSA key is the same in all its forms. -/
theorem publicKey_of_mem_rsaForms {key : Rsa.PublicKey}
    (received : key.bits ≤ Rsa.PublicKey.longestReceived) :
    ∀ data ∈ rsaForms key, publicKey data = .ok (.rsa key) := by
  intro data among
  rcases List.mem_append.mp among with common | older
  · exact publicKey_of_mem_commonForms (PublicKey.decode?_encode_rsa received) data common
  · rw [List.mem_singleton.mp older]
    have bare : Rsa.PublicKey.decode? key.encode = some key :=
      Rsa.PublicKey.decode?_eq_some_iff.mpr ⟨rfl, received⟩
    exact publicKey_of_means rsaPublicKeyTag_mem_keyTags
      (.legacy rfl (PublicKey.decode?_encode_pkcs received) bare)

/-- The older form of an RSA key is not taken for the common one. -/
theorem publicKey_of_older_under_common {key : Rsa.PublicKey}
    (received : key.bits ≤ Rsa.PublicKey.longestReceived) :
    publicKey (Pem.Block.encode ⟨publicKeyTag, key.encode⟩) = .error .unknownKeyForm := by
  have malformed : IsMalformed ⟨publicKeyTag, key.encode⟩ :=
    .key rfl (PublicKey.decode?_encode_pkcs received)
  rw [publicKey_encode_block (isTag_of_mem_keyTags _ publicKeyTag_mem_keyTags)]
  exact ofBlocks_of_malformed List.mem_cons_self malformed

end Forms

/-- **A key by itself is the same key in every form**, with the same fingerprints: an RSA key that is accepted
in any way, in the common forms and in the older one, which does not pass for the common one; and any other
key that is accepted in its common form, which it keeps. -/
theorem names_of_forms :
    (∀ key : Rsa.PublicKey, Accepted key →
      (∀ data ∈ rsaForms key, Names data (.rsa key)) ∧
        publicKey (Pem.Block.encode ⟨publicKeyTag, key.encode⟩) = .error .unknownKeyForm) ∧
    ∀ bytes name encoded, PublicKey.decode? bytes = some (.other name encoded) →
      encoded = bytes ∧ ∀ data ∈ commonForms bytes, Names data (.other name bytes) := by
  constructor
  · intro key accepted
    have received := accepted_iff.mp accepted
    exact ⟨fun data among => names_of_publicKey (publicKey_of_mem_rsaForms received data among),
      publicKey_of_older_under_common received⟩
  · intro bytes name encoded read
    have kept : encoded = bytes := PublicKey.encode_of_decode? read
    subst kept
    exact ⟨rfl, fun data among => names_of_publicKey (publicKey_of_mem_commonForms read data among)⟩

/-- The small key and an Edwards curve key in their forms. -/
theorem names_of_sample_forms :
    (∀ data ∈ rsaForms PublicKey.small, Names data (.rsa PublicKey.small)) ∧
      publicKey (Pem.Block.encode ⟨publicKeyTag, PublicKey.small.encode⟩) = .error .unknownKeyForm ∧
      ∀ data ∈ commonForms (sampleKey 1).encode,
        Names data (.other "Ed25519" (sampleKey 1).encode) := by
  obtain ⟨rsa, other⟩ := names_of_forms
  obtain ⟨forms, refused⟩ := rsa PublicKey.small (accepted_iff.mpr PublicKey.bits_small_le)
  obtain ⟨-, common⟩ := other _ _ _ (decode?_sampleKey (.inl rfl))
  exact ⟨forms, refused, common⟩

end KeyData

end SealedTransfer
