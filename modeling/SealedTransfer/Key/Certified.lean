/-
# SealedTransfer.Key.Certified — keys with a certificate

The keys of a party that has a certificate: the public key it is for and, where the party unseals, the
private key. They are stored as a PEM chain: the certificate and then the private key. Reading takes any
chain, in which the first certificate counts and all have to be well formed.
-/
import SealedTransfer.Certificate.SignatureName
import SealedTransfer.Key.Exchanged
import SealedTransfer.Key.Private
import SealedTransfer.Message.SigningKey
import SealedTransfer.Time.Rfc3339

namespace SealedTransfer

/-- A certificate as read and as received, its key, and the private key if there is one. -/
structure CertifiedKey where
  certificate : Certificate
  encoded : Bytes
  publicKey : PublicKey
  privateKey : Option PrivateKey

/-- A source of a party's own keys: the certificate, which it may not have, and a private key. -/
structure KeyProvider where
  certificate : Except Fault Bytes
  privateKey : Option PrivateKey

namespace CertifiedKey

/-! ## Making keys -/

/-- The key of a certificate. -/
def ofCertificate (encoded : Bytes) : Except Fault CertifiedKey := do
  let certificate ← Certificate.decode encoded
  let publicKey ← certificate.publicKey
  return ⟨certificate, encoded, publicKey, none⟩

/-- Whether a private key goes with a public key. Only of RSA keys it can be told. -/
def goesWith (privateKey : PrivateKey) (publicKey : PublicKey) : Bool :=
  match privateKey with
  | .rsa key => publicKey = .rsa key.publicHalf
  | .other _ _ => true

/-- The key of a certificate with its private key. -/
def ofPair (encoded : Bytes) (privateKey : PrivateKey) : Except Fault CertifiedKey := do
  let key ← ofCertificate encoded
  if goesWith privateKey key.publicKey then return { key with privateKey := some privateKey }
  else throw .keyMismatch

/-- The key of a certificate, with a private key if there is one. -/
def ofParts (encoded : Bytes) : Option PrivateKey → Except Fault CertifiedKey
  | some privateKey => ofPair encoded privateKey
  | none => ofCertificate encoded

/-- The key of a provider. -/
def ofProvider (provider : KeyProvider) : Except Fault CertifiedKey := do
  let encoded ← provider.certificate
  ofParts encoded provider.privateKey

/-! ## Key exchange -/

/-- The name of the certified key's algorithm. -/
def algorithm (key : CertifiedKey) : String :=
  keyAlgorithmName key.certificate.subjectKey.algorithm.id

/-- The message that tells others of the key. Versions are counted from one there. -/
def signingKey (key : CertifiedKey) : SigningKey where
  version := Int64.ofNat (key.certificate.version + 1)
  signature := key.certificate.signature
  signatureAlgorithm := signatureName key.certificate.signatureAlgorithm
  publicKeyAlgorithm := key.algorithm
  notBefore := key.certificate.notBefore.textToSecond
  notAfter := key.certificate.notAfter.textToSecond
  revoked := false
  data := key.publicKey.encode

/-! ## Storage -/

/-- The text of the stored form: the certificate's block, a blank line and the private key's. -/
def storedText (key : CertifiedKey) : Except Fault (List Char) := do
  let certificate := Pem.Block.text ⟨certificateTag, key.encoded⟩
  match key.privateKey with
  | some privateKey =>
    let block ← privateKey.block
    return certificate ++ '\n' :: block.text
  | none => return certificate

/-- The stored form of a key. -/
def stored (key : CertifiedKey) : Except Fault Bytes := do
  let text ← key.storedText
  return Text.Utf8.encodeChars text

/-- What a block means in a chain. -/
inductive ChainItem where
  | certificate (encoded : Bytes)
  | privateKey (key : PrivateKey)
  | ignored

/-- What a block means in a chain, or the fault that it is malformed. -/
def chainItem (block : Pem.Block) : Except Fault ChainItem :=
  if block.tag = certificateTag then do
    let _ ← Certificate.decode block.contents
    return .certificate block.contents
  else if block.tag ∈ PrivateKey.tags then do
    let key ← PrivateKey.ofBlock block
    return .privateKey key
  else return .ignored

/-- The encoded certificates of a chain. -/
def certificates (items : List ChainItem) : List Bytes :=
  items.filterMap fun
    | .certificate encoded => some encoded
    | _ => none

/-- The private keys of a chain. -/
def privateKeys (items : List ChainItem) : List PrivateKey :=
  items.filterMap fun
    | .privateKey key => some key
    | _ => none

/-- The key of a chain's certificates and private keys. -/
def ofChain (certificates : List Bytes) (privateKeys : List PrivateKey) :
    Except Fault CertifiedKey :=
  match certificates, privateKeys with
  | [], _ => .error .noCertificate
  | _ :: _, _ :: _ :: _ => .error .severalPrivateKeys
  | leaf :: _, [privateKey] => ofPair leaf privateKey
  | leaf :: _, [] => ofCertificate leaf

/-- The key of PEM blocks. -/
def ofBlocks (blocks : List Pem.Block) : Except Fault CertifiedKey := do
  let items ← blocks.mapM chainItem
  ofChain (certificates items) (privateKeys items)

/-- The key of a stored form. -/
def ofStored (data : Bytes) : Except Fault CertifiedKey :=
  match Pem.blocks? data with
  | some blocks => ofBlocks blocks
  | none => .error .malformedCertificate

end CertifiedKey

end SealedTransfer
