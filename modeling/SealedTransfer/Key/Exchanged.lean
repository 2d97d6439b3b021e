/-
# SealedTransfer.Key.Exchanged — key data in whatever form it comes

Counterparties send their public key in the form that their own software writes. The forms are tried in
order: the common form of public keys, PEM blocks, a certificate. PEM data may hold certificates or
one public key; what is not clear is refused rather than guessed at, and one malformed block among
those that count spoils the whole.
-/
import SealedTransfer.Certificate.Basic
import SealedTransfer.Pem

namespace SealedTransfer

/-- The tag of blocks that hold a certificate. -/
def certificateTag : String := "CERTIFICATE"

/-- The tag of blocks that hold a public key in the common form. -/
def publicKeyTag : String := "PUBLIC KEY"

/-- The tag of blocks that hold an RSA public key. -/
def rsaPublicKeyTag : String := "RSA PUBLIC KEY"

namespace KeyData

/-- What a block means in key data. -/
inductive Item where
  | certificate (certificate : Certificate)
  | key (key : PublicKey)
  | ignored

/-- The key of a block for RSA public keys. Some software writes the common form there. -/
def legacyKey? (bytes : Bytes) : Option PublicKey :=
  match PublicKey.decode? bytes with
  | some key => some key
  | none => (Rsa.PublicKey.decode? bytes).map .rsa

/-- What a block means, unless it is malformed. -/
def item? (block : Pem.Block) : Option Item :=
  if block.tag = certificateTag then (Certificate.decode? block.contents).map .certificate
  else if block.tag = publicKeyTag then (PublicKey.decode? block.contents).map .key
  else if block.tag = rsaPublicKeyTag then (legacyKey? block.contents).map .key
  else some .ignored

/-- The certificates among items. -/
def certificates (items : List Item) : List Certificate :=
  items.filterMap fun
    | .certificate certificate => some certificate
    | _ => none

/-- The keys among items. -/
def keys (items : List Item) : List PublicKey :=
  items.filterMap fun
    | .key key => some key
    | _ => none

/-- The one key that certificates and keys leave no doubt about. The first certificate is the one
that the others vouch for. -/
def choose (certificates : List Certificate) (keys : List PublicKey) : Except Fault PublicKey :=
  match certificates, keys with
  | _ :: _, _ :: _ => .error .ambiguousKeyData
  | [], _ :: _ :: _ => .error .severalPublicKeys
  | [], [key] => .ok key
  | leaf :: _, [] => leaf.publicKey
  | [], [] => .error .unknownKeyForm

/-- The key of PEM blocks. -/
def ofBlocks (blocks : List Pem.Block) : Except Fault PublicKey :=
  match blocks.mapM item? with
  | some items => choose (certificates items) (keys items)
  | none => .error .unknownKeyForm

/-- The PEM blocks of key data, if it holds some. -/
def blocks? (data : Bytes) : Option (List Pem.Block) :=
  (Pem.blocks? data).filter fun blocks => !blocks.isEmpty

/-- The key of key data in any of the known forms. -/
def publicKey (data : Bytes) : Except Fault PublicKey :=
  match PublicKey.decode? data with
  | some key => .ok key
  | none =>
    match blocks? data with
    | some blocks => ofBlocks blocks
    | none =>
      match Certificate.decode? data with
      | some certificate => certificate.publicKey
      | none => .error .unknownKeyForm

end KeyData

end SealedTransfer
