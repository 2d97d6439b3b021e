/-
# SealedTransfer.Key.Private — private keys

Private keys come from PEM blocks, and the block's tag says in which form. RSA keys are opened; keys of
other algorithms are kept as they came, to be stored again. Nothing of a private key is ever shown but
its algorithm.
-/
import SealedTransfer.Key.Public
import SealedTransfer.Pem
import SealedTransfer.Text.Quoted

namespace SealedTransfer

open Asn1 (AlgorithmId BitString Element element?)

/-! ## The common form -/

/-- A private key of some algorithm: the algorithm and the key's octets. -/
structure PrivateKeyInfo where
  algorithm : AlgorithmId
  octets : Bytes

namespace PrivateKeyInfo

/-- The version of keys without a public half beside them. -/
def plainVersion : Nat := 0

/-- The version of keys with a public half beside them. -/
def pairedVersion : Nat := 1

/-- The element of a key. -/
def element (info : PrivateKeyInfo) : Element :=
  .sequence [.ofNat plainVersion, info.algorithm.element, ⟨Asn1.octetStringIdentifier, info.octets⟩]

/-- Whether an element is an extension: a numbered field that wraps one element of any kind. -/
def isExtension (element : Element) : Bool := element.isField && element.wrapped?.isSome

/-- The optional public half, in whole octets. After it, or in its place, there may be extensions. -/
def publicHalf? (elements : List Element) : Option (Option Bytes) := do
  let (bits, rest) ← Asn1.bitStringField? 1 elements
  if rest.all isExtension then bits.mapM BitString.wholeOctets? else none

/-- The key that octets are the encoding of. The version says whether a public half is there. -/
def decode? (bytes : Bytes) : Option PrivateKeyInfo := do
  match ← (← element? bytes).sequence? with
  | version :: algorithm :: key :: rest =>
    let version ← version.small?
    let algorithm ← algorithm.algorithmId?
    let publicHalf ← publicHalf? rest
    if key.identifier = Asn1.octetStringIdentifier ∧
        version = (if publicHalf.isSome then pairedVersion else plainVersion) then
      some ⟨algorithm, key.contents⟩
    else none
  | _ => none

end PrivateKeyInfo

/-! ## Keys -/

/-- A private key; one that is no RSA key is kept as the block it came in. -/
inductive PrivateKey where
  | rsa (key : Rsa.PrivateKey)
  | other (algorithm : String) (block : Pem.Block)
deriving DecidableEq

namespace PrivateKey

/-- The tag of blocks that hold a private key in the common form. -/
def commonTag : String := "PRIVATE KEY"

/-- The tag of blocks that hold an RSA private key. -/
def rsaTag : String := "RSA PRIVATE KEY"

/-- The tag of blocks that hold an elliptic curve private key. -/
def ecdsaTag : String := "EC PRIVATE KEY"

/-- The tags of blocks that hold private keys. -/
def tags : List String := [commonTag, rsaTag, ecdsaTag]

/-- The name of the key's algorithm. -/
def algorithm : PrivateKey → String
  | .rsa _ => rsaName
  | .other algorithm _ => algorithm

/-- All that is shown of a key. -/
def describe (key : PrivateKey) : String :=
  "PrivateKey \x7b algorithm: " ++ Text.quoted key.algorithm ++ ", .. \x7d"

/-- The public half of an RSA key. -/
def publicKey : PrivateKey → Except Fault PublicKey
  | .rsa key => .ok (.rsa key.publicHalf)
  | .other algorithm _ => .error (.unsupportedKey algorithm)

/-! ## Reading and writing -/

/-- The key in the common form that octets hold. -/
def decodeCommon? (bytes : Bytes) : Option PrivateKey := do
  let info ← PrivateKeyInfo.decode? bytes
  if info.algorithm.id = rsaId then
    if info.algorithm = rsaAlgorithm then do
      let key ← Rsa.PrivateKey.decode? info.octets
      some (.rsa key)
    else none
  else some (.other (keyAlgorithmName info.algorithm.id) ⟨commonTag, bytes⟩)

/-- The key that a block holds. Elliptic curve keys are not looked into. -/
def ofBlock (block : Pem.Block) : Except Fault PrivateKey :=
  if block.tag = rsaTag then
    match Rsa.PrivateKey.decode? block.contents with
    | some key => .ok (.rsa key)
    | none => .error (.malformedKey (some block.tag))
  else if block.tag = ecdsaTag then .ok (.other ecdsaName block)
  else if block.tag = commonTag then
    match decodeCommon? block.contents with
    | some key => .ok key
    | none => .error (.malformedKey (some block.tag))
  else .error (.unsupportedKey block.tag)

/-- An RSA key in the common form, unless it cannot be written or gets too long to be read again. -/
def encodeCommon? (key : Rsa.PrivateKey) : Option Bytes := do
  let octets ← key.encode?
  let bytes := (PrivateKeyInfo.element ⟨rsaAlgorithm, octets⟩).encode
  if bytes.length < Asn1.contentsBound then some bytes else none

/-- The block that a key is stored in: RSA keys in the common form, others in the one they came in. -/
def block : PrivateKey → Except Fault Pem.Block
  | .rsa key =>
    match encodeCommon? key with
    | some bytes => .ok ⟨commonTag, bytes⟩
    | none => .error (.malformedKey none)
  | .other _ block => .ok block

end PrivateKey

end SealedTransfer
