/-
# SealedTransfer.Key.Public — public keys

RSA keys can be used, keys of other algorithms only be named, shown and compared. A public key has one
encoding; a received one is taken as it stands or refused.
-/
import SealedTransfer.Fault
import SealedTransfer.Key.SubjectKey
import SealedTransfer.Rsa.Encoding

namespace SealedTransfer

/-- A public key; one that is no RSA key is kept as its encoding. -/
inductive PublicKey where
  | rsa (key : Rsa.PublicKey)
  | other (algorithm : String) (encoded : Bytes)
deriving DecidableEq

namespace PublicKey

/-- The name of the key's algorithm. -/
def algorithm : PublicKey → String
  | .rsa _ => rsaName
  | .other algorithm _ => algorithm

/-- An RSA key in the common form. -/
def subjectKey (key : Rsa.PublicKey) : SubjectKey := ⟨rsaAlgorithm, .ofOctets key.encode⟩

/-- The encoding of a key. -/
def encode : PublicKey → Bytes
  | .rsa key => (subjectKey key).encode
  | .other _ encoded => encoded

/-- The RSA key of a key in the common form: its parameters are null and its bits whole octets. -/
def rsaKey? (subject : SubjectKey) : Option Rsa.PublicKey :=
  if subject.algorithm = rsaAlgorithm then do
    Rsa.PublicKey.decode? (← subject.bits.wholeOctets?)
  else none

/-- The key that octets are the encoding of. -/
def decode? (bytes : Bytes) : Option PublicKey := do
  let subject ← SubjectKey.decode? bytes
  if subject.algorithm.id = rsaId then do
    let key ← rsaKey? subject
    some (.rsa key)
  else some (.other (keyAlgorithmName subject.algorithm.id) bytes)

/-- The key that octets are the encoding of, or the fault that they are not. -/
def decode (bytes : Bytes) : Except Fault PublicKey :=
  match decode? bytes with
  | some key => .ok key
  | none => .error (.malformedKey none)

end PublicKey

end SealedTransfer
