/-
# SealedTransfer.Aes.Gcm — authenticated encryption in Galois/counter mode

AES-GCM without associated data, with a nonce of twelve octets and a tag of sixteen. The text is
masked with the enciphered counters that follow the nonce; the tag is a polynomial in the enciphered
zero block, evaluated over the masked text and its length and masked in turn. Decryption computes the
tag of what was received and compares it before it unmasks anything, so it gives back exactly what
encryption took in.
-/
import SealedTransfer.Aes.Block

namespace SealedTransfer.Aes.Gcm

/-- The length of a nonce. -/
def nonceLength : Nat := 12

/-- The length of a tag. -/
def tagLength : Nat := 16

/-! ## The field of 2^128 elements -/

/-- The low part of the field's modulus, bits reflected. -/
def reduction : BitVec 128 := 0xe1000000000000000000000000000000#128

/-- A block as a field element, times the indeterminate. -/
def timesX (v : BitVec 128) : BitVec 128 :=
  if v.getLsbD 0 then (v >>> 1) ^^^ reduction else v >>> 1

/-- Adds to `sum` the multiples of `v` that the first `bits` bits of `x` select. -/
def multiplyFrom : (bits : Nat) → (x v sum : BitVec 128) → BitVec 128
  | 0, _, _, sum => sum
  | bits + 1, x, v, sum =>
    multiplyFrom bits (x <<< 1) (timesX v) (if x.msb then sum ^^^ v else sum)

/-- The product of two field elements. -/
def multiply (x y : BitVec 128) : BitVec 128 := multiplyFrom 128 x y 0

/-- Up to sixteen octets as a field element, zeros filled in at the end. -/
def element (octets : Bytes) : BitVec 128 :=
  BitVec.ofNat 128 (Bytes.toNat (octets ++ Bytes.zeros (16 - octets.length)))

/-- The polynomial of a text at the point `h`: its blocks, then its length in bits. -/
def hash (h : BitVec 128) (text : Bytes) : BitVec 128 :=
  let sum := (chunks 16 text).foldl (fun sum block => multiply (sum ^^^ element block) h) 0
  multiply (sum ^^^ BitVec.ofNat 128 (8 * text.length)) h

/-! ## Counters -/

/-- The counter block `count` of a nonce. -/
def counterBlock (nonce : Bytes) (count : Nat) : Block :=
  .ofOctets (nonce ++ Bytes.ofNat 4 count)

/-- The mask of a text of `length` octets: the enciphered counters from two on. -/
def mask (schedule : List Block) (nonce : Bytes) (length : Nat) : Bytes :=
  (List.range ((length + 15) / 16)).flatMap fun i =>
    (encipher schedule (counterBlock nonce (i + 2))).octets

/-- The mask of a text is at least as long as the text. -/
theorem length_le_mask (schedule : List Block) (nonce : Bytes) (length : Nat) :
    length ≤ (mask schedule nonce length).length := by
  simp only [mask, List.length_flatMap, Block.length_octets, List.map_const', List.length_range,
    List.sum_replicate_nat]
  omega

/-! ## Encryption and decryption -/

/-- The tag of a masked text. -/
def tag (schedule : List Block) (nonce masked : Bytes) : Bytes :=
  let h := BitVec.ofNat 128 (Bytes.toNat (encipher schedule (.ofOctets [])).octets)
  let first := (encipher schedule (counterBlock nonce 1)).octets
  Bytes.xor (Bytes.ofNat 16 (hash h masked).toNat) first

/-- The masked text followed by its tag. -/
def encrypt (key : Key) (nonce text : Bytes) : Bytes :=
  let schedule := key.schedule
  let masked := Bytes.xor text (mask schedule nonce text.length)
  masked ++ tag schedule nonce masked

/-- The text of an encrypted one, if its tag is right. -/
def decrypt? (key : Key) (nonce encrypted : Bytes) : Option Bytes :=
  let schedule := key.schedule
  let masked := encrypted.take (encrypted.length - tagLength)
  if tagLength ≤ encrypted.length ∧
      encrypted.drop (encrypted.length - tagLength) = tag schedule nonce masked then
    some (Bytes.xor masked (mask schedule nonce masked.length))
  else none

end SealedTransfer.Aes.Gcm
