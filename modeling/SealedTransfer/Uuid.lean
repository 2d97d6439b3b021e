/-
# SealedTransfer.Uuid — fresh names

A transfer that is not given a name gets a random one: sixteen octets, written in hexadecimal in groups
of eight, four, four, four and twelve digits. Four bits say that the rest is random, two which kind of
name it is.
-/
import SealedTransfer.Text.Digits

namespace SealedTransfer

/-- A random name, as the number that its octets spell. -/
structure Uuid where
  value : BitVec 128
deriving DecidableEq, Repr

namespace Uuid

/-- Sixteen octets with the bits for the kind set. -/
def octets (uuid : Uuid) : Bytes :=
  (Bytes.ofNat 16 uuid.value.toNat).mapIdx fun i b =>
    if i = 6 then (b &&& 0x0F) ||| 0x40 else if i = 8 then (b &&& 0x3F) ||| 0x80 else b

/-- The text of a name. -/
def text (uuid : Uuid) : String :=
  let digits := Text.hex uuid.octets
  String.ofList (digits.take 8 ++ '-' :: (digits.drop 8).take 4 ++ '-' :: (digits.drop 12).take 4
    ++ '-' :: (digits.drop 16).take 4 ++ '-' :: digits.drop 20)

/-- A name is never empty. -/
theorem text_ne_empty (uuid : Uuid) : uuid.text ≠ "" := by
  intro h
  have := congrArg (fun s : String => s.toList.length) h
  simp [text] at this

end Uuid

end SealedTransfer
