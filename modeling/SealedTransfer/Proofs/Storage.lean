/-
# SealedTransfer.Proofs.Storage — what is written is read

Each field is read back from the front of what follows it, as long as its length fits into the octets
that are kept for it.
-/
import SealedTransfer.Proofs.Bytes
import SealedTransfer.Proofs.Text.Utf8
import SealedTransfer.Storage

namespace SealedTransfer.Storage

theorem bind_eq {α β : Type} {first : Reader α} {bytes rest : Bytes} {a : α}
    (h : first bytes = some (a, rest)) (next : α → Reader β) :
    (first >>= next) bytes = next a rest := by
  show (first bytes).bind (fun p => next p.1 p.2) = _
  rw [h]
  rfl

theorem takeOctets_append (front rest : Bytes) :
    takeOctets front.length (front ++ rest) = some (front, rest) := by
  simp [takeOctets]

theorem takeNat_natField {width n : Nat} (h : n < 256 ^ width) (rest : Bytes) :
    takeNat width (natField width n ++ rest) = some (n, rest) := by
  have octets := takeOctets_append (natField width n) rest
  rw [natField, Bytes.length_ofLittleNat] at octets
  rw [takeNat, natField, bind_eq octets, Bytes.littleNat_ofLittleNat, Nat.mod_eq_of_lt h]
  rfl

theorem takeBytes_bytesField {bytes : Bytes} (h : bytes.length < 256 ^ 8) (rest : Bytes) :
    takeBytes (bytesField bytes ++ rest) = some (bytes, rest) := by
  rw [takeBytes, bytesField, List.append_assoc, bind_eq (takeNat_natField h _)]
  exact takeOctets_append bytes rest

theorem takeText_textField {text : String} (h : (Text.Utf8.encode text).length < 256 ^ 8)
    (rest : Bytes) : takeText (textField text ++ rest) = some (text, rest) := by
  rw [takeText, textField, bind_eq (takeBytes_bytesField h rest), Text.Utf8.decode?_encode]
  rfl

/-- A byte string is shorter than its field. -/
theorem length_lt_bytesField (bytes : Bytes) : bytes.length < (bytesField bytes).length := by
  simp [bytesField, natField]

theorem takeInt_intField (n : Int64) (rest : Bytes) :
    takeInt (intField n ++ rest) = some (n, rest) := by
  have h : n.toUInt64.toNat < 256 ^ 8 := n.toUInt64.toNat_lt
  rw [takeInt, intField, bind_eq (takeNat_natField h rest), UInt64.ofNat_toNat,
    Int64.toInt64_toUInt64]
  rfl

theorem takeBool_boolField (b : Bool) (rest : Bytes) :
    takeBool (boolField b ++ rest) = some (b, rest) := by
  cases b <;> rfl

end SealedTransfer.Storage
