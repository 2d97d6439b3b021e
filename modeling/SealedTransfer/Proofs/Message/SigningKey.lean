/-
# SealedTransfer.Proofs.Message.SigningKey — stored messages are read back

A key exchange message is read back from its stored form, whatever follows it, as long as the form is
shorter than its length fields can tell.
-/
import SealedTransfer.Message.SigningKey
import SealedTransfer.Proofs.Storage
import SealedTransfer.Proofs.Text.Base64

namespace SealedTransfer.SigningKey

open Storage (bind_eq takeText_textField)

/-- Octets are read back from the text of their base64 form. -/
theorem takeStoredBytes_storedBytes {bytes : Bytes} (h : (storedBytes bytes).length < 256 ^ 8)
    (rest : Bytes) : takeStoredBytes (storedBytes bytes ++ rest) = some (bytes, rest) := by
  have fits := Nat.lt_trans (Storage.length_lt_bytesField _) h
  rw [takeStoredBytes, storedBytes, bind_eq (takeText_textField fits rest), String.toList_ofList,
    Text.Base64.decode?_encode]
  rfl

/-- **A message is read back** from its stored form, whatever follows it. -/
theorem takeStored_stored {key : SigningKey} (h : key.stored.length < 256 ^ 8) (rest : Bytes) :
    takeStored (key.stored ++ rest) = some (key, rest) := by
  simp only [stored, List.length_append] at h
  have text {text : String} (fits : (Storage.textField text).length < 256 ^ 8) (rest : Bytes) :=
    takeText_textField (Nat.lt_trans (Storage.length_lt_bytesField _) fits) rest
  simp only [stored, List.append_assoc]
  rw [takeStored, bind_eq (Storage.takeInt_intField _ _),
    bind_eq (takeStoredBytes_storedBytes (by omega) _), bind_eq (text (by omega) _),
    bind_eq (text (by omega) _), bind_eq (text (by omega) _), bind_eq (text (by omega) _),
    bind_eq (Storage.takeBool_boolField _ _), bind_eq (takeStoredBytes_storedBytes (by omega) _)]
  rfl

/-- A message is the one that its stored form is read as. -/
theorem ofStored?_stored {key : SigningKey} (h : key.stored.length < 256 ^ 8) :
    ofStored? key.stored = some key := by
  have read := takeStored_stored h []
  rw [List.append_nil] at read
  rw [ofStored?, StateT.run, read]
  rfl

end SealedTransfer.SigningKey
