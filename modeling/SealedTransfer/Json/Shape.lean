/-
# SealedTransfer.Json.Shape — values read as fields of a message

A message type is a list of named fields. Its JSON form is an object with these names, in which any
field may be missing and unknown members are passed over, but no known name may stand twice. An array
of the fields in their order will do as well; it may be shorter than the list but not longer. The
readers of single fields are here too. Each says what it accepts and refuses all else.
-/
import SealedTransfer.Json.Basic
import SealedTransfer.Text.Base64

namespace SealedTransfer.Json

/-! ## Fields -/

/-- The value of the member with the given name, if there is exactly one; `none` when the name
stands twice. -/
def member? (members : List (String × Json)) (name : String) : Option (Option Json) :=
  match members.filter (·.1 = name) with
  | [] => some none
  | [(_, value)] => some (some value)
  | _ => none

/-- The values of the named fields, each absent or present, in the order of the names. -/
def fields? (names : List String) : Json → Option (List (Option Json))
  | .object members => names.mapM (member? members)
  | .array items =>
    if items.length ≤ names.length then
      some (items.map some ++ List.replicate (names.length - items.length) none)
    else none
  | _ => none

/-- A field, its default when it is absent. -/
def fieldOr {α : Type} (missing : α) (read : Json → Option α) : Option Json → Option α
  | none => some missing
  | some value => read value

/-! ## Values of a field -/

/-- A text. -/
def text? : Json → Option String
  | .string text => some text
  | _ => none

/-- A truth value. -/
def bool? : Json → Option Bool
  | .bool value => some value
  | _ => none

/-- A whole number of thirty-two bits. -/
def int32? : Json → Option Int32
  | .integer value =>
    if Int32.minValue.toInt ≤ value ∧ value ≤ Int32.maxValue.toInt then some (Int32.ofInt value)
    else none
  | _ => none

/-- A whole number of sixty-four bits. -/
def int64? : Json → Option Int64
  | .integer value =>
    if Int64.minValue.toInt ≤ value ∧ value ≤ Int64.maxValue.toInt then some (Int64.ofInt value)
    else none
  | _ => none

/-- A byte string, as padded base64. -/
def bytes? : Json → Option Bytes
  | .string text => Text.Base64.decode? text.toList
  | _ => none

/-- An optional value, absent as `null`. -/
def optional? {α : Type} (read : Json → Option α) : Json → Option (Option α)
  | .null => some none
  | value => (read value).map some

/-! ## Writing fields -/

/-- A byte string as padded base64. -/
def ofBytes (bytes : Bytes) : Json := .string (String.ofList (Text.Base64.encode bytes))

/-- An optional value, `null` when absent. -/
def ofOptional {α : Type} (write : α → Json) : Option α → Json
  | none => .null
  | some value => write value

end SealedTransfer.Json
