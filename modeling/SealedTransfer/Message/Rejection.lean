/-
# SealedTransfer.Message.Rejection — refusals that are sent back

A rejection tells the sender of an envelope why it was refused: a code, a message, whether another
attempt may succeed, and details that only the two parties understand. Codes are open: those outside
the named ones are kept as they are. Whether a rejection may be retried is decided where it is raised,
whatever its code.
-/
import SealedTransfer.Message.Blob
import SealedTransfer.Text.Digits

namespace SealedTransfer

/-- The class of transport status that a code falls in. -/
inductive StatusClass where
  /-- Transient, the service is unavailable. -/
  | unavailable
  /-- An internal fault. -/
  | internal
  /-- A business decision against the transfer. -/
  | aborted
  /-- A failed verification or a compliance failure. -/
  | failedPrecondition
  /-- A malformed request, an unsupported algorithm or a bad key. -/
  | invalidArgument
deriving DecidableEq, Repr

namespace StatusClass

/-- The name of a class. -/
def name : StatusClass → String
  | .unavailable => "Unavailable"
  | .internal => "Internal"
  | .aborted => "Aborted"
  | .failedPrecondition => "FailedPrecondition"
  | .invalidArgument => "InvalidArgument"

end StatusClass

namespace Rejection

/-- A rejection code. -/
structure Code where
  number : Int32
deriving DecidableEq, Repr

namespace Code

/-- The code of a rejection that says nothing. -/
def unhandled : Code := ⟨0⟩

/-- The first of the codes for business decisions. -/
def rejected : Code := ⟨50⟩

/-- Data did not carry the signature it should. -/
def invalidSignature : Code := ⟨105⟩

/-- A key was not the one that was needed. -/
def invalidKey : Code := ⟨106⟩

/-- An envelope's content could not be read. -/
def envelopeDecodeFail : Code := ⟨107⟩

/-- An envelope names an algorithm that is not supported. -/
def unhandledAlgorithm : Code := ⟨109⟩

/-- An envelope lacks what every envelope has. -/
def badRequest : Code := ⟨110⟩

/-- Codes are ordered by their numbers. -/
instance : LT Code := ⟨fun a b => a.number < b.number⟩

instance (a b : Code) : Decidable (a < b) := inferInstanceAs (Decidable (a.number < b.number))

/-- The named codes. -/
def named : List (Int32 × String) :=
  [(0, "UNHANDLED"), (1, "UNAVAILABLE"), (2, "SERVICE_DOWN_TIME"), (3, "MAINTENANCE"),
    (4, "UNIMPLEMENTED"), (49, "INTERNAL_ERROR"), (50, "REJECTED"), (51, "UNKNOWN_WALLET_ADDRESS"),
    (52, "UNKNOWN_IDENTITY"), (53, "UNKNOWN_ORIGINATOR"), (54, "UNKNOWN_BENEFICIARY"),
    (55, "BENEFICIARY_NAME_UNMATCHED"), (56, "UNSUPPORTED_CURRENCY"),
    (60, "EXCEEDED_TRADING_VOLUME"), (90, "COMPLIANCE_CHECK_FAIL"), (91, "NO_COMPLIANCE"),
    (92, "HIGH_RISK"), (99, "OUT_OF_NETWORK"), (100, "FORBIDDEN"), (101, "NO_SIGNING_KEY"),
    (102, "CERTIFICATE_REVOKED"), (103, "UNVERIFIED"), (104, "UNTRUSTED"),
    (105, "INVALID_SIGNATURE"), (106, "INVALID_KEY"), (107, "ENVELOPE_DECODE_FAIL"),
    (108, "PRIVATE_INFO_DECODE_FAIL"), (109, "UNHANDLED_ALGORITHM"), (110, "BAD_REQUEST"),
    (111, "UNPARSEABLE_IDENTITY"), (112, "PRIVATE_INFO_WRONG_FORMAT"),
    (113, "UNPARSEABLE_TRANSACTION"), (114, "MISSING_FIELDS"), (115, "INCOMPLETE_IDENTITY"),
    (116, "VALIDATION_ERROR")]

/-- The name of a named code. -/
def name? (code : Code) : Option String := named.lookup code.number

/-- The name of a code, or its number. -/
def text (code : Code) : String :=
  code.name?.getD (String.ofList (Text.integer code.number.toInt))

/-- The text of a code, marked as one. -/
def describe (code : Code) : String := "ErrorCode(" ++ code.text ++ ")"

/-- The class of transport status that a code falls in. -/
def statusClass (code : Code) : StatusClass :=
  let n := code.number.toInt
  if n ≤ 48 then .unavailable
  else if n = 49 then .internal
  else if n ≤ 99 then .aborted
  else if n ≤ 105 then .failedPrecondition
  else .invalidArgument

end Code

end Rejection

/-- A refusal to send back. -/
structure Rejection where
  code : Rejection.Code
  message : String
  retry : Bool
  details : Option Blob
deriving DecidableEq, Repr

namespace Rejection

/-- The rejection that says nothing. -/
def empty : Rejection := ⟨.unhandled, "", false, none⟩

/-- A rejection that is final. -/
def final (code : Code) (message : String) : Rejection := ⟨code, message, false, none⟩

/-- The same rejection, open to another attempt. -/
def withRetry (rejection : Rejection) : Rejection := { rejection with retry := true }

/-- The same rejection with details. -/
def withDetails (rejection : Rejection) (details : Blob) : Rejection :=
  { rejection with details := some details }

/-- Whether a rejection has neither a code nor a message. -/
def isZero (rejection : Rejection) : Bool := rejection.code = .unhandled && rejection.message = ""

/-- The rejection as a line of text. -/
def text (rejection : Rejection) : String :=
  "rejection [" ++ rejection.code.text ++ "]: " ++ rejection.message

end Rejection

end SealedTransfer
