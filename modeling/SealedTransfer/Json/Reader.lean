/-
# SealedTransfer.Json.Reader — JSON text to values

The reader takes one value with optional blanks (space, tab, line feed, carriage return) around it
and refuses everything else: trailing text, commas without a value after them, controls below U+0020
inside strings, numbers with superfluous zeros. Numbers may be of any size. Its recursion is bounded
by the length of the text, which is more than any value in it can need.
-/
import SealedTransfer.Json.Basic

namespace SealedTransfer.Json

open Text (decimalValue? hexValue? ofDecimalDigits)

/-- Space, tab, line feed or carriage return. -/
def isSpace (c : Char) : Bool := c = ' ' || c = '\t' || c = '\n' || c = '\r'

/-- The text without the blanks in front. -/
def skipSpace (text : List Char) : List Char := text.dropWhile isSpace

/-! ## Strings -/

/-- The code point of a short escape. -/
def shortEscape? (c : Char) : Option Nat :=
  if c = '"' ∨ c = '\\' ∨ c = '/' then some c.toNat
  else if c = 'b' then some 8
  else if c = 'f' then some 12
  else if c = 'n' then some 10
  else if c = 'r' then some 13
  else if c = 't' then some 9
  else none

/-- The number of four hexadecimal digits. -/
def hex4? (a b c d : Char) : Option Nat := do
  let a ← hexValue? a
  let b ← hexValue? b
  let c ← hexValue? c
  let d ← hexValue? d
  some (a * 4096 + b * 256 + c * 16 + d)

/-- The code points of a string after its opening quote, escapes resolved one by one, and the text
after its closing quote. -/
def readCodes : List Char → Option (List Nat × List Char)
  | [] => none
  | '"' :: rest => some ([], rest)
  | '\\' :: 'u' :: a :: b :: c :: d :: rest => do
    let code ← hex4? a b c d
    let (codes, rest) ← readCodes rest
    some (code :: codes, rest)
  | '\\' :: c :: rest => do
    let code ← shortEscape? c
    let (codes, rest) ← readCodes rest
    some (code :: codes, rest)
  | c :: rest =>
    if c.toNat < 0x20 ∨ c = '\\' then none
    else do
      let (codes, rest) ← readCodes rest
      some (c.toNat :: codes, rest)

/-- The first half of a surrogate pair. -/
def isHighSurrogate (code : Nat) : Bool := 0xD800 ≤ code && code ≤ 0xDBFF

/-- The second half of a surrogate pair. -/
def isLowSurrogate (code : Nat) : Bool := 0xDC00 ≤ code && code ≤ 0xDFFF

/-- The characters of code points; two halves in a row are one character, and a half by itself is
none. -/
def joinSurrogates : List Nat → Option (List Char)
  | [] => some []
  | code :: codes =>
    if isHighSurrogate code then
      match codes with
      | low :: codes =>
        if isLowSurrogate low then do
          let text ← joinSurrogates codes
          some (Char.ofNat (0x10000 + (code - 0xD800) * 0x400 + (low - 0xDC00)) :: text)
        else none
      | [] => none
    else if isLowSurrogate code then none
    else do
      let text ← joinSurrogates codes
      some (Char.ofNat code :: text)

/-- A string after its opening quote: its text, unless a surrogate is unpaired, and what follows. -/
def readString (text : List Char) : Option (Option String × List Char) := do
  let (codes, rest) ← readCodes text
  some ((joinSurrogates codes).map String.ofList, rest)

/-! ## Numbers -/

/-- The values of the decimal digits in front and the text after them. -/
def spanDigits : List Char → List Nat × List Char
  | [] => ([], [])
  | c :: rest =>
    match decimalValue? c with
    | some value =>
      let (values, rest) := spanDigits rest
      (value :: values, rest)
    | none => ([], c :: rest)

/-- The whole part of a number: one zero, or digits that do not begin with zero. -/
def readWhole (text : List Char) : Option (Nat × List Char) :=
  match spanDigits text with
  | ([], _) => none
  | (0 :: values, rest) => if values.isEmpty then some (0, rest) else none
  | (values, rest) => some (ofDecimalDigits values, rest)

/-- An optional fraction: whether there is one, and the text after it. -/
def readFraction : List Char → Option (Bool × List Char)
  | '.' :: text =>
    match spanDigits text with
    | ([], _) => none
    | (_, rest) => some (true, rest)
  | text => some (false, text)

/-- A sign in front of an exponent, if there is one, is passed over. -/
def skipSign : List Char → List Char
  | '+' :: text => text
  | '-' :: text => text
  | text => text

/-- An optional exponent: whether there is one, and the text after it. -/
def readExponent : List Char → Option (Bool × List Char)
  | [] => some (false, [])
  | c :: text =>
    if c = 'e' ∨ c = 'E' then
      match spanDigits (skipSign text) with
      | ([], _) => none
      | (_, rest) => some (true, rest)
    else some (false, c :: text)

/-- A number without its sign; only whole numbers other than negative zero are readable. -/
def readMagnitude (negative : Bool) (text : List Char) : Option (Json × List Char) := do
  let (magnitude, text) ← readWhole text
  let (fraction, text) ← readFraction text
  let (exponent, text) ← readExponent text
  let value :=
    if fraction || exponent || (negative && magnitude == 0) then .unreadable
    else if negative then .integer (-(magnitude : Int))
    else .integer magnitude
  some (value, text)

/-- A number. -/
def readNumber : List Char → Option (Json × List Char)
  | '-' :: text => readMagnitude true text
  | text => readMagnitude false text

/-! ## Values -/

/-- An object of the given members, unless one of the names is no text. -/
def ofMembers (members : List (Option String × Json)) : Json :=
  match members.mapM fun (name, value) => name.map fun name => (name, value) with
  | some members => .object members
  | none => .unreadable

mutual

/-- The value at the front of a text; the first argument bounds the recursion. -/
def readValue : Nat → List Char → Option (Json × List Char)
  | 0, _ => none
  | depth + 1, text =>
    match skipSpace text with
    | 'n' :: 'u' :: 'l' :: 'l' :: rest => some (.null, rest)
    | 't' :: 'r' :: 'u' :: 'e' :: rest => some (.bool true, rest)
    | 'f' :: 'a' :: 'l' :: 's' :: 'e' :: rest => some (.bool false, rest)
    | '"' :: rest => do
      let (text, rest) ← readString rest
      some (text.elim .unreadable .string, rest)
    | '[' :: rest =>
      match skipSpace rest with
      | ']' :: rest => some (.array [], rest)
      | rest => do
        let (item, rest) ← readValue depth rest
        let (items, rest) ← readItems depth rest
        some (.array (item :: items), rest)
    | '{' :: rest =>
      match skipSpace rest with
      | '}' :: rest => some (.object [], rest)
      | rest => do
        let (member, rest) ← readMember depth rest
        let (members, rest) ← readMembers depth rest
        some (ofMembers (member :: members), rest)
    | text => readNumber text

/-- The items after the first, up to the closing bracket. -/
def readItems : Nat → List Char → Option (List Json × List Char)
  | 0, _ => none
  | depth + 1, text =>
    match skipSpace text with
    | ']' :: rest => some ([], rest)
    | ',' :: rest => do
      let (item, rest) ← readValue depth rest
      let (items, rest) ← readItems depth rest
      some (item :: items, rest)
    | _ => none

/-- One member: a name, a colon and a value. -/
def readMember : Nat → List Char → Option ((Option String × Json) × List Char)
  | 0, _ => none
  | depth + 1, text =>
    match skipSpace text with
    | '"' :: rest => do
      let (name, rest) ← readString rest
      match skipSpace rest with
      | ':' :: rest => do
        let (value, rest) ← readValue depth rest
        some ((name, value), rest)
      | _ => none
    | _ => none

/-- The members after the first, up to the closing brace. -/
def readMembers : Nat → List Char → Option (List (Option String × Json) × List Char)
  | 0, _ => none
  | depth + 1, text =>
    match skipSpace text with
    | '}' :: rest => some ([], rest)
    | ',' :: rest => do
      let (member, rest) ← readMember depth rest
      let (members, rest) ← readMembers depth rest
      some (member :: members, rest)
    | _ => none

end

/-- The value that a text spells, if it spells one and nothing else. -/
def ofText? (text : List Char) : Option Json := do
  let (value, rest) ← readValue (4 * text.length + 4) text
  if (skipSpace rest).isEmpty then some value else none

/-- The value that a string spells. -/
def parse? (text : String) : Option Json := ofText? text.toList

end SealedTransfer.Json
