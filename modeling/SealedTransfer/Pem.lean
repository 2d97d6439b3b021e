/-
# SealedTransfer.Pem — octets between armour lines

A PEM block names its kind in a tag and carries octets in base64 between a BEGIN and an END marker.
Writing is fixed: lines of sixty-four symbols, each ended by a line feed. Reading is lenient about
what stands around and between the markers and strict about the blocks themselves: once a begin
marker, its tag, an end marker and its tag have been found, the block has to be well formed, or the
whole text is refused. Text without a complete block holds no blocks and is no error.
-/
import SealedTransfer.Text.Base64
import SealedTransfer.Text.Blank
import SealedTransfer.Text.Utf8

namespace SealedTransfer.Pem

open Text (isBlank splitAll)

/-- A block: what it holds and under which tag. -/
structure Block where
  tag : String
  contents : Bytes
deriving DecidableEq, Repr

/-! ## Writing -/

/-- The text of a block, in lines of sixty-four symbols. -/
def Block.text (block : Block) : List Char :=
  "-----BEGIN ".toList ++ block.tag.toList ++ "-----\n".toList
    ++ (chunks 64 (Text.Base64.encode block.contents)).flatMap (· ++ ['\n'])
    ++ "-----END ".toList ++ block.tag.toList ++ "-----\n".toList

/-- The octets of a block's text. -/
def Block.encode (block : Block) : Bytes := Text.Utf8.encodeChars block.text

/-! ## Finding blocks -/

/-- Looks for a marker of which `awaited` has still to be seen. The search never steps back: at an
octet that does not fit it begins again with the whole marker after that octet. The answer is what
was passed, the marker included, and what follows. -/
def passMarker (marker : Bytes) : Bytes → Bytes → Option (Bytes × Bytes)
  | _, [] => none
  | [], b :: rest => some ([], b :: rest)
  | w :: awaited, b :: rest =>
    let awaited := if b = w then awaited else marker
    if awaited.isEmpty then some ([b], rest)
    else match passMarker marker awaited rest with
      | some (passed, rest) => some (b :: passed, rest)
      | none => none

/-- What stands before the marker and what stands after it. -/
def cutAt (marker : Bytes) (text : Bytes) : Option (Bytes × Bytes) :=
  match passMarker marker marker text with
  | some (passed, rest) => some (passed.take (passed.length - marker.length), rest)
  | none => none

/-- Space, tab, carriage return or line feed. -/
def isGap (b : UInt8) : Bool := b == 0x20 || b == 0x09 || b == 0x0D || b == 0x0A

/-- The parts of a block as they stand in the text. -/
structure RawBlock where
  beginTag : Bytes
  body : Bytes
  endTag : Bytes

/-- The first block of a text and the text after it. -/
def nextRaw? (text : Bytes) : Option (RawBlock × Bytes) := do
  let (_, text) ← cutAt (Text.Utf8.encode "-----BEGIN ") text
  let (beginTag, text) ← cutAt (Text.Utf8.encode "-----") text
  let (body, text) ← cutAt (Text.Utf8.encode "-----END ") (text.dropWhile isGap)
  let (endTag, text) ← cutAt (Text.Utf8.encode "-----") text
  some (⟨beginTag, body, endTag⟩, text.dropWhile isGap)

theorem length_of_passMarker {marker awaited text passed rest : Bytes} (h : awaited ≠ [])
    (hp : passMarker marker awaited text = some (passed, rest)) : rest.length < text.length := by
  induction text generalizing awaited passed with
  | nil => cases awaited <;> simp [passMarker] at hp
  | cons b text ih =>
    cases awaited with
    | nil => exact absurd rfl h
    | cons w awaited =>
      simp only [passMarker] at hp
      generalize (if b = w then awaited else marker) = next at hp
      split at hp
      · cases hp; simp
      · rename_i more
        split at hp
        · rename_i found
          cases hp
          have := ih (by intro he; simp [he] at more) found
          simp only [List.length_cons]
          omega
        · cases hp

theorem length_of_cutAt {marker text before rest : Bytes} (h : marker ≠ [])
    (hc : cutAt marker text = some (before, rest)) : rest.length < text.length := by
  unfold cutAt at hc
  split at hc
  · rename_i found
    cases hc
    exact length_of_passMarker h found
  · cases hc

theorem length_dropWhile_le {α : Type} (p : α → Bool) (list : List α) :
    (list.dropWhile p).length ≤ list.length := by
  induction list with
  | nil => simp
  | cons a list ih =>
    simp only [List.dropWhile_cons]
    split
    · simp only [List.length_cons]; omega
    · simp

/-- Finding a block uses up text. -/
theorem length_of_nextRaw? {text rest : Bytes} {raw : RawBlock}
    (h : nextRaw? text = some (raw, rest)) : rest.length < text.length := by
  simp only [nextRaw?, Option.bind_eq_bind, Option.bind_eq_some_iff] at h
  obtain ⟨⟨_, t₁⟩, h₁, ⟨_, t₂⟩, h₂, ⟨_, t₃⟩, h₃, ⟨_, t₄⟩, h₄, h₅⟩ := h
  have e₁ := length_of_cutAt (by decide) h₁
  have e₂ := length_of_cutAt (by decide) h₂
  have e₃ := length_of_cutAt (by decide) h₃
  have e₄ := length_of_cutAt (by decide) h₄
  have d₂ := length_dropWhile_le isGap t₂
  have d₄ := length_dropWhile_le isGap t₄
  simp only [Option.some.injEq, Prod.mk.injEq] at h₅
  rw [← h₅.2]
  simp only at e₁ e₂ e₃ e₄ d₂ d₄
  omega

/-- The blocks of a text in order, up to the first that is not complete. -/
def rawBlocks (text : Bytes) : List RawBlock :=
  match _h : nextRaw? text with
  | none => []
  | some (raw, rest) => raw :: rawBlocks rest
termination_by text.length
decreasing_by exact length_of_nextRaw? _h

/-! ## Reading a block -/

/-- The lines of a text; a line feed at the very end begins no further line. -/
def lines (text : List Char) : List (List Char) :=
  let pieces := splitAll '\n' text
  if pieces.getLast? = some [] then pieces.dropLast else pieces

/-- Splits a body at its first blank line into header lines and data. A body without a blank line
is data alone. -/
def splitHeaders (body : Bytes) : Bytes × Bytes :=
  match cutAt [0x0A, 0x0A] body with
  | some parts => parts
  | none =>
    match cutAt [0x0D, 0x0A, 0x0D, 0x0A] body with
    | some parts => parts
    | none => ([], body)

/-- The octets that a body carries: its header lines have a colon each, and its data is padded
base64 once white space is taken out. -/
def contents? (body : Bytes) : Option Bytes := do
  let (headers, data) := splitHeaders body
  let data ← Text.Utf8.decodeChars? data
  let contents ← Text.Base64.decode? (data.filter fun c => !isBlank c)
  let headers ← Text.Utf8.decodeChars? headers
  if (lines headers).all (·.contains ':') then some contents else none

/-- Reads a block: its two tags are text, not empty and equal. -/
def RawBlock.block? (raw : RawBlock) : Option Block := do
  let tag ← Text.Utf8.decode? raw.beginTag
  if tag = "" ∨ raw.endTag ≠ raw.beginTag then none
  else
    let contents ← contents? raw.body
    some ⟨tag, contents⟩

/-- The blocks of a text, or nothing when one of them is malformed. -/
def blocks? (text : Bytes) : Option (List Block) := (rawBlocks text).mapM RawBlock.block?

end SealedTransfer.Pem
