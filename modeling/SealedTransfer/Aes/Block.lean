/-
# SealedTransfer.Aes.Block — the AES block cipher

The Advanced Encryption Standard in its forward direction, which is all that counter mode needs. A
block is four columns of four octets. A key of four, six or eight columns is expanded to one block of
key material for every round, and a round substitutes octets, shifts rows, mixes columns and adds its
key material; the last round mixes nothing.
-/
import SealedTransfer.Bytes

namespace SealedTransfer.Aes

/-! ## Columns and blocks -/

/-- Four octets, top row first. -/
structure Column where
  b0 : UInt8
  b1 : UInt8
  b2 : UInt8
  b3 : UInt8
deriving DecidableEq, Repr

/-- Four columns, the first one first. -/
structure Block where
  c0 : Column
  c1 : Column
  c2 : Column
  c3 : Column
deriving DecidableEq, Repr

/-- The octets of a column. -/
def Column.octets (c : Column) : Bytes := [c.b0, c.b1, c.b2, c.b3]

/-- A column of the first four octets, zeros where they are missing. -/
def Column.ofOctets (octets : Bytes) : Column :=
  ⟨octets.getD 0 0, octets.getD 1 0, octets.getD 2 0, octets.getD 3 0⟩

/-- The octets of a block. -/
def Block.octets (b : Block) : Bytes :=
  b.c0.octets ++ b.c1.octets ++ b.c2.octets ++ b.c3.octets

@[simp] theorem Block.length_octets (b : Block) : b.octets.length = 16 := rfl

/-- A block of the first sixteen octets, zeros where they are missing. -/
def Block.ofOctets (octets : Bytes) : Block :=
  ⟨.ofOctets octets, .ofOctets (octets.drop 4), .ofOctets (octets.drop 8),
    .ofOctets (octets.drop 12)⟩

/-- Exclusive or of columns. -/
def Column.add (x y : Column) : Column :=
  ⟨x.b0 ^^^ y.b0, x.b1 ^^^ y.b1, x.b2 ^^^ y.b2, x.b3 ^^^ y.b3⟩

/-- Exclusive or of blocks. -/
def Block.add (x y : Block) : Block :=
  ⟨x.c0.add y.c0, x.c1.add y.c1, x.c2.add y.c2, x.c3.add y.c3⟩

/-! ## Substitution -/

/-- The substitute of each octet: its inverse in the field of 256 elements under an affine map. -/
def substitutes : Array UInt8 :=
  #[0x63, 0x7c, 0x77, 0x7b, 0xf2, 0x6b, 0x6f, 0xc5, 0x30, 0x01, 0x67, 0x2b,
    0xfe, 0xd7, 0xab, 0x76, 0xca, 0x82, 0xc9, 0x7d, 0xfa, 0x59, 0x47, 0xf0,
    0xad, 0xd4, 0xa2, 0xaf, 0x9c, 0xa4, 0x72, 0xc0, 0xb7, 0xfd, 0x93, 0x26,
    0x36, 0x3f, 0xf7, 0xcc, 0x34, 0xa5, 0xe5, 0xf1, 0x71, 0xd8, 0x31, 0x15,
    0x04, 0xc7, 0x23, 0xc3, 0x18, 0x96, 0x05, 0x9a, 0x07, 0x12, 0x80, 0xe2,
    0xeb, 0x27, 0xb2, 0x75, 0x09, 0x83, 0x2c, 0x1a, 0x1b, 0x6e, 0x5a, 0xa0,
    0x52, 0x3b, 0xd6, 0xb3, 0x29, 0xe3, 0x2f, 0x84, 0x53, 0xd1, 0x00, 0xed,
    0x20, 0xfc, 0xb1, 0x5b, 0x6a, 0xcb, 0xbe, 0x39, 0x4a, 0x4c, 0x58, 0xcf,
    0xd0, 0xef, 0xaa, 0xfb, 0x43, 0x4d, 0x33, 0x85, 0x45, 0xf9, 0x02, 0x7f,
    0x50, 0x3c, 0x9f, 0xa8, 0x51, 0xa3, 0x40, 0x8f, 0x92, 0x9d, 0x38, 0xf5,
    0xbc, 0xb6, 0xda, 0x21, 0x10, 0xff, 0xf3, 0xd2, 0xcd, 0x0c, 0x13, 0xec,
    0x5f, 0x97, 0x44, 0x17, 0xc4, 0xa7, 0x7e, 0x3d, 0x64, 0x5d, 0x19, 0x73,
    0x60, 0x81, 0x4f, 0xdc, 0x22, 0x2a, 0x90, 0x88, 0x46, 0xee, 0xb8, 0x14,
    0xde, 0x5e, 0x0b, 0xdb, 0xe0, 0x32, 0x3a, 0x0a, 0x49, 0x06, 0x24, 0x5c,
    0xc2, 0xd3, 0xac, 0x62, 0x91, 0x95, 0xe4, 0x79, 0xe7, 0xc8, 0x37, 0x6d,
    0x8d, 0xd5, 0x4e, 0xa9, 0x6c, 0x56, 0xf4, 0xea, 0x65, 0x7a, 0xae, 0x08,
    0xba, 0x78, 0x25, 0x2e, 0x1c, 0xa6, 0xb4, 0xc6, 0xe8, 0xdd, 0x74, 0x1f,
    0x4b, 0xbd, 0x8b, 0x8a, 0x70, 0x3e, 0xb5, 0x66, 0x48, 0x03, 0xf6, 0x0e,
    0x61, 0x35, 0x57, 0xb9, 0x86, 0xc1, 0x1d, 0x9e, 0xe1, 0xf8, 0x98, 0x11,
    0x69, 0xd9, 0x8e, 0x94, 0x9b, 0x1e, 0x87, 0xe9, 0xce, 0x55, 0x28, 0xdf,
    0x8c, 0xa1, 0x89, 0x0d, 0xbf, 0xe6, 0x42, 0x68, 0x41, 0x99, 0x2d, 0x0f,
    0xb0, 0x54, 0xbb, 0x16]

/-- The substitute of an octet. -/
def substitute (b : UInt8) : UInt8 := substitutes.getD b.toNat 0

/-- Substitutes every octet of a column. -/
def Column.substitute (c : Column) : Column :=
  ⟨Aes.substitute c.b0, Aes.substitute c.b1, Aes.substitute c.b2, Aes.substitute c.b3⟩

/-! ## Mixing -/

/-- Twice an octet in the field of 256 elements. -/
def double (b : UInt8) : UInt8 := (b <<< 1) ^^^ (if b < 0x80 then 0 else 0x1b)

/-- The column times the circulant of 2, 3, 1, 1. -/
def Column.mix (c : Column) : Column :=
  let all := c.b0 ^^^ c.b1 ^^^ c.b2 ^^^ c.b3
  ⟨c.b0 ^^^ all ^^^ double (c.b0 ^^^ c.b1), c.b1 ^^^ all ^^^ double (c.b1 ^^^ c.b2),
    c.b2 ^^^ all ^^^ double (c.b2 ^^^ c.b3), c.b3 ^^^ all ^^^ double (c.b3 ^^^ c.b0)⟩

/-- Substitutes every octet and turns row `r` left by `r` places. -/
def Block.substituteShift (b : Block) : Block :=
  let s (w x y z : Column) : Column :=
    ⟨substitute w.b0, substitute x.b1, substitute y.b2, substitute z.b3⟩
  ⟨s b.c0 b.c1 b.c2 b.c3, s b.c1 b.c2 b.c3 b.c0, s b.c2 b.c3 b.c0 b.c1, s b.c3 b.c0 b.c1 b.c2⟩

/-- Mixes every column. -/
def Block.mix (b : Block) : Block := ⟨b.c0.mix, b.c1.mix, b.c2.mix, b.c3.mix⟩

/-! ## Keys -/

/-- A key of sixteen, twenty-four or thirty-two octets. -/
structure Key where
  octets : Bytes
  usable : octets.length = 16 ∨ octets.length = 24 ∨ octets.length = 32
deriving DecidableEq

/-- The octets as a key, if they have the length of one. -/
def Key.of? (octets : Bytes) : Option Key :=
  if h : octets.length = 16 ∨ octets.length = 24 ∨ octets.length = 32 then some ⟨octets, h⟩
  else none

/-- What the last column contributes to the column after it, which is number `index`, counted in
columns of the key; `constant` is the round constant to use where one is due. -/
def contribution (keyColumns index : Nat) (constant : UInt8) (last : Column) : Column :=
  if index % keyColumns = 0 then
    (⟨last.b1, last.b2, last.b3, last.b0⟩ : Column).substitute.add ⟨constant, 0, 0, 0⟩
  else if 6 < keyColumns ∧ index % keyColumns = 4 then last.substitute
  else last

/-- The next `count` columns of an expanded key, after a window of as many columns as the key has,
the oldest first. -/
def expand (keyColumns : Nat) :
    (count index : Nat) → (constant : UInt8) → (window : List Column) → List Column
  | 0, _, _, _ => []
  | _, _, _, [] => []
  | count + 1, index, constant, oldest :: window =>
    let last := window.getLast?.getD oldest
    let next := oldest.add (contribution keyColumns index constant last)
    let constant := if index % keyColumns = 0 then double constant else constant
    next :: expand keyColumns count (index + 1) constant (window ++ [next])

/-- Blocks of four columns each. -/
def blocksOf : List Column → List Block
  | c0 :: c1 :: c2 :: c3 :: rest => ⟨c0, c1, c2, c3⟩ :: blocksOf rest
  | _ => []

/-- The key material of all rounds: a block before the first round and one for each of six rounds
more than the key has columns. -/
def Key.schedule (key : Key) : List Block :=
  let columns := (chunks 4 key.octets).map Column.ofOctets
  let n := columns.length
  blocksOf (columns ++ expand n (4 * (n + 7) - n) n 1 columns)

/-! ## The cipher -/

/-- The rounds with the given key material. -/
def rounds : List Block → Block → Block
  | [], b => b
  | [last], b => b.substituteShift.add last
  | k :: material, b => rounds material (b.substituteShift.mix.add k)

/-- Enciphers a block under expanded key material. -/
def encipher (schedule : List Block) (b : Block) : Block :=
  match schedule with
  | [] => b
  | k :: material => rounds material (b.add k)

end SealedTransfer.Aes
