/-
# SealedTransfer.Hash.Md5 — MD5

The message digest over four 32-bit words, least significant octet first. It is kept for the
fingerprints that name it. Each block of sixteen words is gone through four times, each time in
another order, with another mixing function and other turns.
-/
import SealedTransfer.Hash.Padding

namespace SealedTransfer.Hash.Md5

/-- The four working words. -/
structure State where
  a : UInt32
  b : UInt32
  c : UInt32
  d : UInt32
deriving DecidableEq, Repr

/-- The state before the first block. -/
def initial : State := ⟨0x67452301, 0xefcdab89, 0x98badcfe, 0x10325476⟩

/-- One constant for each step: sines of the first sixty-four whole angles. -/
def stepConstants : List UInt32 :=
  [0xd76aa478, 0xe8c7b756, 0x242070db, 0xc1bdceee, 0xf57c0faf, 0x4787c62a,
   0xa8304613, 0xfd469501, 0x698098d8, 0x8b44f7af, 0xffff5bb1, 0x895cd7be,
   0x6b901122, 0xfd987193, 0xa679438e, 0x49b40821, 0xf61e2562, 0xc040b340,
   0x265e5a51, 0xe9b6c7aa, 0xd62f105d, 0x02441453, 0xd8a1e681, 0xe7d3fbc8,
   0x21e1cde6, 0xc33707d6, 0xf4d50d87, 0x455a14ed, 0xa9e3e905, 0xfcefa3f8,
   0x676f02d9, 0x8d2a4c8a, 0xfffa3942, 0x8771f681, 0x6d9d6122, 0xfde5380c,
   0xa4beea44, 0x4bdecfa9, 0xf6bb4b60, 0xbebfbc70, 0x289b7ec6, 0xeaa127fa,
   0xd4ef3085, 0x04881d05, 0xd9d4d039, 0xe6db99e5, 0x1fa27cf8, 0xc4ac5665,
   0xf4292244, 0x432aff97, 0xab9423a7, 0xfc93a039, 0x655b59c3, 0x8f0ccc92,
   0xffeff47d, 0x85845dd1, 0x6fa87e4f, 0xfe2ce6e0, 0xa3014314, 0x4e0811a1,
   0xf7537e82, 0xbd3af235, 0x2ad7d2bb, 0xeb86d391]

/-- A word turned left by `n` places. -/
def rotateLeft (x n : UInt32) : UInt32 := (x <<< n) ||| (x >>> (32 - n))

/-- The mixing function of a pass. -/
def mix (pass : Nat) (x y z : UInt32) : UInt32 :=
  match pass with
  | 0 => (x &&& y) ||| (~~~x &&& z)
  | 1 => (x &&& z) ||| (y &&& ~~~z)
  | 2 => x ^^^ y ^^^ z
  | _ => y ^^^ (x ||| ~~~z)

/-- The place in the block of the word that a step takes. -/
def wordIndex (step : Nat) : Nat :=
  match step / 16 with
  | 0 => step
  | 1 => (5 * step + 1) % 16
  | 2 => (3 * step + 5) % 16
  | _ => 7 * step % 16

/-- The turns of each pass, used in rotation. -/
def turns (pass : Nat) : List UInt32 :=
  match pass with
  | 0 => [7, 12, 17, 22]
  | 1 => [5, 9, 14, 20]
  | 2 => [4, 11, 16, 23]
  | _ => [6, 10, 15, 21]

/-- One step. -/
def stepWith (block : List UInt32) (step : Nat) (k : UInt32) (s : State) : State :=
  let pass := step / 16
  let sum := s.a + mix pass s.b s.c s.d + k + block.getD (wordIndex step) 0
  ⟨s.d, s.b + rotateLeft sum ((turns pass).getD (step % 4) 0), s.b, s.c⟩

/-- A step for each constant, numbered from `step`. -/
def steps (block : List UInt32) : Nat → List UInt32 → State → State
  | _, [], s => s
  | step, k :: constants, s => steps block (step + 1) constants (stepWith block step k s)

/-- Takes one block of sixteen words into the state. -/
def compress (s : State) (block : List UInt32) : State :=
  let t := steps block 0 stepConstants s
  ⟨s.a + t.a, s.b + t.b, s.c + t.c, s.d + t.d⟩

/-- The words of a block, least significant octet first. -/
def words (block : Bytes) : List UInt32 :=
  (chunks 4 block).map fun octets => UInt32.ofNat (Bytes.littleNat octets)

/-- The octets of a state. -/
def State.octets (s : State) : Bytes :=
  [s.a, s.b, s.c, s.d].flatMap fun w => Bytes.ofLittleNat 4 w.toNat

/-- The digest of a message. -/
def digest (message : Bytes) : Bytes :=
  ((chunks 64 (paddedLittle 64 8 message)).foldl (fun s block => compress s (words block))
    initial).octets

/-- A digest has sixteen octets. -/
@[simp] theorem length_digest (message : Bytes) : (digest message).length = 16 := by
  simp [digest, State.octets]

end SealedTransfer.Hash.Md5
