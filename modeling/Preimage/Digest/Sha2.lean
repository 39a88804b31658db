import Preimage.Digest.Word

/-! The SHA-2 functions. One compression serves the family, whose members differ in the width of a
word, in the amounts by which words are rotated and in the number of rounds. The round constants are
the leading bits of the fractional parts of the cube roots of the first primes, so the narrow
functions use the upper halves of the wide ones. -/
namespace Preimage.Digest.Sha2
variable {w : Nat}

structure Variant (w : Nat) where
  constants : List (BitVec w)
  /-- Rotations of the first and of the fifth working word in a round. -/
  mixFirst : Nat × Nat × Nat
  mixFifth : Nat × Nat × Nat
  /-- Two rotations and a shift of earlier words in the message schedule. -/
  spreadEarly : Nat × Nat × Nat
  spreadLate : Nat × Nat × Nat
  /-- The bytes at the end of the padding that tell the message length. -/
  lengthBytes : Nat

structure State (w : Nat) where
  a : BitVec w
  b : BitVec w
  c : BitVec w
  d : BitVec w
  e : BitVec w
  f : BitVec w
  g : BitVec w
  h : BitVec w

namespace State

def add (left right : State w) : State w :=
  ⟨left.a + right.a, left.b + right.b, left.c + right.c, left.d + right.d,
    left.e + right.e, left.f + right.f, left.g + right.g, left.h + right.h⟩

def bytes (state : State w) : Bytes :=
  [state.a, state.b, state.c, state.d, state.e, state.f, state.g, state.h].flatMap bigEndian

theorem length_bytes (state : State w) : state.bytes.length = 8 * (w / 8) := by
  simp [bytes]
  omega

end State

def mix (amounts : Nat × Nat × Nat) (word : BitVec w) : BitVec w :=
  word.rotateRight amounts.1 ^^^ word.rotateRight amounts.2.1 ^^^ word.rotateRight amounts.2.2

def spread (amounts : Nat × Nat × Nat) (word : BitVec w) : BitVec w :=
  word.rotateRight amounts.1 ^^^ word.rotateRight amounts.2.1 ^^^ word >>> amounts.2.2

namespace Variant

/-- Adds words to a schedule that is held latest first. -/
def extend (variant : Variant w) : Nat → List (BitVec w) → List (BitVec w)
  | 0, words => words
  | more + 1, words =>
    let word := spread variant.spreadLate (words.getD 1 0) + words.getD 6 0 +
      spread variant.spreadEarly (words.getD 14 0) + words.getD 15 0
    variant.extend more (word :: words)

/-- One word for each round, of which the block itself gives the first sixteen. -/
def schedule (variant : Variant w) (block : List (BitVec w)) : List (BitVec w) :=
  (variant.extend (variant.constants.length - 16) block.reverse).reverse

def round (variant : Variant w) (s : State w) (input : BitVec w × BitVec w) : State w :=
  let choice := (s.e &&& s.f) ^^^ (~~~s.e &&& s.g)
  let majority := (s.a &&& s.b) ^^^ (s.a &&& s.c) ^^^ (s.b &&& s.c)
  let first := s.h + mix variant.mixFifth s.e + choice + input.1 + input.2
  let second := mix variant.mixFirst s.a + majority
  ⟨first + second, s.a, s.b, s.c, s.d + first, s.e, s.f, s.g⟩

def compress (variant : Variant w) (state : State w) (block : Bytes) : State w :=
  let words := (pieces (w / 8) block).map (ofBigEndian w)
  state.add ((variant.constants.zip (variant.schedule words)).foldl variant.round state)

def blockBytes (_ : Variant w) : Nat := 16 * (w / 8)

/-- A one bit, zeros, and the length of the message in bits fill the last block. -/
def pad (variant : Variant w) (message : Bytes) : Bytes :=
  let zeros := shortfall variant.blockBytes (message.length + 1 + variant.lengthBytes)
  message ++ 0x80 :: List.replicate zeros 0 ++
    bigEndian (BitVec.ofNat (8 * variant.lengthBytes) (8 * message.length))

def run (variant : Variant w) (initial : State w) (message : Bytes) : State w :=
  (pieces variant.blockBytes (variant.pad message)).foldl variant.compress initial

end Variant

def roundConstants : List (BitVec 64) :=
  [0x428a2f98d728ae22, 0x7137449123ef65cd, 0xb5c0fbcfec4d3b2f, 0xe9b5dba58189dbbc,
    0x3956c25bf348b538, 0x59f111f1b605d019, 0x923f82a4af194f9b, 0xab1c5ed5da6d8118,
    0xd807aa98a3030242, 0x12835b0145706fbe, 0x243185be4ee4b28c, 0x550c7dc3d5ffb4e2,
    0x72be5d74f27b896f, 0x80deb1fe3b1696b1, 0x9bdc06a725c71235, 0xc19bf174cf692694,
    0xe49b69c19ef14ad2, 0xefbe4786384f25e3, 0x0fc19dc68b8cd5b5, 0x240ca1cc77ac9c65,
    0x2de92c6f592b0275, 0x4a7484aa6ea6e483, 0x5cb0a9dcbd41fbd4, 0x76f988da831153b5,
    0x983e5152ee66dfab, 0xa831c66d2db43210, 0xb00327c898fb213f, 0xbf597fc7beef0ee4,
    0xc6e00bf33da88fc2, 0xd5a79147930aa725, 0x06ca6351e003826f, 0x142929670a0e6e70,
    0x27b70a8546d22ffc, 0x2e1b21385c26c926, 0x4d2c6dfc5ac42aed, 0x53380d139d95b3df,
    0x650a73548baf63de, 0x766a0abb3c77b2a8, 0x81c2c92e47edaee6, 0x92722c851482353b,
    0xa2bfe8a14cf10364, 0xa81a664bbc423001, 0xc24b8b70d0f89791, 0xc76c51a30654be30,
    0xd192e819d6ef5218, 0xd69906245565a910, 0xf40e35855771202a, 0x106aa07032bbd1b8,
    0x19a4c116b8d2d0c8, 0x1e376c085141ab53, 0x2748774cdf8eeb99, 0x34b0bcb5e19b48a8,
    0x391c0cb3c5c95a63, 0x4ed8aa4ae3418acb, 0x5b9cca4f7763e373, 0x682e6ff3d6b2b8a3,
    0x748f82ee5defb2fc, 0x78a5636f43172f60, 0x84c87814a1f0ab72, 0x8cc702081a6439ec,
    0x90befffa23631e28, 0xa4506cebde82bde9, 0xbef9a3f7b2c67915, 0xc67178f2e372532b,
    0xca273eceea26619c, 0xd186b8c721c0c207, 0xeada7dd6cde0eb1e, 0xf57d4f7fee6ed178,
    0x06f067aa72176fba, 0x0a637dc5a2c898a6, 0x113f9804bef90dae, 0x1b710b35131c471b,
    0x28db77f523047d84, 0x32caab7b40c72493, 0x3c9ebe0a15c9bebc, 0x431d67c49c100d4c,
    0x4cc5d4becb3e42b6, 0x597f299cfc657e2a, 0x5fcb6fab3ad6faec, 0x6c44198c4a475817]

/-- Sixty-four rounds on 32-bit words. -/
def narrow : Variant 32 where
  constants := (roundConstants.take 64).map fun constant => constant.extractLsb' 32 32
  mixFirst := (2, 13, 22)
  mixFifth := (6, 11, 25)
  spreadEarly := (7, 18, 3)
  spreadLate := (17, 19, 10)
  lengthBytes := 8

/-- Eighty rounds on 64-bit words. -/
def wide : Variant 64 where
  constants := roundConstants
  mixFirst := (28, 34, 39)
  mixFifth := (14, 18, 41)
  spreadEarly := (1, 8, 7)
  spreadLate := (19, 61, 6)
  lengthBytes := 16

/-- The leading bits of the fractional parts of the square roots of the first eight primes. -/
def sha256Start : State 32 :=
  ⟨0x6a09e667, 0xbb67ae85, 0x3c6ef372, 0xa54ff53a, 0x510e527f, 0x9b05688c, 0x1f83d9ab, 0x5be0cd19⟩

/-- The start that is set apart for the 256-bit digest of the wide function. -/
def sha512t256Start : State 64 :=
  ⟨0x22312194fc2bf72c, 0x9f555fa3c84c64c2, 0x2393b86b6f53b151, 0x963877195940eabd,
    0x96283ee2a88effe3, 0xbe5e1e2553863992, 0x2b0199fc2c85b8aa, 0x0eb72ddc81c52ca2⟩

def sha256 (message : Bytes) : Bytes := (narrow.run sha256Start message).bytes

def sha512t256 (message : Bytes) : Bytes := (wide.run sha512t256Start message).bytes.take 32

theorem length_sha256 (message : Bytes) : (sha256 message).length = 32 := by
  simp [sha256, State.length_bytes]

theorem length_sha512t256 (message : Bytes) : (sha512t256 message).length = 32 := by
  simp [sha512t256, State.length_bytes]

end Preimage.Digest.Sha2
