import Preimage.Digest.Word

/-! BLAKE2b with a 256-bit digest and no key. Each of its twelve rounds mixes the sixteen working
words by columns and then by diagonals, and takes the words of the block in an order of its own. -/
namespace Preimage.Digest.Blake2b

abbrev Word := BitVec 64

abbrev Working := Vector Word 16

def start : Vector Word 8 :=
  #v[0x6a09e667f3bcc908, 0xbb67ae8584caa73b, 0x3c6ef372fe94f82b, 0xa54ff53a5f1d36f1,
    0x510e527fade682d1, 0x9b05688c2b3e6c1f, 0x1f83d9abfb41bd6b, 0x5be0cd19137e2179]

/-- Ten orders of the block words. The last two rounds take the first two again. -/
def orders : List (Vector Nat 16) :=
  [#v[0, 1, 2, 3, 4, 5, 6, 7, 8, 9, 10, 11, 12, 13, 14, 15],
    #v[14, 10, 4, 8, 9, 15, 13, 6, 1, 12, 0, 2, 11, 7, 5, 3],
    #v[11, 8, 12, 0, 5, 2, 15, 13, 10, 14, 3, 6, 7, 1, 9, 4],
    #v[7, 9, 3, 1, 13, 12, 11, 14, 2, 6, 5, 10, 4, 0, 15, 8],
    #v[9, 0, 5, 7, 2, 4, 10, 15, 14, 1, 11, 12, 6, 8, 3, 13],
    #v[2, 12, 6, 10, 0, 11, 8, 3, 4, 13, 7, 5, 15, 14, 1, 9],
    #v[12, 5, 1, 15, 14, 13, 4, 10, 0, 7, 6, 3, 9, 2, 8, 11],
    #v[13, 11, 7, 14, 12, 1, 3, 9, 5, 0, 15, 4, 8, 6, 2, 10],
    #v[6, 15, 14, 9, 11, 3, 0, 8, 12, 2, 13, 7, 1, 4, 10, 5],
    #v[10, 2, 8, 4, 7, 6, 1, 5, 15, 11, 9, 14, 3, 12, 13, 0]]

/-- Mixes two words of the block into four of the working words. -/
def mix (v : Working) (a b c d : Fin 16) (x y : Word) : Working :=
  let va := v[a] + v[b] + x
  let vd := (v[d] ^^^ va).rotateRight 32
  let vc := v[c] + vd
  let vb := (v[b] ^^^ vc).rotateRight 24
  let va := va + vb + y
  let vd := (vd ^^^ va).rotateRight 16
  let vc := vc + vd
  let vb := (vb ^^^ vc).rotateRight 63
  (((v.set a va).set b vb).set c vc).set d vd

def round (block : List Word) (v : Working) (order : Vector Nat 16) : Working :=
  let word (place : Fin 16) := block.getD order[place] 0
  let v := mix v 0 4 8 12 (word 0) (word 1)
  let v := mix v 1 5 9 13 (word 2) (word 3)
  let v := mix v 2 6 10 14 (word 4) (word 5)
  let v := mix v 3 7 11 15 (word 6) (word 7)
  let v := mix v 0 5 10 15 (word 8) (word 9)
  let v := mix v 1 6 11 12 (word 10) (word 11)
  let v := mix v 2 7 8 13 (word 12) (word 13)
  mix v 3 4 9 14 (word 14) (word 15)

/-- Takes in a block, given how many bytes of the message there are up to its end. -/
def compress (state : Vector Word 8) (block : Bytes) (size : Nat) (last : Bool) : Vector Word 8 :=
  let words := (pieces 8 block).map (ofLittleEndian 64)
  let v : Working := state ++ start
  let v := v.set 12 (v[12] ^^^ BitVec.ofNat 64 size)
  let v := v.set 13 (v[13] ^^^ BitVec.ofNat 64 (size / UInt64.size))
  let v := if last then v.set 14 (~~~v[14]) else v
  let v := (orders ++ orders.take 2).foldl (round words) v
  Vector.ofFn fun place => state[place] ^^^ v[place.val] ^^^ v[place.val + 8]

def blockBytes : Nat := 128

/-- Takes in every block. The last one is filled up with zeros, which do not count. -/
def absorb (state : Vector Word 8) (size : Nat) : List Bytes → Vector Word 8
  | [] => compress state [] size true
  | [block] => compress state block (size + block.length) true
  | block :: rest =>
    absorb (compress state block (size + block.length) false) (size + block.length) rest

/-- The parameters enter the first word: 32 bytes of digest, no key, one node. -/
def blake2b256 (message : Bytes) : Bytes :=
  let state := start.set 0 (start[0] ^^^ 0x01010020)
  ((absorb state 0 (pieces blockBytes message)).toList.take 4).flatMap littleEndian

theorem length_blake2b256 (message : Bytes) : (blake2b256 message).length = 32 := by
  simp only [blake2b256, length_flatMap_littleEndian, List.length_take, Vector.length_toList]
  decide

end Preimage.Digest.Blake2b
