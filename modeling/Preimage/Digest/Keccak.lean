import Preimage.Digest.Word

/-! The sponge of Keccak with a 256-bit digest. Its state is five by five lanes of 64 bits, of which
a block reaches the first seventeen. The function as first submitted and SHA-3 differ only in the
bits that follow the message. -/
namespace Preimage.Digest.Keccak

abbrev Lane := BitVec 64

abbrev State := Vector Lane 25

/-- The lane in the given column and row, both counted round the edge. -/
def lane (state : State) (x y : Nat) : Lane := state[x % 5 + 5 * (y % 5)]

/-- By how much each lane turns, row by row. -/
def turns : Vector Nat 25 :=
  #v[0, 1, 62, 28, 27, 36, 44, 6, 55, 20, 3, 10, 43, 25, 39, 41, 45, 15, 21, 8, 18, 2, 61, 56, 14]

def roundConstants : List Lane :=
  [0x0000000000000001, 0x0000000000008082, 0x800000000000808a, 0x8000000080008000,
    0x000000000000808b, 0x0000000080000001, 0x8000000080008081, 0x8000000000008009,
    0x000000000000008a, 0x0000000000000088, 0x0000000080008009, 0x000000008000000a,
    0x000000008000808b, 0x800000000000008b, 0x8000000000008089, 0x8000000000008003,
    0x8000000000008002, 0x8000000000000080, 0x000000000000800a, 0x800000008000000a,
    0x8000000080008081, 0x8000000000008080, 0x0000000080000001, 0x8000000080008008]

/-- Adds to each lane the parities of two nearby columns. -/
def spreadParity (state : State) : State :=
  let parity : Vector Lane 5 := Vector.ofFn fun x =>
    lane state x 0 ^^^ lane state x 1 ^^^ lane state x 2 ^^^ lane state x 3 ^^^ lane state x 4
  let change : Vector Lane 5 := Vector.ofFn fun x =>
    parity[(x.val + 4) % 5] ^^^ parity[(x.val + 1) % 5].rotateLeft 1
  Vector.ofFn fun place => state[place] ^^^ change[place.val % 5]

/-- Turns every lane and moves it to another place. -/
def scatter (state : State) : State :=
  let turned : State := Vector.ofFn fun place => state[place].rotateLeft turns[place]
  Vector.ofFn fun place => lane turned (place.val % 5 + 3 * (place.val / 5)) (place.val % 5)

/-- The one step that is not linear: each lane meets the next two of its row. -/
def blend (state : State) : State :=
  Vector.ofFn fun place =>
    let y := place.val / 5
    state[place] ^^^ (~~~lane state (place.val + 1) y &&& lane state (place.val + 2) y)

def round (state : State) (constant : Lane) : State :=
  let state := blend (scatter (spreadParity state))
  state.set 0 (state[0] ^^^ constant)

def permute (state : State) : State := roundConstants.foldl round state

def rate : Nat := 136

def absorb (state : State) (block : Bytes) : State :=
  let lanes := (pieces 8 block).map (ofLittleEndian 64)
  permute (Vector.ofFn fun place => state[place] ^^^ lanes.getD place 0)

/-- The mark, then zeros, then a last one bit; in a single byte where only one is left. -/
def pad (mark : UInt8) (message : Bytes) : Bytes :=
  match shortfall rate (message.length + 1) with
  | 0 => message ++ [mark ||| 0x80]
  | zeros + 1 => message ++ mark :: List.replicate zeros 0 ++ [0x80]

def digest (mark : UInt8) (message : Bytes) : Bytes :=
  let state := (pieces rate (pad mark message)).foldl absorb (Vector.replicate 25 0)
  (state.toList.take 4).flatMap littleEndian

def keccak256 : Bytes → Bytes := digest 0x01

def sha3 : Bytes → Bytes := digest 0x06

theorem length_digest (mark : UInt8) (message : Bytes) : (digest mark message).length = 32 := by
  simp only [digest, length_flatMap_littleEndian, List.length_take, Vector.length_toList]
  decide

end Preimage.Digest.Keccak
