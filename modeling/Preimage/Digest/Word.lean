import Preimage.Bytes

/-! Hash functions cut a message into blocks and a block into words, most significant byte first or
last as the function lays down, and write their state back in the same order. -/
namespace Preimage.Digest
variable {w : Nat}

def littleEndian (word : BitVec w) : Bytes :=
  (List.range (w / 8)).map fun place => UInt8.ofNat ((word >>> (8 * place)).toNat % 256)

def bigEndian (word : BitVec w) : Bytes := (littleEndian word).reverse

def ofBigEndian (w : Nat) (bytes : Bytes) : BitVec w :=
  bytes.foldl (fun word byte => word <<< 8 ||| BitVec.ofNat w byte.toNat) 0

def ofLittleEndian (w : Nat) (bytes : Bytes) : BitVec w := ofBigEndian w bytes.reverse

@[simp] theorem length_littleEndian (word : BitVec w) : (littleEndian word).length = w / 8 := by
  simp [littleEndian]

@[simp] theorem length_bigEndian (word : BitVec w) : (bigEndian word).length = w / 8 := by
  simp [bigEndian]

@[simp] theorem length_flatMap_littleEndian (words : List (BitVec w)) :
    (words.flatMap littleEndian).length = words.length * (w / 8) := by
  induction words with
  | nil => simp
  | cons word rest ih => simp [ih, Nat.add_mul, Nat.add_comm]

/-- Consecutive pieces of the given size. Only the last can be shorter, and none is empty. -/
def pieces (size : Nat) (bytes : Bytes) : List Bytes :=
  if size = 0 ∨ bytes = [] then []
  else bytes.take size :: pieces size (bytes.drop size)
termination_by bytes.length
decreasing_by
  rename_i more
  simp only [not_or] at more
  have := List.length_pos_iff.2 more.2
  simp only [List.length_drop]
  omega

/-- How many zero bytes bring a length up to a multiple of the block size. -/
def shortfall (size length : Nat) : Nat := (size - length % size) % size

end Preimage.Digest
