import Preimage.Bytes

/-! Variable-length integers: a 64-bit word in groups of seven bits, lowest group first, where the
high bit of a byte says that another one follows. A word takes at most ten bytes, and the tenth can
only bring bit 63. Reading also accepts longer spellings than the shortest, up to those ten bytes.
-/
namespace Preimage.Wire.Varint

def maxLength : Nat := 10

/-- The groups of a number, lowest first, with no group beyond the highest that is needed. -/
def groups (number : Nat) : Bytes :=
  if number < 128 then [UInt8.ofNat number]
  else UInt8.ofNat (128 + number % 128) :: groups (number / 128)

def encode (word : UInt64) : Bytes := groups word.toNat

/-- The length of the shortest spelling, from the number of bits of the word. -/
def length (word : UInt64) : Nat := ((word ||| 1).toNat.log2 + 1 + 6) / 7

inductive Fault where
  /-- The input ends after `available` bytes, each of which promises another. -/
  | unfinished (available : Nat)
  /-- The tenth byte carries more than bit 63. -/
  | overflow
deriving Repr, DecidableEq

/-- The number spelled from the byte at place `index` of a spelling on, and how many bytes it takes.
-/
def readFrom (index : Nat) : Bytes → Except Fault (Nat × Nat)
  | [] => .error (.unfinished index)
  | byte :: rest =>
    if index + 1 = maxLength ∧ 1 < byte.toNat then .error .overflow
    else if byte.toNat < 128 then .ok (byte.toNat, 1)
    else match readFrom (index + 1) rest with
      | .ok (high, taken) => .ok (byte.toNat - 128 + 128 * high, taken + 1)
      | .error fault => .error fault

/-- The word at the front of the bytes, and how many of them spell it. -/
def read (bytes : Bytes) : Except Fault (UInt64 × Nat) :=
  match readFrom 0 bytes with
  | .ok (number, taken) => .ok (UInt64.ofNat number, taken)
  | .error fault => .error fault

end Preimage.Wire.Varint
