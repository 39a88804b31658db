import Preimage.Wire.Error
import Preimage.Wire.Varint

/-! A field travels as a record, which opens with its key: the number of the field together with the
layout of the value that follows. Both travel in one varint, the layout in its low three bits. A
signed 32-bit number goes out as the 64-bit word of the same signed value, so a negative one takes
all ten bytes; only the low half of the word comes back. -/
namespace Preimage.Wire

/-- How the value of a record is laid out. -/
inductive WireType where
  | varint
  | fixed64
  | delimited
  | fixed32
deriving Repr, DecidableEq

namespace WireType

def code : WireType → UInt8
  | varint => 0
  | fixed64 => 1
  | delimited => 2
  | fixed32 => 5

/-- Of the eight codes that three bits can hold, 3, 4, 6 and 7 name no layout. -/
def ofCode? (code : UInt8) : Option WireType :=
  match code.toNat with
  | 0 => some varint
  | 1 => some fixed64
  | 2 => some delimited
  | 5 => some fixed32
  | _ => none

@[simp] theorem ofCode?_code (wireType : WireType) : ofCode? wireType.code = some wireType := by
  cases wireType <;> rfl

theorem toNat_code_eq_iff {wireType : WireType} {code : Nat} :
    wireType.code.toNat = code ↔
      wireType = varint ∧ code = 0 ∨ wireType = fixed64 ∧ code = 1 ∨
        wireType = delimited ∧ code = 2 ∨ wireType = fixed32 ∧ code = 5 := by
  cases wireType <;> simp [WireType.code, eq_comm]

theorem toNat_code_lt (wireType : WireType) : wireType.code.toNat < 8 := by
  have listed := toNat_code_eq_iff.1 (rfl : wireType.code.toNat = wireType.code.toNat)
  omega

end WireType

/-- The largest number that a key can give a field, of 29 bits. -/
def maxFieldNumber : Nat := 0x1FFFFFFF

/-- The numbers that a schema may assign and a key may carry. -/
def isFieldNumber (number : Nat) : Bool := 0 < number && number ≤ maxFieldNumber

structure Key where
  number : UInt32
  wireType : WireType
deriving Repr, DecidableEq

namespace Key

/-- Field numbers are not checked on the way out: 35 bits hold any of them with its layout. -/
def toWord (key : Key) : UInt64 :=
  UInt64.ofNat (key.number.toNat * 8 + key.wireType.code.toNat)

/-- A bad field number is found before a bad layout. -/
def ofWord (word : UInt64) : Except Malformation Key :=
  let number := word.toNat / 8
  if isFieldNumber number then
    let code := UInt8.ofNat (word.toNat % 8)
    match WireType.ofCode? code with
    | some wireType => .ok ⟨UInt32.ofNat number, wireType⟩
    | none => .error (.unsupportedWireType code)
  else .error (.invalidFieldNumber number)

theorem toNat_toWord (key : Key) :
    key.toWord.toNat = key.number.toNat * 8 + key.wireType.code.toNat := by
  have number := key.number.toNat_lt
  have code := key.wireType.code.toNat_lt
  simp only [toWord, UInt64.toNat_ofNat']
  omega

end Key

def wordOfInt32 (number : Int32) : UInt64 := number.toInt64.toUInt64

/-- The signed number in the low half of a word. The upper half is ignored. -/
def int32OfWord (word : UInt64) : Int32 := word.toUInt32.toInt32

@[simp] theorem int32OfWord_wordOfInt32 (number : Int32) :
    int32OfWord (wordOfInt32 number) = number := by
  apply Int32.toBitVec_inj.1
  simp only [int32OfWord, wordOfInt32, UInt32.toBitVec_toInt32, UInt64.toBitVec_toUInt32,
    Int64.toBitVec_toUInt64, Int32.toBitVec_toInt64]
  ext place inside
  simp [BitVec.getElem_signExtend, inside, show place < 64 by omega]

theorem toNat_wordOfInt32 (number : Int32) :
    ((wordOfInt32 number).toNat : Int) = number.toInt % UInt64.size := by
  have sign : (wordOfInt32 number).toBitVec.toInt = number.toInt := by
    rw [wordOfInt32, Int64.toBitVec_toUInt64, Int64.toInt_toBitVec, Int32.toInt_toInt64]
  have wide := (wordOfInt32 number).toNat_lt
  have value := BitVec.toInt_eq_toNat_bmod (wordOfInt32 number).toBitVec
  rw [sign, UInt64.toNat_toBitVec, Int.bmod_def] at value
  simp only [UInt64.size]
  split at value <;> omega

def Key.encode (key : Key) : Bytes := Varint.encode key.toWord

/-- A length, then the payload itself. -/
def encodeDelimited (payload : Bytes) : Bytes :=
  Varint.encode (UInt64.ofNat payload.length) ++ payload

def encodeInt32Field (number : UInt32) (value : Int32) : Bytes :=
  Key.encode ⟨number, .varint⟩ ++ Varint.encode (wordOfInt32 value)

def encodeBytesField (number : UInt32) (payload : Bytes) : Bytes :=
  Key.encode ⟨number, .delimited⟩ ++ encodeDelimited payload

end Preimage.Wire
