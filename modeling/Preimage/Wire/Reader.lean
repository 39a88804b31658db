import Preimage.Wire.Field

/-! A cursor stands somewhere in an input and holds what is left of it. A read moves the cursor,
also when it fails: a varint that breaks off has consumed every byte left, one that is too wide its
ten bytes, and a run of bytes that is too short nothing. A reader keeps the whole of its input
besides, so that bytes already passed can be had again by where they started. -/
namespace Preimage.Wire

structure Cursor where
  offset : Nat
  rest : Bytes
deriving Repr, DecidableEq

/-- A read, with the cursor threaded through success and failure alike. -/
abbrev Read := EStateM DecodeError Cursor

namespace Cursor

def ofBytes (bytes : Bytes) : Cursor := ⟨0, bytes⟩

def advance (cursor : Cursor) (count : Nat) : Cursor :=
  ⟨cursor.offset + count, cursor.rest.drop count⟩

/-- The bytes from this cursor up to a later one on the same input. -/
def upTo (cursor later : Cursor) : Bytes := cursor.rest.take (later.offset - cursor.offset)

end Cursor

namespace Read

def varint : Read UInt64 := fun cursor =>
  match Varint.read cursor.rest with
  | .ok (word, taken) => .ok word (cursor.advance taken)
  | .error (.unfinished available) =>
    .error (.truncated cursor.offset (available + 1) available) (cursor.advance available)
  | .error .overflow =>
    .error (.malformed cursor.offset .varintOverflow) (cursor.advance Varint.maxLength)

/-- Faults of the key are reported at its first byte. -/
def key : Read Key := do
  let start ← get
  let word ← varint
  match Key.ofWord word with
  | .ok key => return key
  | .error reason => throw (.malformed start.offset reason)

def exact (count : Nat) : Read Bytes := fun cursor =>
  if cursor.rest.holds count then .ok (cursor.rest.take count) (cursor.advance count)
  else .error (.truncated cursor.offset count cursor.rest.length) cursor

/-- A varint with a length, then that many bytes. -/
def delimited : Read Bytes := do
  let count ← varint
  exact count.toNat

/-- Passes over the value of a record whose key has just been read. -/
def skip : WireType → Read Unit
  | .varint => discard varint
  | .fixed64 => discard (exact 8)
  | .delimited => discard delimited
  | .fixed32 => discard (exact 4)

end Read

structure Reader where
  source : Bytes
  position : Nat
deriving Repr, DecidableEq

namespace Reader

def ofBytes (source : Bytes) : Reader := ⟨source, 0⟩

def remaining (reader : Reader) : Nat := reader.source.length - reader.position

def isEmpty (reader : Reader) : Bool := reader.remaining == 0

def cursor (reader : Reader) : Cursor := ⟨reader.position, reader.source.drop reader.position⟩

/-- Performs one read. The reader moves as far as the read got, also if it failed. -/
def run {α : Type} (reader : Reader) (read : Read α) : Except DecodeError α × Reader :=
  match read reader.cursor with
  | .ok value cursor => (.ok value, { reader with position := cursor.offset })
  | .error fault cursor => (.error fault, { reader with position := cursor.offset })

/-- The bytes passed since `start`. A start beyond the position marks no bytes at all. -/
def slice? (reader : Reader) (start : Nat) : Option Bytes :=
  if start ≤ reader.position then
    some ((reader.source.drop start).take (reader.position - start))
  else none

theorem slice?_eq_some_iff {reader : Reader} {start : Nat} {bytes : Bytes} :
    reader.slice? start = some bytes ↔
      start ≤ reader.position ∧
        (reader.source.drop start).take (reader.position - start) = bytes := by
  by_cases before : start ≤ reader.position <;> simp [slice?, before]

end Reader

end Preimage.Wire
