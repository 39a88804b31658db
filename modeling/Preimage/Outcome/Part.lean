import Preimage.Outcome.Basic
import Preimage.Wire.Progress
import Preimage.Wire.Field

/-! A message is a run of records, and each record brings one part of an outcome. Records of the
known tags are read by what their tag stands for, once they have arrived with the wire type that the
schema declares. Any other record is passed over by its wire type alone and kept as it is. -/
namespace Preimage.Outcome
open Wire

inductive Part where
  | dataHash (payload : Bytes)
  | data (payload : Bytes)
  | errorCode (code : Int32)
  | error (text : String)
  | unknown (field : UnknownField)
deriving Repr, DecidableEq

namespace Part

/-- A tag without a declaration is taken with whatever wire type it has. -/
def checkWireType (schema : Schema) (key : Key) : Except Malformation Unit :=
  match schema.field? key.number with
  | none => .ok ()
  | some field =>
    if key.wireType = field.kind.wireType then .ok ()
    else .error (.wireTypeMismatch key.number field.kind.wireType.code key.wireType.code)

/-- The value of a record with a known tag. A text that is not well formed is reported where its
value starts, with the length. -/
def readValue : Tag → Read Part
  | .dataHash => return .dataHash (← Read.delimited)
  | .data => return .data (← Read.delimited)
  | .errorCode => return .errorCode (int32OfWord (← Read.varint))
  | .error => do
    let start ← get
    let payload ← Read.delimited
    match payload.toText? with
    | some text => return .error text
    | none => throw (.malformed start.offset (.invalidText Tag.error.number))

/-- One record. A wrong wire type is found before the value is looked at. -/
def read (schema : Schema) : Read Part := do
  let start ← get
  let key ← Read.key
  match Tag.ofNumber? key.number with
  | some tag =>
    match checkWireType schema key with
    | .ok () => readValue tag
    | .error reason => throw (.malformed start.offset reason)
  | none =>
    Read.skip key.wireType
    return .unknown ⟨key.number, key.wireType, start.upTo (← get)⟩

theorem forward_readValue (tag : Tag) : Read.Forward (readValue tag) := by
  cases tag with
  | dataHash => exact Read.forward_bind Read.forward_delimited fun _ => Read.forward_pure _
  | data => exact Read.forward_bind Read.forward_delimited fun _ => Read.forward_pure _
  | errorCode => exact Read.forward_bind Read.forward_varint fun _ => Read.forward_pure _
  | error =>
    refine Read.forward_bind Read.forward_get fun _ =>
      Read.forward_bind Read.forward_delimited fun payload => ?_
    cases payload.toText? with
    | some text => exact Read.forward_pure _
    | none => exact Read.forward_throw _

theorem read_shortens {schema : Schema} {cursor next : Cursor} {part : Part}
    (done : read schema cursor = .ok part next) : next.rest.length < cursor.rest.length := by
  obtain ⟨start, here, at_start, done⟩ := Read.bind_eq_ok.1 done
  cases at_start
  obtain ⟨key, after, keyed, done⟩ := Read.bind_eq_ok.1 done
  have shorter := Read.key_shortens keyed
  cases known : Tag.ofNumber? key.number with
  | some tag =>
    rw [known] at done
    cases checked : checkWireType schema key with
    | error reason => simp only [checked] at done; cases done
    | ok =>
      simp only [checked] at done
      have moved := forward_readValue tag after
      rw [done] at moved
      exact Nat.lt_of_le_of_lt moved.length_le shorter
  | none =>
    rw [known] at done
    have moved := Read.forward_skip key.wireType after
    obtain ⟨_, last, skipped, done⟩ := Read.bind_eq_ok.1 done
    rw [skipped] at moved
    cases done
    exact Nat.lt_of_le_of_lt moved.length_le shorter

/-- Every record up to the end of the input, or up to the first that is faulty, with that fault. -/
def readAll (schema : Schema) (cursor : Cursor) : List Part × Option DecodeError :=
  if cursor.rest.isEmpty then ([], none)
  else match _found : read schema cursor with
    | .ok part next =>
      let (parts, fault?) := readAll schema next
      (part :: parts, fault?)
    | .error fault _ => ([], some fault)
termination_by cursor.rest.length
decreasing_by exact read_shortens _found

def unknown? : Part → Option UnknownField
  | unknown field => some field
  | _ => none

end Part
end Preimage.Outcome
