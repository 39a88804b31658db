import Preimage.Wire.Field

/-! A schema assigns field numbers, here called tags, to the named and typed fields of one message.
Only numbers that a key can carry may be assigned, and none of them twice. -/
namespace Preimage

namespace Schema

inductive Kind where
  | bytes
  | int32
  | string
deriving Repr, DecidableEq

def Kind.name : Kind → String
  | bytes => "bytes"
  | int32 => "int32"
  | string => "string"

def Kind.wireType : Kind → Wire.WireType
  | bytes => .delimited
  | int32 => .varint
  | string => .delimited

structure Field where
  number : UInt32
  name : String
  kind : Kind
  /-- Producers no longer fill the field. Its number stays taken. -/
  deprecated : Bool
deriving Repr, DecidableEq

/-- How messages speak of a field: its type, then its name. -/
def Field.signature (field : Field) : String := s!"{field.kind.name} {field.name}"

/-- Faults name the schema by its identity. -/
inductive Fault where
  | duplicateTag (identity : String) (tag : UInt32)
  | invalidTag (identity : String) (tag : UInt32)
  | tagRemoved (identity : String) (field : Field)
  | tagRepurposed (identity : String) (old new : Field)
  | duplicateSchema (identity : String)
  | unknownSchema (identity : String)
deriving Repr, DecidableEq

def Fault.message : Fault → String
  | duplicateTag identity tag => s!"{identity}: tag {tag} assigned twice"
  | invalidTag identity tag => s!"{identity}: tag {tag} is outside the valid range"
  | tagRemoved identity field =>
    s!"{identity}: tag {field.number} ({field.name}) was removed"
  | tagRepurposed identity old new =>
    s!"{identity}: tag {old.number} changed meaning from {old.signature} to {new.signature}"
  | duplicateSchema identity => s!"schema {identity} is already registered"
  | unknownSchema identity => s!"schema {identity} is not registered"

end Schema

/-- One revision of the fields of a message. -/
structure Schema where
  package : String
  message : String
  fields : List Schema.Field
deriving Repr, DecidableEq

namespace Schema

/-- The qualified name. Different splits into package and message can share one. -/
def identity (schema : Schema) : String := s!"{schema.package}.{schema.message}"

/-- The first field with the given number. -/
def field? (schema : Schema) (number : UInt32) : Option Field :=
  schema.fields.find? fun field => field.number == number

/-- Checks fields in their order against those before them. -/
def checkFields (identity : String) (seen : List UInt32) : List Field → Except Fault Unit
  | [] => .ok ()
  | field :: rest =>
    if Wire.isFieldNumber field.number.toNat then
      if seen.contains field.number then .error (.duplicateTag identity field.number)
      else checkFields identity (field.number :: seen) rest
    else .error (.invalidTag identity field.number)

def check (schema : Schema) : Except Fault Unit :=
  checkFields schema.identity [] schema.fields

end Schema
end Preimage
