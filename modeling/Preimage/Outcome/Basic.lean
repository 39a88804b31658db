import Preimage.Bytes
import Preimage.Outcome.Status
import Preimage.Schema.Registry

/-! The outcome of one attempt to build a pre-image: the bytes to be signed with their digest, or a
code and a text that say why there are none. It is built once, by whoever compiles a transaction,
and read once, by whoever signs it. Fields of a later revision travel along as they came. -/
namespace Preimage

/-- A record of a field that the schema known here does not list. -/
structure UnknownField where
  number : UInt32
  wireType : Wire.WireType
  /-- The whole record, its key included, byte for byte. -/
  raw : Bytes
deriving Repr, DecidableEq

structure Outcome where
  dataHash : Bytes := []
  data : Bytes := []
  errorCode : Int32 := 0
  error : String := ""
  /-- In order of arrival. -/
  unknown : List UnknownField := []
deriving Repr, DecidableEq

namespace Outcome

/-- The fields known here, by the tags that they have for ever. -/
inductive Tag where
  | dataHash
  | data
  | errorCode
  | error
deriving Repr, DecidableEq

namespace Tag

def number : Tag → UInt32
  | dataHash => 1
  | data => 2
  | errorCode => 3
  | error => 4

def field : Tag → Schema.Field
  | dataHash => ⟨1, "data_hash", .bytes, false⟩
  | data => ⟨2, "data", .bytes, false⟩
  | errorCode => ⟨3, "error_code", .int32, false⟩
  | error => ⟨4, "error", .string, false⟩

def all : List Tag := [dataHash, data, errorCode, error]

def ofNumber? (number : UInt32) : Option Tag := all.find? fun tag => tag.number == number

@[simp] theorem ofNumber?_number (tag : Tag) : ofNumber? tag.number = some tag := by
  cases tag <;> rfl

end Tag

def schema : Schema := ⟨"TW.TxCompiler.Proto", "PreSigningOutput", Tag.all.map Tag.field⟩

/-- The registry that every process shares and none changes. -/
def registry : Schema.Registry := ⟨[schema]⟩

/-- The revision that decoding checks known tags against. -/
def activeSchema : Schema := (registry.get? schema.identity).getD schema

theorem register_schema :
    (Schema.Registry.register schema).run .empty = .ok () registry := rfl

theorem activeSchema_eq : activeSchema = schema := by
  simp [activeSchema, registry, Schema.Registry.get?]

def success (dataHash data : Bytes) : Outcome := { dataHash, data }

/-- A failure carries no payload and always a text. A status that reads as success is not one to
fail with, and becomes the general one. -/
def failure (status : Status) (error : String) : Outcome :=
  let status := if status.isOk then .general else status
  { errorCode := status.code, error := if error.isEmpty then status.description else error }

def status (outcome : Outcome) : Status := .ofCode outcome.errorCode

/-- Says nothing on whether there is a payload to sign. -/
def isSuccess (outcome : Outcome) : Bool := outcome.errorCode == 0

def unknownSize (outcome : Outcome) : Nat :=
  outcome.unknown.foldr (fun field size => field.raw.length + size) 0

end Outcome
end Preimage
