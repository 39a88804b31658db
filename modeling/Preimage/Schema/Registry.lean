import Preimage.Schema.Basic

/-! The current revision of each schema, by identity. A schema enters once; after that only a legal
successor takes its place. A tag, once assigned, keeps its name and type for ever: a later revision
may add fields, order them anew and mark them deprecated, but may not drop one, nor give its tag to
something else. -/
namespace Preimage.Schema

/-- Checks that each of the old fields, in order, is still there as it was. -/
def checkKept (new : Schema) : List Field → Except Fault Unit
  | [] => .ok ()
  | old :: rest =>
    match new.field? old.number with
    | none => .error (.tagRemoved new.identity old)
    | some field =>
      if field.name = old.name ∧ field.kind = old.kind then checkKept new rest
      else .error (.tagRepurposed new.identity old field)

/-- Checks that `new` may follow `old`. The new revision has to stand on its own first. -/
def checkRevision (old new : Schema) : Except Fault Unit :=
  match new.check with
  | .ok () => checkKept new old.fields
  | .error fault => .error fault

structure Registry where
  /-- In the order of registration. -/
  schemas : List Schema
deriving Repr, DecidableEq

/-- A request, with the registry threaded through success and failure alike. -/
abbrev Update := EStateM Fault Registry

namespace Registry

def empty : Registry := ⟨[]⟩

def get? (registry : Registry) (identity : String) : Option Schema :=
  registry.schemas.find? fun schema => schema.identity == identity

def size (registry : Registry) : Nat := registry.schemas.length

def isEmpty (registry : Registry) : Bool := registry.schemas.isEmpty

def append (registry : Registry) (schema : Schema) : Registry := ⟨registry.schemas ++ [schema]⟩

/-- The schema in the place of the one with its identity. -/
def replace (registry : Registry) (schema : Schema) : Registry :=
  ⟨registry.schemas.map fun held => if held.identity = schema.identity then schema else held⟩

def register (schema : Schema) : Update Unit := do
  liftExcept schema.check
  if ((← get).get? schema.identity).isSome then throw (.duplicateSchema schema.identity)
  modify fun registry => registry.append schema

def upgrade (schema : Schema) : Update Unit := do
  let some current := (← get).get? schema.identity | throw (.unknownSchema schema.identity)
  liftExcept (checkRevision current schema)
  modify fun registry => registry.replace schema

end Registry
end Preimage.Schema
