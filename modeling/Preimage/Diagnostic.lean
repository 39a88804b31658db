import Preimage.Json.Syntax
import Preimage.Json.Record
import Preimage.Outcome.Verdict
import Preimage.Text.Hex

/-! What crosses the boundary of the library when something goes wrong on this side of the wire: a
category to decide by, a message to read, and details if there are any. Diagnostics travel as JSON.
-/
namespace Preimage

inductive Diagnostic.Category where
  | invalidInput
  | truncated
  | malformed
  | messageTooLarge
  | validationFailed
  | schemaViolation
  | jsonError
  | hexError
  | internal
deriving Repr, DecidableEq

namespace Diagnostic.Category

def all : List Category :=
  [invalidInput, truncated, malformed, messageTooLarge, validationFailed, schemaViolation,
    jsonError, hexError, internal]

/-- The name in JSON. -/
def name : Category → String
  | invalidInput => "invalid_input"
  | truncated => "truncated"
  | malformed => "malformed"
  | messageTooLarge => "message_too_large"
  | validationFailed => "validation_failed"
  | schemaViolation => "schema_violation"
  | jsonError => "json_error"
  | hexError => "hex_error"
  | internal => "internal"

/-- The name in a message. -/
def label : Category → String
  | invalidInput => "InvalidInput"
  | truncated => "Truncated"
  | malformed => "Malformed"
  | messageTooLarge => "MessageTooLarge"
  | validationFailed => "ValidationFailed"
  | schemaViolation => "SchemaViolation"
  | jsonError => "JsonError"
  | hexError => "HexError"
  | internal => "Internal"

def ofName? (name : String) : Option Category := all.find? fun category => category.name == name

@[simp] theorem ofName?_name (category : Category) : ofName? category.name = some category := by
  cases category <;> rfl

end Diagnostic.Category

structure Diagnostic where
  category : Diagnostic.Category
  message : String
  details : Option String := none
deriving Repr, DecidableEq

namespace Diagnostic
open Json

/-- Later details take the place of earlier ones. -/
def withDetails (diagnostic : Diagnostic) (details : String) : Diagnostic :=
  { diagnostic with details := some details }

def invalidInput (message : String) : Diagnostic := { category := .invalidInput, message }

def internal (message : String) : Diagnostic := { category := .internal, message }

def ofDecodeError (error : Wire.DecodeError) : Diagnostic :=
  { category := match error with
      | .truncated .. => .truncated
      | .malformed .. => .malformed
      | .tooLarge .. => .messageTooLarge
    message := error.message }

def ofViolation (violation : Outcome.Violation) : Diagnostic :=
  { category := .validationFailed, message := violation.message }

def ofSchemaFault (fault : Schema.Fault) : Diagnostic :=
  { category := .schemaViolation, message := fault.message }

def ofJsonError (error : Json.Error) : Diagnostic :=
  { category := .jsonError, message := error.message }

def ofHexFault (fault : Hex.Fault) : Diagnostic :=
  { category := .hexError, message := fault.message }

/-- One line with all there is. -/
def text (diagnostic : Diagnostic) : String :=
  let line := s!"[{diagnostic.category.label}] {diagnostic.message}"
  match diagnostic.details with
  | some details => s!"{line} ({details})"
  | none => line

def toJson (diagnostic : Diagnostic) : String :=
  .ofList (printCompact [("code", printString diagnostic.category.name),
    ("message", printString diagnostic.message), ("details", printOptional diagnostic.details)])

/-- The category by its name, read from after the opening quote. -/
def readCategoryName : Reader Category := fun input => do
  let (name, rest) ← readText input
  match Category.ofName? name with
  | some category => return (category, rest)
  | none => .error (.unknownVariant name (Category.all.map Category.name))

/-- A name, or an object with the name as its only key and nothing for a value. -/
def readCategory : Reader Category := fun input =>
  match skipBlank input with
  | [] => .error .eofValue
  | '"' :: rest => readCategoryName rest
  | '{' :: rest => do
    match ← nextKey? true rest with
    | none => .error .expectedValue
    | some rest =>
      let (category, rest) ← readCategoryName rest
      let (_, rest) ← readMember readNull rest
      match skipBlank rest with
      | [] => .error .eofObject
      | '}' :: rest => return (category, rest)
      | _ => .error .expectedValue
  | _ => .error .expectedValue

structure Draft where
  category : Option Category := none
  message : Option String := none
  details : Option (Option String) := none

def readDraftMember : MemberReader Draft := fun budget draft key input =>
  match key with
  | "code" => (fillOnce "code" draft.category readCategory input).map
      fun (category, rest) => ({ draft with category }, rest)
  | "message" => (fillOnce "message" draft.message (readString .text) input).map
      fun (message, rest) => ({ draft with message }, rest)
  | "details" => (fillOnce "details" draft.details readOptional input).map
      fun (details, rest) => ({ draft with details }, rest)
  | _ => skipMember budget draft input

/-- Details may be left out. -/
def Draft.complete (draft : Draft) : Except Json.Error Diagnostic :=
  match draft.category, draft.message with
  | none, _ => .error (.missingField "code")
  | _, none => .error (.missingField "message")
  | some category, some message => .ok { category, message, details := draft.details.getD none }

def recordName : String := "TxCompilerError"

def readMembersForm : Reader Diagnostic := fun input => do
  let (draft, rest) ← readObject readDraftMember {} input
  return (← draft.complete, rest)

/-- An element that a list form cannot do without. -/
def readRequired {α : Type} (place : Nat) (reader : Reader α) : Reader α := fun input => do
  match ← readElement? (place == 0) reader input with
  | (some value, rest) => return (value, rest)
  | (none, _) => .error (.tooShort place recordName 3)

def readListForm : Reader Diagnostic := fun input => do
  let (category, rest) ← readRequired 0 readCategory input
  let (message, rest) ← readRequired 1 (readString .text) rest
  let (details, rest) ← readRequired 2 readOptional rest
  return ({ category, message, details }, rest)

def ofJson (text : String) : Except Json.Error Diagnostic :=
  readDocument (readRecord recordName readMembersForm readListForm) text

def algorithmOfName (name : String) : Except Diagnostic Digest.Algorithm :=
  match Digest.Algorithm.ofName? name with
  | some algorithm => .ok algorithm
  | none => .error (invalidInput s!"Unknown hash algorithm: {name}")

end Diagnostic
end Preimage
