import Preimage.Json.Syntax
import Preimage.Json.Record
import Preimage.Outcome.Basic
import Preimage.Text.Hex

/-! Outcomes in JSON, for people and their tools: bytes in hexadecimal, the name of the status
beside its code, and the number of retained fields where there are any. Read back, the name and the
number say nothing about the outcome, and the retained fields themselves are gone. Every field may
be left out. -/
namespace Preimage.Outcome
open Json

structure View where
  dataHash : Bytes := []
  data : Bytes := []
  errorCode : Int32 := 0
  errorName : String := ""
  error : String := ""
  unknownFields : Nat := 0
deriving Repr, DecidableEq

def view (outcome : Outcome) : View :=
  { dataHash := outcome.dataHash
    data := outcome.data
    errorCode := outcome.errorCode
    errorName := outcome.status.label
    error := outcome.error
    unknownFields := outcome.unknown.length }

def ofView (view : View) : Outcome :=
  { dataHash := view.dataHash, data := view.data, errorCode := view.errorCode, error := view.error }

theorem ofView_view (outcome : Outcome) :
    ofView outcome.view = { outcome with unknown := [] } := rfl

namespace View

def members (view : View) : Members :=
  [("data_hash", printString (Hex.encode view.dataHash)),
    ("data", printString (Hex.encode view.data)),
    ("error_code", (toString view.errorCode).toList),
    ("error_name", printString view.errorName),
    ("error", printString view.error)] ++
  if view.unknownFields = 0 then []
  else [("unknown_fields", (toString view.unknownFields).toList)]

def toJson (view : View) : String := .ofList (printLines view.members)

def readBytes : Reader Bytes := fun input => do
  let (text, rest) ← readString .text input
  match Hex.decode text with
  | .ok bytes => return (bytes, rest)
  | .error fault => .error (.content fault.message)

structure Draft where
  dataHash : Option Bytes := none
  data : Option Bytes := none
  errorCode : Option Int32 := none
  errorName : Option String := none
  error : Option String := none
  unknownFields : Option Nat := none

/-- What was left out is empty or zero. -/
def Draft.complete (draft : Draft) : View :=
  { dataHash := draft.dataHash.getD []
    data := draft.data.getD []
    errorCode := draft.errorCode.getD 0
    errorName := draft.errorName.getD ""
    error := draft.error.getD ""
    unknownFields := draft.unknownFields.getD 0 }

def readDraftMember : MemberReader Draft := fun budget draft key input =>
  match key with
  | "data_hash" => (fillOnce "data_hash" draft.dataHash readBytes input).map
      fun (dataHash, rest) => ({ draft with dataHash }, rest)
  | "data" => (fillOnce "data" draft.data readBytes input).map
      fun (data, rest) => ({ draft with data }, rest)
  | "error_code" => (fillOnce "error_code" draft.errorCode readInt32 input).map
      fun (errorCode, rest) => ({ draft with errorCode }, rest)
  | "error_name" => (fillOnce "error_name" draft.errorName (readString .text) input).map
      fun (errorName, rest) => ({ draft with errorName }, rest)
  | "error" => (fillOnce "error" draft.error (readString .text) input).map
      fun (error, rest) => ({ draft with error }, rest)
  | "unknown_fields" => (fillOnce "unknown_fields" draft.unknownFields readSize input).map
      fun (unknownFields, rest) => ({ draft with unknownFields }, rest)
  | _ => skipMember budget draft input

def readMembersForm : Reader View := fun input => do
  let (draft, rest) ← readObject readDraftMember {} input
  return (draft.complete, rest)

def readListForm : Reader View := fun input => do
  let (dataHash, rest) ← readElement? true readBytes input
  let (data, rest) ← readElement? false readBytes rest
  let (errorCode, rest) ← readElement? false readInt32 rest
  let (errorName, rest) ← readElement? false (readString .text) rest
  let (error, rest) ← readElement? false (readString .text) rest
  let (unknownFields, rest) ← readElement? false readSize rest
  let draft : Draft := { dataHash, data, errorCode, errorName, error, unknownFields }
  return (draft.complete, rest)

def ofJson (text : String) : Except Json.Error View :=
  readDocument (readRecord "PreSigningOutputJson" readMembersForm readListForm) text

end View
end Preimage.Outcome
