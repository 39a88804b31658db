import Preimage.CommandLine.Request
import Preimage.Log.Trace
import Preimage.Outcome.Coding
import Preimage.Outcome.View

/-! Carrying out a request, from the words and the standard input to an exit status and two texts.
A command that fails prints nothing on standard output, and complains after whatever was logged. -/
namespace Preimage.CommandLine

/-- What is wrong, and what it comes from if that is another thing. -/
structure Complaint where
  message : String
  cause : Option String := none
deriving Repr, DecidableEq

def Complaint.text (complaint : Complaint) : String :=
  match complaint.cause with
  | none => s!"Error: {complaint.message}\n"
  | some cause => s!"Error: {complaint.message}\n\nCaused by:\n    {cause}\n"

/-- A command at work: it reports events, and ends with a text to print or with a complaint. -/
abbrev Action := ExceptT Complaint Traced

namespace Action

/-- Gives up with the message of a fault. -/
def orFail {ε α : Type} (message : ε → String) (result : Except ε α) : Action α :=
  match result with
  | .ok value => pure value
  | .error fault => throw { message := message fault }

/-- Gives up with a fault as the cause of something else. -/
def orBlame {ε α : Type} (context : String) (message : ε → String) (result : Except ε α) :
    Action α :=
  match result with
  | .ok value => pure value
  | .error fault => throw { message := context, cause := some (message fault) }

/-- Reports the events of an operation, whatever its result. -/
def traced {α : Type} (operation : Traced α) : Action α := ExceptT.lift operation

end Action

def standardInput : String := "-"

def readOperand (input : Bytes) (operand : String) : Action Bytes := do
  let text ← if operand = standardInput then
      match input.toText? with
      | some text => pure text
      | none => throw { message := "stream did not contain valid UTF-8" }
    else pure operand
  Action.orBlame "input is not valid hex" Hex.Fault.message (Hex.decode text)

def padLeft (width : Nat) (text : String) : String :=
  .ofList (List.replicate (width - text.length) ' ') ++ text

def padRight (width : Nat) (text : String) : String :=
  text ++ .ofList (List.replicate (width - text.length) ' ')

def fieldLine (field : Schema.Field) : String :=
  let note := if field.deprecated then " (deprecated)" else ""
  s!"  {padLeft 2 (toString field.number)}  {padRight 10 field.name} {field.kind.name}{note}\n"

namespace Command

def runEncode (dataHash data : String) (errorCode : Int32) (error : String) : Action String := do
  let dataHash ← Action.orBlame "--data-hash is not valid hex" Hex.Fault.message
    (Hex.decode dataHash)
  let data ← Action.orBlame "--data is not valid hex" Hex.Fault.message (Hex.decode data)
  let outcome : Outcome := { dataHash, data, errorCode, error }
  return Hex.encode outcome.encode ++ "\n"

def runDecode (input : Bytes) (hex : String) (retain : Bool) (limit? : Option Nat) :
    Action String := do
  let bytes ← readOperand input hex
  let decoder : Decoder := { policy := if retain then .retain else .discard, limit? }
  let decoded ← Action.traced (decoder.decodeTraced bytes)
  let outcome ← Action.orFail Wire.DecodeError.message decoded
  return outcome.view.toJson ++ "\n"

/-- A failure has no digest to check, and passes. -/
def runValidate (input : Bytes) (hex : String) (algorithm? : Option Digest.Algorithm) :
    Action String := do
  let bytes ← readOperand input hex
  let decoded ← Action.traced (Decoder.plain.decodeTraced bytes)
  let outcome ← Action.orFail Wire.DecodeError.message decoded
  Action.orFail Outcome.Violation.message (← Action.traced outcome.validateTraced)
  if outcome.isSuccess then
    match algorithm? with
    | some algorithm =>
      Action.orFail Outcome.Violation.message (← Action.traced (outcome.verifyTraced algorithm))
    | none => pure ()
    return "ok\n"
  else return s!"ok (failure output: {outcome.status.label} {outcome.error})\n"

def runSchema : Action String := do
  let identity := Outcome.schema.identity
  match Outcome.registry.get? identity with
  | some revision => return identity ++ "\n" ++ String.join (revision.fields.map fieldLine)
  | none => throw { message := s!"schema {identity} not registered" }

/-- Standard input is looked at only where an operand stands for it. -/
def run (input : Bytes) : Command → Action String
  | encode dataHash data errorCode error => runEncode dataHash data errorCode error
  | decode hex retain limit? => runDecode input hex retain limit?
  | validate hex algorithm? => runValidate input hex algorithm?
  | schema => runSchema

def readsInput : Command → Bool
  | decode hex .. => hex == standardInput
  | validate hex _ => hex == standardInput
  | _ => false

end Command

structure Report where
  status : UInt8
  output : String := ""
  /-- The log and the complaint, line by line. -/
  logged : List String := []
  complaint : String := ""
deriving Repr, DecidableEq

def Report.usageError : Report := { status := 2 }

def Report.ofVersion : Report := { status := 0, output := "presign 0.1.0\n" }

def Report.ofRun (verbose : Bool) (work : Action String) : Report :=
  let traced := work.run
  let logged := (Log.Logger.mk verbose).render traced.events
  match traced.value with
  | .ok output => { status := 0, output, logged }
  | .error complaint => { status := 1, logged, complaint := complaint.text }

/-- The whole program, given its arguments and what stands on standard input. -/
def execute (arguments : List String) (input : Bytes) : Report :=
  match Request.ofArguments arguments with
  | none => .usageError
  | some .version => .ofVersion
  | some (.run verbose command) => .ofRun verbose (command.run input)

end Preimage.CommandLine
