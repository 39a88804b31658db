import Preimage.Log.Entry
import Preimage.Outcome.Verdict
import Preimage.Text.Hex

/-! What the library reports of its own work, each event with what it is about. Logging renders the
events. The operations themselves hand them over and write nothing. -/
namespace Preimage.Log
open Digest (Algorithm)

inductive Event where
  /-- A record outside the schema was passed over. The size includes its key. -/
  | skippedField (number : UInt32) (wireType : Wire.WireType) (size : Nat)
  /-- An outcome that reads as success came without its payload. -/
  | payloadMissing (violation : Outcome.Violation) (dataSize dataHashSize : Nat)
  | digestMismatch (algorithm : Algorithm) (dataHash : Bytes)
  | preimageBuilt (chain : String) (algorithm : Algorithm) (size : Nat) (dataHash : Bytes)
  | compilationFailed (chain : String) (status : Status) (error : String)
deriving Repr, DecidableEq

namespace Event

/-- The entry without its values. -/
def heading : Event → Entry
  | skippedField .. => { level := .debug, source := "codec", message := "Skipped unknown field" }
  | payloadMissing .. =>
    { level := .warn, source := "validate", message := "Success output without payload" }
  | digestMismatch .. =>
    { level := .warn, source := "validate", message := "Pre-image digest mismatch" }
  | preimageBuilt .. => { level := .debug, source := "compiler", message := "Pre-image built" }
  | compilationFailed .. =>
    { level := .info, source := "compiler", message := "Compilation failed" }

/-- The values by their keys, before redaction. -/
def values : Event → List (String × String)
  | skippedField number wireType size =>
    [("field", toString number), ("wire_type", toString wireType.code),
      ("field_len", toString size)]
  | payloadMissing violation dataSize dataHashSize =>
    [("reason", violation.message), ("data_len", toString dataSize),
      ("hash_len", toString dataHashSize)]
  | digestMismatch algorithm dataHash =>
    [("algorithm", algorithm.name), ("data_hash", Hex.encode dataHash)]
  | preimageBuilt chain algorithm size dataHash =>
    [("chain", chain), ("algorithm", algorithm.name), ("preimage_len", toString size),
      ("data_hash", Hex.encode dataHash)]
  | compilationFailed chain status error =>
    [("chain", chain), ("code", status.label), ("error", error)]

def compose? (event : Event) : Option Entry := event.heading.fields? event.values

end Event

/-- The entries of those events that are shown. -/
def Logger.entries (logger : Logger) (events : List Event) : List Entry :=
  (events.filter fun event => logger.shows event.heading.level).filterMap Event.compose?

/-- The texts of the entries, one for each, though values may bring line breaks of their own. -/
def Logger.render (logger : Logger) (events : List Event) : List String :=
  (logger.entries events).map Entry.render

end Preimage.Log
