import Preimage.Log.Redaction

/-! One line of the log: its level, the part of the library that speaks, a message, and named values
in the order in which they were added, already redacted. -/
namespace Preimage.Log

inductive Level where
  | debug
  | info
  | warn
  | error
deriving Repr, DecidableEq

namespace Level

def name : Level → String
  | debug => "DEBUG"
  | info => "INFO"
  | warn => "WARN"
  | error => "ERROR"

def severity : Level → Nat
  | debug => 0
  | info => 1
  | warn => 2
  | error => 3

instance : Ord Level := ⟨fun left right => compare left.severity right.severity⟩

end Level

structure Entry where
  level : Level
  source : String
  message : String
  fields : List (String × String) := []
deriving Repr, DecidableEq

namespace Entry

/-- Adds a value as its key allows. There is no entry if a digest cannot be cut. -/
def field? (entry : Entry) (key value : String) : Option Entry :=
  (redact? key value).map fun shown => { entry with fields := entry.fields ++ [(key, shown)] }

/-- Adds a value of which nothing but the length is shown, whatever the key. -/
def hiddenField (entry : Entry) (key value : String) : Entry :=
  { entry with fields := entry.fields ++ [(key, hide value)] }

/-- Adds values in order, each as its key allows. -/
def fields? (entry : Entry) (values : List (String × String)) : Option Entry :=
  values.foldlM (fun entry value => entry.field? value.1 value.2) entry

def render (entry : Entry) : String :=
  let head := s!"{entry.level.name} [{entry.source}] {entry.message}"
  if entry.fields.isEmpty then head
  else head ++ " | " ++ " ".intercalate (entry.fields.map fun field => s!"{field.1}={field.2}")

end Entry

/-- The one setting of the log: whether entries for debugging are written. -/
structure Logger where
  debug : Bool := false
deriving Repr, DecidableEq

/-- All other levels are always written. -/
def Logger.shows (logger : Logger) (level : Level) : Bool := level != .debug || logger.debug

end Preimage.Log
