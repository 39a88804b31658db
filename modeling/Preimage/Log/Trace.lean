import Preimage.Compiler
import Preimage.Log.Event
import Preimage.Outcome.Coding
import Preimage.Outcome.Verdict

/-! The operations together with the events that they report. A traced value runs beside its events,
and traced operations in a row report theirs in the order in which they run. -/
namespace Preimage

structure Traced (α : Type) where
  value : α
  events : List Log.Event := []

namespace Traced

instance : Monad Traced where
  pure value := { value }
  bind first second :=
    let last := second first.value
    { value := last.value, events := first.events ++ last.events }

variable {α β : Type}

instance : LawfulMonad Traced :=
  LawfulMonad.mk' Traced (fun _ => by simp [Functor.map]) (fun _ _ => by simp [bind, pure])
    fun _ _ _ => by simp [bind, List.append_assoc]

end Traced

namespace Outcome.Part

/-- A record is reported when it has been passed over whole. -/
def event? : Part → Option Log.Event
  | unknown field => some (.skippedField field.number field.wireType field.raw.length)
  | _ => none

end Outcome.Part

namespace Decoder

/-- Records before a faulty one are reported too. A message over the size limit is not looked at. -/
def events (decoder : Decoder) (bytes : Bytes) : List Log.Event :=
  match decoder.oversize? bytes.length with
  | some _ => []
  | none => (Outcome.Part.readAll Outcome.activeSchema (.ofBytes bytes)).1.filterMap
      Outcome.Part.event?

def decodeTraced (decoder : Decoder) (bytes : Bytes) : Traced (Except Wire.DecodeError Outcome) :=
  { value := decoder.decode bytes, events := decoder.events bytes }

end Decoder

namespace Outcome

def validateTraced (outcome : Outcome) : Traced (Except Violation Unit) :=
  { value := outcome.validate
    events := match outcome.validate with
      | .ok () => []
      | .error violation =>
        [.payloadMissing violation outcome.data.length outcome.dataHash.length] }

/-- A digest of the wrong length is refused without a report. -/
def verifyTraced (outcome : Outcome) (algorithm : Digest.Algorithm) :
    Traced (Except Violation Unit) :=
  { value := outcome.verify algorithm
    events := match outcome.verify algorithm with
      | .error (.digestMismatch algorithm) => [.digestMismatch algorithm outcome.dataHash]
      | _ => [] }

/-- Only an outcome that reads as success is validated on the way. -/
def verdictTraced (outcome : Outcome) : Traced (Except Failure Signable) :=
  { value := outcome.verdict
    events := if outcome.status.isOk then outcome.validateTraced.events else [] }

end Outcome

namespace Compiler
variable {Input : Type}

/-- An empty pre-image is not reported. -/
def events (compiler : Compiler Input) (input : Input) : List Log.Event :=
  let outcome := compiler.compile input
  match compiler.preimage input with
  | .ok data =>
    if data.isEmpty then []
    else [.preimageBuilt compiler.chain compiler.algorithm data.length outcome.dataHash]
  | .error _ => [.compilationFailed compiler.chain outcome.status outcome.error]

def compileTraced (compiler : Compiler Input) (input : Input) : Traced Outcome :=
  { value := compiler.compile input, events := compiler.events input }

end Compiler
end Preimage
