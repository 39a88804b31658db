import Preimage.Outcome.Verdict

/-! Every chain builds pre-images in its own way. What comes after that is the same for all of them:
the pre-image is digested, and whatever went wrong becomes an outcome with a failure code, so that
compiling always gives an outcome. -/
namespace Preimage

structure Compiler.Fault where
  status : Status
  text : String
deriving Repr, DecidableEq

namespace Compiler.Fault

def message (fault : Fault) : String := s!"{fault.status.label}: {fault.text}"

def invalidParams (text : String) : Fault := ⟨.invalidParams, text⟩

def inputParse (text : String) : Fault := ⟨.inputParse, text⟩

def notSupported (text : String) : Fault := ⟨.notSupported, text⟩

def internal (text : String) : Fault := ⟨.internal, text⟩

end Compiler.Fault

structure Compiler (Input : Type) where
  /-- A short name of the chain, for reports. -/
  chain : String
  algorithm : Digest.Algorithm
  /-- The bytes to sign for an unsigned transaction. -/
  preimage : Input → Except Compiler.Fault Bytes

namespace Compiler
variable {Input : Type}

/-- A pre-image without a byte counts as a fault of the compiler. -/
def compile (compiler : Compiler Input) (input : Input) : Outcome :=
  match compiler.preimage input with
  | .ok data =>
    if data.isEmpty then
      .failure .internal s!"{compiler.chain} compiler produced an empty pre-image"
    else .success (compiler.algorithm.digest data) data
  | .error fault => .failure fault.status fault.text

end Compiler
end Preimage
