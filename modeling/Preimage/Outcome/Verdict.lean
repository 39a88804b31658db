import Preimage.Digest.Algorithm
import Preimage.Outcome.Basic

/-! What a consumer takes from an outcome: a payload to sign, or the reason why there is none. An
outcome that reads as success has to bring a pre-image and a digest, and the digest can be computed
again. Failures may carry anything, and what they carry is withheld. -/
namespace Preimage.Outcome
open Digest (Algorithm)

inductive Violation where
  | missingDataHash
  | missingData
  | digestMismatch (algorithm : Algorithm)
  | digestLength (algorithm : Algorithm) (expected actual : Nat)
deriving Repr, DecidableEq

def Violation.message : Violation → String
  | missingDataHash => "error_code is 0 but data_hash is empty"
  | missingData => "error_code is 0 but data is empty"
  | digestMismatch algorithm => s!"data_hash does not match the digest of data ({algorithm.name})"
  | digestLength algorithm expected actual =>
    s!"data_hash is {actual} bytes, {algorithm.name} produces {expected}"

/-- A missing digest is reported before a missing pre-image. -/
def validate (outcome : Outcome) : Except Violation Unit :=
  if outcome.errorCode ≠ 0 then .ok ()
  else if outcome.dataHash.isEmpty then .error .missingDataHash
  else if outcome.data.isEmpty then .error .missingData
  else .ok ()

/-- Computes the digest again. One of the wrong length is not compared. -/
def verify (outcome : Outcome) (algorithm : Algorithm) : Except Violation Unit :=
  if outcome.dataHash.length ≠ algorithm.size then
    .error (.digestLength algorithm algorithm.size outcome.dataHash.length)
  else if algorithm.digest outcome.data ≠ outcome.dataHash then .error (.digestMismatch algorithm)
  else .ok ()

end Preimage.Outcome

namespace Preimage

structure Signable where
  dataHash : Bytes
  data : Bytes
deriving Repr, DecidableEq

/-- Whether a signer worked on the digest that was promised. -/
def Signable.matchesDigest (signable : Signable) (signed : Bytes) : Bool :=
  signable.dataHash == signed

structure Failure where
  status : Status
  text : String
deriving Repr, DecidableEq

def Failure.message (failure : Failure) : String :=
  s!"compilation failed ({failure.status.label}): {failure.text}"

namespace Outcome

/-- A failure without a text is told by the description of its status. -/
def verdict (outcome : Outcome) : Except Failure Signable :=
  if outcome.status.isOk then
    match outcome.validate with
    | .ok () => .ok ⟨outcome.dataHash, outcome.data⟩
    | .error violation => .error ⟨.internal, violation.message⟩
  else
    .error ⟨outcome.status,
      if outcome.error.isEmpty then outcome.status.description else outcome.error⟩

end Outcome
end Preimage
