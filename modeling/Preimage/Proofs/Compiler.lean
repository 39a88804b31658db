import Preimage.Compiler
import Preimage.Proofs.Outcome.RoundTrip
import Preimage.Proofs.Outcome.Verdict

/-! What a producer promises and a consumer finds. Whatever a chain gives back, the outcome is
valid, and it reads as success just where there is a pre-image to sign. -/
namespace Preimage.Outcome
open Digest (Algorithm)
variable {status : Status} {text : String} {algorithm : Algorithm} {data : Bytes}
  {outcome received : Outcome}

structure Delivers (algorithm : Algorithm) (data : Bytes) (outcome : Outcome) : Prop where
  success : outcome.isSuccess = true
  whole : outcome.data = data
  verified : outcome.verify algorithm = .ok ()
  handed : outcome.verdict = .ok ⟨algorithm.digest data, data⟩

/-- A failure that keeps no payload and says why. -/
structure Refuses (outcome : Outcome) : Prop where
  failed : outcome.errorCode ≠ 0
  unhashed : outcome.dataHash = []
  unfilled : outcome.data = []
  worded : outcome.error ≠ ""
  told : outcome.verdict = .error ⟨.ofCode outcome.errorCode, outcome.error⟩

theorem errorCode_failure (status : Status) (text : String) :
    (failure status text).errorCode = if status.code = 0 then 1 else status.code := by
  simp only [failure, Status.isOk_iff]
  split <;> rfl

theorem errorCode_failure_ne_zero (status : Status) (text : String) :
    (failure status text).errorCode ≠ 0 := by
  rw [errorCode_failure]
  split
  · decide
  · assumption

theorem error_failure (worded : text ≠ "") : (failure status text).error = text := by
  simp only [failure]
  exact if_neg (mt String.isEmpty_iff.1 worded)

theorem error_failure_ne_empty (status : Status) (text : String) :
    (failure status text).error ≠ "" := by
  by_cases worded : text = ""
  · subst worded
    have failed := errorCode_failure_ne_zero status ""
    exact Status.description_ne_empty failed
  · rwa [error_failure worded]

theorem refuses_failure (status : Status) (text : String) : (failure status text).Refuses := by
  have failed := errorCode_failure_ne_zero status text
  have worded := error_failure_ne_empty status text
  have told := verdict_of_errorCode failed
  rw [if_neg worded] at told
  exact ⟨failed, rfl, rfl, worded, told⟩

/-- No digest is empty, so that a pre-image alone decides whether there is something to sign. -/
theorem digest_ne_nil (algorithm : Algorithm) (data : Bytes) : algorithm.digest data ≠ [] := by
  intro empty
  have length := algorithm.length_digest data
  rw [empty] at length
  cases length

theorem delivers_success (algorithm : Algorithm) (filled : data ≠ []) :
    (success (algorithm.digest data) data).Delivers algorithm data := by
  refine ⟨rfl, rfl, ?_, ?_⟩
  · simp [verify, success, algorithm.length_digest data]
  · exact verdict_eq_ok_iff.2 ⟨rfl, digest_ne_nil algorithm data, filled, rfl⟩

inductive Reaches (outcome : Outcome) : Outcome → Prop where
  | itself : Reaches outcome outcome
  | written {policy : UnknownPolicy} {received : Outcome} (sized : outcome.Sized)
      (read : Decoder.decode { policy } outcome.encode = .ok received) : Reaches outcome received

theorem decode_encode_of_bare (bare : outcome.unknown = []) (sized : outcome.Sized)
    (policy : UnknownPolicy) : Decoder.decode { policy } outcome.encode = .ok outcome := by
  rw [decode_encode_of_keeps policy sized (keeps_nil bare)]
  cases policy with
  | discard => rw [← bare]
  | retain => rfl

theorem eq_of_reaches (bare : outcome.unknown = []) (reaches : outcome.Reaches received) :
    received = outcome := by
  cases reaches with
  | itself => rfl
  | @written policy _ sized read =>
    rw [decode_encode_of_bare bare sized policy] at read
    cases read
    rfl

/-- What a consumer finds, by what the chain gave back. -/
def Answers (algorithm : Algorithm) (outcome : Outcome) : Except Compiler.Fault Bytes → Prop
  | .ok [] => outcome.Refuses ∧ outcome.errorCode = 2
  | .ok (byte :: rest) => outcome.Delivers algorithm (byte :: rest)
  | .error fault => outcome.Refuses ∧
      outcome.errorCode = (if fault.status.code = 0 then 1 else fault.status.code) ∧
      (fault.text ≠ "" → outcome.error = fault.text)

end Preimage.Outcome

namespace Preimage.Compiler
open Outcome
variable {Input : Type} {compiler : Compiler Input} {input : Input}

theorem answers_compile (compiler : Compiler Input) (input : Input) :
    (compiler.compile input).Answers compiler.algorithm (compiler.preimage input) := by
  simp only [compile]
  cases compiler.preimage input with
  | ok data =>
    cases data with
    | nil => exact ⟨refuses_failure _ _, rfl⟩
    | cons byte rest => exact delivers_success compiler.algorithm (by simp)
  | error fault =>
    exact ⟨refuses_failure _ _, errorCode_failure _ _, fun worded => error_failure worded⟩

theorem isSuccess_compile_iff :
    (compiler.compile input).isSuccess = true ↔
      ∃ data, data ≠ [] ∧ compiler.preimage input = .ok data := by
  have answers := answers_compile compiler input
  cases given : compiler.preimage input with
  | ok data =>
    rw [given] at answers
    cases data with
    | nil =>
      have refused := answers.1.failed
      simpa [isSuccess_iff] using refused
    | cons byte rest => simpa using answers.success
  | error fault =>
    rw [given] at answers
    have refused := answers.1.failed
    simpa [isSuccess_iff] using refused

theorem validate_compile (compiler : Compiler Input) (input : Input) :
    (compiler.compile input).validate = .ok () := by
  by_cases success : (compiler.compile input).errorCode = 0
  · obtain ⟨data, filled, given⟩ := isSuccess_compile_iff.1 (isSuccess_iff.2 success)
    have answers := answers_compile compiler input
    rw [given] at answers
    cases data with
    | nil => exact absurd rfl filled
    | cons byte rest =>
      have handed := verdict_eq_ok_iff.1 answers.handed
      exact (validate_eq_ok_iff success).2 ⟨handed.2.1, handed.2.2.1⟩
  · simp only [validate]
    exact if_pos success

/-- The outcome is valid and survives its written form, and both it and what is read back answer to
what the chain gave. -/
theorem compile_keeps_promises (compiler : Compiler Input) (input : Input) :
    (compiler.compile input).validate = .ok () ∧
      ((compiler.compile input).Sized → ∀ policy, Decoder.decode { policy }
        (compiler.compile input).encode = .ok (compiler.compile input)) ∧
      ((compiler.compile input).isSuccess = true ↔
        ∃ data, data ≠ [] ∧ compiler.preimage input = .ok data) ∧
      ∀ received, (compiler.compile input).Reaches received →
        received.Answers compiler.algorithm (compiler.preimage input) := by
  have bare := unknown_compile compiler input
  refine ⟨validate_compile compiler input, decode_encode_of_bare bare, isSuccess_compile_iff, ?_⟩
  intro received reaches
  rw [eq_of_reaches bare reaches]
  exact answers_compile compiler input

/-- The chain fails with a status of its own that reads as success, and without a word. -/
theorem compile_keeps_promises_unworded :
    Outcome.Answers .keccak256 (failure (.unrecognized 0) "")
        (.error ⟨.unrecognized 0, ""⟩) ∧
      Decoder.plain.decode (failure (.unrecognized 0) "").encode =
        .ok (failure (.unrecognized 0) "") := by
  let compiler : Compiler Unit := ⟨"", .keccak256, fun _ => .error ⟨.unrecognized 0, ""⟩⟩
  obtain ⟨_, survives, _, answers⟩ := compile_keeps_promises compiler ()
  exact ⟨answers _ .itself, survives ⟨by decide, by decide, by decide⟩ .discard⟩

end Preimage.Compiler
