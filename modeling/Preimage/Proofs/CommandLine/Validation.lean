import Preimage.CommandLine.Execution
import Preimage.Proofs.Outcome.Verdict

/-! The command that validates, as a gate. Its exit status and what it prints tell apart a payload
that may be signed, a failure that says why there is none, and everything else. -/
namespace Preimage.CommandLine
variable {α β ε : Type}

namespace Action

/-- What a command at work ends with, whatever it reports on the way. -/
def result (work : Action α) : Except Complaint α := work.run.value

theorem result_pure (value : α) : (pure value : Action α).result = .ok value := rfl

theorem result_throw (complaint : Complaint) :
    (throw complaint : Action α).result = .error complaint := rfl

theorem result_bind_eq_ok {first : Action α} {second : α → Action β} {value : β} :
    (first >>= second).result = .ok value ↔
      ∃ middle, first.result = .ok middle ∧ (second middle).result = .ok value := by
  have whole : (first >>= second).result = (ExceptT.bindCont second first.run.value).value := rfl
  rw [whole, result]
  cases first.run.value with
  | ok middle =>
    constructor
    · intro done
      exact ⟨middle, rfl, done⟩
    · rintro ⟨_, same, done⟩
      cases same
      exact done
  | error complaint =>
    constructor
    · intro done
      cases done
    · rintro ⟨_, same, _⟩
      cases same

theorem result_orFail_eq_ok {message : ε → String} {answer : Except ε α} {value : α} :
    (orFail message answer).result = .ok value ↔ answer = .ok value := by
  cases answer with
  | ok found => simp [orFail, result_pure]
  | error fault => simp [orFail, result_throw]

theorem result_orBlame_eq_ok {context : String} {message : ε → String} {answer : Except ε α}
    {value : α} : (orBlame context message answer).result = .ok value ↔ answer = .ok value := by
  cases answer with
  | ok found => simp [orBlame, result_pure]
  | error fault => simp [orBlame, result_throw]

theorem result_traced (operation : Traced α) : (traced operation).result = .ok operation.value :=
  rfl

end Action

/-- An operand is a text itself, or stands for standard input. Bytes there that are no text stand
for nothing. -/
def operandText? (input : Bytes) (operand : String) : Option String :=
  if operand = standardInput then input.toText? else some operand

/-- The operand stands for the digits of a message with this outcome. -/
def Tells (input : Bytes) (operand : String) (outcome : Outcome) : Prop :=
  ∃ text bytes, operandText? input operand = some text ∧ Hex.decode text = .ok bytes ∧
    Decoder.plain.decode bytes = .ok outcome

/-- The outcome hands on a payload, with its digest if an algorithm is named. -/
def Passes (algorithm? : Option Digest.Algorithm) (outcome : Outcome) : Prop :=
  (∃ signable, outcome.verdict = .ok signable) ∧
    ∀ algorithm, algorithm? = some algorithm → outcome.dataHash = algorithm.digest outcome.data

def failureLine (label error : String) : String := s!"ok (failure output: {label} {error})\n"

theorem failureLine_ne_ok (label error : String) : failureLine label error ≠ "ok\n" := by
  intro same
  have whole : failureLine label error =
      "ok (failure output: " ++ label ++ " " ++ error ++ ")\n" := rfl
  have opening : "ok (failure output: ".length = 20 := by decide +kernel
  have short : "ok\n".length = 3 := by decide +kernel
  have lengths := congrArg String.length (whole.symm.trans same)
  simp only [String.length_append, opening, short] at lengths
  omega

variable {input bytes : Bytes} {operand output : String} {algorithm? : Option Digest.Algorithm}
  {outcome : Outcome}

theorem result_readOperand_eq_ok :
    (readOperand input operand).result = .ok bytes ↔
      ∃ text, operandText? input operand = some text ∧ Hex.decode text = .ok bytes := by
  by_cases standard : operand = standardInput
  · cases read : input.toText? with
    | some found =>
      simp [readOperand, operandText?, standard, read, Action.result_orBlame_eq_ok]
    | none =>
      simp [readOperand, operandText?, standard, read, Action.result_throw]
  · simp [readOperand, operandText?, standard, Action.result_orBlame_eq_ok]

/-- A digest is confirmed when it is there, since no digest has another length. -/
theorem verify_eq_ok_iff {algorithm : Digest.Algorithm} :
    outcome.verify algorithm = .ok () ↔ outcome.dataHash = algorithm.digest outcome.data := by
  have size := algorithm.length_digest outcome.data
  simp only [Outcome.verify]
  split
  · rename_i other
    refine iff_of_false nofun fun same => other ?_
    rw [same, size]
  · split
    · rename_i mismatch
      exact iff_of_false nofun (Ne.symm mismatch)
    · rename_i same
      exact iff_of_true rfl (not_not.1 same).symm

theorem passes_iff :
    Passes algorithm? outcome ↔ outcome.errorCode = 0 ∧ outcome.validate = .ok () ∧
      ∀ algorithm, algorithm? = some algorithm → outcome.verify algorithm = .ok () := by
  have handed : (∃ signable, outcome.verdict = .ok signable) ↔
      outcome.errorCode = 0 ∧ outcome.validate = .ok () := by
    simp only [Outcome.verdict_eq_ok_iff]
    constructor
    · rintro ⟨signable, zero, hashed, filled, -⟩
      exact ⟨zero, (Outcome.validate_eq_ok_iff zero).2 ⟨hashed, filled⟩⟩
    · rintro ⟨zero, valid⟩
      obtain ⟨hashed, filled⟩ := (Outcome.validate_eq_ok_iff zero).1 valid
      exact ⟨_, zero, hashed, filled, rfl⟩
  simp only [Passes, handed, verify_eq_ok_iff, and_assoc]

theorem result_runValidate_eq_ok :
    (Command.runValidate input operand algorithm?).result = .ok output ↔
      ∃ outcome, Tells input operand outcome ∧
        (Passes algorithm? outcome ∧ output = "ok\n" ∨
          outcome.errorCode ≠ 0 ∧ output = failureLine outcome.status.label outcome.error) := by
  simp only [Command.runValidate, Action.result_bind_eq_ok, Action.result_orFail_eq_ok,
    Action.result_traced, Decoder.decodeTraced, Outcome.validateTraced, result_readOperand_eq_ok,
    Except.ok.injEq, exists_eq_left']
  constructor
  · rintro ⟨bytes, ⟨text, stands, digits⟩, outcome, read, ⟨⟩, valid, done⟩
    refine ⟨outcome, ⟨text, bytes, stands, digits, read⟩, ?_⟩
    by_cases success : outcome.errorCode = 0
    · rw [if_pos (Outcome.isSuccess_iff.2 success)] at done
      cases algorithm? with
      | none =>
        cases done
        exact .inl ⟨passes_iff.2 ⟨success, valid, nofun⟩, rfl⟩
      | some algorithm =>
        simp only [Action.result_bind_eq_ok, Action.result_orFail_eq_ok, Action.result_traced,
          Outcome.verifyTraced, Except.ok.injEq, exists_eq_left'] at done
        obtain ⟨⟨⟩, verified, done⟩ := done
        cases done
        refine .inl ⟨passes_iff.2 ⟨success, valid, ?_⟩, rfl⟩
        rintro _ ⟨⟩
        exact verified
    · rw [if_neg (mt Outcome.isSuccess_iff.1 success)] at done
      cases done
      exact .inr ⟨success, rfl⟩
  · rintro ⟨outcome, ⟨text, bytes, stands, digits, read⟩, ⟨passes, rfl⟩ | ⟨failed, rfl⟩⟩
    · obtain ⟨success, valid, verified⟩ := passes_iff.1 passes
      refine ⟨bytes, ⟨text, stands, digits⟩, outcome, read, (), valid, ?_⟩
      rw [if_pos (Outcome.isSuccess_iff.2 success)]
      cases algorithm? with
      | none => rfl
      | some algorithm =>
        simp only [Action.result_bind_eq_ok, Action.result_orFail_eq_ok, Action.result_traced,
          Outcome.verifyTraced, Except.ok.injEq, exists_eq_left']
        exact ⟨(), verified algorithm rfl, rfl⟩
    · have valid : outcome.validate = .ok () := if_pos failed
      refine ⟨bytes, ⟨text, stands, digits⟩, outcome, read, (), valid, ?_⟩
      rw [if_neg (mt Outcome.isSuccess_iff.1 failed)]
      rfl

/-- Only a command that ends well exits with zero, and it alone prints anything. -/
theorem ofRun_eq_ok_iff {verbose : Bool} {work : Action String} :
    (Report.ofRun verbose work).status = 0 ∧ (Report.ofRun verbose work).output = output ↔
      work.result = .ok output := by
  simp only [Report.ofRun, Action.result]
  cases work.run.value with
  | ok printed => simp
  | error complaint => simp

theorem ofRun_of_not_ok {verbose : Bool} {work : Action String}
    (failed : ∀ output, work.result ≠ .ok output) :
    (Report.ofRun verbose work).status ≠ 0 ∧ (Report.ofRun verbose work).output = "" := by
  simp only [Report.ofRun]
  cases ended : work.run.value with
  | ok printed => exact absurd ended (failed printed)
  | error complaint => exact ⟨(by decide : (1 : UInt8) ≠ 0), rfl⟩

/-- It exits with zero for payloads that a consumer is handed, with the digest that is asked for,
and for failures, each with its own line. For anything else it exits with another status and prints
nothing. -/
theorem validate_is_gate {arguments : List String} {verbose : Bool}
    (asked : Request.ofArguments arguments = some (.run verbose (.validate operand algorithm?)))
    (input : Bytes) :
    ∃ report, execute arguments input = report ∧
      (report.status = 0 ∧ report.output = "ok\n" ↔
        ∃ outcome, Tells input operand outcome ∧ Passes algorithm? outcome) ∧
      ((report.status = 0 ∧ ∃ label error, report.output = failureLine label error) ↔
        ∃ outcome, Tells input operand outcome ∧ outcome.errorCode ≠ 0) ∧
      (∀ outcome, Tells input operand outcome → outcome.errorCode ≠ 0 →
        report.output = failureLine outcome.status.label outcome.error) ∧
      ((¬ ∃ outcome, Tells input operand outcome ∧
          (Passes algorithm? outcome ∨ outcome.errorCode ≠ 0)) →
        report.status ≠ 0 ∧ report.output = "") := by
  have ran : execute arguments input =
      .ofRun verbose (Command.runValidate input operand algorithm?) := by
    simp only [execute, asked]
    rfl
  refine ⟨_, ran, ?_, ⟨?_, ?_⟩, ?_, ?_⟩
  · rw [ofRun_eq_ok_iff, result_runValidate_eq_ok]
    refine exists_congr fun outcome => and_congr_right fun _ => ?_
    simp [(failureLine_ne_ok _ _).symm]
  · rintro ⟨status, label, error, printed⟩
    obtain ⟨outcome, told, ⟨-, same⟩ | ⟨failed, -⟩⟩ :=
      result_runValidate_eq_ok.1 (ofRun_eq_ok_iff.1 ⟨status, printed⟩)
    · exact absurd same (failureLine_ne_ok label error)
    · exact ⟨outcome, told, failed⟩
  · rintro ⟨outcome, told, failed⟩
    obtain ⟨status, printed⟩ := ofRun_eq_ok_iff.2
      (result_runValidate_eq_ok.2 ⟨outcome, told, .inr ⟨failed, rfl⟩⟩)
    exact ⟨status, _, _, printed⟩
  · intro outcome told failed
    exact (ofRun_eq_ok_iff.2
      (result_runValidate_eq_ok.2 ⟨outcome, told, .inr ⟨failed, rfl⟩⟩)).2
  · intro neither
    refine ofRun_of_not_ok fun output ended => neither ?_
    obtain ⟨outcome, told, ⟨passes, -⟩ | ⟨failed, -⟩⟩ := result_runValidate_eq_ok.1 ended
    · exact ⟨outcome, told, .inl passes⟩
    · exact ⟨outcome, told, .inr failed⟩

/-- A failure passes whatever digest is asked for, and a success that misses its own does not. -/
theorem validate_is_gate_unhashed :
    (execute ["validate", "--hash=sha256", " 0x1802 "] []).output = failureLine "internal" "" ∧
      (execute ["-v", "validate", "-"] (.ofText "120101")).output = "" := by
  have asked : Request.ofArguments ["validate", "--hash=sha256", " 0x1802 "] =
      some (.run false (.validate " 0x1802 " (some .sha256))) := by
    decide +kernel
  have asked' : Request.ofArguments ["-v", "validate", "-"] =
      some (.run true (.validate "-" none)) := by
    decide +kernel
  obtain ⟨_, ran, _, _, printed, _⟩ := validate_is_gate asked []
  obtain ⟨_, ran', _, _, _, refused⟩ := validate_is_gate asked' (.ofText "120101")
  constructor
  · rw [ran]
    exact printed { errorCode := 2 } ⟨" 0x1802 ", [0x18, 0x02], by decide +kernel⟩ (by decide)
  · rw [ran']
    refine (refused ?_).2
    rintro ⟨outcome, ⟨text, bytes, stands, digits, read⟩, gated⟩
    have standing : operandText? (.ofText "120101") "-" = some "120101" := by decide +kernel
    have spelled : Hex.decode "120101" = .ok [0x12, 0x01, 0x01] := by decide +kernel
    have said : Decoder.plain.decode [0x12, 0x01, 0x01] = .ok { data := [0x01] } := by
      decide +kernel
    cases standing.symm.trans stands
    cases spelled.symm.trans digits
    cases said.symm.trans read
    rcases gated with ⟨⟨signable, handed⟩, -⟩ | failed
    · exact (Outcome.verdict_eq_ok_iff.1 handed).2.1 rfl
    · exact failed rfl

end Preimage.CommandLine
