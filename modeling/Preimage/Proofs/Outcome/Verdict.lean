import Preimage.Outcome.Verdict
import Preimage.Proofs.Outcome.Acceptance

/-! What a signer is handed. The payload goes out only where the code reads as zero and both of its
halves are there. In every other case there is a reason, which never reads as success and is never
without words. -/
namespace Preimage.Status
variable {status : Status} {code : Int32}

theorem isOk_iff : status.isOk = true ↔ status.code = 0 := beq_iff_eq

/-- Only success goes without a description. -/
theorem description_ne_empty (failed : status.code ≠ 0) : status.description ≠ "" := by
  cases status with
  | ok => exact absurd rfl failed
  | unrecognized code => exact (by decide : "Unrecognized error code" ≠ "")
  | _ => decide

/-- A code is read by the catalogue, and where that does not list it carried as it is. -/
theorem ofCode_cases (code : Int32) :
    ofCode code ∈ catalogue ∨
      ofCode code = unrecognized code ∧ ∀ status ∈ catalogue, status.code ≠ code := by
  simp only [ofCode]
  cases found : catalogue.find? fun status => status.code == code with
  | some status => exact .inl (List.mem_of_find?_eq_some found)
  | none =>
    refine .inr ⟨rfl, fun status member same => ?_⟩
    have other := List.find?_eq_none.1 found status member
    exact other (beq_iff_eq.2 same)

end Preimage.Status

namespace Preimage.Wire.Record
variable {number : UInt32} {value : Value} {payload : Bytes} {records : List Record}

theorem exists_mem_of_lastValue? (last : lastValue? number records = some value) :
    ∃ record ∈ records, record.number = number ∧ record.value = value := by
  obtain ⟨record, latest, rfl⟩ := Option.map_eq_some_iff.1 last
  obtain ⟨member, same⟩ := List.mem_filter.1 (List.mem_of_getLast? latest)
  exact ⟨record, member, beq_iff_eq.1 same, rfl⟩

theorem lastPayload_eq_iff (delimited : ∀ value, lastValue? number records = some value →
      value.wireType = .delimited) (filled : payload ≠ []) :
    lastPayload number records = payload ↔
      lastValue? number records = some (.delimited payload) := by
  simp only [lastPayload]
  cases last : lastValue? number records with
  | none => simpa using filled.symm
  | some value =>
    have layout := delimited value last
    cases value with
    | delimited payload' => simp [Value.payload]
    | varint | fixed64 | fixed32 => cases layout

end Preimage.Wire.Record

namespace Preimage.Outcome
open Wire
variable {records : List Record} {outcome : Outcome} {signable : Signable} {failure : Failure}

/-- The records say this payload last, and say nothing against it. -/
structure Offers (records : List Record) (signable : Signable) : Prop where
  code : ∀ value, Record.lastValue? 3 records = some value →
    ∃ word, value = .varint word ∧ 2 ^ 32 ∣ word.toNat
  dataHash : Record.lastValue? 1 records = some (.delimited signable.dataHash)
  data : Record.lastValue? 2 records = some (.delimited signable.data)
  hashed : signable.dataHash ≠ []
  filled : signable.data ≠ []

/-- A code is passed on as the catalogue reads it, with the text that came with it; a success that
misses its payload is a fault of whoever built it. -/
structure Explains (outcome : Outcome) (failure : Failure) : Prop where
  failed : failure.status.code ≠ 0
  worded : failure.text ≠ ""
  listed : failure.status ∈ Status.catalogue ∨ failure.status = .unrecognized outcome.errorCode
  withheld : outcome.errorCode ≠ 0 → failure.status = .ofCode outcome.errorCode ∧
    failure.text = if outcome.error = "" then failure.status.description else outcome.error
  missing : outcome.errorCode = 0 → failure.status = .internal

theorem validate_eq_ok_iff (zero : outcome.errorCode = 0) :
    outcome.validate = .ok () ↔ outcome.dataHash ≠ [] ∧ outcome.data ≠ [] := by
  simp only [validate, zero, ne_eq, not_true_eq_false, if_false, List.isEmpty_iff]
  by_cases unhashed : outcome.dataHash = []
  · simp [unhashed]
  · by_cases unfilled : outcome.data = []
    · simp [unhashed, unfilled]
    · simp [unhashed, unfilled]

theorem message_of_validate {violation : Violation}
    (violated : outcome.validate = .error violation) :
    violation.message ≠ "" := by
  simp only [validate] at violated
  split at violated
  · cases violated
  · split at violated
    · cases violated
      decide
    · split at violated
      · cases violated
        decide
      · cases violated

theorem status_isOk_iff : outcome.status.isOk = true ↔ outcome.errorCode = 0 := by
  rw [Status.isOk_iff, status, Status.code_ofCode]

theorem isSuccess_iff : outcome.isSuccess = true ↔ outcome.errorCode = 0 := beq_iff_eq

theorem verdict_eq_ok_iff :
    outcome.verdict = .ok signable ↔
      outcome.errorCode = 0 ∧ outcome.dataHash ≠ [] ∧ outcome.data ≠ [] ∧
        signable = ⟨outcome.dataHash, outcome.data⟩ := by
  simp only [verdict]
  by_cases zero : outcome.errorCode = 0
  · rw [if_pos (status_isOk_iff.2 zero)]
    cases valid : outcome.validate with
    | ok =>
      obtain ⟨hashed, filled⟩ := (validate_eq_ok_iff zero).1 valid
      simp [zero, hashed, filled, eq_comm]
    | error violation =>
      have invalid : ¬ (outcome.dataHash ≠ [] ∧ outcome.data ≠ []) := by
        rw [← validate_eq_ok_iff zero, valid]
        simp
      constructor
      · intro signed
        cases signed
      · rintro ⟨_, hashed, filled, _⟩
        exact absurd ⟨hashed, filled⟩ invalid
  · rw [if_neg (mt status_isOk_iff.1 zero)]
    simp [zero]

theorem verdict_of_errorCode (failed : outcome.errorCode ≠ 0) :
    outcome.verdict = .error ⟨.ofCode outcome.errorCode,
      if outcome.error = "" then (Status.ofCode outcome.errorCode).description
      else outcome.error⟩ := by
  simp only [verdict]
  rw [if_neg (mt status_isOk_iff.1 failed)]
  simp only [String.isEmpty_iff, status]

theorem explains_of_verdict (refused : outcome.verdict = .error failure) :
    outcome.Explains failure := by
  by_cases zero : outcome.errorCode = 0
  · simp only [verdict] at refused
    rw [if_pos (status_isOk_iff.2 zero)] at refused
    split at refused
    · cases refused
    · rename_i violation violated
      cases refused
      have listed : Status.internal ∈ Status.catalogue := by decide
      exact ⟨(by decide : Status.internal.code ≠ 0), message_of_validate violated, .inl listed,
        fun failed => absurd zero failed, fun _ => rfl⟩
  · rw [verdict_of_errorCode zero] at refused
    cases refused
    have failed : (Status.ofCode outcome.errorCode).code ≠ 0 := by
      rwa [Status.code_ofCode]
    refine ⟨failed, ?_, ?_, fun _ => ⟨rfl, rfl⟩, fun zero' => absurd zero' zero⟩
    · show (if outcome.error = "" then _ else _) ≠ ""
      split
      · exact Status.description_ne_empty failed
      · assumption
    · exact (Status.ofCode_cases outcome.errorCode).imp_right And.left

theorem Tells.errorCode_eq_zero_iff (told : Tells records outcome) :
    outcome.errorCode = 0 ↔ 2 ^ 32 ∣ (Record.lastWord 3 records).toNat := by
  rw [← Int32.toInt_inj, told.errorCode]
  change Int.bmod _ _ = 0 ↔ _
  rw [← Int.dvd_iff_bmod_eq_zero]
  exact Int.natCast_dvd_natCast

theorem Tells.offers_iff (told : Tells records outcome)
    (admitted : ∀ record ∈ records, record.Admitted) :
    Offers records signable ↔
      outcome.errorCode = 0 ∧ outcome.dataHash ≠ [] ∧ outcome.data ≠ [] ∧
        signable = ⟨outcome.dataHash, outcome.data⟩ := by
  have delimited {number : UInt32} (payload : number = 1 ∨ number = 2 ∨ number = 4) :
      ∀ value, Record.lastValue? number records = some value → value.wireType = .delimited := by
    intro value last
    obtain ⟨record, member, rfl, rfl⟩ := Record.exists_mem_of_lastValue? last
    exact (admitted record member).1 payload
  have coded : (∀ value, Record.lastValue? 3 records = some value →
      ∃ word, value = .varint word ∧ 2 ^ 32 ∣ word.toNat) ↔ outcome.errorCode = 0 := by
    rw [told.errorCode_eq_zero_iff, Record.lastWord]
    cases last : Record.lastValue? 3 records with
    | none => simp
    | some value =>
      obtain ⟨record, member, number, rfl⟩ := Record.exists_mem_of_lastValue? last
      have layout := (admitted record member).2.1 number
      rw [Record.wireType] at layout
      cases value : record.value with
      | varint word => simp [Value.word]
      | fixed64 | delimited | fixed32 => rw [value] at layout; cases layout
  constructor
  · rintro ⟨code, dataHash, data, hashed, filled⟩
    have hash := (Record.lastPayload_eq_iff (delimited (.inl rfl)) hashed).2 dataHash
    have whole := (Record.lastPayload_eq_iff (delimited (.inr (.inl rfl))) filled).2 data
    rw [← told.dataHash] at hash
    rw [← told.data] at whole
    exact ⟨coded.1 code, by rwa [hash], by rwa [whole], by rw [hash, whole]⟩
  · rintro ⟨zero, hashed, filled, rfl⟩
    exact ⟨coded.2 zero,
      (Record.lastPayload_eq_iff (delimited (.inl rfl)) hashed).1 told.dataHash.symm,
      (Record.lastPayload_eq_iff (delimited (.inr (.inl rfl))) filled).1 told.data.symm,
      hashed, filled⟩

/-- The payload that is handed on is the one that the records offer, and where they offer none the
outcome explains why. -/
theorem verdict_of_decode {decoder : Decoder} {bytes : Bytes}
    (accepted : decoder.decode bytes = .ok outcome) :
    ∃ records, Message bytes records ∧
      (∀ signable, outcome.verdict = .ok signable ↔ Offers records signable) ∧
      ((¬ ∃ signable, Offers records signable) →
        ∃ failure, outcome.verdict = .error failure ∧ outcome.Explains failure) ∧
      ((∃ signable, outcome.verdict = .ok signable) ↔
        outcome.isSuccess = true ∧ outcome.validate = .ok ()) := by
  obtain ⟨records, message, told, _⟩ :=
    Decoder.decode_ok_iff_tells.1 (Decoder.decode_without_limit accepted)
  have gate (signable : Signable) : outcome.verdict = .ok signable ↔ Offers records signable := by
    rw [verdict_eq_ok_iff, told.offers_iff message.admitted]
  refine ⟨records, message, gate, ?_, ?_⟩
  · intro none
    cases decided : outcome.verdict with
    | ok signable => exact absurd ⟨signable, (gate signable).1 decided⟩ none
    | error failure => exact ⟨failure, rfl, explains_of_verdict decided⟩
  · simp only [verdict_eq_ok_iff, isSuccess_iff]
    constructor
    · rintro ⟨signable, zero, hashed, filled, _⟩
      exact ⟨zero, (validate_eq_ok_iff zero).2 ⟨hashed, filled⟩⟩
    · rintro ⟨zero, valid⟩
      obtain ⟨hashed, filled⟩ := (validate_eq_ok_iff zero).1 valid
      exact ⟨_, zero, hashed, filled, rfl⟩

/-- A code and an empty payload are overridden, the code by a word with only its upper half set. -/
theorem verdict_of_decode_overridden :
    ∃ records, Message [0x18, 0x07, 0x0a, 0x01, 0xaa, 0x12, 0x00, 0x12, 0x02, 0x01, 0x02, 0x18,
        0x80, 0x80, 0x80, 0x80, 0x10] records ∧
      Offers records ⟨[0xaa], [0x01, 0x02]⟩ := by
  have accepted : (Decoder.bounded 17).decode [0x18, 0x07, 0x0a, 0x01, 0xaa, 0x12, 0x00, 0x12,
      0x02, 0x01, 0x02, 0x18, 0x80, 0x80, 0x80, 0x80, 0x10] =
        .ok { dataHash := [0xaa], data := [0x01, 0x02] } := by
    decide +kernel
  obtain ⟨records, message, gate, _⟩ := verdict_of_decode accepted
  exact ⟨records, message, (gate _).1 (by decide)⟩

end Preimage.Outcome
