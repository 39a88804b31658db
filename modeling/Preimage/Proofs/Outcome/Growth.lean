import Preimage.Proofs.Outcome.Length
import Preimage.Proofs.Outcome.Verdict

/-! What messages can grow to. No record is spelled with fewer bytes than are written for it, but
for a negative code: it can come in with the five digits that its low half needs, and is written
with the ten that its sign takes. -/
namespace Preimage.Wire.Record
open Outcome
variable {number : UInt32} {record : Record} {records : List Record} {value : Value}

theorem length_key_le (record : Record) :
    (Key.encode ⟨record.number, record.wireType⟩).length ≤ record.opening.length := by
  obtain ⟨_, least, most⟩ := Key.spells_iff.1 record.opened
  exact ((Key.minimal_spells_iff least most).2 rfl).least _ record.opened

theorem length_value_le (record : Record) : record.value.encode.length ≤ record.body.length :=
  ((Value.minimal_spells_iff record.filled).2 rfl).least _ record.filled

theorem Admitted.wireType_eq {tag : Tag} (admitted : record.Admitted)
    (number : record.number = tag.number) : record.value.wireType = tag.field.kind.wireType := by
  obtain ⟨part, brings⟩ := admitted_iff.1 admitted
  rw [part?_of_known number] at brings
  exact Tag.wireType_of_part? brings

/-- The bytes that the last record of a field takes. -/
def lastSize (number : UInt32) (records : List Record) : Nat :=
  ((records.filter fun record => record.number == number).getLast?).elim 0
    fun record => record.raw.length

theorem lastSize_append_singleton :
    lastSize number (records ++ [record]) =
      if record.number = number then record.raw.length else lastSize number records := by
  by_cases same : record.number = number <;> simp [lastSize, same]

theorem exists_last_of_lastValue? (found : lastValue? number records = some value) :
    ∃ record ∈ records, record.number = number ∧ record.value = value ∧
      lastSize number records = record.raw.length := by
  obtain ⟨record, last, rfl⟩ := Option.map_eq_some_iff.1 found
  obtain ⟨member, same⟩ := List.mem_filter.1 (List.mem_of_getLast? last)
  exact ⟨record, member, beq_iff_eq.1 same, rfl, by rw [lastSize, last, Option.elim_some]⟩

/-- The last records of the known fields and all those of other fields are different records. -/
theorem sum_lastSize_le (records : List Record) :
    lastSize Tag.dataHash.number records + lastSize Tag.data.number records +
        lastSize Tag.errorCode.number records + lastSize Tag.error.number records +
        ((foreign records).flatMap raw).length ≤ (records.flatMap raw).length := by
  induction records using List.reverseRecOn with
  | nil => exact Nat.le_refl 0
  | append_singleton records record ih =>
    simp only [lastSize_append_singleton, foreign, List.filter_append, List.flatMap_append,
      List.length_append] at ih ⊢
    cases known : record.isKnown with
    | false =>
      have other (tag : Tag) : record.number ≠ tag.number := fun number => by
        rw [isKnown_iff.2 ⟨tag, number⟩] at known
        cases known
      rw [List.filter_cons_of_pos (by simp [known]), List.filter_nil]
      simp only [other, if_false]
      omega
    | true =>
      -- The record takes the place of an earlier one of its field, and of no other.
      obtain ⟨tag, number⟩ := isKnown_iff.1 known
      rw [List.filter_cons_of_neg (by simp [known]), List.filter_nil, List.flatMap_cons,
        List.flatMap_nil, List.append_nil, List.length_nil]
      cases tag <;> simp +decide only [number, Tag.number, if_true, if_false] at ih ⊢ <;> omega

end Preimage.Wire.Record

namespace Preimage.Wire
variable {code : Int32} {word : UInt64} {bytes : Bytes}

theorem Value.Spells.of_varint (spelled : (Value.varint word).Spells bytes) :
    Varint.Spells bytes word := by
  cases spelled
  assumption

/-- A word that gives a negative code has its bit 31 set, which is in the fifth digit. -/
theorem Varint.Spells.five_le_length (spelled : Spells bytes word)
    (told : code.toInt = Int.bmod word.toNat (2 ^ 32)) (negative : code.toInt < 0) :
    5 ≤ bytes.length := by
  by_contra short
  have few : 128 ^ bytes.length ≤ 128 ^ 4 := Nat.pow_le_pow_right (by decide) (by omega)
  have room := spelled.digits.lt_pow
  rw [told, Int.bmod_def] at negative
  split at negative <;> omega

theorem Varint.Spells.length_encode_le (spelled : Spells bytes word)
    (told : code.toInt = Int.bmod word.toNat (2 ^ 32)) :
    (encode (wordOfInt32 code)).length ≤ bytes.length + if code < 0 then 5 else 0 := by
  by_cases negative : code.toInt < 0
  · have least := spelled.five_le_length told negative
    have most : (encode (wordOfInt32 code)).length ≤ 10 := (spells_encode _).short
    rw [if_pos (Int32.lt_iff_toInt_lt.2 negative)]
    omega
  · refine Nat.le_trans (spelled.digits.length_groups_le ?_) (Nat.le_add_right _ _)
    have value := toNat_wordOfInt32 code
    rw [UInt64.size] at value
    rw [Int.bmod_def] at told
    split at told <;> omega

end Preimage.Wire

namespace Preimage.Outcome
open Wire
open Bytes (length_ofText)
variable {records kept : List Record} {outcome : Outcome} {payload bytes : Bytes} {code : Int32}
  {policy : UnknownPolicy}

theorem length_le_encodeBytes (tag : Tag) (payload : Bytes) :
    payload.length ≤ (encodeBytes tag payload).length := by
  rw [length_encodeBytes, bytesLength]
  split <;> omega

theorem length_encodeBytes_le (tag : Tag) (layout : tag.field.kind.wireType = .delimited)
    (admitted : ∀ record ∈ records, record.Admitted)
    (told : payload = Record.lastPayload tag.number records) :
    (encodeBytes tag payload).length ≤ Record.lastSize tag.number records := by
  by_cases empty : payload = []
  · rw [empty]
    exact Nat.zero_le _
  · have delimited (value : Value) (last : Record.lastValue? tag.number records = some value) :
        value.wireType = .delimited := by
      obtain ⟨record, member, number, rfl⟩ := Record.exists_mem_of_lastValue? last
      rw [(admitted record member).wireType_eq number, layout]
    have last := (Record.lastPayload_eq_iff delimited empty).1 told.symm
    obtain ⟨record, _, number, value, size⟩ := Record.exists_last_of_lastValue? last
    have opening := record.length_key_le
    have body := record.length_value_le
    rw [Record.wireType, number, value] at opening
    rw [value] at body
    rw [encodeBytes, if_neg (by simpa using empty), encodeBytesField, List.length_append, size,
      Record.raw, List.length_append]
    exact Nat.add_le_add opening body

theorem length_encodeCode_le (admitted : ∀ record ∈ records, record.Admitted)
    (told : code.toInt = Int.bmod (Record.lastWord Tag.errorCode.number records).toNat (2 ^ 32)) :
    (encodeCode code).length ≤
      Record.lastSize Tag.errorCode.number records + if code < 0 then 5 else 0 := by
  by_cases zero : code = 0
  · rw [zero]
    exact Nat.zero_le _
  · cases last : Record.lastValue? Tag.errorCode.number records with
    | none =>
      have unset : code.toInt = (0 : Int32).toInt := by
        rw [told, Record.lastWord, last]
        decide
      exact absurd (Int32.toInt_inj.1 unset) zero
    | some value =>
      obtain ⟨record, member, number, rfl, size⟩ := Record.exists_last_of_lastValue? last
      have layout := (admitted record member).wireType_eq number
      have opening := record.length_key_le
      have filled := record.filled
      rw [Record.wireType, number, layout] at opening
      rw [Record.lastWord, last, Option.elim_some] at told
      cases value : record.value with
      | varint word =>
        rw [value] at filled told
        have body := filled.of_varint.length_encode_le told
        rw [encodeCode, if_neg zero, encodeInt32Field, List.length_append, size, Record.raw,
          List.length_append, Nat.add_assoc]
        exact Nat.add_le_add opening body
      | fixed64 | delimited | fixed32 =>
        rw [value] at layout
        cases layout

theorem unknownSize_le (unknown : outcome.unknown = unknownOf policy records) :
    outcome.unknownSize ≤ ((Record.foreign records).flatMap Record.raw).length := by
  rw [unknownSize_eq, unknown]
  cases policy with
  | discard => exact Nat.zero_le _
  | retain =>
    rw [unknownOf, List.flatMap_map]
    exact Nat.le_refl _

theorem Keeps.two_mul_length_le (keeps : outcome.Keeps kept) :
    2 * outcome.unknown.length ≤ outcome.unknownSize := by
  rw [unknownSize_eq, keeps.flatMap_raw, keeps.unknown, List.length_map]
  clear keeps
  induction kept with
  | nil => exact Nat.le_refl 0
  | cons record records ih =>
    have some := record.two_le_length_raw
    rw [List.length_cons, List.flatMap_cons, List.length_append]
    omega

theorem Message.length_encode_le (message : Message bytes records) (told : Tells records outcome)
    (unknown : outcome.unknown = unknownOf policy records) :
    outcome.encode.length ≤ bytes.length + if outcome.errorCode < 0 then 5 else 0 := by
  have dataHash := length_encodeBytes_le .dataHash rfl message.admitted told.dataHash
  have data := length_encodeBytes_le .data rfl message.admitted told.data
  have code := length_encodeCode_le message.admitted told.errorCode
  have error := length_encodeBytes_le .error rfl message.admitted told.error
  have rest := unknownSize_le unknown
  have whole := Record.sum_lastSize_le records
  rw [← message.whole] at whole
  simp only [encode, List.length_append, ← unknownSize_eq]
  omega

theorem Message.payloads_le (message : Message bytes records) (told : Tells records outcome)
    (unknown : outcome.unknown = unknownOf policy records) :
    outcome.dataHash.length + outcome.data.length + outcome.error.utf8ByteSize +
      outcome.unknownSize ≤ bytes.length := by
  have dataHash := Nat.le_trans (length_le_encodeBytes .dataHash outcome.dataHash)
    (length_encodeBytes_le .dataHash rfl message.admitted told.dataHash)
  have data := Nat.le_trans (length_le_encodeBytes .data outcome.data)
    (length_encodeBytes_le .data rfl message.admitted told.data)
  have error := Nat.le_trans (length_le_encodeBytes .error (.ofText outcome.error))
    (length_encodeBytes_le .error rfl message.admitted told.error)
  have rest := unknownSize_le unknown
  have whole := Record.sum_lastSize_le records
  rw [length_ofText] at error
  rw [← message.whole] at whole
  omega

end Preimage.Outcome

namespace Preimage.Decoder
open Wire Outcome
variable {decoder : Decoder} {bytes : Bytes} {outcome : Outcome}

/-- What is written again is at most five bytes longer than what was read, and longer only for a
negative code. What was read holds all payloads and all that is retained next to each other. -/
theorem length_encode_le_of_decode (accepted : decoder.decode bytes = .ok outcome) :
    outcome.encode.length ≤ bytes.length + 5 ∧
      (bytes.length < outcome.encode.length → outcome.errorCode < 0) ∧
      outcome.unknown.length ≤ bytes.length / 2 ∧
      outcome.dataHash.length + outcome.data.length + outcome.error.utf8ByteSize +
        outcome.unknownSize ≤ bytes.length := by
  obtain ⟨kept, keeps⟩ := exists_keeps_of_decode accepted
  obtain ⟨records, message, told, unknown⟩ := decode_ok_iff_tells.1 (decode_without_limit accepted)
  have size := message.length_encode_le told unknown
  have payloads := message.payloads_le told unknown
  have pairs := keeps.two_mul_length_le
  refine ⟨?_, ?_, by omega, payloads⟩
  · split at size <;> omega
  · intro longer
    by_contra positive
    rw [if_neg positive] at size
    omega

/-- The code -1 comes in six bytes and goes out in eleven, past the limit that it has kept to. -/
theorem length_encode_le_of_decode_negative :
    (bounded 6).decode [0x18, 0xff, 0xff, 0xff, 0xff, 0x0f] = .ok { errorCode := -1 } ∧
      (encode { errorCode := -1 }).length = 6 + 5 ∧
      (encode { errorCode := -1 }).length ≤ [0x18, 0xff, 0xff, 0xff, 0xff, 0x0f].length + 5 := by
  have accepted : (bounded 6).decode [0x18, 0xff, 0xff, 0xff, 0xff, 0x0f] =
      .ok { errorCode := -1 } := by
    decide +kernel
  exact ⟨accepted, by decide +kernel, (length_encode_le_of_decode accepted).1⟩

end Preimage.Decoder
