import Preimage.Outcome.Coding
import Preimage.Proofs.Outcome.Acceptance

/-! The written form of an outcome is a message: at most one record of each known field, shortest
spellings throughout, and then what was retained, which has to be whole records of fields that the
schema does not list. Such an outcome is read back from its written form. -/
namespace Preimage.Wire

/-- No value carries more than its length can count. -/
theorem Value.Spells.length_payload_lt {bytes : Bytes} {value : Value}
    (spelled : value.Spells bytes) : value.payload.length < 2 ^ 64 := by
  cases spelled with
  | varint => simp [Value.payload]
  | fixed64 sized => simp [Value.payload, sized]
  | delimited spelled counted =>
    simp only [Value.payload, ← counted]
    exact UInt64.toNat_lt _
  | fixed32 sized => simp [Value.payload, sized]

namespace Record

def ofPayload (number : UInt32) (listed : 1 ≤ number.toNat ∧ number.toNat < 2 ^ 29)
    (payload : Bytes) (fits : payload.length < 2 ^ 64) : Record where
  number := number
  value := .delimited payload
  opening := Key.encode ⟨number, .delimited⟩
  body := encodeDelimited payload
  opened := Key.spells_encode listed.1 listed.2
  filled := spells_encodeDelimited fits

def ofInt32 (number : UInt32) (listed : 1 ≤ number.toNat ∧ number.toNat < 2 ^ 29)
    (value : Int32) : Record where
  number := number
  value := .varint (wordOfInt32 value)
  opening := Key.encode ⟨number, .varint⟩
  body := Varint.encode (wordOfInt32 value)
  opened := Key.spells_encode listed.1 listed.2
  filled := .varint (Varint.spells_encode _)

theorem length_lastPayload_lt (number : UInt32) (records : List Record) :
    (lastPayload number records).length < 2 ^ 64 := by
  simp only [lastPayload, lastValue?]
  cases (records.filter fun record => record.number == number).getLast? with
  | none => simp
  | some record => exact record.filled.length_payload_lt

end Record
end Preimage.Wire

namespace Preimage.Outcome
open Wire
open Bytes (length_ofText)

/-- The sizes that a 64-bit machine can hold. -/
structure Sized (outcome : Outcome) : Prop where
  dataHash : outcome.dataHash.length < 2 ^ 64
  data : outcome.data.length < 2 ^ 64
  error : outcome.error.utf8ByteSize < 2 ^ 64

structure Keeps (outcome : Outcome) (kept : List Record) : Prop where
  foreign : ∀ record ∈ kept, record.isKnown = false
  unknown : outcome.unknown = kept.map Record.toUnknown

theorem Tag.listed (tag : Tag) : 1 ≤ tag.number.toNat ∧ tag.number.toNat < 2 ^ 29 := by
  cases tag <;> decide

def bytesRecords (tag : Tag) (payload : Bytes) (fits : payload.length < 2 ^ 64) : List Record :=
  if payload.isEmpty then [] else [Record.ofPayload tag.number tag.listed payload fits]

def codeRecords (code : Int32) : List Record :=
  if code = 0 then [] else [Record.ofInt32 Tag.errorCode.number Tag.errorCode.listed code]

def knownRecords (outcome : Outcome) (sized : outcome.Sized) : List Record :=
  bytesRecords .dataHash outcome.dataHash sized.dataHash ++
    bytesRecords .data outcome.data sized.data ++ codeRecords outcome.errorCode ++
    bytesRecords .error (.ofText outcome.error) (length_ofText outcome.error ▸ sized.error)

section
variable {tag : Tag} {payload : Bytes} {code : Int32} {fits : payload.length < 2 ^ 64}

theorem flatMap_bytesRecords :
    (bytesRecords tag payload fits).flatMap Record.raw = encodeBytes tag payload := by
  simp only [bytesRecords, encodeBytes]
  split
  · rfl
  · simp [Record.raw, Record.ofPayload, encodeBytesField]

theorem flatMap_codeRecords : (codeRecords code).flatMap Record.raw = encodeCode code := by
  simp only [codeRecords, encodeCode]
  split
  · rfl
  · simp [Record.raw, Record.ofInt32, encodeInt32Field]

theorem lastValue?_bytesRecords (number : UInt32) :
    Record.lastValue? number (bytesRecords tag payload fits) =
      if tag.number = number ∧ payload ≠ [] then some (.delimited payload) else none := by
  simp only [bytesRecords]
  by_cases empty : payload = []
  · simp [empty, Record.lastValue?]
  · rw [if_neg (by simpa using empty), Record.lastValue?_singleton]
    by_cases same : tag.number = number <;> simp [Record.ofPayload, empty, same]

theorem lastValue?_codeRecords (number : UInt32) :
    Record.lastValue? number (codeRecords code) =
      if Tag.errorCode.number = number ∧ code ≠ 0 then some (.varint (wordOfInt32 code))
      else none := by
  simp only [codeRecords]
  by_cases zero : code = 0
  · simp [zero, Record.lastValue?]
  · rw [if_neg zero, Record.lastValue?_singleton]
    by_cases same : Tag.errorCode.number = number <;> simp [Record.ofInt32, zero, same]

theorem mem_bytesRecords {record : Record} :
    record ∈ bytesRecords tag payload fits ↔
      payload ≠ [] ∧ record = Record.ofPayload tag.number tag.listed payload fits := by
  simp only [bytesRecords]
  by_cases empty : payload = [] <;> simp [empty]

theorem mem_codeRecords {record : Record} :
    record ∈ codeRecords code ↔
      code ≠ 0 ∧ record = Record.ofInt32 Tag.errorCode.number Tag.errorCode.listed code := by
  simp only [codeRecords]
  by_cases zero : code = 0 <;> simp [zero]

end

section
variable {outcome : Outcome} {kept : List Record}

/-- Each of the written records is one that the field of its tag takes. -/
theorem part?_knownRecords (sized : outcome.Sized) :
    ∀ record ∈ knownRecords outcome sized, ∃ (tag : Tag) (part : Part),
      record.number = tag.number ∧ tag.part? record.value = some part := by
  intro record member
  simp only [knownRecords, List.mem_append] at member
  rcases member with ((member | member) | member) | member
  · obtain ⟨_, rfl⟩ := mem_bytesRecords.1 member
    exact ⟨.dataHash, _, rfl, rfl⟩
  · obtain ⟨_, rfl⟩ := mem_bytesRecords.1 member
    exact ⟨.data, _, rfl, rfl⟩
  · obtain ⟨_, rfl⟩ := mem_codeRecords.1 member
    exact ⟨.errorCode, _, rfl, rfl⟩
  · obtain ⟨_, rfl⟩ := mem_bytesRecords.1 member
    exact ⟨.error, .error outcome.error, rfl, by
      simp [Record.ofPayload, Tag.part?, Bytes.toText?_ofText]⟩

theorem isKnown_knownRecords (sized : outcome.Sized) :
    ∀ record ∈ knownRecords outcome sized, record.isKnown = true := by
  intro record member
  obtain ⟨tag, part, number, _⟩ := part?_knownRecords sized record member
  exact Record.isKnown_iff.2 ⟨tag, number⟩

def written? (outcome : Outcome) : Tag → Option Value
  | .dataHash => if outcome.dataHash = [] then none else some (.delimited outcome.dataHash)
  | .data => if outcome.data = [] then none else some (.delimited outcome.data)
  | .errorCode =>
    if outcome.errorCode = 0 then none else some (.varint (wordOfInt32 outcome.errorCode))
  | .error =>
    if Bytes.ofText outcome.error = [] then none
    else some (.delimited (.ofText outcome.error))

theorem lastValue?_knownRecords (sized : outcome.Sized) (tag : Tag) :
    Record.lastValue? tag.number (knownRecords outcome sized) = outcome.written? tag := by
  simp only [knownRecords, Record.lastValue?_append, lastValue?_bytesRecords,
    lastValue?_codeRecords]
  cases tag <;> simp [Tag.number, written?]

theorem lastValue?_encode (sized : outcome.Sized) (keeps : outcome.Keeps kept) (tag : Tag) :
    Record.lastValue? tag.number (knownRecords outcome sized ++ kept) = outcome.written? tag := by
  rw [Record.lastValue?_append, Record.lastValue?_of_foreign keeps.foreign, Option.none_or,
    lastValue?_knownRecords]

theorem tells_encode (sized : outcome.Sized) (keeps : outcome.Keeps kept) :
    Tells (knownRecords outcome sized ++ kept) outcome := by
  have last := lastValue?_encode sized keeps
  constructor
  · rw [Record.lastPayload, show (1 : UInt32) = Tag.dataHash.number from rfl, last, written?]
    by_cases empty : outcome.dataHash = [] <;> simp [empty, Value.payload]
  · rw [Record.lastPayload, show (2 : UInt32) = Tag.data.number from rfl, last, written?]
    by_cases empty : outcome.data = [] <;> simp [empty, Value.payload]
  · rw [Record.lastWord, show (3 : UInt32) = Tag.errorCode.number from rfl, last, written?]
    by_cases zero : outcome.errorCode = 0
    · rw [if_pos zero, zero]
      decide
    · rw [if_neg zero, Option.elim_some, Value.word, ← toInt_int32OfWord,
        int32OfWord_wordOfInt32]
  · rw [Record.lastPayload, show (4 : UInt32) = Tag.error.number from rfl, last, written?]
    by_cases empty : Bytes.ofText outcome.error = [] <;> simp [empty, Value.payload]

theorem Keeps.flatMap_raw (keeps : outcome.Keeps kept) :
    outcome.unknown.flatMap UnknownField.raw = kept.flatMap Record.raw := by
  rw [keeps.unknown, List.flatMap_map]
  rfl

theorem encode_eq_flatMap (sized : outcome.Sized) (keeps : outcome.Keeps kept) :
    outcome.encode = (knownRecords outcome sized ++ kept).flatMap Record.raw := by
  simp only [encode, knownRecords, List.flatMap_append, flatMap_bytesRecords,
    flatMap_codeRecords, keeps.flatMap_raw]

theorem message_encode (sized : outcome.Sized) (keeps : outcome.Keeps kept) :
    Message outcome.encode (knownRecords outcome sized ++ kept) := by
  refine ⟨encode_eq_flatMap sized keeps, fun record member => Record.admitted_iff.2 ?_⟩
  rcases List.mem_append.1 member with member | member
  · obtain ⟨tag, part, number, brings⟩ := part?_knownRecords sized record member
    exact ⟨part, by rw [Record.part?_of_known number, brings]⟩
  · exact ⟨_, Record.part?_of_foreign (keeps.foreign record member)⟩

theorem foreign_encode (sized : outcome.Sized) (keeps : outcome.Keeps kept) :
    Record.foreign (knownRecords outcome sized ++ kept) = kept :=
  Record.foreign_append (isKnown_knownRecords sized) keeps.foreign

/-- The written form is read back, less what the policy discards. -/
theorem decode_encode_of_keeps (policy : UnknownPolicy) (sized : outcome.Sized)
    (keeps : outcome.Keeps kept) :
    Decoder.decode { policy } outcome.encode =
      .ok { outcome with
        unknown := match policy with
          | .discard => []
          | .retain => outcome.unknown } := by
  refine Decoder.decode_ok_iff_tells.2 ⟨_, message_encode sized keeps, ?_, ?_⟩
  · obtain ⟨dataHash, data, errorCode, error⟩ := tells_encode sized keeps
    exact ⟨dataHash, data, errorCode, error⟩
  · cases policy with
    | discard => rfl
    | retain => simp only [unknownOf, foreign_encode sized keeps, keeps.unknown]

/-- What a message tells has sizes that its own lengths could count. -/
theorem Tells.sized {records : List Record} (told : Tells records outcome) : outcome.Sized where
  dataHash := told.dataHash ▸ Record.length_lastPayload_lt 1 records
  data := told.data ▸ Record.length_lastPayload_lt 2 records
  error := by
    rw [← length_ofText, told.error]
    exact Record.length_lastPayload_lt 4 records

/-- What was retained from a message are its own records of other fields. -/
theorem keeps_of_retain {records : List Record}
    (unknown : outcome.unknown = unknownOf .retain records) :
    outcome.Keeps (Record.foreign records) :=
  ⟨fun _ member => (Record.mem_foreign.1 member).2, unknown⟩

theorem keeps_nil (none : outcome.unknown = []) : outcome.Keeps [] := ⟨by simp, none⟩

end
end Preimage.Outcome
