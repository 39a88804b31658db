import Mathlib.Data.List.Induction
import Preimage.Outcome.Coding
import Preimage.Proofs.Wire.Grammar

/-! What messages say. A message is made of records of which those of known fields have the layout
that the field calls for, and texts are well formed, also where a later record overrides them. Each
known field is told by its last record, whatever that is. -/
namespace Preimage.Wire.Record
variable {number : UInt32} {record : Record} {records front back : List Record}

/-- The value of the last record of a field. -/
def lastValue? (number : UInt32) (records : List Record) : Option Value :=
  ((records.filter fun record => record.number == number).getLast?).map value

/-- Empty where there is no record of the field. -/
def lastPayload (number : UInt32) (records : List Record) : Bytes :=
  (lastValue? number records).elim [] Value.payload

/-- Zero where there is no record of the field. -/
def lastWord (number : UInt32) (records : List Record) : UInt64 :=
  (lastValue? number records).elim 0 Value.word

def isKnown (record : Record) : Bool :=
  decide (1 ≤ record.number.toNat ∧ record.number.toNat ≤ 4)

/-- The records of other fields than the known ones, in order. -/
def foreign (records : List Record) : List Record := records.filter fun record => !record.isKnown

def toUnknown (record : Record) : UnknownField := ⟨record.number, record.wireType, record.raw⟩

/-- What the known fields call for. -/
def Admitted (record : Record) : Prop :=
  (record.number = 1 ∨ record.number = 2 ∨ record.number = 4 → record.wireType = .delimited) ∧
    (record.number = 3 → record.wireType = .varint) ∧
    (record.number = 4 → ∃ text, record.value.payload = Bytes.ofText text)

theorem lastValue?_append :
    lastValue? number (front ++ back) = (lastValue? number back).or (lastValue? number front) := by
  simp only [lastValue?, List.filter_append, List.getLast?_append, Option.map_or]

theorem lastValue?_singleton :
    lastValue? number [record] = if record.number = number then some record.value else none := by
  by_cases same : record.number = number <;> simp [lastValue?, same]

theorem lastPayload_append_singleton :
    lastPayload number (records ++ [record]) =
      if record.number = number then record.value.payload else lastPayload number records := by
  by_cases same : record.number = number <;>
    simp [lastPayload, lastValue?_append, lastValue?_singleton, same]

theorem lastWord_append_singleton :
    lastWord number (records ++ [record]) =
      if record.number = number then record.value.word else lastWord number records := by
  by_cases same : record.number = number <;>
    simp [lastWord, lastValue?_append, lastValue?_singleton, same]

theorem isKnown_eq_false_iff :
    record.isKnown = false ↔ ¬ (1 ≤ record.number.toNat ∧ record.number.toNat ≤ 4) :=
  decide_eq_false_iff_not

theorem mem_foreign : record ∈ foreign records ↔ record ∈ records ∧ record.isKnown = false := by
  simp [foreign]

theorem foreign_append (known : ∀ record ∈ front, record.isKnown = true)
    (unlisted : ∀ record ∈ back, record.isKnown = false) : foreign (front ++ back) = back := by
  have none : foreign front = [] := List.filter_eq_nil_iff.2 fun record member => by
    simp [known record member]
  have all : foreign back = back := List.filter_eq_self.2 fun record member => by
    simp [unlisted record member]
  rw [foreign] at none all ⊢
  rw [List.filter_append, none, all, List.nil_append]

theorem lastValue?_eq_none (absent : ∀ record ∈ records, record.number ≠ number) :
    lastValue? number records = none := by
  have none : records.filter (fun record => record.number == number) = [] := by
    simpa [List.filter_eq_nil_iff] using absent
  simp [lastValue?, none]

end Preimage.Wire.Record

namespace Preimage.Outcome
open Wire

structure Message (bytes : Bytes) (records : List Record) : Prop where
  whole : bytes = records.flatMap Record.raw
  admitted : ∀ record ∈ records, record.Admitted

theorem Message.unique {bytes : Bytes} {records records' : List Record}
    (message : Message bytes records) (message' : Message bytes records') : records = records' :=
  Record.flatMap_raw_injective (message.whole.symm.trans message'.whole)

/-- The low half of a word, as a number with a sign. -/
theorem toInt_int32OfWord (word : UInt64) :
    (int32OfWord word).toInt = Int.bmod word.toNat (2 ^ 32) := by
  have low : (int32OfWord word).toInt = word.toUInt32.toBitVec.toInt := rfl
  have half : word.toUInt32.toBitVec.toNat = word.toNat % 2 ^ 32 := by simp
  rw [low, BitVec.toInt_eq_toNat_bmod, half, Int.natCast_emod]
  exact Int.emod_bmod _ _

/-- What the known fields of an outcome have to be after these records. -/
structure Tells (records : List Record) (outcome : Outcome) : Prop where
  dataHash : outcome.dataHash = Record.lastPayload 1 records
  data : outcome.data = Record.lastPayload 2 records
  errorCode : outcome.errorCode.toInt = Int.bmod (Record.lastWord 3 records).toNat (2 ^ 32)
  error : Bytes.ofText outcome.error = Record.lastPayload 4 records

def unknownOf (policy : UnknownPolicy) (records : List Record) : List UnknownField :=
  match policy with
  | .discard => []
  | .retain => (Record.foreign records).map Record.toUnknown

namespace Tag
variable {number : UInt32} {tag : Tag} {value : Value} {part : Part}

theorem ofNumber?_eq_some_iff : ofNumber? number = some tag ↔ number = tag.number := by
  constructor
  · intro found
    have held := List.find?_some (show List.find? _ all = some tag from found)
    exact (beq_iff_eq.1 held).symm
  · rintro rfl
    exact ofNumber?_number tag

theorem ofNumber?_eq_none_iff :
    ofNumber? number = none ↔ ¬ (1 ≤ number.toNat ∧ number.toNat ≤ 4) := by
  simp only [ofNumber?, all, List.find?_eq_none, List.mem_cons, List.not_mem_nil, or_false,
    forall_eq_or_imp, forall_eq, beq_iff_eq, Tag.number, ← UInt32.toNat_inj]
  simp only [UInt32.toNat_ofNat, Nat.reducePow, Nat.reduceMod]
  omega

/-- The part that a value brings to the field, if it is one that the field can have. -/
def part? : Tag → Value → Option Part
  | .dataHash, .delimited payload => some (.dataHash payload)
  | .data, .delimited payload => some (.data payload)
  | .errorCode, .varint word => some (.errorCode (int32OfWord word))
  | .error, .delimited payload => payload.toText?.map .error
  | _, _ => none

/-- The values that bring a part are those of the layout, and among texts those that are one. -/
theorem part?_cases (brings : tag.part? value = some part) :
    (∃ payload, tag = .dataHash ∧ value = .delimited payload ∧ part = .dataHash payload) ∨
      (∃ payload, tag = .data ∧ value = .delimited payload ∧ part = .data payload) ∨
      (∃ word, tag = .errorCode ∧ value = .varint word ∧ part = .errorCode (int32OfWord word)) ∨
      ∃ text, tag = .error ∧ value = .delimited (.ofText text) ∧ part = .error text := by
  unfold part? at brings
  split at brings
  · rename_i payload
    cases brings
    exact .inl ⟨payload, rfl, rfl, rfl⟩
  · rename_i payload
    cases brings
    exact .inr (.inl ⟨payload, rfl, rfl, rfl⟩)
  · rename_i word
    cases brings
    exact .inr (.inr (.inl ⟨word, rfl, rfl, rfl⟩))
  · rename_i payload
    obtain ⟨text, read, rfl⟩ := Option.map_eq_some_iff.1 brings
    rw [Bytes.toText?_eq_some_iff.1 read]
    exact .inr (.inr (.inr ⟨text, rfl, rfl, rfl⟩))
  · cases brings

theorem wireType_of_part? (brings : tag.part? value = some part) :
    value.wireType = tag.field.kind.wireType := by
  rcases part?_cases brings with ⟨_, rfl, rfl, _⟩ | ⟨_, rfl, rfl, _⟩ | ⟨_, rfl, rfl, _⟩ |
    ⟨_, rfl, rfl, _⟩ <;> rfl

end Tag
end Preimage.Outcome

namespace Preimage.Wire.Record
variable {record : Record} {part : Outcome.Part}
open Outcome

def part? (record : Record) : Option Part :=
  match Tag.ofNumber? record.number with
  | some tag => tag.part? record.value
  | none => some (.unknown record.toUnknown)

theorem isKnown_iff : record.isKnown = true ↔ ∃ tag : Tag, record.number = tag.number := by
  simp only [← Tag.ofNumber?_eq_some_iff, ← Option.isSome_iff_exists, isKnown, decide_eq_true_eq]
  rw [← not_iff_not, ← Tag.ofNumber?_eq_none_iff]
  simp

theorem lastValue?_of_foreign {records : List Record}
    (foreign : ∀ record ∈ records, record.isKnown = false) (tag : Tag) :
    lastValue? tag.number records = none := by
  refine lastValue?_eq_none fun record member number => ?_
  have known := isKnown_iff.2 ⟨tag, number⟩
  rw [foreign record member] at known
  cases known

theorem part?_of_known {tag : Tag} (known : record.number = tag.number) :
    record.part? = tag.part? record.value := by
  simp only [part?, Tag.ofNumber?_eq_some_iff.2 known]

theorem part?_of_foreign (foreign : record.isKnown = false) :
    record.part? = some (.unknown record.toUnknown) := by
  have unlisted : Tag.ofNumber? record.number = none :=
    Tag.ofNumber?_eq_none_iff.2 (isKnown_eq_false_iff.1 foreign)
  simp only [part?, unlisted]

/-- The records that are admitted are those that bring a part. -/
theorem admitted_iff : record.Admitted ↔ ∃ part, record.part? = some part := by
  cases known : record.isKnown with
  | true =>
    obtain ⟨tag, number⟩ := isKnown_iff.1 known
    rw [part?_of_known number]
    simp only [Admitted, number, wireType]
    cases tag <;> cases record.value <;>
      simp [Tag.part?, Tag.number, Value.wireType, Value.payload, Bytes.toText?_eq_some_iff]
  | false =>
    have foreign := isKnown_eq_false_iff.1 known
    rw [part?_of_foreign known]
    refine ⟨fun _ => ⟨_, rfl⟩, fun _ => ⟨?_, ?_, ?_⟩⟩
    · rintro (number | number | number) <;> simp [number] at foreign
    · intro number
      simp [number] at foreign
    · intro number
      simp [number] at foreign

end Preimage.Wire.Record

namespace Preimage.Outcome
open Wire
variable {record : Record} {records : List Record} {outcome outcome' : Outcome} {part : Part}

/-- The fields that a message tells leave nothing open but what is unknown. -/
theorem Tells.unique (told : Tells records outcome) (told' : Tells records outcome')
    (same : outcome.unknown = outcome'.unknown) : outcome = outcome' := by
  have code := Int32.toInt_inj.1 (told.errorCode.trans told'.errorCode.symm)
  have text := congrArg Bytes.toText? (told.error.trans told'.error.symm)
  simp only [Bytes.toText?_ofText, Option.some.injEq] at text
  have hash := told.dataHash.trans told'.dataHash.symm
  have data := told.data.trans told'.data.symm
  cases outcome
  cases outcome'
  simp_all

theorem tells_append_singleton :
    Tells (records ++ [record]) outcome ↔
      outcome.dataHash =
          (if record.number = 1 then record.value.payload else Record.lastPayload 1 records) ∧
        outcome.data =
          (if record.number = 2 then record.value.payload else Record.lastPayload 2 records) ∧
        outcome.errorCode.toInt = Int.bmod
          (if record.number = 3 then record.value.word else Record.lastWord 3 records).toNat
          (2 ^ 32) ∧
        Bytes.ofText outcome.error =
          (if record.number = 4 then record.value.payload else Record.lastPayload 4 records) := by
  simp only [← Record.lastPayload_append_singleton, ← Record.lastWord_append_singleton]
  constructor
  · rintro ⟨dataHash, data, errorCode, error⟩
    exact ⟨dataHash, data, errorCode, error⟩
  · rintro ⟨dataHash, data, errorCode, error⟩
    exact ⟨dataHash, data, errorCode, error⟩

/-- One more record overrides its own field and no other. -/
theorem Tells.set (told : Tells records outcome) (brings : record.part? = some part) :
    Tells (records ++ [record]) (outcome.set part) := by
  rw [tells_append_singleton]
  cases known : record.isKnown with
  | false =>
    have foreign := Record.isKnown_eq_false_iff.1 known
    rw [Record.part?_of_foreign known] at brings
    cases brings
    have other (number : UInt32) (listed : 1 ≤ number.toNat ∧ number.toNat ≤ 4) :
        record.number ≠ number := by
      rintro rfl
      exact foreign listed
    rw [if_neg (other 1 (by decide)), if_neg (other 2 (by decide)), if_neg (other 3 (by decide)),
      if_neg (other 4 (by decide))]
    exact ⟨told.dataHash, told.data, told.errorCode, told.error⟩
  | true =>
    obtain ⟨tag, number⟩ := Record.isKnown_iff.1 known
    rw [Record.part?_of_known number] at brings
    rw [number]
    rcases Tag.part?_cases brings with ⟨payload, rfl, value, rfl⟩ | ⟨payload, rfl, value, rfl⟩ |
      ⟨word, rfl, value, rfl⟩ | ⟨text, rfl, value, rfl⟩
    · exact ⟨by rw [value]; rfl, told.data, told.errorCode, told.error⟩
    · exact ⟨told.dataHash, by rw [value]; rfl, told.errorCode, told.error⟩
    · exact ⟨told.dataHash, told.data, by rw [value]; exact toInt_int32OfWord word, told.error⟩
    · exact ⟨told.dataHash, told.data, told.errorCode, by rw [value]; rfl⟩

theorem tells_parts (admitted : ∀ record ∈ records, record.Admitted) :
    Tells records ((records.filterMap Record.part?).foldl set {}) := by
  induction records using List.reverseRecOn with
  | nil => exact ⟨rfl, rfl, by decide, rfl⟩
  | append_singleton records record ih =>
    obtain ⟨part, brings⟩ := Record.admitted_iff.1 (admitted record (by simp))
    have told := ih fun record member => admitted record (by simp [member])
    simpa [brings] using told.set brings

theorem unknown?_of_part? (brings : record.part? = some part) :
    part.unknown? = if record.isKnown then none else some record.toUnknown := by
  cases known : record.isKnown with
  | false =>
    rw [Record.part?_of_foreign known] at brings
    cases brings
    rfl
  | true =>
    obtain ⟨tag, number⟩ := Record.isKnown_iff.1 known
    rw [Record.part?_of_known number] at brings
    rcases Tag.part?_cases brings with ⟨_, _, _, rfl⟩ | ⟨_, _, _, rfl⟩ | ⟨_, _, _, rfl⟩ |
      ⟨_, _, _, rfl⟩ <;> rfl

theorem unknown_ofParts (policy : UnknownPolicy)
    (admitted : ∀ record ∈ records, record.Admitted) :
    (ofParts policy (records.filterMap Record.part?)).unknown = unknownOf policy records := by
  cases policy with
  | discard => rfl
  | retain =>
    simp only [ofParts, unknownOf, Record.foreign]
    induction records with
    | nil => rfl
    | cons record records ih =>
      obtain ⟨part, brings⟩ := Record.admitted_iff.1 (admitted record (by simp))
      have rest := ih fun record member => admitted record (by simp [member])
      simp only [List.filterMap_cons, brings, unknown?_of_part? brings, rest]
      cases known : record.isKnown <;> simp [known]

theorem tells_ofParts (policy : UnknownPolicy) (admitted : ∀ record ∈ records, record.Admitted) :
    Tells records (ofParts policy (records.filterMap Record.part?)) := by
  obtain ⟨dataHash, data, errorCode, error⟩ := tells_parts admitted
  exact ⟨dataHash, data, errorCode, error⟩

end Preimage.Outcome
