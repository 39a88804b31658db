import Preimage.Proofs.Outcome.Message
import Preimage.Proofs.Wire.Format

/-! Decoding accepts messages and nothing else. A run of records is read up to the end of the input
or to the first place where none stands. -/
namespace Preimage.Outcome.Tag
open Wire
variable {tag : Tag}

/-- Each field reads its own values and no others, a text only where it is well formed. -/
theorem takes_readValue (tag : Tag) :
    (Part.readValue tag).Takes fun bytes part =>
      ∃ value : Value, value.Spells bytes ∧ tag.part? value = some part := by
  cases tag with
  | dataHash | data =>
    refine (Read.takes_then Read.takes_delimited fun _ => Read.takes_pure _).congr ?_
    intro bytes part
    constructor
    · rintro ⟨payload, spelled, rfl⟩
      exact ⟨_, spelled, rfl⟩
    · rintro ⟨value, spelled, found⟩
      cases value <;> cases found
      exact ⟨_, spelled, rfl⟩
  | errorCode =>
    refine (Read.takes_then Read.takes_varint fun _ => Read.takes_pure _).congr ?_
    intro bytes part
    constructor
    · rintro ⟨word, spelled, rfl⟩
      exact ⟨_, .varint spelled, rfl⟩
    · rintro ⟨value, spelled, found⟩
      cases spelled <;> cases found
      exact ⟨_, ‹_›, rfl⟩
  | error =>
    have takes : (Part.readValue Tag.error).Takes fun bytes part => ∃ payload,
        (Value.delimited payload).Spells bytes ∧ payload.toText?.map .error = some part := by
      refine Read.takes_get_bind fun start => Read.takes_then Read.takes_delimited fun payload => ?_
      cases payload.toText? with
      | some text => exact (Read.takes_pure _).congr fun _ _ => by simp [eq_comm]
      | none => exact (Read.takes_throw _).congr fun _ _ => by simp
    apply takes.congr
    intro bytes part
    constructor
    · rintro ⟨payload, spelled, found⟩
      exact ⟨_, spelled, found⟩
    · rintro ⟨value, spelled, found⟩
      cases value
      case delimited payload => exact ⟨payload, spelled, found⟩
      all_goals cases found

theorem checkWireType_eq_ok_iff {key : Key} (known : key.number = tag.number) :
    Part.checkWireType activeSchema key = .ok () ↔ key.wireType = tag.field.kind.wireType := by
  have declared : activeSchema.field? tag.number = some tag.field := by
    rw [activeSchema_eq]
    cases tag <;> rfl
  simp only [Part.checkWireType, known, declared]
  split <;> simp_all

end Preimage.Outcome.Tag

namespace Preimage.Outcome.Part
open Wire

theorem read_eq (schema : Schema) (cursor : Cursor) :
    read schema cursor =
      match Read.key cursor with
      | .error fault next => .error fault next
      | .ok key next =>
        match Tag.ofNumber? key.number with
        | some tag =>
          match checkWireType schema key with
          | .ok () => readValue tag next
          | .error reason => .error (.malformed cursor.offset reason) next
        | none =>
          match Read.skip key.wireType next with
          | .ok _ last => .ok (.unknown ⟨key.number, key.wireType, cursor.upTo last⟩) last
          | .error fault last => .error fault last := by
  change (Read.key >>= _) cursor = _
  simp only [bind, EStateM.bind]
  cases Read.key cursor with
  | error fault next => rfl
  | ok key next =>
    simp only
    cases Tag.ofNumber? key.number with
    | some tag =>
      cases checkWireType schema key with
      | ok => rfl
      | error reason => rfl
    | none =>
      simp only [EStateM.bind]
      cases Read.skip key.wireType next with
      | ok _ last => rfl
      | error fault last => rfl

theorem readAll_eq (schema : Schema) (cursor : Cursor) :
    readAll schema cursor =
      if cursor.rest.isEmpty then ([], none)
      else match read schema cursor with
        | .ok part next => (part :: (readAll schema next).1, (readAll schema next).2)
        | .error fault _ => ([], some fault) := by
  rw [readAll]
  split
  · rfl
  · split
    · rename_i part next done
      simp only [done]
    · rename_i fault last failed
      simp only [failed]

/-- One record is read, whichever it is, and brings its part. -/
theorem takes_read :
    (read activeSchema).Takes fun bytes part =>
      ∃ record : Record, record.raw = bytes ∧ record.part? = some part := by
  constructor
  intro cursor part next
  constructor
  · intro done
    rw [read_eq] at done
    split at done
    · cases done
    · rename_i key after keyed
      obtain ⟨opening, opened, passed⟩ := Read.takes_key.ok_iff.1 keyed
      split at done
      · rename_i tag known
        split at done
        · rename_i checked
          obtain ⟨body, ⟨value, filled, brings⟩, passed'⟩ := (Tag.takes_readValue tag).ok_iff.1 done
          have layout := (Tag.checkWireType_eq_ok_iff (Tag.ofNumber?_eq_some_iff.1 known)).1 checked
          rw [← Tag.wireType_of_part? brings] at layout
          let record : Record := ⟨key.number, value, opening, body, by rwa [← layout], filled⟩
          have brought : record.part? = some part := by
            simp only [Record.part?, record, known, brings]
          exact ⟨_, ⟨record, rfl, brought⟩, passed.trans passed'⟩
        · cases done
      · rename_i unlisted
        split at done
        · rename_i last skipped
          cases done
          obtain ⟨body, ⟨value, layout, filled⟩, passed'⟩ :=
            (Read.takes_skip key.wireType).ok_iff.1 skipped
          let record : Record := ⟨key.number, value, opening, body, by rwa [layout], filled⟩
          have whole := passed.trans passed'
          have brought : record.part? =
              some (.unknown ⟨key.number, key.wireType, cursor.upTo next⟩) := by
            simp only [Record.part?, Record.toUnknown, Record.wireType, Record.raw, record,
              unlisted, layout, whole.upTo]
          exact ⟨_, ⟨record, rfl, brought⟩, whole⟩
        · cases done
  · rintro ⟨_, ⟨record, rfl, brings⟩, passed⟩
    obtain ⟨between, passed', passed''⟩ := Cursor.passes_append.1 passed
    have keyed := Read.takes_key.ok_iff.2 ⟨_, record.opened, passed'⟩
    simp only [read_eq, keyed]
    cases listed : Tag.ofNumber? record.number with
    | some tag =>
      have known := Tag.ofNumber?_eq_some_iff.1 listed
      rw [Record.part?_of_known known] at brings
      have checked : checkWireType activeSchema ⟨record.number, record.value.wireType⟩ = .ok () :=
        (Tag.checkWireType_eq_ok_iff known).2 (Tag.wireType_of_part? brings)
      simp only [checked]
      exact (Tag.takes_readValue tag).ok_iff.2 ⟨_, ⟨_, record.filled, brings⟩, passed''⟩
    | none =>
      simp only [Record.part?, listed] at brings
      cases brings
      have skipped : Read.skip record.value.wireType between = .ok () next :=
        (Read.takes_skip _).ok_iff.2 ⟨_, ⟨_, rfl, record.filled⟩, passed''⟩
      simp only [skipped, passed.upTo]
      rfl

/-- Where a run of records ends: at the end of the input, or at a place where no record stands. -/
def Stops (cursor : Cursor) : Option DecodeError → Prop
  | none => cursor.rest = []
  | some fault => cursor.rest ≠ [] ∧ ∃ last, read activeSchema cursor = .error fault last

variable {records : List Record} {cursor next : Cursor}

theorem readAll_of_stops {fault? : Option DecodeError} (stops : Stops cursor fault?) :
    readAll activeSchema cursor = ([], fault?) := by
  rw [readAll_eq]
  cases fault? with
  | none =>
    have ended : cursor.rest = [] := stops
    simp [ended]
  | some fault =>
    obtain ⟨more, last, failed⟩ := stops
    rw [if_neg (by simpa using more)]
    simp only [failed]

/-- Records that stand first are read, and the rest is read as if it stood alone. -/
theorem readAll_append (admitted : ∀ record ∈ records, record.Admitted)
    (passed : cursor.Passes (records.flatMap Record.raw) next) :
    readAll activeSchema cursor =
      (records.filterMap Record.part? ++ (readAll activeSchema next).1,
        (readAll activeSchema next).2) := by
  induction records generalizing cursor with
  | nil =>
    cases Cursor.passes_nil.1 passed
    rfl
  | cons record records ih =>
    obtain ⟨between, passed, passed'⟩ := Cursor.passes_append.1 passed
    obtain ⟨part, brings⟩ := Record.admitted_iff.1 (admitted record (by simp))
    have done := takes_read.ok_iff.2 ⟨_, ⟨record, rfl, brings⟩, passed⟩
    have more : ¬ cursor.rest.isEmpty = true := by
      have length := record.two_le_length_raw
      rw [passed.rest]
      cases raw : record.raw with
      | nil => simp [raw] at length
      | cons byte bytes => simp
    rw [readAll_eq, if_neg more]
    simp only [done, ih (fun record member => admitted record (by simp [member])) passed',
      List.filterMap_cons, brings, List.cons_append]

/-- Every input begins with a run of records that ends where no more can be read. -/
theorem exists_records (cursor : Cursor) :
    ∃ (records : List Record) (next : Cursor) (fault? : Option DecodeError),
      (∀ record ∈ records, record.Admitted) ∧ cursor.Passes (records.flatMap Record.raw) next ∧
        Stops next fault? := by
  -- Every record leaves less to read, so that the bytes that are left carry the induction.
  induction size : cursor.rest.length using Nat.strongRecOn generalizing cursor with
  | ind size ih =>
    by_cases ended : cursor.rest = []
    · exact ⟨[], cursor, none, by simp, Cursor.passes_nil.2 rfl, ended⟩
    · cases step : read activeSchema cursor with
      | error fault last =>
        exact ⟨[], cursor, some fault, by simp, Cursor.passes_nil.2 rfl, ended, last, step⟩
      | ok part between =>
        obtain ⟨_, ⟨record, rfl, brings⟩, passed⟩ := takes_read.ok_iff.1 step
        obtain ⟨records, next, fault?, admitted, passed', stops⟩ :=
          ih between.rest.length (size ▸ read_shortens step) between rfl
        have admits : record.Admitted := Record.admitted_iff.2 ⟨part, brings⟩
        exact ⟨record :: records, next, fault?, by simpa using ⟨admits, admitted⟩,
          passed.trans passed', stops⟩

/-- The whole reading is settled by the run of records and by how it ends. -/
theorem readAll_of_records {fault? : Option DecodeError}
    (admitted : ∀ record ∈ records, record.Admitted)
    (passed : cursor.Passes (records.flatMap Record.raw) next) (stops : Stops next fault?) :
    readAll activeSchema cursor = (records.filterMap Record.part?, fault?) := by
  rw [readAll_append admitted passed, readAll_of_stops stops, List.append_nil]

end Preimage.Outcome.Part

namespace Preimage.Decoder
open Wire Outcome
variable {policy : UnknownPolicy} {bytes : Bytes} {outcome : Outcome}

theorem decode_of_records {records : List Record} {next : Cursor} {fault? : Option DecodeError}
    (admitted : ∀ record ∈ records, record.Admitted)
    (passed : (Cursor.ofBytes bytes).Passes (records.flatMap Record.raw) next)
    (stops : Part.Stops next fault?) :
    decode { policy } bytes =
      match fault? with
      | none => .ok (.ofParts policy (records.filterMap Record.part?))
      | some fault => .error fault := by
  simp only [decode, decodeUnder, oversize?, Part.readAll_of_records admitted passed stops]
  cases fault? with
  | none => rfl
  | some fault => rfl

theorem decode_ok_iff_message :
    decode { policy } bytes = .ok outcome ↔
      ∃ records, Message bytes records ∧
        outcome = .ofParts policy (records.filterMap Record.part?) := by
  constructor
  · intro done
    obtain ⟨records, next, fault?, admitted, passed, stops⟩ :=
      Part.exists_records (Cursor.ofBytes bytes)
    rw [decode_of_records admitted passed stops] at done
    cases fault? with
    | none =>
      cases done
      have ended : next.rest = [] := stops
      refine ⟨records, ⟨?_, admitted⟩, rfl⟩
      simpa [Cursor.ofBytes, ended] using passed.rest
    | some fault => cases done
  · rintro ⟨records, ⟨rfl, admitted⟩, rfl⟩
    have passed : (Cursor.ofBytes (records.flatMap Record.raw)).Passes (records.flatMap Record.raw)
        ⟨(records.flatMap Record.raw).length, []⟩ := by
      constructor <;> simp [Cursor.ofBytes]
    have stops : Part.Stops ⟨(records.flatMap Record.raw).length, []⟩ none := rfl
    rw [decode_of_records admitted passed stops]

/-- An outcome is accepted when it is what a message says. -/
theorem decode_ok_iff_tells :
    decode { policy } bytes = .ok outcome ↔
      ∃ records, Message bytes records ∧ Tells records outcome ∧
        outcome.unknown = unknownOf policy records := by
  rw [decode_ok_iff_message]
  constructor
  · rintro ⟨records, message, rfl⟩
    exact ⟨records, message, tells_ofParts policy message.admitted,
      unknown_ofParts policy message.admitted⟩
  · rintro ⟨records, message, told, unknown⟩
    refine ⟨records, message, told.unique (tells_ofParts policy message.admitted) ?_⟩
    rw [unknown, unknown_ofParts policy message.admitted]

/-- A limit is looked at first, and says nothing on what is within it. -/
theorem decode_eq (decoder : Decoder) (bytes : Bytes) :
    decoder.decode bytes = match decoder.oversize? bytes.length with
      | some fault => .error fault
      | none => decode { policy := decoder.policy } bytes := by
  simp only [decode, decodeUnder]
  cases decoder.oversize? bytes.length <;> rfl

theorem decode_without_limit {decoder : Decoder} (accepted : decoder.decode bytes = .ok outcome) :
    decode { policy := decoder.policy } bytes = .ok outcome := by
  rw [decode_eq] at accepted
  split at accepted
  · cases accepted
  · exact accepted

/-- Decoding accepts the messages of the grammar and nothing else. A message is a run of records in
one way only, and the outcome is what they say. -/
theorem decode_eq_ok_iff (policy : UnknownPolicy) (bytes : Bytes) :
    ((∃ outcome, decode { policy } bytes = .ok outcome) ↔ ∃! records, Message bytes records) ∧
      ∀ outcome, decode { policy } bytes = .ok outcome ↔
        ∃ records, Message bytes records ∧ Tells records outcome ∧
          outcome.unknown = unknownOf policy records := by
  refine ⟨⟨?_, ?_⟩, fun outcome => decode_ok_iff_tells⟩
  · rintro ⟨outcome, done⟩
    obtain ⟨records, message, _⟩ := decode_ok_iff_message.1 done
    exact ⟨records, message, fun _ message' => message'.unique message⟩
  · rintro ⟨records, message, _⟩
    exact ⟨_, decode_ok_iff_message.2 ⟨records, message, rfl⟩⟩

/-- A later record overrides an earlier one, also where it is empty. -/
example : plain.decode [0x0a, 0x01, 0xaa, 0x18, 0x07, 0x0a, 0x00] = .ok { errorCode := 7 } := by
  decide +kernel

end Preimage.Decoder
