import Preimage.Proofs.Outcome.Acceptance
import Preimage.Proofs.Wire.Relocation

/-! Messages one after the other. The later one tells a field anew when it has a record of it, also
one that is empty or zero. A fault behind a message is the fault that the bytes have by themselves,
only further on. -/
namespace Preimage.Wire.Record
variable {α : Type} {number : UInt32} {front back : List Record}

/-- Whether there is a record of the field, whatever its value. -/
def occurs (number : UInt32) (records : List Record) : Bool :=
  records.any fun record => record.number == number

theorem isSome_lastValue? (number : UInt32) (records : List Record) :
    (lastValue? number records).isSome = occurs number records := by
  rw [Bool.eq_iff_iff]
  simp [lastValue?, occurs]

theorem elim_lastValue?_append {default : α} {tell : Value → α} :
    (lastValue? number (front ++ back)).elim default tell =
      if occurs number back then (lastValue? number back).elim default tell
      else (lastValue? number front).elim default tell := by
  rw [lastValue?_append, ← isSome_lastValue?]
  cases lastValue? number back with
  | none => rfl
  | some value => rfl

theorem lastPayload_append :
    lastPayload number (front ++ back) =
      if occurs number back then lastPayload number back else lastPayload number front :=
  elim_lastValue?_append

theorem lastWord_append :
    lastWord number (front ++ back) =
      if occurs number back then lastWord number back else lastWord number front :=
  elim_lastValue?_append

end Preimage.Wire.Record

namespace Preimage.Outcome
open Wire
variable {first second : Outcome} {bytes bytes' : Bytes} {front back : List Record}

/-- The later outcome over the earlier one, where `records` are those of the later message. -/
def overlay (first second : Outcome) (records : List Record) : Outcome where
  dataHash := if Record.occurs 1 records then second.dataHash else first.dataHash
  data := if Record.occurs 2 records then second.data else first.data
  errorCode := if Record.occurs 3 records then second.errorCode else first.errorCode
  error := if Record.occurs 4 records then second.error else first.error
  unknown := first.unknown ++ second.unknown

theorem Message.append (message : Message bytes front) (message' : Message bytes' back) :
    Message (bytes ++ bytes') (front ++ back) :=
  ⟨by rw [message.whole, message'.whole, List.flatMap_append],
    List.forall_mem_append.2 ⟨message.admitted, message'.admitted⟩⟩

theorem Tells.append (told : Tells front first) (told' : Tells back second) :
    Tells (front ++ back) (first.overlay second back) := by
  constructor
  · simp only [overlay, Record.lastPayload_append, told.dataHash, told'.dataHash]
  · simp only [overlay, Record.lastPayload_append, told.data, told'.data]
  · simp only [overlay, Record.lastWord_append]
    split
    · exact told'.errorCode
    · exact told.errorCode
  · simp only [overlay, Record.lastPayload_append]
    split
    · exact told'.error
    · exact told.error

theorem unknownOf_append (policy : UnknownPolicy) :
    unknownOf policy (front ++ back) = unknownOf policy front ++ unknownOf policy back := by
  cases policy with
  | discard => rfl
  | retain => simp only [unknownOf, Record.foreign, List.filter_append, List.map_append]

namespace Part
variable {count : Nat}

theorem relocates_readValue (tag : Tag) :
    Read.Relocates count (readValue tag) (readValue tag) := by
  cases tag with
  | dataHash | data =>
    exact Read.relocates_bind Read.relocates_delimited fun _ => Read.relocates_pure _
  | errorCode => exact Read.relocates_bind Read.relocates_varint fun _ => Read.relocates_pure _
  | error =>
    refine Read.relocates_get_bind fun start =>
      Read.relocates_bind Read.relocates_delimited fun payload => ?_
    cases payload.toText? with
    | some text => exact Read.relocates_pure _
    | none => exact Read.relocates_throw _

theorem relocates_read (schema : Schema) : Read.Relocates count (read schema) (read schema) := by
  refine Read.relocates_get_bind fun start => Read.relocates_bind Read.relocates_key fun key => ?_
  cases Tag.ofNumber? key.number with
  | some tag =>
    cases checkWireType schema key with
    | ok => exact relocates_readValue tag
    | error reason => exact Read.relocates_throw _
  | none =>
    refine Read.relocates_bind (Read.relocates_skip key.wireType) fun _ =>
      Read.relocates_get_bind fun last => ?_
    rw [Cursor.upTo_shift]
    exact Read.relocates_pure _

theorem Stops.shift {cursor : Cursor} {fault? : Option DecodeError} (stops : Stops cursor fault?)
    (count : Nat) : Stops (cursor.shift count) (fault?.map fun fault => fault.shift count) := by
  cases fault? with
  | none => exact stops
  | some fault =>
    obtain ⟨more, last, failed⟩ := stops
    refine ⟨more, last.shift count, ?_⟩
    rw [relocates_read activeSchema cursor, failed]
    rfl

end Part
end Preimage.Outcome

namespace Preimage.Decoder
open Wire Outcome
variable {policy : UnknownPolicy} {front back : Bytes} {first second : Outcome}
  {fault : DecodeError}

/-- Reading passes over the message in front, and goes on behind it as at the start of an input. -/
theorem decode_append_error (accepted : decode { policy } front = .ok first)
    (failed : decode { policy } back = .error fault) :
    decode { policy } (front ++ back) = .error (fault.shift front.length) := by
  obtain ⟨records, message, _⟩ := decode_ok_iff_message.1 accepted
  obtain ⟨records', next, fault?, admitted, passed, stops⟩ :=
    Part.exists_records (Cursor.ofBytes back)
  rw [decode_of_records admitted passed stops] at failed
  cases fault? with
  | none => cases failed
  | some fault' =>
    cases failed
    have reached : (Cursor.ofBytes (front ++ back)).Passes (records.flatMap Record.raw)
        ((Cursor.ofBytes back).shift front.length) :=
      ⟨by rw [← message.whole]; rfl, by rw [← message.whole]; rfl⟩
    have whole := reached.trans (passed.shift front.length)
    rw [← List.flatMap_append] at whole
    have admitted' : ∀ record ∈ records ++ records', record.Admitted :=
      List.forall_mem_append.2 ⟨message.admitted, admitted⟩
    rw [decode_of_records admitted' whole (stops.shift front.length)]
    rfl

theorem decode_append_ok (accepted : decode { policy } front = .ok first)
    (accepted' : decode { policy } back = .ok second) :
    ∃ records, Message back records ∧
      decode { policy } (front ++ back) = .ok (first.overlay second records) := by
  obtain ⟨records, message, told, unknown⟩ := decode_ok_iff_tells.1 accepted
  obtain ⟨records', message', told', unknown'⟩ := decode_ok_iff_tells.1 accepted'
  refine ⟨records', message', decode_ok_iff_tells.2
    ⟨records ++ records', message.append message', told.append told', ?_⟩⟩
  rw [unknownOf_append, ← unknown, ← unknown']
  rfl

/-- Bytes behind a message are read as they would be alone. What they say is laid over what the
message says, and the place of their fault is counted from the front. -/
theorem decode_append (accepted : decode { policy } front = .ok first) (back : Bytes) :
    match decode { policy } back with
    | .ok second => ∃ records, Message back records ∧
        decode { policy } (front ++ back) = .ok (first.overlay second records)
    | .error fault => decode { policy } (front ++ back) = .error (fault.shift front.length) := by
  cases step : decode { policy } back with
  | ok second => exact decode_append_ok accepted step
  | error fault => exact decode_append_error accepted step

/-- An empty digest overrides one that is there, and a text that is no text is found seven bytes
further on. -/
theorem decode_append_overridden :
    (∃ records, Message [0x0a, 0x00, 0x30, 0x02] records ∧
      relay.decode ([0x0a, 0x01, 0xaa, 0x18, 0x07, 0x28, 0x01] ++ [0x0a, 0x00, 0x30, 0x02]) =
        .ok (overlay
          { dataHash := [0xaa], errorCode := 7, unknown := [⟨5, .varint, [0x28, 0x01]⟩] }
          { unknown := [⟨6, .varint, [0x30, 0x02]⟩] } records)) ∧
    relay.decode ([0x0a, 0x01, 0xaa, 0x18, 0x07, 0x28, 0x01] ++ [0x22, 0x02, 0xc3, 0x28]) =
      .error (.malformed 8 (.invalidText 4)) := by
  have accepted : relay.decode [0x0a, 0x01, 0xaa, 0x18, 0x07, 0x28, 0x01] =
      .ok { dataHash := [0xaa], errorCode := 7, unknown := [⟨5, .varint, [0x28, 0x01]⟩] } := by
    decide +kernel
  have later : decode { policy := .retain } [0x0a, 0x00, 0x30, 0x02] =
      .ok { unknown := [⟨6, .varint, [0x30, 0x02]⟩] } := by
    decide +kernel
  have broken : decode { policy := .retain } [0x22, 0x02, 0xc3, 0x28] =
      .error (.malformed 1 (.invalidText 4)) := by
    decide +kernel
  have merged := decode_append accepted [0x0a, 0x00, 0x30, 0x02]
  have moved := decode_append accepted [0x22, 0x02, 0xc3, 0x28]
  simp only [later] at merged
  simp only [broken] at moved
  exact ⟨merged, moved⟩

end Preimage.Decoder
