import Preimage.Proofs.Outcome.RoundTrip
import Preimage.Proofs.Wire.Persistence

/-! Messages that are cut off and messages that go on. Cut between two records a message is a
shorter message, and cut anywhere else it is truncated. What is malformed stays so, with the same
fault at the same place, whatever follows. The two kinds of faults therefore tell apart an input
that may still become a message from one that never will. -/
namespace Preimage.Outcome
open Wire

theorem Tag.persists_readValue (tag : Tag) : (Part.readValue tag).Persists := by
  cases tag with
  | dataHash | data =>
    exact Read.persists_bind Read.takes_delimited Read.persists_delimited fun _ =>
      Read.persists_pure _
  | errorCode =>
    exact Read.persists_bind Read.takes_varint Read.persists_varint fun _ => Read.persists_pure _
  | error =>
    refine Read.persists_get_bind (fun start suffix => rfl) fun start =>
      Read.persists_bind Read.takes_delimited Read.persists_delimited fun payload => ?_
    cases payload.toText? with
    | some text => exact Read.persists_pure _
    | none => exact Read.persists_throw _

namespace Part

theorem persists_read (schema : Schema) : (read schema).Persists := by
  constructor
  intro cursor fault last failed whole suffix
  rw [read_eq] at failed
  split at failed
  · rename_i fault' last' broken
    cases failed
    obtain ⟨last, found⟩ := Read.persists_key.extend broken whole suffix
    exact ⟨last, by simp only [read_eq, found]⟩
  · rename_i key next keyed
    -- The key is the same in the longer input, so that the fault lies in what it opens.
    have keyed' := Read.takes_key.extend keyed suffix
    split at failed
    · rename_i tag known
      split at failed
      · rename_i checked
        obtain ⟨last, found⟩ := (Tag.persists_readValue tag).extend failed whole suffix
        exact ⟨last, by simp only [read_eq, keyed', known, checked, found]⟩
      · rename_i reason checked
        cases failed
        exact ⟨_, by simp only [read_eq, keyed', known, checked]; rfl⟩
    · rename_i unlisted
      split at failed
      · cases failed
      · rename_i fault' last' broken
        cases failed
        obtain ⟨last, found⟩ := (Read.persists_skip key.wireType).extend broken whole suffix
        exact ⟨last, by simp only [read_eq, keyed', unlisted, found]⟩

theorem Stops.extend {cursor : Cursor} {fault : DecodeError} (stops : Stops cursor (some fault))
    (whole : fault.isTruncated = false) (suffix : Bytes) :
    Stops (cursor.extend suffix) (some fault) := by
  obtain ⟨more, last, failed⟩ := stops
  exact ⟨fun none => more (List.append_eq_nil_iff.1 none).1,
    (persists_read activeSchema).extend failed whole suffix⟩

end Part

variable {bytes : Bytes} {records front back : List Record} {size : Nat}

/-- So many bytes of the message are whole records. -/
def Boundary (bytes : Bytes) (size : Nat) : Prop :=
  ∃ front back, Message bytes (front ++ back) ∧ (front.flatMap Record.raw).length = size

theorem Message.take (message : Message bytes (front ++ back)) :
    Message (bytes.take (front.flatMap Record.raw).length) front := by
  refine ⟨?_, fun record member => message.admitted record (by simp [member])⟩
  rw [message.whole, List.flatMap_append, List.take_left]

theorem boundary_iff (message : Message bytes records) (within : size ≤ bytes.length) :
    Boundary bytes size ↔ ∃ front, Message (bytes.take size) front := by
  constructor
  · rintro ⟨front, back, whole, rfl⟩
    exact ⟨front, whole.take⟩
  · rintro ⟨front, cut⟩
    have begun : front.flatMap Record.raw ++ bytes.drop size = records.flatMap Record.raw := by
      rw [← cut.whole, List.take_append_drop, message.whole]
    obtain ⟨back, rfl, _⟩ := Record.exists_append begun
    exact ⟨front, back, message, by rw [← cut.whole, List.length_take_of_le within]⟩

/-- No record is so short that only its last byte would be missing. -/
theorem not_boundary_pred (nonempty : bytes ≠ []) : ¬ Boundary bytes (bytes.length - 1) := by
  rintro ⟨front, back, message, size⟩
  have length := congrArg List.length message.whole
  have some := List.length_pos_iff.2 nonempty
  rw [List.flatMap_append, List.length_append] at length
  cases back with
  | nil =>
    rw [List.flatMap_nil, List.length_nil] at length
    omega
  | cons record back =>
    have long := record.two_le_length_raw
    rw [List.flatMap_cons, List.length_append] at length
    omega

end Preimage.Outcome

namespace Preimage.Decoder
open Wire Outcome
variable {decoder : Decoder} {policy : UnknownPolicy} {bytes : Bytes} {outcome : Outcome}
  {fault : DecodeError} {size : Nat}

def Accepts (decoder : Decoder) (bytes : Bytes) : Prop :=
  ∃ outcome, decoder.decode bytes = .ok outcome

/-- The input stops before something that it announced is complete. -/
def RunsOut (decoder : Decoder) (bytes : Bytes) : Prop :=
  ∃ fault, decoder.decode bytes = .error fault ∧ fault.isTruncated = true

theorem decode_append_of_error (failed : decode { policy } bytes = .error fault)
    (whole : fault.isTruncated = false) (suffix : Bytes) :
    decode { policy } (bytes ++ suffix) = .error fault := by
  obtain ⟨records, next, fault?, admitted, passed, stops⟩ :=
    Part.exists_records (Cursor.ofBytes bytes)
  rw [decode_of_records admitted passed stops] at failed
  cases fault? with
  | none => cases failed
  | some fault' =>
    cases failed
    have passed' : (Cursor.ofBytes (bytes ++ suffix)).Passes (records.flatMap Record.raw)
        (next.extend suffix) := passed.extend suffix
    rw [decode_of_records admitted passed' (stops.extend whole suffix)]

theorem accepts_iff_message : Accepts { policy } bytes ↔ ∃ records, Message bytes records := by
  constructor
  · rintro ⟨outcome, done⟩
    obtain ⟨records, message, _⟩ := decode_ok_iff_message.1 done
    exact ⟨records, message⟩
  · rintro ⟨records, message⟩
    exact ⟨_, decode_ok_iff_message.2 ⟨records, message, rfl⟩⟩

theorem accepts_take_iff (accepted : Accepts { policy } bytes) (within : size ≤ bytes.length) :
    Accepts { policy } (bytes.take size) ↔ Boundary bytes size := by
  obtain ⟨records, message⟩ := accepts_iff_message.1 accepted
  rw [accepts_iff_message, boundary_iff message within]

/-- A fault that does not go away would be a fault of the whole input, too. -/
theorem runsOut_take (accepted : Accepts { policy } bytes)
    (refused : ¬ Accepts { policy } (bytes.take size)) : RunsOut { policy } (bytes.take size) := by
  obtain ⟨outcome, done⟩ := accepted
  cases cut : decode { policy } (bytes.take size) with
  | ok outcome' => exact absurd ⟨outcome', cut⟩ refused
  | error fault =>
    refine ⟨fault, cut, ?_⟩
    cases whole : fault.isTruncated with
    | true => rfl
    | false =>
      have failed := decode_append_of_error cut whole (bytes.drop size)
      rw [List.take_append_drop, done] at failed
      cases failed

theorem runsOut_dropLast (accepted : Accepts { policy } bytes) (nonempty : bytes ≠ []) :
    RunsOut { policy } bytes.dropLast := by
  rw [List.dropLast_eq_take]
  refine runsOut_take accepted ?_
  rw [accepts_take_iff accepted (Nat.sub_le _ _)]
  exact not_boundary_pred nonempty

theorem decode_ne_malformed_of_append {front suffix : Bytes} {offset : Nat} {reason : Malformation}
    (promising : Accepts { policy } (front ++ suffix) ∨ RunsOut { policy } (front ++ suffix)) :
    decode { policy } front ≠ .error (.malformed offset reason) := by
  intro failed
  have failed' := decode_append_of_error failed rfl suffix
  rcases promising with ⟨outcome, done⟩ | ⟨fault, broken, truncated⟩
  · rw [failed'] at done
    cases done
  · rw [failed'] at broken
    cases broken
    cases truncated

theorem accepts_encode (produced : Producible outcome) (sized : outcome.Sized) :
    Accepts { policy } outcome.encode := by
  obtain ⟨kept, keeps⟩ := produced.exists_keeps
  exact ⟨_, decode_encode_of_keeps policy sized keeps⟩

/-- A message that is cut is accepted between its records and runs out everywhere else. What is
malformed stays as it is whatever follows, and begins nothing that is accepted or runs out. -/
theorem decode_cut_or_continued (policy : UnknownPolicy) :
    (∀ bytes, Accepts { policy } bytes → ∀ size ≤ bytes.length,
      (Accepts { policy } (bytes.take size) ↔ Boundary bytes size) ∧
        (RunsOut { policy } (bytes.take size) ↔ ¬ Boundary bytes size)) ∧
    (∀ outcome, Producible outcome → outcome.Sized → outcome.encode ≠ [] →
      RunsOut { policy } outcome.encode.dropLast) ∧
    (∀ bytes offset reason, decode { policy } bytes = .error (.malformed offset reason) →
      ∀ suffix, decode { policy } (bytes ++ suffix) = .error (.malformed offset reason)) ∧
    ∀ front suffix, Accepts { policy } (front ++ suffix) ∨ RunsOut { policy } (front ++ suffix) →
      ∀ offset reason, decode { policy } front ≠ .error (.malformed offset reason) := by
  refine ⟨fun bytes accepted size within => ?_, ?_, ?_, ?_⟩
  · have cut := accepts_take_iff accepted within
    refine ⟨cut, ?_, fun inside => runsOut_take accepted (mt cut.1 inside)⟩
    rintro ⟨fault, broken, _⟩ boundary
    obtain ⟨outcome, done⟩ := cut.2 boundary
    rw [done] at broken
    cases broken
  · intro outcome produced sized nonempty
    exact runsOut_dropLast (accepts_encode produced sized) nonempty
  · intro bytes offset reason failed suffix
    exact decode_append_of_error failed rfl suffix
  · intro front suffix promising offset reason
    exact decode_ne_malformed_of_append promising

/-- A digest and a retained field, and a key of field 1 with a layout that there is not. -/
theorem decode_cut_or_continued_retained :
    RunsOut relay (encode
        { dataHash := [0xaa], unknown := [⟨9, .varint, [0xc8, 0x00, 0x07]⟩] }).dropLast ∧
      relay.decode ([0x0b] ++ [0x01]) = .error (.malformed 0 (.unsupportedWireType 3)) := by
  obtain ⟨_, cut, malformed, _⟩ := decode_cut_or_continued .retain
  have accepted : relay.decode [0xc8, 0x00, 0x07, 0x0a, 0x01, 0xaa] =
      .ok { dataHash := [0xaa], unknown := [⟨9, .varint, [0xc8, 0x00, 0x07]⟩] } := by
    decide +kernel
  have refused : relay.decode [0x0b] = .error (.malformed 0 (.unsupportedWireType 3)) := by
    decide +kernel
  exact ⟨cut _ (.decoded accepted) ⟨by decide, by decide, by decide⟩ (by decide +kernel),
    malformed _ _ _ refused _⟩

end Preimage.Decoder
