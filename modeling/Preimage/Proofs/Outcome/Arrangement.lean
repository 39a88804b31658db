import Preimage.Proofs.Outcome.Concatenation
import Preimage.Proofs.Outcome.WrittenForm

/-! Where records stand. What a message says does not depend on how the records of different fields
are mixed, and a record of a field that the schema does not list can be put between any two others.
-/
namespace Preimage.Wire.Record
open Outcome
variable {record : Record} {records records' front back : List Record}

/-- Records of a known field keep their order, and so do all those of other fields. -/
structure Rearranges (records records' : List Record) : Prop where
  known : ∀ tag : Tag, (records.filter fun record => record.number == tag.number) =
    records'.filter fun record => record.number == tag.number
  foreign : foreign records = foreign records'

/-- No record is lost and none comes in. -/
theorem Rearranges.perm (rearranges : Rearranges records records') : records.Perm records' := by
  classical
  rw [List.perm_iff_count]
  intro record
  -- The record is counted among those of its own field, or among all those of other fields.
  cases known : record.isKnown with
  | true =>
    obtain ⟨tag, number⟩ := isKnown_iff.1 known
    have counted := congrArg (List.count record) (rearranges.known tag)
    rwa [List.count_filter (by simpa using number),
      List.count_filter (by simpa using number)] at counted
  | false =>
    have counted := congrArg (List.count record) rearranges.foreign
    simp only [Record.foreign] at counted
    rwa [List.count_filter (by simp [known]), List.count_filter (by simp [known])] at counted

theorem Rearranges.lastValue? (rearranges : Rearranges records records') (tag : Tag) :
    lastValue? tag.number records = lastValue? tag.number records' := by
  simp only [Record.lastValue?, rearranges.known tag]

theorem lastValue?_insert (foreign : record.isKnown = false) (tag : Tag) :
    lastValue? tag.number (front ++ [record] ++ back) = lastValue? tag.number (front ++ back) := by
  have silent : lastValue? tag.number [record] = none := lastValue?_of_foreign (by simpa) tag
  rw [lastValue?_append, lastValue?_append, silent, Option.none_or, lastValue?_append]

end Preimage.Wire.Record

namespace Preimage.Outcome
open Wire
variable {bytes bytes' : Bytes} {record : Record} {records records' : List Record}
  {outcome : Outcome}

theorem Tells.congr (told : Tells records outcome)
    (same : ∀ tag : Tag, Record.lastValue? tag.number records =
      Record.lastValue? tag.number records')
    (unknown : List UnknownField) : Tells records' { outcome with unknown } := by
  have payload (tag : Tag) :
      Record.lastPayload tag.number records' = Record.lastPayload tag.number records := by
    simp only [Record.lastPayload, same tag]
  have word (tag : Tag) :
      Record.lastWord tag.number records' = Record.lastWord tag.number records := by
    simp only [Record.lastWord, same tag]
  constructor
  · exact told.dataHash.trans (payload .dataHash).symm
  · exact told.data.trans (payload .data).symm
  · exact told.errorCode.trans (by rw [show (3 : UInt32) = Tag.errorCode.number from rfl, word])
  · exact told.error.trans (payload .error).symm

theorem message_raw (foreign : record.isKnown = false) : Message record.raw [record] := by
  constructor
  · simp
  · intro other member
    cases List.mem_singleton.1 member
    exact Record.admitted_iff.2 ⟨_, Record.part?_of_foreign foreign⟩

end Preimage.Outcome

namespace Preimage.Wire.DecodeError

theorem shift_shift (fault : DecodeError) (near far : Nat) :
    (fault.shift near).shift far = (fault.shift far).shift near := by
  cases fault with
  | truncated | malformed => simp only [shift, Nat.add_right_comm]
  | tooLarge => rfl

end Preimage.Wire.DecodeError

namespace Preimage.Decoder
open Wire Outcome
variable {policy : UnknownPolicy} {front back : Bytes} {first second : Outcome}
  {record : Record} {fault : DecodeError}

theorem accepts_raw (policy : UnknownPolicy) (foreign : record.isKnown = false) :
    decode { policy } record.raw = .ok { unknown := unknownOf policy [record] } := by
  refine decode_ok_iff_tells.2 ⟨[record], message_raw foreign, ?_, rfl⟩
  have silent : Tells [] {} := ⟨rfl, rfl, by decide, rfl⟩
  exact silent.congr (fun tag => (Record.lastValue?_of_foreign (by simpa) tag).symm) _

theorem decode_insert_error (accepted : decode { policy } front = .ok first)
    (foreign : record.isKnown = false) (failed : decode { policy } back = .error fault) :
    decode { policy } (front ++ back) = .error (fault.shift front.length) ∧
      decode { policy } (front ++ record.raw ++ back) =
        .error ((fault.shift front.length).shift record.raw.length) := by
  have behind := decode_append_error (accepts_raw policy foreign) failed
  refine ⟨decode_append_error accepted failed, ?_⟩
  rw [List.append_assoc, decode_append_error accepted behind, DecodeError.shift_shift]

theorem decode_insert_ok (accepted : decode { policy } front = .ok first)
    (foreign : record.isKnown = false) (accepted' : decode { policy } back = .ok second) :
    ∃ outcome, decode { policy } (front ++ back) = .ok outcome ∧
      outcome.unknown = first.unknown ++ second.unknown ∧
      decode { policy } (front ++ record.raw ++ back) = .ok { outcome with
        unknown := first.unknown ++ unknownOf policy [record] ++ second.unknown } := by
  obtain ⟨records, message, told, unknown⟩ := decode_ok_iff_tells.1 accepted
  obtain ⟨records', message', told', unknown'⟩ := decode_ok_iff_tells.1 accepted'
  have both := told.append told'
  refine ⟨first.overlay second records', decode_ok_iff_tells.2
    ⟨records ++ records', message.append message', both, ?_⟩, rfl, decode_ok_iff_tells.2
    ⟨records ++ [record] ++ records', (message.append (message_raw foreign)).append message',
      ?_, ?_⟩⟩
  · rw [unknownOf_append, ← unknown, ← unknown']
    rfl
  · exact both.congr (fun tag => (Record.lastValue?_insert foreign tag).symm) _
  · rw [unknownOf_append, unknownOf_append, ← unknown, ← unknown']

theorem decode_rearranged {records records' : List Record} (policy : UnknownPolicy)
    (message : Message front records) (message' : Message back records')
    (rearranges : Record.Rearranges records records') :
    ∃ outcome, decode { policy } front = .ok outcome ∧ decode { policy } back = .ok outcome := by
  have told := tells_ofParts policy message.admitted
  have unknown := unknown_ofParts policy message.admitted
  refine ⟨_, decode_ok_iff_tells.2 ⟨records, message, told, unknown⟩,
    decode_ok_iff_tells.2 ⟨records', message', told.congr rearranges.lastValue? _, ?_⟩⟩
  cases policy with
  | discard => exact unknown
  | retain => simp only [unknown, unknownOf, rearranges.foreign]

theorem decode_eq_of_rearranges {records records' : List Record} (decoder : Decoder)
    (message : Message front records) (message' : Message back records')
    (rearranges : Record.Rearranges records records') :
    decoder.decode front = decoder.decode back := by
  obtain ⟨outcome, accepted, accepted'⟩ :=
    decode_rearranged decoder.policy message message' rearranges
  have sizes : front.length = back.length := by
    rw [message.whole, message'.whole]
    exact (rearranges.perm.flatMap_right Record.raw).length_eq
  rw [decode_eq decoder front, decode_eq decoder back, sizes, accepted, accepted']

/-- A record of an unlisted field may come in behind any message. It changes nothing but its own
place among what is retained, and a fault behind it is found so many bytes further on. Messages of
the same records rearranged are all accepted and say the same, within any limit. -/
theorem decode_of_arrangement (policy : UnknownPolicy) :
    (∀ bytes size first record, decode { policy } (bytes.take size) = .ok first →
      record.isKnown = false →
      match decode { policy } bytes with
      | .ok outcome => ∃ later, outcome.unknown = first.unknown ++ later ∧
          decode { policy } (bytes.take size ++ record.raw ++ bytes.drop size) = .ok { outcome with
            unknown := first.unknown ++ unknownOf policy [record] ++ later }
      | .error fault =>
          decode { policy } (bytes.take size ++ record.raw ++ bytes.drop size) =
            .error (fault.shift record.raw.length)) ∧
    ∀ bytes bytes' records records', Message bytes records → Message bytes' records' →
      Record.Rearranges records records' →
      (∃ outcome, decode { policy } bytes = .ok outcome) ∧
        ∀ limit?, decode { policy, limit? } bytes = decode { policy, limit? } bytes' := by
  refine ⟨fun bytes size first record accepted foreign => ?_, ?_⟩
  · cases behind : decode { policy } (bytes.drop size) with
    | ok second =>
      obtain ⟨outcome, whole, unknown, inserted⟩ := decode_insert_ok accepted foreign behind
      rw [List.take_append_drop] at whole
      simp only [whole]
      exact ⟨second.unknown, unknown, inserted⟩
    | error fault =>
      obtain ⟨whole, inserted⟩ := decode_insert_error accepted foreign behind
      rw [List.take_append_drop] at whole
      simp only [whole]
      exact inserted
  · intro bytes bytes' records records' message message' rearranges
    obtain ⟨outcome, accepted, _⟩ := decode_rearranged policy message message' rearranges
    exact ⟨⟨outcome, accepted⟩,
      fun limit? => decode_eq_of_rearranges { policy, limit? } message message' rearranges⟩

/-- Field 9 comes in before a text that is no text, and a second digest moves behind the code. -/
theorem decode_of_arrangement_mixed :
    let foreign := Record.ofInt32 9 (by decide) 7
    let code := Record.ofInt32 3 (by decide) 5
    let early := Record.ofPayload 1 (by decide) [0xaa] (by decide)
    let late := Record.ofPayload 1 (by decide) [0xbb] (by decide)
    relay.decode ([0x0a, 0x01, 0xaa] ++ foreign.raw ++ [0x22, 0x02, 0xc3, 0x28]) =
        .error (.malformed 6 (.invalidText 4)) ∧
      (∃ outcome, relay.decode ([early, foreign, late, code].flatMap Record.raw) = .ok outcome) ∧
      ∀ limit?,
        decode { policy := .retain, limit? } ([early, foreign, late, code].flatMap Record.raw) =
        decode { policy := .retain, limit? } ([early, code, late, foreign].flatMap Record.raw) := by
  intro foreign code early late
  obtain ⟨inserted, mixed⟩ := decode_of_arrangement .retain
  have accepted : decode { policy := .retain } ([0x0a, 0x01, 0xaa, 0x22, 0x02, 0xc3, 0x28].take 3) =
      .ok { dataHash := [0xaa] } := by
    decide +kernel
  have broken : decode { policy := .retain } [0x0a, 0x01, 0xaa, 0x22, 0x02, 0xc3, 0x28] =
      .error (.malformed 4 (.invalidText 4)) := by
    decide +kernel
  have short : foreign.raw.length = 2 := by decide +kernel
  have moved := inserted _ 3 _ foreign accepted rfl
  simp only [broken, short] at moved
  have admitted : ∀ record ∈ [early, foreign, late, code], record.Admitted := by
    simp only [List.mem_cons, List.not_mem_nil, or_false, forall_eq_or_imp, forall_eq]
    exact ⟨Record.admitted_iff.2 ⟨_, rfl⟩, Record.admitted_iff.2 ⟨_, rfl⟩,
      Record.admitted_iff.2 ⟨_, rfl⟩, Record.admitted_iff.2 ⟨_, rfl⟩⟩
  have rearranges : Record.Rearranges [early, foreign, late, code] [early, code, late, foreign] :=
    ⟨fun tag => by cases tag <;> rfl, rfl⟩
  have admitted' : ∀ record ∈ [early, code, late, foreign], record.Admitted :=
    fun record member => admitted record (rearranges.perm.mem_iff.2 member)
  exact ⟨moved, mixed _ _ _ _ ⟨rfl, admitted⟩ ⟨rfl, admitted'⟩ rearranges⟩

end Preimage.Decoder
