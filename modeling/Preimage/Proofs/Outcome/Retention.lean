import Preimage.Proofs.Outcome.RoundTrip

/-! What is retained: the records of other fields, each of them whole, all of them, and in order. -/
namespace Preimage.UnknownField
open Wire

/-- Read on its own, nothing of the field is left over. -/
def StandsAlone (field : UnknownField) : Prop :=
  ∃ between, (Reader.ofBytes field.raw).run Read.key =
      (.ok ⟨field.number, field.wireType⟩, between) ∧
    between.run (Read.skip field.wireType) = (.ok (), ⟨field.raw, field.raw.length⟩)

end Preimage.UnknownField

namespace Preimage.Wire.Record
variable {record : Record}

theorem standsAlone (record : Record) : record.toUnknown.StandsAlone := by
  refine ⟨⟨record.raw, record.opening.length⟩, ?_, ?_⟩
  · have here : record.raw.drop 0 = record.opening ++ record.body := rfl
    rw [toUnknown, Reader.ofBytes, Reader.run_of_takes Read.takes_key record.opened here,
      Nat.zero_add]
    rfl
  · have here : record.raw.drop record.opening.length = record.body ++ [] := by
      simp only [raw, List.drop_left, List.append_nil]
    simp only [toUnknown, wireType]
    rw [Reader.run_of_takes (Read.takes_skip _) ⟨record.value, rfl, record.filled⟩ here, raw,
      List.length_append]

theorem number_of_foreign (foreign : record.isKnown = false) :
    5 ≤ record.number.toNat ∧ record.number.toNat < 2 ^ 29 := by
  obtain ⟨_, _, _, _, least, most⟩ := record.opened
  have unlisted := isKnown_eq_false_iff.1 foreign
  simp only at least most
  omega

end Preimage.Wire.Record

namespace Preimage.Decoder
open Wire Outcome
variable {decoder : Decoder} {bytes : Bytes} {outcome : Outcome}

/-- What is retained ends what is written from the outcome, and that can be cut into records in one
way only, which has every one of them in its place behind the known fields. -/
theorem retains_foreign (retains : decoder.policy = .retain)
    (accepted : decoder.decode bytes = .ok outcome) :
    ∃ records, Message bytes records ∧
      outcome.unknown = (Record.foreign records).map Record.toUnknown ∧
      (∀ field ∈ outcome.unknown,
        5 ≤ field.number.toNat ∧ field.number.toNat < 2 ^ 29 ∧ field.StandsAlone) ∧
      outcome.unknown.flatMap UnknownField.raw <:+ outcome.encode ∧
      ∃ known, (∀ record ∈ known, record.isKnown = true) ∧
        Message outcome.encode (known ++ Record.foreign records) ∧
        (∀ again, outcome.encode = again.flatMap Record.raw →
          again = known ++ Record.foreign records) ∧
        ∀ policy, decode { policy } outcome.encode =
          .ok { outcome with unknown := unknownOf policy records } := by
  obtain ⟨records, message, told, unknown⟩ := decode_ok_iff_tells.1 (decode_without_limit accepted)
  rw [retains] at unknown
  have keeps := keeps_of_retain unknown
  have written := message_encode told.sized keeps
  refine ⟨records, message, unknown, ?_, ?_, knownRecords outcome told.sized,
    isKnown_knownRecords told.sized, written, ?_, ?_⟩
  · intro field member
    rw [unknown] at member
    obtain ⟨record, foreign, rfl⟩ := List.mem_map.1 member
    obtain ⟨least, most⟩ := Record.number_of_foreign (Record.mem_foreign.1 foreign).2
    exact ⟨least, most, record.standsAlone⟩
  · exact List.suffix_append _ _
  · intro again cut
    exact Record.flatMap_raw_injective (cut.symm.trans written.whole)
  · intro policy
    rw [decode_encode_of_keeps policy told.sized keeps]
    cases policy with
    | discard => rfl
    | retain => rw [← unknown]

/-- Field 9 twice, once with a key that is too long and once with a payload that looks like a key.
-/
theorem retains_foreign_twice :
    ∃ records, Message [0xc8, 0x00, 0x07, 0x0a, 0x01, 0xaa, 0x4a, 0x01, 0x0a] records ∧
      (Record.foreign records).map Record.toUnknown =
        [⟨9, .varint, [0xc8, 0x00, 0x07]⟩, ⟨9, .delimited, [0x4a, 0x01, 0x0a]⟩] := by
  have accepted : relay.decode [0xc8, 0x00, 0x07, 0x0a, 0x01, 0xaa, 0x4a, 0x01, 0x0a] =
      .ok {
        dataHash := [0xaa]
        unknown := [⟨9, .varint, [0xc8, 0x00, 0x07]⟩, ⟨9, .delimited, [0x4a, 0x01, 0x0a]⟩] } := by
    decide +kernel
  obtain ⟨records, message, unknown, _⟩ := retains_foreign rfl accepted
  exact ⟨records, message, unknown.symm⟩

end Preimage.Decoder
