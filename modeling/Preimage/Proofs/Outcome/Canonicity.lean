import Mathlib.Data.List.Sort
import Preimage.Proofs.Outcome.RoundTrip
import Preimage.Proofs.Outcome.Verdict
import Preimage.Proofs.Wire.Minimality

/-! Messages that are written again byte for byte. What is retained may be spelled in any way, since
it is never spelled anew. -/
namespace Preimage.Outcome
open Wire
variable {outcome : Outcome} {tag : Tag} {value : Value} {records known known' kept : List Record}
  {record : Record} {bytes : Bytes}

/-- A payload with at least a byte, or the word of a code that is not zero. -/
def Tag.Fills : Tag → Value → Prop
  | .errorCode, value => ∃ code : Int32, code ≠ 0 ∧ value = .varint (wordOfInt32 code)
  | .dataHash, value | .data, value | .error, value =>
    ∃ payload, payload ≠ [] ∧ value = .delimited payload

/-- The part of a message that leaves nothing open to whoever writes it. -/
structure Canonical (known : List Record) : Prop where
  ascending : known.Pairwise fun earlier later => earlier.number < later.number
  filled : ∀ record ∈ known, ∃ tag : Tag, record.number = tag.number ∧ tag.Fills record.value
  shortest : ∀ record ∈ known, record.Shortest

namespace Canonical

theorem isKnown (canonical : Canonical known) : ∀ record ∈ known, record.isKnown = true := by
  intro record member
  obtain ⟨tag, number, _⟩ := canonical.filled record member
  exact Record.isKnown_iff.2 ⟨tag, number⟩

theorem lastValue?_number (canonical : Canonical known) (member : record ∈ known) :
    Record.lastValue? record.number known = some record.value := by
  have distinct : (known.map Record.number).Nodup := by
    rw [List.Nodup, List.pairwise_map]
    exact canonical.ascending.imp fun less => UInt32.ne_of_lt less
  cases last : Record.lastValue? record.number known with
  | none =>
    have absent : ∀ other ∈ known, other.number ≠ record.number := by
      simpa [Record.lastValue?] using last
    exact absurd rfl (absent record member)
  | some value =>
    obtain ⟨other, member', number, rfl⟩ := Record.exists_mem_of_lastValue? last
    rw [List.inj_on_of_nodup_map distinct member' member number]

theorem mem_iff (canonical : Canonical known) :
    record ∈ known ↔ record.Shortest ∧ (∃ tag : Tag, record.number = tag.number) ∧
      Record.lastValue? record.number known = some record.value := by
  constructor
  · intro member
    obtain ⟨tag, number, _⟩ := canonical.filled record member
    exact ⟨canonical.shortest record member, ⟨tag, number⟩, canonical.lastValue?_number member⟩
  · rintro ⟨shortest, _, last⟩
    obtain ⟨other, member, number, value⟩ := Record.exists_mem_of_lastValue? last
    have same := (canonical.shortest other member).ext shortest number value
    rwa [← same]

/-- There is one canonical way to tell the fields what they are told. -/
theorem eq (canonical : Canonical known) (canonical' : Canonical known')
    (same : ∀ tag : Tag, Record.lastValue? tag.number known = Record.lastValue? tag.number known') :
    known = known' := by
  have members (record : Record) : record ∈ known ↔ record ∈ known' := by
    rw [canonical.mem_iff, canonical'.mem_iff]
    refine and_congr_right fun _ => and_congr_right ?_
    rintro ⟨tag, number⟩
    rw [number, same tag]
  let before (earlier later : Record) : Prop := earlier.number < later.number
  have : Std.Irrefl before := ⟨fun record => UInt32.lt_irrefl record.number⟩
  have : Std.Antisymm before := ⟨fun _ _ less more => absurd less (UInt32.lt_asymm more)⟩
  exact List.Pairwise.eq_of_mem_iff canonical.ascending canonical'.ascending members

end Canonical

theorem written_payload_eq {last : Option Value} {payload : Bytes}
    (told : payload = last.elim [] Value.payload)
    (fills : ∀ value, last = some value → ∃ payload, payload ≠ [] ∧ value = .delimited payload) :
    (if payload = [] then none else some (Value.delimited payload)) = last := by
  subst told
  cases last with
  | none => rfl
  | some value =>
    obtain ⟨payload, filled, rfl⟩ := fills value rfl
    exact if_neg filled

theorem Tells.written?_eq (told : Tells records outcome)
    (fills : ∀ value, Record.lastValue? tag.number records = some value → tag.Fills value) :
    outcome.written? tag = Record.lastValue? tag.number records := by
  cases tag with
  | dataHash => exact written_payload_eq told.dataHash fills
  | data => exact written_payload_eq told.data fills
  | error => exact written_payload_eq told.error fills
  | errorCode =>
    have coded := told.errorCode
    rw [Record.lastWord, show (3 : UInt32) = Tag.errorCode.number from rfl] at coded
    simp only [written?]
    cases last : Record.lastValue? Tag.errorCode.number records with
    | none =>
      have zero : outcome.errorCode.toInt = (0 : Int32).toInt := by
        rw [coded, last]
        decide
      rw [if_pos (Int32.toInt_inj.1 zero)]
    | some value =>
      obtain ⟨code, failed, rfl⟩ := fills value last
      rw [last, Option.elim_some, Value.word, ← toInt_int32OfWord,
        int32OfWord_wordOfInt32] at coded
      rw [Int32.toInt_inj.1 coded, if_neg failed]

section
variable {payload : Bytes} {fits : payload.length < 2 ^ 64} {code : Int32}

theorem pairwise_bytesRecords {relation : Record → Record → Prop} :
    (bytesRecords tag payload fits).Pairwise relation := by
  simp only [bytesRecords]
  split <;> simp

theorem pairwise_codeRecords {relation : Record → Record → Prop} :
    (codeRecords code).Pairwise relation := by
  simp only [codeRecords]
  split <;> simp

end

theorem ascending_knownRecords (sized : outcome.Sized) :
    (knownRecords outcome sized).Pairwise fun earlier later => earlier.number < later.number := by
  simp only [knownRecords, List.pairwise_append, pairwise_bytesRecords, pairwise_codeRecords,
    List.mem_append, mem_bytesRecords, mem_codeRecords, true_and]
  refine ⟨⟨?_, ?_⟩, ?_⟩
  · rintro earlier ⟨_, rfl⟩ later ⟨_, rfl⟩
    exact (by decide : Tag.dataHash.number < Tag.data.number)
  · rintro earlier (⟨_, rfl⟩ | ⟨_, rfl⟩) later ⟨_, rfl⟩
    · exact (by decide : Tag.dataHash.number < Tag.errorCode.number)
    · exact (by decide : Tag.data.number < Tag.errorCode.number)
  · rintro earlier ((⟨_, rfl⟩ | ⟨_, rfl⟩) | ⟨_, rfl⟩) later ⟨_, rfl⟩
    · exact (by decide : Tag.dataHash.number < Tag.error.number)
    · exact (by decide : Tag.data.number < Tag.error.number)
    · exact (by decide : Tag.errorCode.number < Tag.error.number)

theorem canonical_knownRecords (sized : outcome.Sized) :
    Canonical (knownRecords outcome sized) := by
  refine ⟨ascending_knownRecords sized, ?_, ?_⟩
  · intro record member
    simp only [knownRecords, List.mem_append, mem_bytesRecords, mem_codeRecords] at member
    rcases member with ((⟨filled, rfl⟩ | ⟨filled, rfl⟩) | ⟨failed, rfl⟩) | ⟨filled, rfl⟩
    · exact ⟨.dataHash, rfl, _, filled, rfl⟩
    · exact ⟨.data, rfl, _, filled, rfl⟩
    · exact ⟨.errorCode, rfl, _, failed, rfl⟩
    · exact ⟨.error, rfl, _, filled, rfl⟩
  · intro record member
    simp only [knownRecords, List.mem_append, mem_bytesRecords, mem_codeRecords] at member
    rw [Record.shortest_iff]
    rcases member with ((⟨_, rfl⟩ | ⟨_, rfl⟩) | ⟨_, rfl⟩) | ⟨_, rfl⟩ <;> exact ⟨rfl, rfl⟩

theorem Canonical.knownRecords_eq (canonical : Canonical known)
    (foreign : ∀ record ∈ kept, record.isKnown = false) (told : Tells (known ++ kept) outcome) :
    knownRecords outcome told.sized = known := by
  refine (canonical_knownRecords told.sized).eq canonical fun tag => ?_
  have last : Record.lastValue? tag.number (known ++ kept) =
      Record.lastValue? tag.number known := by
    rw [Record.lastValue?_append, Record.lastValue?_of_foreign foreign, Option.none_or]
  rw [lastValue?_knownRecords, told.written?_eq, last]
  intro value latest
  rw [last] at latest
  obtain ⟨record, member, number, rfl⟩ := Record.exists_mem_of_lastValue? latest
  obtain ⟨tag', number', fills⟩ := canonical.filled record member
  have same : tag' = tag :=
    Option.some.inj (by rw [← Tag.ofNumber?_number, ← number', number, Tag.ofNumber?_number])
  rwa [← same]

/-- Fields by ascending tag in their shortest spellings, nothing superfluous, and behind them any
records of other fields: such messages and no others come out of reading and writing as they were.
They are the written forms of what can come about at all. -/
theorem encode_eq_iff_canonical (accepted : Decoder.relay.decode bytes = .ok outcome) :
    (outcome.encode = bytes ↔ ∃ known kept, bytes = (known ++ kept).flatMap Record.raw ∧
      Canonical known ∧ ∀ record ∈ kept, record.isKnown = false) ∧
    (outcome.encode = bytes ↔ ∃ source, Producible source ∧ source.Sized ∧
      source.encode = bytes) := by
  obtain ⟨records, message, told, unknown⟩ :=
    Decoder.decode_ok_iff_tells.1
      (show Decoder.decode { policy := .retain } bytes = _ from accepted)
  have keeps := keeps_of_retain unknown
  refine ⟨⟨?_, ?_⟩, ?_, ?_⟩
  · intro same
    exact ⟨knownRecords outcome told.sized, Record.foreign records,
      same ▸ encode_eq_flatMap told.sized keeps, canonical_knownRecords told.sized, keeps.foreign⟩
  · rintro ⟨known, kept, whole, canonical, foreign⟩
    have cut := Record.flatMap_raw_injective (message.whole.symm.trans whole)
    subst cut
    have behind := Record.foreign_append canonical.isKnown foreign
    rw [encode_eq_flatMap told.sized keeps, canonical.knownRecords_eq foreign told, behind, whole]
  · intro same
    exact ⟨outcome, .decoded accepted, told.sized, same⟩
  · rintro ⟨source, produced, sized, rfl⟩
    have same := accepted.symm.trans (Decoder.relay_encode produced sized)
    cases same
    rfl

/-- The key of field 9 has a byte more than it needs and is kept so. The code 1 with such a byte is
not. -/
theorem encode_eq_iff_canonical_overlong :
    (∃ known kept, [0x0a, 0x01, 0xaa, 0x18, 0xff, 0xff, 0xff, 0xff, 0xff, 0xff, 0xff, 0xff, 0xff,
        0x01, 0xc8, 0x00, 0x07] = (known ++ kept).flatMap Record.raw ∧
      Canonical known ∧ ∀ record ∈ kept, record.isKnown = false) ∧
    ¬ ∃ known kept, [0x18, 0x81, 0x00] = (known ++ kept).flatMap Record.raw ∧
      Canonical known ∧ ∀ record ∈ kept, record.isKnown = false := by
  have accepted : Decoder.relay.decode [0x0a, 0x01, 0xaa, 0x18, 0xff, 0xff, 0xff, 0xff, 0xff, 0xff,
      0xff, 0xff, 0xff, 0x01, 0xc8, 0x00, 0x07] = .ok {
        dataHash := [0xaa]
        errorCode := -1
        unknown := [⟨9, .varint, [0xc8, 0x00, 0x07]⟩] } := by
    decide +kernel
  have accepted' : Decoder.relay.decode [0x18, 0x81, 0x00] = .ok { errorCode := 1 } := by
    decide +kernel
  refine ⟨(encode_eq_iff_canonical accepted).1.1 (by decide +kernel), fun canonical => ?_⟩
  have same := (encode_eq_iff_canonical accepted').1.2 canonical
  exact absurd same (by decide +kernel)

end Preimage.Outcome
