import Mathlib.Order.Bounds.Defs
import Preimage.Proofs.Outcome.Prefixes
import Preimage.Proofs.Wire.Failure

/-! What a refusal says. The longest part of the input that is accepted ends where the first record
stands that is none, and the fault of the input is the fault of that record: of several the one that
is found first, with the place where it was found. -/
namespace Preimage.Outcome
open Wire

/-- A text is reported where its length starts. -/
inductive TextFault (cursor : Cursor) : DecodeError → Prop where
  | illFormed {body payload : Bytes} {next : Cursor}
      (filled : (Value.delimited payload).Spells body) (passed : cursor.Passes body next)
      (wrong : ∀ text, payload ≠ Bytes.ofText text) :
      TextFault cursor (.malformed cursor.offset (.invalidText Tag.error.number))

/-- The layout that a known field calls for is asked for before the value is looked at. -/
inductive BodyFault (start : Nat) (key : Key) (cursor : Cursor) : DecodeError → Prop where
  | wireType {tag : Tag} (known : key.number = tag.number)
      (other : key.wireType ≠ tag.field.kind.wireType) :
      BodyFault start key cursor (.malformed start
        (.wireTypeMismatch key.number tag.field.kind.wireType.code key.wireType.code))
  | value {fault : DecodeError}
      (declared : ∀ tag : Tag, key.number = tag.number → key.wireType = tag.field.kind.wireType)
      (broken : ValueFault key.wireType cursor fault) : BodyFault start key cursor fault
  | text {fault : DecodeError} (known : key.number = Tag.error.number)
      (declared : key.wireType = Tag.error.field.kind.wireType)
      (broken : TextFault cursor fault) : BodyFault start key cursor fault

/-- No record stands at the cursor. -/
inductive RecordFault (cursor : Cursor) : DecodeError → Prop where
  | key {fault : DecodeError} (broken : KeyFault cursor fault) : RecordFault cursor fault
  | body {opening : Bytes} {key : Key} {next : Cursor} {fault : DecodeError}
      (opened : key.Spells opening) (passed : cursor.Passes opening next)
      (broken : BodyFault cursor.offset key next fault) : RecordFault cursor fault

namespace Tag

theorem number_inj {tag tag' : Tag} : tag.number = tag'.number ↔ tag = tag' := by
  rw [← ofNumber?_eq_some_iff, ofNumber?_number, Option.some_inj]

theorem fails_readValue (tag : Tag) :
    (Part.readValue tag).Fails fun cursor fault =>
      ValueFault tag.field.kind.wireType cursor fault ∨ tag = .error ∧ TextFault cursor fault := by
  cases tag with
  | dataHash | data =>
    refine (Read.fails_bind Read.takes_delimited Read.fails_delimited fun _ =>
      Read.fails_pure _).congr fun cursor fault => ?_
    simp [Tag.field, Schema.Kind.wireType, ValueFault]
  | errorCode =>
    refine (Read.fails_bind Read.takes_varint Read.fails_varint fun _ =>
      Read.fails_pure _).congr fun cursor fault => ?_
    simp [Tag.field, Schema.Kind.wireType, ValueFault]
  | error =>
    have fails : (Part.readValue .error).Fails fun cursor fault => DelimitedFault cursor fault ∨
        ∃ body payload next, (Value.delimited payload).Spells body ∧ cursor.Passes body next ∧
          payload.toText? = none ∧
            fault = .malformed cursor.offset (.invalidText Tag.error.number) := by
      refine Read.fails_get_bind fun start =>
        Read.fails_bind Read.takes_delimited Read.fails_delimited fun payload => ?_
      cases payload.toText? with
      | some text => exact (Read.fails_pure _).congr fun _ _ => by simp
      | none => exact (Read.fails_throw _).congr fun _ _ => by simp
    refine fails.congr fun cursor fault => or_congr Iff.rfl ?_
    constructor
    · rintro ⟨body, payload, next, filled, passed, unread, rfl⟩
      refine ⟨rfl, .illFormed filled passed fun text same => ?_⟩
      rw [Bytes.toText?_eq_some_iff.2 same] at unread
      cases unread
    · rintro ⟨-, filled, passed, wrong⟩
      refine ⟨_, _, _, filled, passed, ?_, rfl⟩
      exact Option.eq_none_iff_forall_ne_some.2 fun text read =>
        wrong text (Bytes.toText?_eq_some_iff.1 read)

theorem checkWireType_of_ne {tag : Tag} {key : Key} (known : key.number = tag.number)
    (other : key.wireType ≠ tag.field.kind.wireType) :
    Part.checkWireType activeSchema key = .error
      (.wireTypeMismatch key.number tag.field.kind.wireType.code key.wireType.code) := by
  have declared : activeSchema.field? tag.number = some tag.field := by
    rw [activeSchema_eq]
    cases tag <;> rfl
  simp only [Part.checkWireType, known, declared, if_neg other]

end Tag

namespace BodyFault
variable {start : Nat} {key : Key} {cursor : Cursor} {fault : DecodeError} {tag : Tag}

theorem iff_of_ne (known : key.number = tag.number)
    (other : key.wireType ≠ tag.field.kind.wireType) :
    BodyFault start key cursor fault ↔ fault = .malformed start
      (.wireTypeMismatch key.number tag.field.kind.wireType.code key.wireType.code) := by
  constructor
  · intro broken
    cases broken with
    | wireType known' _ =>
      rw [Tag.number_inj.1 (known'.symm.trans known)]
    | value declared _ => exact absurd (declared tag known) other
    | text known' declared _ =>
      cases Tag.number_inj.1 (known'.symm.trans known)
      exact absurd declared other
  · rintro rfl
    exact .wireType known other

theorem iff_of_declared (known : key.number = tag.number)
    (declared : key.wireType = tag.field.kind.wireType) :
    BodyFault start key cursor fault ↔
      ValueFault tag.field.kind.wireType cursor fault ∨ tag = .error ∧ TextFault cursor fault := by
  constructor
  · intro broken
    cases broken with
    | wireType known' other =>
      cases Tag.number_inj.1 (known'.symm.trans known)
      exact absurd declared other
    | value _ broken => exact .inl (declared ▸ broken)
    | text known' _ broken => exact .inr ⟨Tag.number_inj.1 (known.symm.trans known'), broken⟩
  · rintro (broken | ⟨rfl, broken⟩)
    · refine .value (fun tag' known' => ?_) (declared.symm ▸ broken)
      rw [declared, Tag.number_inj.1 (known.symm.trans known')]
    · exact .text known declared broken

theorem iff_of_foreign (unlisted : ∀ tag : Tag, key.number ≠ tag.number) :
    BodyFault start key cursor fault ↔ ValueFault key.wireType cursor fault := by
  constructor
  · intro broken
    cases broken with
    | wireType known _ => exact absurd known (unlisted _)
    | value _ broken => exact broken
    | text known _ _ => exact absurd known (unlisted _)
  · exact .value fun tag known => absurd known (unlisted tag)

end BodyFault

namespace Part

theorem fails_read : (read activeSchema).Fails RecordFault := by
  have fails : (read activeSchema).Fails fun cursor fault => KeyFault cursor fault ∨
      ∃ opening key next, Key.Spells opening key ∧ cursor.Passes opening next ∧
        BodyFault cursor.offset key next fault := by
    refine Read.fails_get_bind fun start => Read.fails_bind Read.takes_key Read.fails_key fun key => ?_
    cases known : Tag.ofNumber? key.number with
    | some tag =>
      have known := Tag.ofNumber?_eq_some_iff.1 known
      by_cases declared : key.wireType = tag.field.kind.wireType
      · simp only [(Tag.checkWireType_eq_ok_iff known).2 declared]
        exact (Tag.fails_readValue tag).congr fun _ _ =>
          (BodyFault.iff_of_declared known declared).symm
      · simp only [Tag.checkWireType_of_ne known declared]
        exact (Read.fails_throw _).congr fun _ _ => (BodyFault.iff_of_ne known declared).symm
    | none =>
      have unlisted (tag : Tag) : key.number ≠ tag.number := fun same => by
        rw [Tag.ofNumber?_eq_some_iff.2 same] at known
        cases known
      refine (Read.fails_bind (Read.takes_skip _) (Read.fails_skip _) fun _ =>
        Read.fails_get_bind fun last => Read.fails_pure _).congr fun cursor fault => ?_
      simp [BodyFault.iff_of_foreign unlisted]
  refine fails.congr fun cursor fault => ?_
  constructor
  · rintro (broken | ⟨opening, key, next, opened, passed, broken⟩)
    · exact .key broken
    · exact .body opened passed broken
  · rintro (broken | ⟨opened, passed, broken⟩)
    · exact .inl broken
    · exact .inr ⟨_, _, _, opened, passed, broken⟩

theorem Stops.rest_ne {cursor : Cursor} {fault? : Option DecodeError} {record : Record}
    (stops : Stops cursor fault?) (admitted : record.Admitted) (behind : Bytes) :
    cursor.rest ≠ record.raw ++ behind := by
  intro here
  obtain ⟨part, brings⟩ := Record.admitted_iff.1 admitted
  have passed : cursor.Passes record.raw ⟨cursor.offset + record.raw.length, behind⟩ := ⟨here, rfl⟩
  have done := takes_read.ok_iff.2 ⟨_, ⟨record, rfl, brings⟩, passed⟩
  cases fault? with
  | none =>
    have length := record.two_le_length_raw
    have ended : cursor.rest = [] := stops
    rw [ended] at here
    have lengths := congrArg List.length here
    rw [List.length_append, List.length_nil] at lengths
    omega
  | some fault =>
    obtain ⟨-, last, failed⟩ := stops
    rw [failed] at done
    cases done

end Part

theorem local_text : Faults.Local TextFault := by
  constructor
  · rintro cursor fault ⟨filled, passed, -⟩
    have some := filled.length_pos
    refine ⟨Nat.le_refl _, ?_⟩
    simp only [Cursor.stop, passed.rest, List.length_append]
    omega
  · intro cursor offset needed available broken
    cases broken

theorem local_record : Faults.Local RecordFault := by
  constructor
  · intro cursor fault broken
    cases broken with
    | key broken => exact local_key.liesIn broken
    | @body opening key next _ opened passed broken =>
      -- Behind the key there are fewer bytes left, which end where they did.
      have some := opened.length_pos
      have before : cursor.offset < next.offset := by rw [passed.offset]; omega
      have inside : next.offset ≤ next.stop := Nat.le_add_right _ _
      rw [← passed.stop]
      cases broken with
      | wireType known other => exact ⟨Nat.le_refl _, by omega⟩
      | value declared broken => exact ((local_value _).liesIn broken).mono (by omega)
      | text known declared broken => exact (local_text.liesIn broken).mono (by omega)
  · rintro cursor offset needed available (broken | ⟨opened, passed, broken⟩) suffix few
    · exact .key (local_key.extend broken suffix few)
    · refine .body opened (passed.extend suffix) ?_
      cases broken with
      | value declared broken =>
        exact .value declared ((local_value _).extend broken suffix few)
      | text known declared broken =>
        exact .text known declared (local_text.extend broken suffix few)

end Preimage.Outcome

namespace Preimage.Decoder
open Wire Outcome
variable {policy : UnknownPolicy} {bytes : Bytes} {fault : DecodeError} {records : List Record}
  {next : Cursor} {fault? : Option DecodeError}

theorem message_take (admitted : ∀ record ∈ records, record.Admitted)
    (passed : (Cursor.ofBytes bytes).Passes (records.flatMap Record.raw) next) :
    Message (bytes.take next.offset) records := by
  have split : bytes = records.flatMap Record.raw ++ next.rest := passed.rest
  have front : next.offset = (records.flatMap Record.raw).length :=
    passed.offset.trans (Nat.zero_add _)
  refine ⟨?_, admitted⟩
  rw [split, front, List.take_left]

/-- Records are read up to the end of the longest part of the input that is accepted, since a longer
one would have another record behind them. -/
theorem isGreatest_accepted (admitted : ∀ record ∈ records, record.Admitted)
    (passed : (Cursor.ofBytes bytes).Passes (records.flatMap Record.raw) next)
    (stops : Part.Stops next fault?) :
    IsGreatest {size | size ≤ bytes.length ∧ Accepts { policy } (bytes.take size)} next.offset := by
  have split : bytes = records.flatMap Record.raw ++ next.rest := passed.rest
  have front : next.offset = (records.flatMap Record.raw).length :=
    passed.offset.trans (Nat.zero_add _)
  constructor
  · refine ⟨?_, accepts_iff_message.2 ⟨records, message_take admitted passed⟩⟩
    rw [split, List.length_append]
    omega
  · rintro size ⟨within, accepted⟩
    by_contra longer
    obtain ⟨records', message⟩ := accepts_iff_message.1 accepted
    have cut : bytes.take size =
        records.flatMap Record.raw ++ next.rest.take (size - next.offset) := by
      rw [split, front, List.take_append, List.take_of_length_le (by omega)]
    obtain ⟨back, rfl, rest⟩ := Record.exists_append (cut.symm.trans message.whole)
    cases back with
    | nil =>
      have lengths := congrArg List.length rest
      have whole := congrArg List.length split
      rw [List.length_append] at whole
      rw [List.length_take, List.flatMap_nil, List.length_nil] at lengths
      omega
    | cons record back =>
      refine stops.rest_ne (message.admitted record (by simp))
        (back.flatMap Record.raw ++ next.rest.drop (size - next.offset)) ?_
      rw [← List.append_assoc, ← List.flatMap_cons, ← rest, List.take_append_drop]

/-- A refused input has a longest part that is accepted, and its fault is the one fault of the
record that would have to follow. A truncation is the same for as long as less is added than it
misses. -/
theorem decode_diagnoses (failed : decode { policy } bytes = .error fault) :
    ∃ start, IsGreatest {size | size ≤ bytes.length ∧ Accepts { policy } (bytes.take size)} start ∧
      (∀ fault', RecordFault ⟨start, bytes.drop start⟩ fault' ↔ fault' = fault) ∧
      fault.LiesIn start bytes.length ∧
      ∀ offset needed available, fault = .truncated offset needed available →
        ∀ suffix : Bytes, suffix.length < needed - available →
          decode { policy } (bytes ++ suffix) =
            .error (.truncated offset needed (available + suffix.length)) := by
  obtain ⟨records, next, fault?, admitted, passed, stops⟩ :=
    Part.exists_records (Cursor.ofBytes bytes)
  rw [decode_of_records admitted passed stops] at failed
  cases fault? with
  | none => cases failed
  | some fault' =>
    cases failed
    have ⟨more, last, refused⟩ := stops
    have broken := Part.fails_read.error_iff.1 ⟨last, refused⟩
    have here : Cursor.mk next.offset (bytes.drop next.offset) = next := by
      simp [passed.eq_advance, Cursor.advance, Cursor.ofBytes]
    refine ⟨next.offset, isGreatest_accepted admitted passed stops, fun fault' => ?_, ?_, ?_⟩
    · rw [here, ← Part.fails_read.error_iff, refused]
      simp [eq_comm]
    · have lies := local_record.liesIn broken
      rw [passed.stop] at lies
      simpa [Cursor.stop, Cursor.ofBytes] using lies
    · rintro offset needed available rfl suffix few
      have passed' : (Cursor.ofBytes (bytes ++ suffix)).Passes (records.flatMap Record.raw)
          (next.extend suffix) := passed.extend suffix
      have still := Part.fails_read.error_iff.2 (local_record.extend broken suffix few)
      have more' : (next.extend suffix).rest ≠ [] :=
        fun none => more (List.append_eq_nil_iff.1 none).1
      rw [decode_of_records admitted passed' (show Part.Stops _ (some _) from ⟨more', still⟩)]

/-- A digest is followed by five bytes of which one is there. Where the digest has another layout,
the fault is found before the value that breaks off. -/
theorem decode_diagnoses_missing :
    plain.decode ([0x0a, 0x01, 0xaa, 0x12, 0x05, 0x01] ++ [0x02, 0x03, 0x04]) =
        .error (.truncated 5 5 4) ∧
      ∃ start, RecordFault ⟨start, [0x22, 0x00, 0x08, 0xff].drop start⟩
        (.malformed 2 (.wireTypeMismatch 1 2 0)) := by
  have short : plain.decode [0x0a, 0x01, 0xaa, 0x12, 0x05, 0x01] = .error (.truncated 5 5 1) := by
    decide +kernel
  have other : plain.decode [0x22, 0x00, 0x08, 0xff] =
      .error (.malformed 2 (.wireTypeMismatch 1 2 0)) := by
    decide +kernel
  obtain ⟨_, _, _, _, waits⟩ := decode_diagnoses short
  obtain ⟨start, _, named, _⟩ := decode_diagnoses other
  exact ⟨waits _ _ _ rfl _ (by decide), start, (named _).2 rfl⟩

end Preimage.Decoder
