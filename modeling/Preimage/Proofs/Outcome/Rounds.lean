import Preimage.Log.Trace
import Preimage.Proofs.Log.Redaction
import Preimage.Proofs.Outcome.Settings
import Preimage.Proofs.Wire.Checked

/-! Decoding once more as a machine goes about it. It takes half as many rounds as there are bytes,
and one more to find that none is left. -/
namespace Preimage.Wire.Checked
variable {reader : Reader}

def distance (start : Nat) : Checked Nat := do
  let stop ← position
  require (start ≤ stop)
  return stop - start

/-- An event that cannot be put into words is one that nobody can log. -/
def report (event : Log.Event) : Checked Unit := require event.compose?.isSome

theorem distance_eq {start : Nat} (before : start ≤ reader.position) :
    distance start reader = some (.ok (reader.position - start), reader) := by
  change (require _ >>= _) reader = _
  rw [require_bind before]
  rfl

theorem report_bind {event : Log.Event} {rest : Unit → Checked α} :
    (report event >>= rest) = rest () :=
  require_bind (by rw [event.compose?_eq]; rfl)

end Preimage.Wire.Checked

namespace Preimage.Outcome.Part
open Wire
variable {reader : Reader}

def checkedValue : Tag → Checked Part
  | .dataHash => return .dataHash (← Checked.delimited)
  | .data => return .data (← Checked.delimited)
  | .errorCode => return .errorCode (int32OfWord (← Checked.varint))
  | .error => do
    let start ← Checked.position
    let payload ← Checked.delimited
    match payload.toText? with
    | some text => return .error text
    | none => throw (.malformed start (.invalidText Tag.error.number))

/-- A record that is passed over is reported with its size, and its bytes are cut out of the input.
-/
def checkedRead (schema : Schema) : Checked Part := do
  let start ← Checked.position
  let key ← Checked.key
  match Tag.ofNumber? key.number with
  | some tag =>
    match checkWireType schema key with
    | .ok () => checkedValue tag
    | .error reason => throw (.malformed start reason)
  | none =>
    Checked.skip key.wireType
    let size ← Checked.distance start
    Checked.report (.skippedField key.number key.wireType size)
    return .unknown ⟨key.number, key.wireType, ← Checked.since start⟩

theorem checkedValue_eq_run (within : reader.position ≤ reader.source.length) (tag : Tag) :
    checkedValue tag reader = some (reader.run (readValue tag)) := by
  have payload := Checked.delimited_eq_run within
  cases tag with
  | dataHash => exact Checked.bind_eq_run within Read.forward_delimited payload fun _ _ => rfl
  | data => exact Checked.bind_eq_run within Read.forward_delimited payload fun _ _ => rfl
  | errorCode =>
    exact Checked.bind_eq_run within Read.forward_varint (Checked.varint_eq_run reader) fun _ _ =>
      rfl
  | error =>
    rw [checkedValue, Checked.position_bind]
    refine Checked.bind_eq_run within Read.forward_delimited payload fun {bytes _} _ _ => ?_
    cases bytes.toText? with
    | some text => rfl
    | none => rfl

theorem checkedRead_eq_run (within : reader.position ≤ reader.source.length) (schema : Schema) :
    checkedRead schema reader = some (reader.run (read schema)) := by
  rw [checkedRead, Checked.position_bind]
  refine Checked.bind_eq_run within Read.forward_key (Checked.key_eq_run within)
    fun {key next} _ moved => ?_
  have inside := moved.source ▸ moved.within
  cases Tag.ofNumber? key.number with
  | some tag =>
    cases checkWireType schema key with
    | ok => exact checkedValue_eq_run inside tag
    | error reason => rfl
  | none =>
    refine Checked.bind_eq_run inside (Read.forward_skip _) (Checked.skip_eq_run inside _)
      fun {_ last} _ moved' => ?_
    have passed := moved.trans moved'
    have raw : last.slice? reader.position = some (reader.cursor.upTo last.cursor) :=
      Reader.slice?_eq_some_iff.2 ⟨passed.forward, by rw [passed.source]; rfl⟩
    rw [Checked.bind_of_ok (Checked.distance_eq passed.forward), Checked.report_bind,
      Checked.bind_of_ok (Checked.since_eq (passed.source ▸ passed.within) raw)]
    rfl

/-- A record that has been read took at least two bytes, one for its key and one for its value. -/
theorem read_takes_two {cursor next : Cursor} {part : Part}
    (done : read activeSchema cursor = .ok part next) :
    ∃ count, 2 ≤ count ∧ count ≤ cursor.rest.length ∧ next = cursor.advance count := by
  obtain ⟨_, ⟨record, rfl, _⟩, passed⟩ := takes_read.ok_iff.1 done
  exact ⟨_, record.two_le_length_raw, by simp [passed.rest], passed.eq_advance⟩

def checkedAll (policy : UnknownPolicy) : Nat → Outcome → Checked Outcome
  | 0, _ => Checked.stuck
  | rounds + 1, outcome => do
    let left ← Checked.remaining
    if left = 0 then return outcome
    else
      let part ← checkedRead activeSchema
      checkedAll policy rounds (outcome.absorb policy part)

theorem checkedAll_eq {policy : UnknownPolicy} {rounds : Nat} {outcome : Outcome}
    (within : reader.position ≤ reader.source.length) (enough : reader.remaining < 2 * rounds) :
    ∃ last, checkedAll policy rounds outcome reader =
      some (absorbAll activeSchema policy outcome reader.cursor, last) := by
  induction rounds generalizing reader outcome with
  | zero => omega
  | succ rounds ih =>
    have empty : reader.cursor.rest.isEmpty = true ↔ reader.remaining = 0 := by
      rw [List.isEmpty_iff_length_eq_zero, Reader.length_rest]
    rw [checkedAll, Checked.bind_of_ok (Checked.remaining_eq within), absorbAll_eq]
    by_cases ended : reader.remaining = 0
    · rw [if_pos ended, if_pos (empty.2 ended)]
      exact ⟨reader, rfl⟩
    · rw [if_neg ended, if_neg (mt empty.1 ended)]
      have ran := checkedRead_eq_run within activeSchema
      cases step : read activeSchema reader.cursor with
      | error fault last =>
        rw [Reader.run_of_error step] at ran
        exact ⟨_, Checked.bind_of_error ran⟩
      | ok part next =>
        rw [Reader.run_of_ok step] at ran
        obtain ⟨count, two, left, rfl⟩ := read_takes_two step
        have moved : reader.cursor.Reaches (reader.cursor.advance count) := ⟨count, left, rfl⟩
        have reaches := Reader.reaches_moveTo within moved
        rw [Checked.bind_of_ok ran, ← Reader.cursor_moveTo moved]
        apply ih reaches.within
        rw [Reader.length_rest] at left
        simp only [Reader.remaining, Reader.moveTo, Cursor.advance, Reader.cursor] at left enough ⊢
        omega

end Preimage.Outcome.Part

namespace Preimage.Decoder
open Wire Outcome

def checkedDecode (decoder : Decoder) (rounds : Nat) (bytes : Bytes) :
    Option (Except DecodeError Outcome) :=
  match decoder.oversize? bytes.length with
  | some fault => some (.error fault)
  | none => (Part.checkedAll decoder.policy rounds {} (.ofBytes bytes)).map Prod.fst

theorem checkedDecode_eq {decoder : Decoder} {rounds : Nat} {bytes : Bytes}
    (enough : bytes.length < 2 * rounds) :
    decoder.checkedDecode rounds bytes = some (decoder.decode bytes) := by
  rw [checkedDecode, decoder.decode_eq]
  cases decoder.oversize? bytes.length with
  | some fault => rfl
  | none =>
    obtain ⟨last, passed⟩ :=
      @Part.checkedAll_eq (.ofBytes bytes) decoder.policy rounds {} (Nat.zero_le _) enough
    simp only [passed, decode_eq_absorbAll]
    rfl

end Preimage.Decoder

namespace Preimage.Wire.Reader
open Outcome
variable {source : Bytes} {reader : Reader}

def Visited (source : Bytes) (reader : Reader) : Prop :=
  ∃ requests, ((ofBytes source).follow requests).2 = reader

theorem Visited.reaches (visited : reader.Visited source) : (ofBytes source).Reaches reader := by
  obtain ⟨requests, rfl⟩ := visited
  exact reaches_follow (Nat.zero_le _) requests

/-- Whatever is asked of a reader, also after calls that failed, no step gets stuck, and what one
reader has passed can be had from any that comes after it. Decoding comes to an end without getting
stuck either. -/
theorem stays_within_input :
    (∀ (source : Bytes) (requests : List Request),
      Checked.follow (ofBytes source) requests = some ((ofBytes source).follow requests)) ∧
    (∀ (source : Bytes) (reader : Reader), reader.Visited source →
      (ofBytes source).Reaches reader ∧
      (∀ request, reader.Serves request (reader.respond request).1 (reader.respond request).2) ∧
      ∀ (requests : List Request) (later : Reader), (reader.follow requests).2 = later →
        reader.Reaches later ∧
        ∃ bytes, reader.cursor.Passes bytes later.cursor ∧
          later.slice? reader.position = some bytes ∧
          Checked.since reader.position later = some (.ok bytes, later)) ∧
    (∀ (decoder : Decoder) (bytes : Bytes),
      decoder.checkedDecode (bytes.length / 2 + 1) bytes = some (decoder.decode bytes)) ∧
    ∀ (cursor next : Cursor) (part : Part), Part.read activeSchema cursor = .ok part next →
      ∃ count, 2 ≤ count ∧ count ≤ cursor.rest.length ∧ next = cursor.advance count := by
  refine ⟨fun source => Checked.follow_eq (Nat.zero_le _), ?_, ?_, ?_⟩
  · intro source reader visited
    have reached := visited.reaches
    have within := reached.source ▸ reached.within
    refine ⟨reached, serves_respond within, ?_⟩
    rintro requests later rfl
    have moved := reaches_follow within requests
    obtain ⟨bytes, passed, kept⟩ := passes_of_reaches moved
    exact ⟨moved, bytes, passed, kept, Checked.since_eq (moved.source ▸ moved.within) kept⟩
  · intro decoder bytes
    exact Decoder.checkedDecode_eq (by omega)
  · intro cursor next part
    exact Part.read_takes_two

/-- A key, and five bytes of which there are two. A varint is then read from the same place, and the
next one takes the rest. -/
theorem stays_within_input_failing :
    Checked.follow (ofBytes [0x0a, 0x05, 0x61, 0x80])
        [.key, .delimited, .exact (-1), .varint, .skip .delimited, .skip .fixed32] =
      some ([.ok (.key ⟨1, .delimited⟩), .error (.truncated 2 5 2),
        .error (.truncated 2 (2 ^ 64 - 1) 2), .ok (.word 0x61), .error (.truncated 3 2 1),
        .error (.truncated 4 4 0)], ⟨[0x0a, 0x05, 0x61, 0x80], 4⟩) ∧
    (respond ⟨[0x0a, 0x05, 0x61, 0x80], 1⟩ (.exact (-1))).2 = ⟨[0x0a, 0x05, 0x61, 0x80], 1⟩ ∧
    Checked.since 1 ⟨[0x0a, 0x05, 0x61, 0x80], 4⟩ =
      some (.ok [0x05, 0x61, 0x80], ⟨[0x0a, 0x05, 0x61, 0x80], 4⟩) ∧
    Decoder.plain.checkedDecode 3 [0x0a, 0x05, 0x61, 0x80] = some (.error (.truncated 2 5 2)) ∧
    ∃ count, 2 ≤ count ∧ count ≤ [(0x18 : UInt8), 0x05].length ∧
      (⟨2, []⟩ : Cursor) = (Cursor.ofBytes [0x18, 0x05]).advance count := by
  obtain ⟨follows, visits, decodes, shortens⟩ := stays_within_input
  have visited : Visited [0x0a, 0x05, 0x61, 0x80] ⟨[0x0a, 0x05, 0x61, 0x80], 1⟩ :=
    ⟨[.key], by decide +kernel⟩
  obtain ⟨_, serves, later⟩ := visits _ _ visited
  have failed : (respond ⟨[0x0a, 0x05, 0x61, 0x80], 1⟩ (.exact (-1))).1 =
      .error (.truncated 1 (2 ^ 64 - 1) 3) := by decide +kernel
  obtain ⟨_, bytes, _, kept, since⟩ := later [.delimited, .exact (-1), .varint, .varint]
    ⟨[0x0a, 0x05, 0x61, 0x80], 4⟩ (by decide +kernel)
  cases (by decide +kernel : slice? ⟨[0x0a, 0x05, 0x61, 0x80], 4⟩ 1 =
    some [0x05, 0x61, 0x80]).symm.trans kept
  refine ⟨(follows _ _).trans (by decide +kernel), ?_, since, ?_, ?_⟩
  · exact (((serves (.exact (-1))).counted rfl).2 _ failed).2.1
  · exact (decodes Decoder.plain [0x0a, 0x05, 0x61, 0x80]).trans (by decide +kernel)
  · exact shortens (.ofBytes [0x18, 0x05]) ⟨2, []⟩ (.errorCode 5) rfl

end Preimage.Wire.Reader
