import Preimage.Proofs.Wire.Format

/-! What calls on a reader come to, whether the ones before succeeded or failed. Bytes that are
handed over are the last that were passed, and a call that fails leaves the reader at a place that
its fault tells. -/
namespace Preimage.Wire
variable {α β : Type}

/-- What a reader can be asked for. Any word can be a length, however little is left. -/
inductive Request where
  | varint
  | key
  | exact (count : UInt64)
  | delimited
  | skip (wireType : WireType)
deriving Repr, DecidableEq

inductive Answer where
  | word (word : UInt64)
  | key (key : Key)
  | payload (bytes : Bytes)
  | passed
deriving Repr, DecidableEq

namespace Request

def read : Request → Read Answer
  | varint => return .word (← Read.varint)
  | key => return .key (← Read.key)
  | exact count => return .payload (← Read.exact count.toNat)
  | delimited => return .payload (← Read.delimited)
  | skip wireType => do
    Read.skip wireType
    return .passed

def count? : Request → Option Nat
  | exact count => some count.toNat
  | skip .fixed64 => some 8
  | skip .fixed32 => some 4
  | _ => none

theorem forward_read (request : Request) : request.read.Forward := by
  cases request with
  | varint => exact Read.forward_bind Read.forward_varint fun _ => Read.forward_pure _
  | key => exact Read.forward_bind Read.forward_key fun _ => Read.forward_pure _
  | exact count => exact Read.forward_bind (Read.forward_exact _) fun _ => Read.forward_pure _
  | delimited => exact Read.forward_bind Read.forward_delimited fun _ => Read.forward_pure _
  | skip wireType =>
    exact Read.forward_bind (Read.forward_skip wireType) fun _ => Read.forward_pure _

end Request

namespace Read
variable {cursor last : Cursor} {fault : DecodeError}

theorem bind_eq_error {first : Read α} {second : α → Read β} :
    (first >>= second) cursor = .error fault last ↔
      first cursor = .error fault last ∨
        ∃ value between, first cursor = .ok value between ∧
          second value between = .error fault last := by
  simp only [bind, EStateM.bind]
  cases step : first cursor with
  | ok value between =>
    constructor
    · intro failed
      exact .inr ⟨value, between, rfl, failed⟩
    · rintro (⟨⟨⟩⟩ | ⟨_, _, same, failed⟩)
      cases same
      exact failed
  | error fault' last' => simp

theorem bind_pure_eq_error {read : Read α} {hand : α → β} :
    (read >>= fun value => pure (hand value)) cursor = .error fault last ↔
      read cursor = .error fault last := by
  rw [bind_eq_error]
  refine or_iff_left ?_
  rintro ⟨value, between, -, failed⟩
  cases failed

theorem discard_eq_error {read : Read α} :
    discard read cursor = .error fault last ↔ read cursor = .error fault last := by
  rw [discard_eq]
  cases read cursor with
  | ok value next => simp
  | error fault' last' => simp

/-- How a read fails that starts with a varint, and where it leaves the cursor. -/
inductive Strands (cursor : Cursor) : DecodeError → Cursor → Prop where
  /-- The varint breaks off, with all that was left. -/
  | unfinished : Strands cursor
      (.truncated cursor.offset (cursor.rest.length + 1) cursor.rest.length)
      (cursor.advance cursor.rest.length)
  | overflow : Strands cursor (.malformed cursor.offset .varintOverflow)
      (cursor.advance Varint.maxLength)
  /-- The varint was a length. Of the bytes, which are too few, none is taken. -/
  | short {count : Nat} {next : Cursor} (later : cursor.offset < next.offset) :
      Strands cursor (.truncated next.offset count next.rest.length) next
  /-- The varint was a word that means nothing. -/
  | refused {reason : Malformation} {next : Cursor} (other : reason ≠ .varintOverflow) :
      Strands cursor (.malformed cursor.offset reason) next

theorem strands_varint (failed : varint cursor = .error fault last) :
    Strands cursor fault last := by
  simp only [varint, Varint.read] at failed
  split at failed
  · cases failed
  · rename_i available broken
    cases failed
    split at broken
    · cases broken
    · cases broken
      rename_i unfinished
      have all : available = cursor.rest.length := by
        rw [Varint.readFrom_unfinished unfinished, Nat.zero_add]
      rw [all]
      exact .unfinished
  · cases failed
    exact .overflow

theorem exact_of_holds {count : Nat} (within : count ≤ cursor.rest.length) :
    exact count cursor = .ok (cursor.rest.take count) (cursor.advance count) := by
  simp only [exact, if_pos (Bytes.holds_iff.2 within)]

theorem exact_of_short {count : Nat} (short : cursor.rest.length < count) :
    exact count cursor = .error (.truncated cursor.offset count cursor.rest.length) cursor := by
  simp only [exact, if_neg (mt Bytes.holds_iff.1 (Nat.not_le.2 short))]

theorem exact_eq_ok {count : Nat} {bytes : Bytes}
    (done : exact count cursor = .ok bytes last) :
    count ≤ cursor.rest.length ∧ last = cursor.advance count := by
  obtain ⟨_, ⟨rfl, rfl⟩, passed⟩ := (takes_exact count).ok_iff.1 done
  exact ⟨by simp [passed.rest], passed.eq_advance⟩

theorem exact_eq_error {count : Nat} (failed : exact count cursor = .error fault last) :
    cursor.rest.length < count ∧
      fault = .truncated cursor.offset count cursor.rest.length ∧ last = cursor := by
  simp only [exact] at failed
  split at failed
  · cases failed
  · rename_i short
    cases failed
    exact ⟨Nat.not_le.1 (mt Bytes.holds_iff.2 short), rfl, rfl⟩

theorem strands_delimited (failed : delimited cursor = .error fault last) :
    Strands cursor fault last := by
  rcases bind_eq_error.1 failed with failed | ⟨count, between, done, failed⟩
  · exact strands_varint failed
  · obtain ⟨taken, some, -, rfl⟩ := varint_ok done
    obtain ⟨-, rfl, rfl⟩ := exact_eq_error failed
    exact .short (Nat.lt_add_of_pos_right some)

theorem strands_key (failed : key cursor = .error fault last) : Strands cursor fault last := by
  obtain ⟨⟨⟩⟩ | ⟨start, here, at_start, failed⟩ := bind_eq_error.1 failed
  cases at_start
  rcases bind_eq_error.1 failed with failed | ⟨word, between, done, failed⟩
  · exact strands_varint failed
  · cases parsed : Key.ofWord word with
    | ok key =>
      rw [parsed] at failed
      cases failed
    | error reason =>
      rw [parsed] at failed
      cases failed
      apply Strands.refused
      rintro rfl
      simp only [Key.ofWord] at parsed
      split at parsed
      · split at parsed <;> cases parsed
      · cases parsed

end Read

namespace Request
variable {request : Request} {cursor last : Cursor} {fault : DecodeError}

theorem strands_read (opens : request.count? = none)
    (failed : request.read cursor = .error fault last) : Read.Strands cursor fault last := by
  cases request with
  | varint => exact Read.strands_varint (Read.bind_pure_eq_error.1 failed)
  | key => exact Read.strands_key (Read.bind_pure_eq_error.1 failed)
  | exact count => cases opens
  | delimited => exact Read.strands_delimited (Read.bind_pure_eq_error.1 failed)
  | skip wireType =>
    have failed := Read.bind_pure_eq_error.1 failed
    cases wireType with
    | varint => exact Read.strands_varint (Read.discard_eq_error.1 failed)
    | fixed64 => cases opens
    | delimited => exact Read.strands_delimited (Read.discard_eq_error.1 failed)
    | fixed32 => cases opens

/-- So many bytes are taken, or none where they are not left. -/
theorem read_eq_ok_of_count {count : Nat} {answer : Answer} (counted : request.count? = some count)
    (done : request.read cursor = .ok answer last) :
    count ≤ cursor.rest.length ∧ last = cursor.advance count := by
  cases request with
  | varint | key | delimited => cases counted
  | exact count =>
    cases counted
    obtain ⟨bytes, next, done, handed⟩ := Read.bind_eq_ok.1 done
    cases handed
    exact Read.exact_eq_ok done
  | skip wireType =>
    obtain ⟨⟨⟩, next, done, handed⟩ := Read.bind_eq_ok.1 done
    cases handed
    cases wireType with
    | varint | delimited => cases counted
    | fixed64 | fixed32 =>
      cases counted
      obtain ⟨bytes, done⟩ := Read.discard_eq_ok.1 done
      exact Read.exact_eq_ok done

theorem read_eq_error_of_count {count : Nat} (counted : request.count? = some count)
    (failed : request.read cursor = .error fault last) :
    cursor.rest.length < count ∧
      fault = .truncated cursor.offset count cursor.rest.length ∧ last = cursor := by
  cases request with
  | varint | key | delimited => cases counted
  | exact count =>
    cases counted
    exact Read.exact_eq_error (Read.bind_pure_eq_error.1 failed)
  | skip wireType =>
    have failed := Read.bind_pure_eq_error.1 failed
    cases wireType with
    | varint | delimited => cases counted
    | fixed64 | fixed32 =>
      cases counted
      exact Read.exact_eq_error (Read.discard_eq_error.1 failed)

/-- What stands before bytes that are handed over, and how many they are. -/
inductive Announces : Request → Bytes → Nat → Prop where
  | exact (count : UInt64) : Announces (.exact count) [] count.toNat
  | delimited {size : Bytes} {word : UInt64} (spelled : Varint.Spells size word) :
      Announces .delimited size word.toNat

theorem passes_of_payload {bytes : Bytes} (done : request.read cursor = .ok (.payload bytes) last) :
    ∃ lead, request.Announces lead bytes.length ∧ cursor.Passes (lead ++ bytes) last := by
  cases request with
  | varint | key | skip =>
    obtain ⟨_, _, _, handed⟩ := Read.bind_eq_ok.1 done
    cases handed
  | exact count =>
    obtain ⟨bytes, next, done, handed⟩ := Read.bind_eq_ok.1 done
    cases handed
    obtain ⟨_, ⟨rfl, counted⟩, passed⟩ := (Read.takes_exact _).ok_iff.1 done
    exact ⟨[], counted ▸ .exact count, passed⟩
  | delimited =>
    obtain ⟨bytes, next, done, handed⟩ := Read.bind_eq_ok.1 done
    cases handed
    obtain ⟨_, spelled, passed⟩ := Read.takes_delimited.ok_iff.1 done
    cases spelled with
    | delimited spelled counted => exact ⟨_, counted ▸ .delimited spelled, passed⟩

end Request

/-- The later reader stands behind the earlier one in the same input. -/
structure Reader.Reaches (earlier later : Reader) : Prop where
  source : later.source = earlier.source
  forward : earlier.position ≤ later.position
  within : later.position ≤ earlier.source.length

namespace Reader
variable {reader first second third next : Reader} {cursor : Cursor}

theorem Reaches.refl (within : reader.position ≤ reader.source.length) : reader.Reaches reader :=
  ⟨rfl, Nat.le_refl _, within⟩

theorem Reaches.trans (near : first.Reaches second) (far : second.Reaches third) :
    first.Reaches third :=
  ⟨far.source.trans near.source, Nat.le_trans near.forward far.forward,
    near.source ▸ far.within⟩

def moveTo (reader : Reader) (cursor : Cursor) : Reader := { reader with position := cursor.offset }

theorem run_of_ok {read : Read α} {value : α} (done : read reader.cursor = .ok value cursor) :
    reader.run read = (.ok value, reader.moveTo cursor) := by
  simp only [run, done, moveTo]

theorem run_of_error {read : Read α} {fault : DecodeError}
    (failed : read reader.cursor = .error fault cursor) :
    reader.run read = (.error fault, reader.moveTo cursor) := by
  simp only [run, failed, moveTo]

theorem length_rest (reader : Reader) : reader.cursor.rest.length = reader.remaining := by
  simp [Reader.cursor, remaining]

theorem reaches_moveTo (within : reader.position ≤ reader.source.length)
    (moved : reader.cursor.Reaches cursor) : reader.Reaches (reader.moveTo cursor) := by
  obtain ⟨count, left, rfl⟩ := moved
  simp only [length_rest, remaining] at left
  exact ⟨rfl, Nat.le_add_right _ _, by simp only [moveTo, Cursor.advance, Reader.cursor]; omega⟩

theorem cursor_moveTo (moved : reader.cursor.Reaches cursor) :
    (reader.moveTo cursor).cursor = cursor := by
  obtain ⟨count, _, rfl⟩ := moved
  simp only [moveTo, Reader.cursor, Cursor.advance, List.drop_drop]

/-- Bytes that a reader has just passed can be had again by where they start. -/
theorem slice?_of_passes {lead bytes : Bytes} (same : second.source = first.source)
    (passed : first.cursor.Passes (lead ++ bytes) second.cursor) :
    second.slice? (second.position - bytes.length) = some bytes := by
  have rest : first.source.drop first.position = lead ++ bytes ++ second.cursor.rest := passed.rest
  have stop : second.position = first.position + (lead ++ bytes).length := passed.offset
  rw [List.length_append, ← Nat.add_assoc] at stop
  have start : second.position - bytes.length = first.position + lead.length := by omega
  refine slice?_eq_some_iff.2 ⟨Nat.sub_le _ _, ?_⟩
  rw [start, same, ← List.drop_drop, rest, List.append_assoc, List.drop_left, stop,
    Nat.add_sub_cancel_left, List.take_left]

theorem passes_of_reaches (moved : first.Reaches second) :
    ∃ bytes, first.cursor.Passes bytes second.cursor ∧
      second.slice? first.position = some bytes := by
  obtain ⟨same, forward, within⟩ := moved
  have count : second.position - first.position ≤ first.cursor.rest.length := by
    rw [length_rest, remaining]
    omega
  have passed := Cursor.passes_advance count
  have reached : first.cursor.advance (second.position - first.position) = second.cursor := by
    simp only [Cursor.advance, Reader.cursor, List.drop_drop, same, Nat.add_sub_cancel' forward]
  rw [reached] at passed
  refine ⟨_, passed, slice?_eq_some_iff.2 ⟨forward, ?_⟩⟩
  rw [same]
  rfl

def respond (reader : Reader) (request : Request) : Except DecodeError Answer × Reader :=
  reader.run request.read

def follow (reader : Reader) : List Request → List (Except DecodeError Answer) × Reader
  | [] => ([], reader)
  | request :: requests =>
    let served := reader.respond request
    let rest := served.2.follow requests
    (served.1 :: rest.1, rest.2)

/-- What a call does to a reader. -/
structure Serves (reader : Reader) (request : Request) (answer : Except DecodeError Answer)
    (next : Reader) : Prop where
  reaches : reader.Reaches next
  /-- Bytes that are handed over are as many as were called for, and the last before the place that
  the reader has come to. -/
  payload {bytes : Bytes} : answer = .ok (.payload bytes) →
    (∃ lead, request.Announces lead bytes.length ∧
      reader.cursor.Passes (lead ++ bytes) next.cursor) ∧
    next.slice? (next.position - bytes.length) = some bytes
  /-- A count that is known beforehand is taken as a whole, or not at all where less is left. -/
  counted {count : Nat} : request.count? = some count →
    (∀ given, answer = .ok given →
      count ≤ reader.remaining ∧ next.position = reader.position + count) ∧
    ∀ fault, answer = .error fault →
      reader.remaining < count ∧ next = reader ∧
        fault = .truncated reader.position count reader.remaining
  /-- A varint that breaks off takes all that is left. If it does not, it was a length, and nothing
  of what it announces is taken. -/
  truncated {offset needed available : Nat} : request.count? = none →
    answer = .error (.truncated offset needed available) →
    next.position = if offset = reader.position then reader.source.length else offset
  overflow {offset : Nat} : answer = .error (.malformed offset .varintOverflow) →
    offset = reader.position ∧ next.position = reader.position + Varint.maxLength

theorem serves_respond (within : reader.position ≤ reader.source.length) (request : Request) :
    reader.Serves request (reader.respond request).1 (reader.respond request).2 := by
  have moved := request.forward_read reader.cursor
  rw [respond]
  cases served : request.read reader.cursor with
  | ok given last =>
    rw [served] at moved
    rw [run_of_ok served]
    have reaches := reaches_moveTo within moved
    constructor
    · exact reaches
    · intro bytes handed
      cases handed
      obtain ⟨lead, announced, passed⟩ := Request.passes_of_payload served
      rw [← cursor_moveTo moved] at passed
      exact ⟨⟨lead, announced, passed⟩, slice?_of_passes reaches.source passed⟩
    · intro count counted
      obtain ⟨enough, rfl⟩ := Request.read_eq_ok_of_count counted served
      rw [length_rest] at enough
      exact ⟨fun _ _ => ⟨enough, rfl⟩, fun _ failed => by cases failed⟩
    · intro _ _ _ _ failed
      cases failed
    · intro _ failed
      cases failed
  | error fault last =>
    rw [served] at moved
    rw [run_of_error served]
    have reaches := reaches_moveTo within moved
    constructor
    · exact reaches
    · intro bytes handed
      cases handed
    · intro count counted
      obtain ⟨short, rfl, rfl⟩ := Request.read_eq_error_of_count counted served
      rw [length_rest] at short ⊢
      refine ⟨fun _ handed => (by cases handed), fun _ failed => ?_⟩
      cases failed
      exact ⟨short, rfl, rfl⟩
    · intro offset needed available opens failed
      cases failed
      cases Request.strands_read opens served with
      | unfinished =>
        rw [if_pos (show reader.cursor.offset = reader.position from rfl)]
        simp only [moveTo, Cursor.advance, Reader.cursor, List.length_drop]
        omega
      | short later =>
        rw [if_neg (show ¬ last.offset = reader.position from Nat.ne_of_gt later)]
        rfl
    · intro offset failed
      cases failed
      cases counted : request.count? with
      | some count =>
        obtain ⟨-, ⟨⟩, -⟩ := Request.read_eq_error_of_count counted served
      | none =>
        cases Request.strands_read counted served with
        | overflow => exact ⟨rfl, rfl⟩
        | refused other => exact absurd rfl other

/-- However a call ends, the next one finds the reader inside its input. -/
theorem reaches_follow (within : reader.position ≤ reader.source.length)
    (requests : List Request) : reader.Reaches (reader.follow requests).2 := by
  induction requests generalizing reader with
  | nil => exact .refl within
  | cons request requests ih =>
    have near := (serves_respond within request).reaches
    exact near.trans (ih (near.source ▸ near.within))

end Reader
end Preimage.Wire
