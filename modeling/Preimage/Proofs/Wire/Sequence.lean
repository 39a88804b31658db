import Preimage.Proofs.Wire.Failure
import Preimage.Proofs.Wire.Minimality

/-! Fields as they are written, one after the other. A reader that asks for each in the shape in
which it was written has its number, its layout and its value back, and it comes to the same places
if it passes over values instead. -/
namespace Preimage.Wire

inductive Content where
  | bytes (payload : Bytes)
  | int32 (number : Int32)
  | word (bits : UInt64)
  | fixed64 (payload : Bytes)
  | fixed32 (payload : Bytes)
deriving Repr, DecidableEq

inductive Shape where
  | bytes
  | int32
  | word
  | fixed64
  | fixed32
deriving Repr, DecidableEq

namespace Content

def shape : Content → Shape
  | bytes _ => .bytes
  | int32 _ => .int32
  | word _ => .word
  | fixed64 _ => .fixed64
  | fixed32 _ => .fixed32

/-- On the wire a signed number is a word like any other. -/
def value : Content → Value
  | bytes payload => .delimited payload
  | int32 number => .varint (wordOfInt32 number)
  | word bits => .varint bits
  | fixed64 payload => .fixed64 payload
  | fixed32 payload => .fixed32 payload

/-- Payloads have the size that their layout fixes, or one that a length can count. -/
def Fits : Content → Prop
  | bytes payload => payload.length < 2 ^ 64
  | int32 _ | word _ => True
  | fixed64 payload => payload.length = 8
  | fixed32 payload => payload.length = 4

instance (content : Content) : Decidable content.Fits :=
  match content with
  | bytes payload => inferInstanceAs (Decidable (payload.length < 2 ^ 64))
  | int32 _ | word _ => isTrue trivial
  | fixed64 payload => inferInstanceAs (Decidable (payload.length = 8))
  | fixed32 payload => inferInstanceAs (Decidable (payload.length = 4))

end Content

/-- Of a word that was asked for as a signed number, the low half counts. -/
def Shape.read : Shape → Read Content
  | .bytes => return .bytes (← Read.delimited)
  | .int32 => return .int32 (int32OfWord (← Read.varint))
  | .word => return .word (← Read.varint)
  | .fixed64 => return .fixed64 (← Read.exact 8)
  | .fixed32 => return .fixed32 (← Read.exact 4)

structure Entry where
  number : UInt32
  content : Content
  listed : 1 ≤ number.toNat ∧ number.toNat < 2 ^ 29
  fits : content.Fits

namespace Entry

def key (entry : Entry) : Key := ⟨entry.number, entry.content.value.wireType⟩

def encode (entry : Entry) : Bytes :=
  match entry.content with
  | .bytes payload => encodeBytesField entry.number payload
  | .int32 number => encodeInt32Field entry.number number
  | .word bits => Key.encode ⟨entry.number, .varint⟩ ++ Varint.encode bits
  | .fixed64 payload => Key.encode ⟨entry.number, .fixed64⟩ ++ payload
  | .fixed32 payload => Key.encode ⟨entry.number, .fixed32⟩ ++ payload

theorem encode_eq (entry : Entry) :
    entry.encode = entry.key.encode ++ entry.content.value.encode := by
  obtain ⟨number, content, _, _⟩ := entry
  cases content <;> rfl

theorem key_spells (entry : Entry) : entry.key.Spells entry.key.encode :=
  Key.spells_encode entry.listed.1 entry.listed.2

end Entry

/-- One stop of a reader: a field that comes next, and whether its value is read or passed over. -/
structure Visit where
  entry : Entry
  reads : Bool

namespace Visit

def shape? (visit : Visit) : Option Shape :=
  if visit.reads then some visit.entry.content.shape else none

def result (visit : Visit) : Key × Option Content :=
  (visit.entry.key, if visit.reads then some visit.entry.content else none)

def written (visits : List Visit) : Bytes := visits.flatMap fun visit => visit.entry.encode

end Visit

namespace Read

/-- A key, and then the value in some shape, or past it by the layout that the key has named. -/
def field (shape? : Option Shape) : Read (Key × Option Content) := do
  let key ← Read.key
  match shape? with
  | some shape => return (key, some (← shape.read))
  | none =>
    Read.skip key.wireType
    return (key, none)

def fields (shapes : List (Option Shape)) : Read (List (Key × Option Content)) :=
  shapes.mapM field

end Read

section
variable {cursor next : Cursor} {content : Content}

theorem Content.spells_value (fits : content.Fits) :
    content.value.Spells content.value.encode := by
  cases content with
  | bytes payload => exact spells_encodeDelimited fits
  | int32 number => exact .varint (Varint.spells_encode _)
  | word bits => exact .varint (Varint.spells_encode _)
  | fixed64 payload => exact .fixed64 fits
  | fixed32 payload => exact .fixed32 fits

theorem Content.read_shape (fits : content.Fits)
    (passed : cursor.Passes content.value.encode next) :
    content.shape.read cursor = .ok content next := by
  cases content with
  | bytes payload =>
    have done := Read.takes_delimited.ok_iff.2 ⟨_, spells_encodeDelimited fits, passed⟩
    exact Read.bind_eq_ok.2 ⟨payload, next, done, rfl⟩
  | int32 number =>
    have done := Read.takes_varint.ok_iff.2 ⟨_, Varint.spells_encode _, passed⟩
    refine Read.bind_eq_ok.2 ⟨_, next, done, ?_⟩
    -- The word that comes back has the sign in its upper half, which is dropped again.
    rw [int32OfWord_wordOfInt32]
    rfl
  | word bits =>
    have done := Read.takes_varint.ok_iff.2 ⟨_, Varint.spells_encode bits, passed⟩
    exact Read.bind_eq_ok.2 ⟨bits, next, done, rfl⟩
  | fixed64 payload =>
    have done := (Read.takes_exact 8).ok_iff.2 ⟨_, ⟨rfl, fits⟩, passed⟩
    exact Read.bind_eq_ok.2 ⟨payload, next, done, rfl⟩
  | fixed32 payload =>
    have done := (Read.takes_exact 4).ok_iff.2 ⟨_, ⟨rfl, fits⟩, passed⟩
    exact Read.bind_eq_ok.2 ⟨payload, next, done, rfl⟩

theorem Visit.read_field {visit : Visit} (passed : cursor.Passes visit.entry.encode next) :
    Read.field visit.shape? cursor = .ok visit.result next := by
  obtain ⟨entry, reads⟩ := visit
  rw [entry.encode_eq] at passed
  obtain ⟨between, passed, passed'⟩ := Cursor.passes_append.1 passed
  have keyed := Read.takes_key.ok_iff.2 ⟨_, entry.key_spells, passed⟩
  refine Read.bind_eq_ok.2 ⟨entry.key, between, keyed, ?_⟩
  cases reads with
  | true =>
    exact Read.bind_eq_ok.2 ⟨_, next, Content.read_shape entry.fits passed', rfl⟩
  | false =>
    -- What is passed over is some value of the layout in the key, and it ends in one place only.
    have skipped : Read.skip entry.content.value.wireType between = .ok () next :=
      (Read.takes_skip _).ok_iff.2 ⟨_, ⟨_, rfl, Content.spells_value entry.fits⟩, passed'⟩
    exact Read.bind_eq_ok.2 ⟨(), next, skipped, rfl⟩

theorem Visit.read_fields {visits : List Visit}
    (passed : cursor.Passes (Visit.written visits) next) :
    Read.fields (visits.map Visit.shape?) cursor = .ok (visits.map Visit.result) next := by
  induction visits generalizing cursor with
  | nil =>
    cases Cursor.passes_nil.1 passed
    rfl
  | cons visit visits ih =>
    obtain ⟨between, passed, passed'⟩ := Cursor.passes_append.1 passed
    simp only [Read.fields, List.map_cons, List.mapM_cons] at ih ⊢
    refine Read.bind_eq_ok.2 ⟨_, between, read_field passed, ?_⟩
    exact Read.bind_eq_ok.2 ⟨_, next, ih passed', rfl⟩

theorem Key.fault_encode {key : Key}
    (outside : ¬ (1 ≤ key.number.toNat ∧ key.number.toNat < 2 ^ 29))
    (passed : cursor.Passes key.encode next) :
    KeyFault cursor (.malformed cursor.offset (.invalidFieldNumber key.number.toNat)) := by
  have low := key.wireType.toNat_code_lt
  have number : key.toWord.toNat / 8 = key.number.toNat := by
    rw [Key.toNat_toWord]
    omega
  rw [← number] at outside ⊢
  exact .number (Varint.spells_encode key.toWord) passed outside

end

namespace Reader

theorem cursor_passes (front bytes rest : Bytes) :
    (Reader.mk (front ++ (bytes ++ rest)) front.length).cursor.Passes bytes
      ⟨front.length + bytes.length, rest⟩ :=
  ⟨List.drop_left, rfl⟩

/-- Every list of fields, from wherever a reader stands before them to whatever follows them. -/
theorem run_written :
    (∀ (front : Bytes) (visits : List Visit) (trailing : Bytes),
      (Reader.mk (front ++ (Visit.written visits ++ trailing)) front.length).run
          (Read.fields (visits.map Visit.shape?)) =
        (.ok (visits.map Visit.result),
          ⟨front ++ (Visit.written visits ++ trailing),
            front.length + (Visit.written visits).length⟩)) ∧
      ∀ (front : Bytes) (key : Key) (rest : Bytes),
        ¬ (1 ≤ key.number.toNat ∧ key.number.toNat < 2 ^ 29) →
          ((Reader.mk (front ++ (key.encode ++ rest)) front.length).run Read.key).1 =
            .error (.malformed front.length (.invalidFieldNumber key.number.toNat)) := by
  constructor
  · intro front visits trailing
    have passed := cursor_passes front (Visit.written visits) trailing
    simp only [run, Visit.read_fields passed]
  · intro front key rest outside
    have fault := Key.fault_encode outside (cursor_passes front key.encode rest)
    obtain ⟨last, failed⟩ := Read.fails_key.error_iff.2 fault
    simp only [run, failed]
    rfl

/-- Two values read and two passed over, and the two numbers next to those that a field can have. -/
theorem run_written_mixed :
    (Reader.mk ([0xff] ++ ([0x0a, 0x01, 0x61, 0x28, 0x96, 0x01, 0x35, 1, 2, 3, 4, 0x20, 0xff, 0xff,
          0xff, 0xff, 0xff, 0xff, 0xff, 0xff, 0xff, 0x01] ++ [0x80])) 1).run
        (Read.fields [some .bytes, none, none, some .int32]) =
      (.ok [(⟨1, .delimited⟩, some (.bytes [0x61])), (⟨5, .varint⟩, none), (⟨6, .fixed32⟩, none),
        (⟨4, .varint⟩, some (.int32 (-1)))],
        ⟨[0xff] ++ ([0x0a, 0x01, 0x61, 0x28, 0x96, 0x01, 0x35, 1, 2, 3, 4, 0x20, 0xff, 0xff,
          0xff, 0xff, 0xff, 0xff, 0xff, 0xff, 0xff, 0x01] ++ [0x80]), 23⟩) ∧
      ((Reader.mk [0x02, 0x07] 0).run Read.key).1 = .error (.malformed 0 (.invalidFieldNumber 0)) ∧
      ((Reader.mk [0xff, 0x80, 0x80, 0x80, 0x80, 0x10] 1).run Read.key).1 =
        .error (.malformed 1 (.invalidFieldNumber (2 ^ 29))) := by
  obtain ⟨whole, refused⟩ := run_written
  let visits : List Visit :=
    [⟨⟨1, .bytes [0x61], by decide, by decide⟩, true⟩,
      ⟨⟨5, .word 150, by decide, by decide⟩, false⟩,
      ⟨⟨6, .fixed32 [1, 2, 3, 4], by decide, by decide⟩, false⟩,
      ⟨⟨4, .int32 (-1), by decide, by decide⟩, true⟩]
  have bytes : Visit.written visits = [0x0a, 0x01, 0x61, 0x28, 0x96, 0x01, 0x35, 1, 2, 3, 4, 0x20,
      0xff, 0xff, 0xff, 0xff, 0xff, 0xff, 0xff, 0xff, 0xff, 0x01] := by decide +kernel
  have none : Key.encode ⟨0, .delimited⟩ = [0x02] := by decide +kernel
  have wide : Key.encode ⟨2 ^ 29, .varint⟩ = [0x80, 0x80, 0x80, 0x80, 0x10] := by decide +kernel
  have fields := whole [0xff] visits [0x80]
  have first := refused [] ⟨0, .delimited⟩ [0x07] (by decide)
  have second := refused [0xff] ⟨2 ^ 29, .varint⟩ [] (by decide)
  rw [bytes] at fields
  rw [none] at first
  rw [wide] at second
  exact ⟨fields, first, second⟩

end Reader
end Preimage.Wire
