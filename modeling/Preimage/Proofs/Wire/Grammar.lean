import Preimage.Proofs.Wire.Spelling

/-! The grammar of messages. Varints within records have any of their spellings. Records delimit
themselves: the bytes of a message fall into records in one way only. -/
namespace Preimage.Wire

/-- The word of a key holds the layout in its low three bits and the number above them. -/
def Key.Spells (bytes : Bytes) (key : Key) : Prop :=
  ∃ word, Varint.Spells bytes word ∧ word.toNat / 8 = key.number.toNat ∧
    word.toNat % 8 = key.wireType.code.toNat ∧ 1 ≤ key.number.toNat ∧ key.number.toNat < 2 ^ 29

inductive Value where
  | varint (word : UInt64)
  | fixed64 (payload : Bytes)
  | delimited (payload : Bytes)
  | fixed32 (payload : Bytes)
deriving Repr, DecidableEq

namespace Value

def wireType : Value → WireType
  | varint _ => .varint
  | fixed64 _ => .fixed64
  | delimited _ => .delimited
  | fixed32 _ => .fixed32

def payload : Value → Bytes
  | varint _ => []
  | fixed64 payload | delimited payload | fixed32 payload => payload

def word : Value → UInt64
  | varint word => word
  | fixed64 _ | delimited _ | fixed32 _ => 0

inductive Spells : Bytes → Value → Prop where
  | varint {bytes : Bytes} {word : UInt64} (spelled : Varint.Spells bytes word) :
      Spells bytes (.varint word)
  | fixed64 {payload : Bytes} (sized : payload.length = 8) : Spells payload (.fixed64 payload)
  | delimited {size payload : Bytes} {word : UInt64} (spelled : Varint.Spells size word)
      (counted : word.toNat = payload.length) : Spells (size ++ payload) (.delimited payload)
  | fixed32 {payload : Bytes} (sized : payload.length = 4) : Spells payload (.fixed32 payload)

end Value

/-- A record as it stands in a message, which is what it says together with how it is spelled. -/
@[ext] structure Record where
  number : UInt32
  value : Value
  opening : Bytes
  body : Bytes
  opened : Key.Spells opening ⟨number, value.wireType⟩
  filled : value.Spells body

namespace Record

def wireType (record : Record) : WireType := record.value.wireType

def raw (record : Record) : Bytes := record.opening ++ record.body

end Record

variable {front back : Bytes}

theorem Key.Spells.unique {first second : Bytes} {key key' : Key} (spelled : key.Spells first)
    (spelled' : key'.Spells second) (same : first ++ front = second ++ back) :
    first = second ∧ key = key' ∧ front = back := by
  obtain ⟨word, digits, number, code, _⟩ := spelled
  obtain ⟨word', digits', number', code', _⟩ := spelled'
  obtain ⟨bytes, rfl, rests⟩ := digits.unique digits' same
  have numbers : key.number = key'.number := UInt32.toNat_inj.1 (number.symm.trans number')
  have codes : key.wireType.code = key'.wireType.code := UInt8.toNat_inj.1 (code.symm.trans code')
  have layouts : key.wireType = key'.wireType :=
    Option.some.inj (by rw [← WireType.ofCode?_code, codes, WireType.ofCode?_code])
  refine ⟨bytes, ?_, rests⟩
  cases key
  cases key'
  cases numbers
  cases layouts
  rfl

theorem Key.Spells.length_pos {bytes : Bytes} {key : Key} (spelled : key.Spells bytes) :
    0 < bytes.length := by
  obtain ⟨_, digits, _⟩ := spelled
  exact digits.length_pos

namespace Value.Spells
variable {first second : Bytes} {value value' : Value}

theorem length_pos (spelled : value.Spells first) : 0 < first.length := by
  cases spelled with
  | varint digits => exact digits.length_pos
  | fixed64 sized => omega
  | delimited digits =>
    have size := digits.length_pos
    rw [List.length_append]
    omega
  | fixed32 sized => omega

/-- A value ends where its layout says, so that what follows is no part of it. -/
theorem unique (spelled : value.Spells first) (spelled' : value'.Spells second)
    (layout : value.wireType = value'.wireType) (same : first ++ front = second ++ back) :
    first = second ∧ value = value' ∧ front = back := by
  cases spelled with
  | varint digits =>
    cases spelled' with
    | varint digits' =>
      obtain ⟨bytes, rfl, rests⟩ := digits.unique digits' same
      exact ⟨bytes, rfl, rests⟩
    | fixed64 | delimited | fixed32 => cases layout
  | fixed64 sized =>
    cases spelled' with
    | fixed64 sized' =>
      obtain ⟨rfl, rests⟩ := List.append_inj same (sized.trans sized'.symm)
      exact ⟨rfl, rfl, rests⟩
    | varint | delimited | fixed32 => cases layout
  | delimited digits counted =>
    cases spelled' with
    | delimited digits' counted' =>
      simp only [List.append_assoc] at same
      obtain ⟨rfl, rfl, tails⟩ := digits.unique digits' same
      obtain ⟨rfl, rests⟩ := List.append_inj tails (counted.symm.trans counted')
      exact ⟨rfl, rfl, rests⟩
    | varint | fixed64 | fixed32 => cases layout
  | fixed32 sized =>
    cases spelled' with
    | fixed32 sized' =>
      obtain ⟨rfl, rests⟩ := List.append_inj same (sized.trans sized'.symm)
      exact ⟨rfl, rfl, rests⟩
    | varint | fixed64 | delimited => cases layout

end Value.Spells

namespace Record
variable {record record' : Record} {records front back : List Record}

theorem two_le_length_raw (record : Record) : 2 ≤ record.raw.length := by
  have opening := record.opened.length_pos
  have body := record.filled.length_pos
  simp only [raw, List.length_append]
  omega

theorem raw_unique {rest rest' : Bytes} (same : record.raw ++ rest = record'.raw ++ rest') :
    record = record' ∧ rest = rest' := by
  simp only [raw, List.append_assoc] at same
  obtain ⟨openings, keys, tails⟩ := record.opened.unique record'.opened same
  simp only [Key.mk.injEq] at keys
  obtain ⟨bodies, values, rests⟩ := record.filled.unique record'.filled keys.2 tails
  exact ⟨Record.ext keys.1 values openings bodies, rests⟩

/-- Records that begin a message are its first records. -/
theorem exists_append {rest : Bytes} (same : front.flatMap raw ++ rest = records.flatMap raw) :
    ∃ back, records = front ++ back ∧ rest = back.flatMap raw := by
  induction front generalizing records with
  | nil => exact ⟨records, rfl, by simpa using same⟩
  | cons first front ih =>
    cases records with
    | nil =>
      -- A message of no records has no bytes that a record could begin with.
      have some := first.two_le_length_raw
      have lengths := congrArg List.length same
      simp only [List.flatMap_cons, List.length_append, List.flatMap_nil,
        List.length_nil] at lengths
      omega
    | cons head records =>
      simp only [List.flatMap_cons, List.append_assoc] at same
      obtain ⟨rfl, tails⟩ := raw_unique same
      obtain ⟨back, rfl, rests⟩ := ih tails
      exact ⟨back, rfl, rests⟩

/-- There is one way to cut bytes into records. -/
theorem flatMap_raw_injective (same : front.flatMap raw = back.flatMap raw) : front = back := by
  have begun : front.flatMap raw ++ [] = back.flatMap raw := by rw [List.append_nil, same]
  obtain ⟨more, rfl, none⟩ := exists_append begun
  cases more with
  | nil => simp
  | cons record records =>
    have some := record.two_le_length_raw
    have lengths := congrArg List.length none
    simp only [List.flatMap_cons, List.length_append, List.length_nil] at lengths
    omega

end Record

theorem Key.spells_encode {key : Key} (least : 1 ≤ key.number.toNat)
    (most : key.number.toNat < 2 ^ 29) : key.Spells key.encode := by
  have low := key.wireType.toNat_code_lt
  have word := Key.toNat_toWord key
  exact ⟨key.toWord, Varint.spells_encode key.toWord, by omega, by omega, least, most⟩

theorem spells_encodeDelimited {payload : Bytes} (fits : payload.length < 2 ^ 64) :
    (Value.delimited payload).Spells (encodeDelimited payload) := by
  exact .delimited (Varint.spells_encode _) (UInt64.toNat_ofNat_of_lt' fits)

end Preimage.Wire
