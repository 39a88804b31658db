import Preimage.Proofs.Wire.Grammar

/-! The shortest of many spellings. Minimality is said by comparison with all spellings alone, so
that it does not depend on how anything is written. -/
namespace Preimage.Wire

/-- Bytes of a format of which no others are fewer. -/
structure Minimal (format : Bytes → Prop) (bytes : Bytes) : Prop where
  formed : format bytes
  least : ∀ other, format other → bytes.length ≤ other.length

/-- Where one form is shorter than every other, it is the only one that is minimal. -/
theorem minimal_iff {format : Bytes → Prop} {written : Bytes} (formed : format written)
    (shortest : ∀ other, format other → other.length ≤ written.length → other = written)
    {bytes : Bytes} : Minimal format bytes ↔ bytes = written := by
  constructor
  · intro minimal
    exact shortest bytes minimal.formed (minimal.least written formed)
  · rintro rfl
    refine ⟨formed, fun other formed' => ?_⟩
    by_cases shorter : other.length ≤ bytes.length
    · have same := shortest other formed' shorter
      exact Nat.le_of_eq (congrArg List.length same.symm)
    · omega

namespace Varint
variable {bytes : Bytes} {number : Nat} {word : UInt64}

/-- No digit that is written can be left out, and each stands in its place. -/
theorem Digits.eq_groups (digits : Digits bytes number)
    (short : bytes.length ≤ (groups number).length) : bytes = groups number := by
  induction digits with
  | last low =>
    rw [groups, if_pos low, UInt8.ofNat_toNat]
  | @more byte rest number marked tail ih =>
    have top := byte.toNat_lt
    have more := tail.length_pos
    rw [groups] at short ⊢
    split
    · -- A single digit is enough, so that the marked one was not needed.
      rename_i small
      rw [if_pos small] at short
      simp only [List.length_cons, List.length_nil] at short
      omega
    · rename_i large
      rw [if_neg large, show (byte.toNat - 128 + 128 * number) / 128 = number by omega] at short
      rw [show (byte.toNat - 128 + 128 * number) / 128 = number by omega,
        show 128 + (byte.toNat - 128 + 128 * number) % 128 = byte.toNat by omega,
        UInt8.ofNat_toNat, ← ih (by simpa using short)]

end Varint

namespace Key
variable {key : Key} {bytes : Bytes}

theorem spells_iff : key.Spells bytes ↔
    Varint.Spells bytes key.toWord ∧ 1 ≤ key.number.toNat ∧ key.number.toNat < 2 ^ 29 := by
  have low := key.wireType.toNat_code_lt
  have packed := toNat_toWord key
  constructor
  · rintro ⟨word, spelled, number, code, least, most⟩
    have same : word = key.toWord := UInt64.toNat_inj.1 (by omega)
    exact ⟨same ▸ spelled, least, most⟩
  · rintro ⟨spelled, least, most⟩
    exact ⟨key.toWord, spelled, by omega, by omega, least, most⟩

theorem minimal_spells_iff (least : 1 ≤ key.number.toNat) (most : key.number.toNat < 2 ^ 29) :
    Minimal (fun bytes => key.Spells bytes) bytes ↔ bytes = key.encode :=
  minimal_iff (spells_encode least most) fun _ spelled short =>
    (spells_iff.1 spelled).1.digits.eq_groups short

end Key

namespace Value
variable {value : Value} {bytes : Bytes}

def encode : Value → Bytes
  | varint word => Varint.encode word
  | delimited payload => encodeDelimited payload
  | fixed64 payload | fixed32 payload => payload

theorem eq_encode_of_length_le (spelled : value.Spells bytes)
    (short : bytes.length ≤ value.encode.length) : bytes = value.encode := by
  cases spelled with
  | varint spelled => exact spelled.digits.eq_groups short
  | fixed64 sized => rfl
  | fixed32 sized => rfl
  | @delimited size payload word spelled counted =>
    have same : UInt64.ofNat payload.length = word := by rw [← counted, UInt64.ofNat_toNat]
    simp only [encode, encodeDelimited, same, List.length_append] at short ⊢
    rw [spelled.digits.eq_groups (Nat.le_of_add_le_add_right short)]
    rfl

theorem spells_encode (spelled : value.Spells bytes) : value.Spells value.encode := by
  cases spelled with
  | varint spelled => exact .varint (Varint.spells_encode _)
  | fixed64 sized => exact .fixed64 sized
  | fixed32 sized => exact .fixed32 sized
  | delimited spelled counted =>
    exact spells_encodeDelimited (by rw [← counted]; exact UInt64.toNat_lt _)

theorem minimal_spells_iff (spelled : value.Spells bytes) {other : Bytes} :
    Minimal (fun bytes => value.Spells bytes) other ↔ other = value.encode :=
  minimal_iff (spells_encode spelled) fun _ spelled' short => eq_encode_of_length_le spelled' short

end Value

namespace Record
variable {record record' : Record}

structure Shortest (record : Record) : Prop where
  opening : Minimal (fun bytes => Key.Spells bytes ⟨record.number, record.wireType⟩) record.opening
  body : Minimal (fun bytes => record.value.Spells bytes) record.body

theorem shortest_iff : record.Shortest ↔
    record.opening = Key.encode ⟨record.number, record.wireType⟩ ∧
      record.body = record.value.encode := by
  obtain ⟨_, least, most⟩ := Key.spells_iff.1 record.opened
  constructor
  · rintro ⟨opening, body⟩
    exact ⟨(Key.minimal_spells_iff least most).1 opening,
      (Value.minimal_spells_iff record.filled).1 body⟩
  · rintro ⟨opening, body⟩
    exact ⟨(Key.minimal_spells_iff least most).2 opening,
      (Value.minimal_spells_iff record.filled).2 body⟩

/-- What is said determines the shortest way to say it. -/
theorem Shortest.ext (shortest : record.Shortest) (shortest' : record'.Shortest)
    (number : record.number = record'.number) (value : record.value = record'.value) :
    record = record' := by
  obtain ⟨opening, body⟩ := shortest_iff.1 shortest
  obtain ⟨opening', body'⟩ := shortest_iff.1 shortest'
  have layout : record.wireType = record'.wireType := congrArg Value.wireType value
  exact Record.ext number value (by rw [opening, opening', number, layout])
    (by rw [body, body', value])

end Record
end Preimage.Wire
