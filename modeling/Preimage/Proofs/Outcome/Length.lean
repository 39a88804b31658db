import Preimage.Proofs.Outcome.RoundTrip
import Preimage.Proofs.Wire.Length

/-! The length of the written form, told before anything is written. Only the default outcome is
written as nothing: whatever is retained has at least a key and a value. -/
namespace Preimage.Outcome
open Wire
open Bytes (length_ofText)
variable {outcome : Outcome} {kept : List Record}

theorem length_encodeBytes (tag : Tag) (payload : Bytes) :
    (encodeBytes tag payload).length = bytesLength tag payload.length := by
  by_cases empty : payload = []
  · rw [empty]
    rfl
  · have filled : payload.length ≠ 0 := by simpa using empty
    rw [encodeBytes, if_neg (by simpa using empty), bytesLength, if_neg filled, encodeBytesField,
      List.length_append, Key.length_encode, encodeDelimited, List.length_append,
      Varint.length_encode, keyLength, Nat.add_assoc]

theorem length_encodeCode (code : Int32) : (encodeCode code).length = codeLength code := by
  by_cases zero : code = 0
  · rw [zero]
    rfl
  · rw [encodeCode, if_neg zero, codeLength, if_neg zero, encodeInt32Field, List.length_append,
      Key.length_encode, Varint.length_encode, keyLength]

theorem unknownSize_eq (outcome : Outcome) :
    outcome.unknownSize = (outcome.unknown.flatMap UnknownField.raw).length := by
  simp only [unknownSize]
  induction outcome.unknown with
  | nil => rfl
  | cons field fields ih => rw [List.foldr_cons, List.flatMap_cons, List.length_append, ih]

theorem length_encode (outcome : Outcome) : outcome.encode.length = outcome.encodedLength := by
  simp only [encode, List.length_append, length_encodeBytes, length_encodeCode, length_ofText,
    ← unknownSize_eq, encodedLength]

theorem bytesLength_eq_zero_iff {tag : Tag} {size : Nat} : bytesLength tag size = 0 ↔ size = 0 := by
  by_cases empty : size = 0 <;> simp [bytesLength, empty]

theorem codeLength_eq_zero_iff {code : Int32} : codeLength code = 0 ↔ code = 0 := by
  by_cases zero : code = 0
  · simp [codeLength, zero]
  · have some := Varint.length_pos (wordOfInt32 code)
    simp [codeLength, zero]
    omega

theorem Keeps.unknownSize_eq_zero_iff (keeps : outcome.Keeps kept) :
    outcome.unknownSize = 0 ↔ outcome.unknown = [] := by
  rw [unknownSize_eq, keeps.flatMap_raw, keeps.unknown]
  cases kept with
  | nil => simp
  | cons record records =>
    have some := record.two_le_length_raw
    rw [List.flatMap_cons, List.length_append, List.map_cons]
    simp only [reduceCtorEq, iff_false]
    omega

theorem Keeps.encodedLength_eq_zero_iff (keeps : outcome.Keeps kept) :
    outcome.encodedLength = 0 ↔ outcome = {} := by
  constructor
  · intro nothing
    simp only [encodedLength, Nat.add_eq_zero_iff, bytesLength_eq_zero_iff,
      codeLength_eq_zero_iff, keeps.unknownSize_eq_zero_iff] at nothing
    obtain ⟨⟨⟨⟨dataHash, data⟩, errorCode⟩, error⟩, unknown⟩ := nothing
    cases outcome
    simp_all
  · rintro rfl
    rfl

/-- The length is told right, and it is zero for the default outcome alone. -/
theorem encodedLength_eq (produced : Producible outcome) :
    outcome.encodedLength = outcome.encode.length ∧
      (outcome.encode.length = 0 ↔ outcome = {}) := by
  obtain ⟨kept, keeps⟩ := produced.exists_keeps
  refine ⟨outcome.length_encode.symm, ?_⟩
  rw [length_encode]
  exact keeps.encodedLength_eq_zero_iff

/-- A negative code, and a field 9 whose key has a byte more than it needs. -/
theorem encodedLength_eq_retained :
    Producible { errorCode := -1, unknown := [⟨9, .varint, [0xc8, 0x00, 0x07]⟩] } ∧
      encodedLength { errorCode := -1, unknown := [⟨9, .varint, [0xc8, 0x00, 0x07]⟩] } =
        (encode { errorCode := -1, unknown := [⟨9, .varint, [0xc8, 0x00, 0x07]⟩] }).length ∧
      (encode { errorCode := -1, unknown := [⟨9, .varint, [0xc8, 0x00, 0x07]⟩] }).length ≠ 0 := by
  have accepted : Decoder.relay.decode
      [0xc8, 0x00, 0x07, 0x18, 0xff, 0xff, 0xff, 0xff, 0x0f] =
        .ok { errorCode := -1, unknown := [⟨9, .varint, [0xc8, 0x00, 0x07]⟩] } := by
    decide +kernel
  obtain ⟨told, nothing⟩ := encodedLength_eq (.decoded accepted)
  exact ⟨.decoded accepted, told, fun zero => absurd (nothing.1 zero) (by decide)⟩

end Preimage.Outcome
