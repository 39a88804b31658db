import Mathlib.Order.Nat
import Preimage.Proofs.Wire.Minimality

/-! How long spellings are. What is written takes the least count of digits that has room for the
number. For a key that is told by the number of the field alone. -/
namespace Preimage.Wire

namespace Varint
variable {bytes : Bytes} {number smaller count : Nat} {word : UInt64}

theorem Digits.lt_pow (digits : Digits bytes number) : number < 128 ^ bytes.length := by
  induction digits with
  | last low => simpa using low
  | @more byte rest number marked tail ih =>
    have top := byte.toNat_lt
    rw [List.length_cons, Nat.pow_succ]
    omega

theorem length_groups_le_iff :
    (groups number).length ≤ count ↔ 0 < count ∧ number < 128 ^ count := by
  constructor
  · intro short
    have digits := digits_groups number
    exact ⟨Nat.lt_of_lt_of_le digits.length_pos short,
      Nat.lt_of_lt_of_le digits.lt_pow (Nat.pow_le_pow_right (by decide) short)⟩
  · rintro ⟨some, fits⟩
    obtain ⟨less, rfl⟩ := Nat.exists_eq_add_one_of_ne_zero (Nat.ne_of_gt some)
    exact length_groups_le fits

theorem Digits.length_groups_le (digits : Digits bytes number) (below : smaller ≤ number) :
    (groups smaller).length ≤ bytes.length :=
  length_groups_le_iff.2 ⟨digits.length_pos, Nat.lt_of_le_of_lt below digits.lt_pow⟩

/-- The lowest bit is set before the bits are counted, since zero takes a digit too. -/
theorem length_le_iff : length word ≤ count ↔ 0 < count ∧ word.toNat < 128 ^ count := by
  have odd : word.toNat ||| 1 ≠ 0 := Nat.ne_of_gt (Nat.lt_of_lt_of_le Nat.one_pos Nat.right_le_or)
  have room : (word.toNat ||| 1).log2 < 7 * count ↔ word.toNat ||| 1 < 2 ^ (7 * count) :=
    Nat.log2_lt odd
  rw [show (128 : Nat) = 2 ^ 7 from rfl, ← Nat.pow_mul]
  simp only [length, UInt64.toNat_or, UInt64.toNat_one]
  constructor
  · intro short
    exact ⟨by omega, Nat.lt_of_le_of_lt Nat.left_le_or (room.1 (by omega))⟩
  · rintro ⟨some, fits⟩
    have inside := room.2 (Nat.or_lt_two_pow fits (Nat.one_lt_two_pow (by omega)))
    omega

theorem length_encode (word : UInt64) : (encode word).length = length word :=
  eq_of_forall_ge_iff fun count => by rw [encode, length_groups_le_iff, length_le_iff]

theorem length_pos (word : UInt64) : 0 < length word := by
  rw [← length_encode]
  exact (spells_encode word).length_pos

end Varint

/-- The digits of a key have room for any layout where they have room for the number. -/
theorem Key.length_encode (key : Key) :
    key.encode.length = Varint.length (UInt64.ofNat (key.number.toNat * 8)) := by
  have low := key.wireType.toNat_code_lt
  have number : key.number.toNat < 2 ^ 32 := key.number.toNat_lt
  have bare : (UInt64.ofNat (key.number.toNat * 8)).toNat = key.number.toNat * 8 :=
    UInt64.toNat_ofNat_of_lt' (Nat.lt_trans (by omega) (by decide : 2 ^ 35 < UInt64.size))
  rw [Key.encode, Varint.length_encode]
  refine eq_of_forall_ge_iff fun count => ?_
  rw [Varint.length_le_iff, Varint.length_le_iff, toNat_toWord, bare]
  refine and_congr_right fun some => ?_
  obtain ⟨less, rfl⟩ := Nat.exists_eq_add_one_of_ne_zero (Nat.ne_of_gt some)
  rw [Nat.pow_succ]
  omega

end Preimage.Wire
