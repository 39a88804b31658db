import Mathlib.Data.Nat.Digits.Defs
import Preimage.Proofs.Wire.Checked
import Preimage.Proofs.Wire.Failure
import Preimage.Proofs.Wire.Length

/-! Varints said by their bits. The high bit of every byte but the last is set, the tenth byte is 0
or 1, and the low seven bits of all of them are the word to the base 128, the lowest first. -/
namespace Preimage.Wire

namespace Varint
variable {bytes front : Bytes} {byte last : UInt8} {number : Nat} {word : UInt64}

def Continued (bytes : Bytes) : Prop := ∀ byte ∈ bytes, byte &&& 0x80 ≠ 0

/-- The bytes are one varint, and all of it. -/
inductive Closed : Bytes → Prop where
  | intro {front : Bytes} {last : UInt8} (continued : Continued front) (ended : last &&& 0x80 = 0)
      (short : front.length < 10) (narrow : front.length = 9 → last ≤ 1) : Closed (front ++ [last])

/-- The number in the low seven bits of the bytes. -/
def total (bytes : Bytes) : Nat := Nat.ofDigits 128 (bytes.map fun byte => (byte &&& 0x7f).toNat)

theorem continued_iff : Continued bytes ↔ Marked bytes := by
  simp only [Continued, Marked, ne_eq, unmarked_iff, Nat.not_lt]

theorem total_cons : total (byte :: bytes) = byte.toNat % 128 + 128 * total bytes := by
  rw [total, List.map_cons, Nat.ofDigits_cons, toNat_group, total]

theorem total_append_singleton :
    total (front ++ [last]) = total front + 128 ^ front.length * (last.toNat % 128) := by
  rw [total, List.map_append, Nat.ofDigits_append, List.length_map, List.map_singleton,
    Nat.ofDigits_singleton, toNat_group, total]

theorem total_lt (bytes : Bytes) : total bytes < 128 ^ bytes.length := by
  have small : ∀ group ∈ bytes.map fun byte => (byte &&& 0x7f).toNat, group < 128 := by
    intro group member
    obtain ⟨byte, -, rfl⟩ := List.mem_map.1 member
    rw [toNat_group]
    exact Nat.mod_lt _ (by decide)
  have bound := Nat.ofDigits_lt_base_pow_length (by decide) small
  rwa [List.length_map] at bound

/-- Digits are told by the first byte without a high bit, and their number by all other bits. -/
theorem digits_iff :
    Digits bytes number ↔ ∃ front last, bytes = front ++ [last] ∧ Marked front ∧
      last.toNat < 128 ∧ total bytes = number := by
  constructor
  · intro digits
    induction digits with
    | @last byte low =>
      refine ⟨[], byte, rfl, by simp [Marked], low, ?_⟩
      rw [total_cons, Nat.mod_eq_of_lt low]
      rfl
    | @more byte rest number marked tail ih =>
      obtain ⟨front, last, rfl, continued, low, same⟩ := ih
      have top := byte.toNat_lt
      refine ⟨byte :: front, last, rfl, marked_cons.2 ⟨marked, continued⟩, low, ?_⟩
      rw [total_cons, same]
      omega
  · rintro ⟨front, last, rfl, continued, low, rfl⟩
    induction front with
    | nil =>
      rw [List.nil_append, total_cons, Nat.mod_eq_of_lt low]
      exact .last low
    | cons byte front ih =>
      obtain ⟨marked, continued⟩ := marked_cons.1 continued
      have top := byte.toNat_lt
      rw [List.cons_append, total_cons, show byte.toNat % 128 = byte.toNat - 128 by omega]
      exact .more marked (ih continued)

/-- Ten bytes have room for a word where the tenth brings a single bit. -/
theorem total_lt_iff (short : front.length < 10) (low : last.toNat < 128) :
    total (front ++ [last]) < 2 ^ 64 ↔ (front.length = 9 → last.toNat ≤ 1) := by
  have bound := total_lt front
  rw [total_append_singleton, Nat.mod_eq_of_lt low]
  rcases Nat.lt_or_ge front.length 9 with early | final
  · have room : 128 ^ front.length ≤ 128 ^ 8 := Nat.pow_le_pow_right (by decide) (by omega)
    have most : 128 ^ front.length * last.toNat ≤ 128 ^ 8 * 127 :=
      Nat.mul_le_mul room (by omega)
    exact iff_of_true (by omega) fun same => by omega
  · have same : front.length = 9 := by omega
    rw [same] at bound ⊢
    omega

theorem spells_iff : Spells bytes word ↔ Closed bytes ∧ total bytes = word.toNat := by
  constructor
  · rintro ⟨digits, short⟩
    obtain ⟨front, last, rfl, continued, low, same⟩ := digits_iff.1 digits
    rw [List.length_append, List.length_singleton] at short
    have short : front.length < 10 := short
    have narrow := (total_lt_iff short low).1 (same ▸ word.toNat_lt)
    exact ⟨⟨continued_iff.2 continued, (unmarked_iff last).2 low, short, narrow⟩, same⟩
  · rintro ⟨⟨continued, ended, short, -⟩, same⟩
    refine ⟨digits_iff.2 ⟨_, _, rfl, continued_iff.1 continued, (unmarked_iff _).1 ended, same⟩, ?_⟩
    rw [List.length_append, List.length_singleton]
    exact short

theorem Spells.length_le (spelled : Spells bytes word) : length word ≤ bytes.length := by
  rw [← length_encode]
  exact spelled.digits.length_groups_le (Nat.le_refl _)

/-- The fewest bytes spell a word in one way. -/
theorem Spells.length_eq_iff (spelled : Spells bytes word) :
    bytes.length = length word ↔ bytes = encode word := by
  constructor
  · intro same
    exact spelled.digits.eq_groups (Nat.le_of_eq (same.trans (length_encode word).symm))
  · rintro rfl
    exact length_encode word

theorem toNat_shift (word : UInt64) : (word >>> 7).toNat = word.toNat / 128 := by
  rw [UInt64.toNat_shiftRight]
  exact Nat.shiftRight_eq_div_pow word.toNat 7

theorem toNat_mask (word : UInt64) : (word &&& 0x7f).toUInt8.toNat = word.toNat % 128 := by
  rw [UInt64.toNat_toUInt8, UInt64.toNat_and]
  have low : word.toNat &&& 0x7f = word.toNat % 128 := Nat.and_two_pow_sub_one_eq_mod word.toNat 7
  have mask : (0x7f : UInt64).toNat = 0x7f := rfl
  rw [mask, low]
  omega

theorem toNat_mark {group : UInt8} (small : group.toNat < 128) :
    (group ||| 0x80).toNat = 128 + group.toNat := by
  calc (group ||| 0x80).toNat
      = 2 ^ 7 * 1 ||| group.toNat := (UInt8.toNat_or group 0x80).trans (Nat.or_comm _ _)
    _ = 2 ^ 7 * 1 + group.toNat := (Nat.two_pow_add_eq_or_of_lt small 1).symm
    _ = 128 + group.toNat := by rw [Nat.mul_one]

theorem shift_eq_zero_iff (word : UInt64) : word >>> 7 = 0 ↔ word.toNat < 128 := by
  rw [← UInt64.toNat_inj, toNat_shift, UInt64.toNat_zero]
  omega

/-- The groups of a word by masks and shifts, as a machine takes them. -/
def masked (word : UInt64) : Bytes :=
  let group := (word &&& 0x7f).toUInt8
  if word >>> 7 = 0 then [group] else (group ||| 0x80) :: masked (word >>> 7)
termination_by word.toNat
decreasing_by
  rename_i more
  rw [shift_eq_zero_iff] at more
  rw [toNat_shift]
  omega

theorem masked_eq (word : UInt64) : masked word = encode word := by
  fun_induction masked word with
  | case1 word group none =>
    have small := (shift_eq_zero_iff word).1 none
    have byte : group = UInt8.ofNat word.toNat := by
      rw [← UInt8.toNat_inj, toNat_mask, UInt8.toNat_ofNat']
      omega
    rw [encode, groups, if_pos small, byte]
  | case2 word group more ih =>
    have large := mt (shift_eq_zero_iff word).2 more
    have value : group.toNat = word.toNat % 128 := toNat_mask word
    have byte : group ||| 0x80 = UInt8.ofNat (128 + word.toNat % 128) := by
      rw [← UInt8.toNat_inj, toNat_mark (by omega), value, UInt8.toNat_ofNat']
      omega
    rw [ih, encode, encode, groups.eq_def word.toNat, if_neg large, toNat_shift, byte]

theorem length_eq_of_clz (word : UInt64) :
    length word = (64 - (word ||| 1).toBitVec.clz.toNat + 6) / 7 := by
  have odd : (word ||| 1).toNat ≠ 0 := by
    rw [UInt64.toNat_or]
    exact Nat.ne_of_gt (Nat.lt_of_lt_of_le Nat.one_pos Nat.right_le_or)
  have some : (word ||| 1).toBitVec ≠ 0#64 := by
    intro zero
    exact odd (congrArg BitVec.toNat zero)
  have zeros : (word ||| 1).toBitVec.clz.toNat < 64 := BitVec.clz_lt_iff_ne_zero.2 some
  have least := BitVec.two_pow_sub_clz_le_toNat_of_ne_zero (by decide) some
  have most := BitVec.toNat_lt_two_pow_sub_clz (x := (word ||| 1).toBitVec)
  have bits : (word ||| 1).toNat.log2 = 63 - (word ||| 1).toBitVec.clz.toNat := by
    refine (Nat.log2_eq_iff odd).2 ⟨least, ?_⟩
    rwa [show 63 - (word ||| 1).toBitVec.clz.toNat + 1 =
      64 - (word ||| 1).toBitVec.clz.toNat by omega]
  rw [length, bits]
  omega

end Varint

/-- How a varint breaks, and where that leaves the cursor. -/
inductive VarintBreaks (cursor : Cursor) : DecodeError → Cursor → Prop where
  | unfinished (continued : Varint.Continued cursor.rest) (short : cursor.rest.length < 10) :
      VarintBreaks cursor (.truncated cursor.offset (cursor.rest.length + 1) cursor.rest.length)
        ⟨cursor.offset + cursor.rest.length, []⟩
  | overflow {front back : Bytes} {byte : UInt8} (split : cursor.rest = front ++ byte :: back)
      (nine : front.length = 9) (continued : Varint.Continued front) (wide : 1 < byte) :
      VarintBreaks cursor (.malformed cursor.offset .varintOverflow) ⟨cursor.offset + 10, back⟩

namespace Read
variable {cursor next : Cursor} {fault : DecodeError}

theorem varint_eq_ok_iff {word : UInt64} :
    varint cursor = .ok word next ↔
      ∃ bytes, cursor.Passes bytes next ∧ Varint.Closed bytes ∧ Varint.total bytes = word.toNat := by
  simp only [takes_varint.ok_iff, Varint.spells_iff, and_comm]

theorem varint_eq_error_iff :
    varint cursor = .error fault next ↔ VarintBreaks cursor fault next := by
  constructor
  · intro failed
    simp only [varint] at failed
    split at failed
    · cases failed
    · rename_i available broken
      obtain ⟨marked, short, rfl⟩ := Varint.read_eq_unfinished_iff.1 broken
      cases failed
      rw [Cursor.advance, List.drop_length]
      exact .unfinished (Varint.continued_iff.2 marked) short
    · rename_i broken
      obtain ⟨marked, byte, tenth, wide⟩ := Varint.read_eq_overflow_iff.1 broken
      obtain ⟨inside, here⟩ := List.getElem?_eq_some_iff.1 tenth
      cases failed
      have split : cursor.rest = cursor.rest.take 9 ++ byte :: cursor.rest.drop 10 := by
        rw [← here, ← List.drop_eq_getElem_cons inside, List.take_append_drop]
      exact .overflow split (List.length_take_of_le (Nat.le_of_lt inside))
        (Varint.continued_iff.2 marked) wide
  · intro breaks
    cases breaks with
    | unfinished continued short =>
      have broken : Varint.read cursor.rest = .error (.unfinished cursor.rest.length) :=
        Varint.read_eq_unfinished_iff.2 ⟨Varint.continued_iff.1 continued, short, rfl⟩
      simp only [varint, broken, Cursor.advance, List.drop_length]
    | @overflow front back byte split nine continued wide =>
      have before : cursor.rest.take 9 = front := by rw [split, ← nine, List.take_left]
      have tenth : cursor.rest[9]? = some byte := by simp [split, ← nine]
      have behind : cursor.rest.drop 10 = back := by
        rw [split, show front ++ byte :: back = (front ++ [byte]) ++ back by simp]
        exact List.drop_left' (by simp [nine])
      have broken : Varint.read cursor.rest = .error .overflow :=
        Varint.read_eq_overflow_iff.2 ⟨before ▸ Varint.continued_iff.1 continued, byte, tenth, wide⟩
      simp only [varint, broken, Cursor.advance, Varint.maxLength, behind]

/-- What is written is read back and nothing behind it, no spelling of a word is shorter than the
written one and none other as short, and a varint breaks just where the input ends in it or a tenth
byte is too wide. With masks, shifts and leading zeros all this comes to the same. -/
theorem varint_exact :
    (∀ (word : UInt64) (trailing : Bytes) (offset : Nat),
      varint ⟨offset, Varint.encode word ++ trailing⟩ =
          .ok word ⟨offset + Varint.length word, trailing⟩ ∧
        (Varint.encode word).length = Varint.length word ∧
          1 ≤ Varint.length word ∧ Varint.length word ≤ 10) ∧
    (∀ (cursor : Cursor) (word : UInt64) (next : Cursor), varint cursor = .ok word next ↔
      ∃ bytes, cursor.Passes bytes next ∧ Varint.Closed bytes ∧ Varint.total bytes = word.toNat) ∧
    (∀ (bytes : Bytes) (word : UInt64), Varint.Closed bytes → Varint.total bytes = word.toNat →
      Varint.length word ≤ bytes.length ∧
        (bytes.length = Varint.length word ↔ bytes = Varint.encode word)) ∧
    (∀ (cursor : Cursor) (fault : DecodeError) (next : Cursor),
      varint cursor = .error fault next ↔ VarintBreaks cursor fault next) ∧
    (∀ word : UInt64, Varint.masked word = Varint.encode word ∧
      Varint.length word = (64 - (word ||| 1).toBitVec.clz.toNat + 6) / 7) ∧
    ∀ reader : Reader, Checked.varint reader = some (reader.run varint) := by
  refine ⟨?_, ?_, ?_, ?_, ?_, ?_⟩
  · intro word trailing offset
    have spelled := Varint.spells_encode word
    have size := Varint.length_encode word
    refine ⟨?_, size, Varint.length_pos word, size ▸ spelled.short⟩
    exact takes_varint.ok_iff.2 ⟨_, spelled, rfl, by rw [size]⟩
  · exact fun cursor word next => varint_eq_ok_iff
  · intro bytes word closed same
    have spelled := Varint.spells_iff.2 ⟨closed, same⟩
    exact ⟨spelled.length_le, spelled.length_eq_iff⟩
  · exact fun cursor fault next => varint_eq_error_iff
  · exact fun word => ⟨Varint.masked_eq word, Varint.length_eq_of_clz word⟩
  · exact Checked.varint_eq_run

/-- Zero in ten bytes, which is longer than in one, and a tenth byte that is too wide. -/
theorem varint_exact_overlong :
    varint ⟨3, [0x80, 0x80, 0x80, 0x80, 0x80, 0x80, 0x80, 0x80, 0x80, 0x00, 0x07]⟩ =
        .ok 0 ⟨13, [0x07]⟩ ∧
      Varint.length 0 ≤ 10 ∧
      varint ⟨3, [0x80, 0x80, 0x80, 0x80, 0x80, 0x80, 0x80, 0x80, 0x80, 0x02, 0x07]⟩ =
        .error (.malformed 3 .varintOverflow) ⟨13, [0x07]⟩ := by
  obtain ⟨-, reads, shortest, breaks, -⟩ := varint_exact
  have continued : Varint.Continued (List.replicate 9 0x80) := fun byte member => by
    rw [List.eq_of_mem_replicate member]
    decide
  have closed : Varint.Closed (List.replicate 9 0x80 ++ [0x00]) :=
    .intro continued (by decide) (by decide) (by decide)
  have zero : Varint.total (List.replicate 9 0x80 ++ [0x00]) = (0 : UInt64).toNat := by
    decide +kernel
  refine ⟨?_, ?_, ?_⟩
  · exact (reads _ _ _).2 ⟨List.replicate 9 0x80 ++ [0x00], ⟨rfl, rfl⟩, closed, zero⟩
  · exact (shortest _ 0 closed zero).1
  · exact (breaks _ _ _).2 (@VarintBreaks.overflow _ (List.replicate 9 0x80) [0x07] 0x02 rfl rfl
      continued (by decide))

end Read
end Preimage.Wire
