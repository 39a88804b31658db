import Preimage.Proofs.Text.Trimming
import Preimage.Text.Hex

/-! Bytes in hexadecimal read back. A digit is one byte of UTF-8, is no blank and is not the letter
of a mark, so that nothing is cut from what is written. -/
namespace Preimage.Hex
variable {bytes digits : Bytes} {c : Char}

/-- What the two digits of a byte stand for, the upper one first. -/
def halves (byte : UInt8) : List Nat := [byte.toNat / 16, byte.toNat % 16]

theorem halves_lt {value : Nat} (half : value ∈ bytes.flatMap halves) : value < 16 := by
  obtain ⟨byte, -, half⟩ := List.mem_flatMap.1 half
  have small := byte.toNat_lt
  simp only [halves, List.mem_cons, List.not_mem_nil, or_false] at half
  omega

theorem length_halves (bytes : Bytes) : (bytes.flatMap halves).length = 2 * bytes.length := by
  induction bytes with
  | nil => rfl
  | cons byte bytes ih =>
    rw [List.flatMap_cons, List.length_append, ih, List.length_cons]
    simp only [halves, List.length_cons, List.length_nil]
    omega

theorem toList_encode (bytes : Bytes) :
    (encode bytes).toList = (bytes.flatMap halves).map Nat.digitChar := by
  rw [encode, String.toList_ofList, List.map_flatMap]
  rfl

/-- Everything about a digit that a reader of text may trip over. -/
structure Plain (c : Char) : Prop where
  ascii : c.toNat ≤ 127
  visible : Text.isBlank c = false
  unmarked : c ≠ 'x' ∧ c ≠ 'X'

theorem plain_digitChar {value : Nat} (small : value < 16) : Plain value.digitChar := by
  have all : ∀ value < 16, value.digitChar.toNat ≤ 127 ∧ Text.isBlank value.digitChar = false ∧
      value.digitChar ≠ 'x' ∧ value.digitChar ≠ 'X' := by decide
  obtain ⟨ascii, visible, unmarked⟩ := all value small
  exact ⟨ascii, visible, unmarked⟩

theorem value?_digitChar {value : Nat} (small : value < 16) :
    value? (UInt8.ofNat value.digitChar.toNat) = some value := by
  have ascii := (plain_digitChar small).ascii
  rw [value?, UInt8.toNat_ofNat', Nat.mod_eq_of_lt (by omega), Text.hexValue?_digitChar small]

theorem ofText_of_ascii {chars : List Char} (ascii : ∀ c ∈ chars, c.toNat ≤ 127) :
    Bytes.ofText (.ofList chars) = chars.map fun c => UInt8.ofNat c.toNat := by
  rw [Bytes.ofText_ofList]
  induction chars with
  | nil => rfl
  | cons c rest ih =>
    have single : String.utf8EncodeChar c = [UInt8.ofNat c.toNat] := if_pos (ascii c (by simp))
    rw [List.flatMap_cons, single, ih fun c member => ascii c (by simp [member])]
    rfl

theorem ofText_of_plain {chars : List Char} (plain : ∀ c ∈ chars, Plain c) :
    Bytes.ofText (.ofList chars) = chars.map fun c => UInt8.ofNat c.toNat :=
  ofText_of_ascii fun c member => (plain c member).ascii

theorem trimList_of_plain {chars : List Char} (plain : ∀ c ∈ chars, Plain c) :
    Text.trimList chars = chars :=
  Text.trimList_of_visible fun c member => (plain c member).visible

theorem dropMark_of_plain {chars : List Char} (plain : ∀ c ∈ chars, Plain c) :
    dropMark chars = chars := by
  unfold dropMark
  split
  · exact absurd rfl (plain 'x' (by simp)).unmarked.1
  · exact absurd rfl (plain 'X' (by simp)).unmarked.2
  · rfl

theorem joinPairs_of_values (values : digits.map value? = (bytes.flatMap halves).map some) :
    joinPairs digits = bytes := by
  induction bytes generalizing digits with
  | nil =>
    obtain rfl : digits = [] := by simpa using values
    rfl
  | cons byte bytes ih =>
    obtain ⟨high, rest, rfl, upper, values⟩ := List.map_eq_cons_iff.1 values
    obtain ⟨low, rest, rfl, lower, values⟩ := List.map_eq_cons_iff.1 values
    rw [joinPairs, upper, lower, ih values, Option.getD_some, Option.getD_some,
      Nat.div_add_mod, UInt8.ofNat_toNat]

/-- Digits that stand for the halves of bytes are read as these bytes. -/
theorem decodeDigits_of_values (values : digits.map value? = (bytes.flatMap halves).map some) :
    decodeDigits digits = .ok bytes := by
  have even : digits.length = 2 * bytes.length := by
    have sizes := congrArg List.length values
    rwa [List.length_map, List.length_map, length_halves] at sizes
  have good : digits.findIdx? (fun byte => (value? byte).isNone) = none := by
    refine List.findIdx?_eq_none_iff.2 fun byte member => ?_
    have found : value? byte ∈ (bytes.flatMap halves).map some :=
      values ▸ List.mem_map_of_mem member
    obtain ⟨value, -, found⟩ := List.mem_map.1 found
    rw [← found, Option.isNone_some]
  rw [decodeDigits, if_neg (by omega), good, joinPairs_of_values values]

theorem plain_halves (bytes : Bytes) : ∀ c ∈ (bytes.flatMap halves).map Nat.digitChar, Plain c := by
  intro c member
  obtain ⟨value, half, rfl⟩ := List.mem_map.1 member
  exact plain_digitChar (halves_lt half)

theorem decode_encode_bytes (bytes : Bytes) : decode (encode bytes) = .ok bytes := by
  have plain := plain_halves bytes
  rw [decode, toList_encode, trimList_of_plain plain, dropMark_of_plain plain,
    ofText_of_plain plain]
  refine decodeDigits_of_values ?_
  rw [List.map_map, List.map_map]
  exact List.map_congr_left fun value half => value?_digitChar (halves_lt half)

theorem ofText_encode (bytes : Bytes) :
    Bytes.ofText (encode bytes) =
      (bytes.flatMap halves).map fun half => UInt8.ofNat half.digitChar.toNat := by
  have chars : encode bytes = .ofList ((bytes.flatMap halves).map Nat.digitChar) := by
    rw [← toList_encode, String.ofList_toList]
  rw [chars, ofText_of_plain (plain_halves bytes), List.map_map]
  rfl

theorem ofText_encode_append (front back : Bytes) :
    Bytes.ofText (encode (front ++ back)) =
      Bytes.ofText (encode front) ++ Bytes.ofText (encode back) := by
  simp only [ofText_encode, List.flatMap_append, List.map_append]

theorem length_ofText_encode (bytes : Bytes) :
    (Bytes.ofText (encode bytes)).length = 2 * bytes.length := by
  rw [ofText_encode, List.length_map, length_halves]

/-- A cut after an even number of digits goes between two bytes. -/
theorem cut_ofText_encode {count : Nat} (within : count ≤ bytes.length) :
    (Bytes.ofText (encode bytes)).take (2 * count) = Bytes.ofText (encode (bytes.take count)) ∧
      (Bytes.ofText (encode bytes)).drop (2 * count) =
        Bytes.ofText (encode (bytes.drop count)) := by
  have whole := ofText_encode_append (bytes.take count) (bytes.drop count)
  rw [List.take_append_drop] at whole
  have front : (Bytes.ofText (encode (bytes.take count))).length = 2 * count := by
    rw [length_ofText_encode, List.length_take, Nat.min_eq_left within]
  rw [whole]
  exact ⟨List.take_left' front, List.drop_left' front⟩

theorem trim_encode (bytes : Bytes) : Text.trim (encode bytes) = encode bytes := by
  rw [Text.trim, toList_encode, trimList_of_plain (plain_halves bytes), ← toList_encode,
    String.ofList_toList]

theorem unmarked_encode (bytes : Bytes) :
    (Bytes.ofText "0x").isPrefixOf (Bytes.ofText (encode bytes)) = false := by
  have mark : Bytes.ofText "0x" = [0x30, 0x78] := by decide +kernel
  have other : ∀ half < 16, UInt8.ofNat half.digitChar.toNat ≠ 0x78 := by decide
  rw [mark, Bool.eq_false_iff, ne_eq, List.isPrefixOf_iff_prefix]
  intro marked
  have letter : (0x78 : UInt8) ∈ Bytes.ofText (encode bytes) := marked.subset (by simp)
  rw [ofText_encode] at letter
  obtain ⟨half, member, same⟩ := List.mem_map.1 letter
  exact other half (halves_lt member) same

end Preimage.Hex
