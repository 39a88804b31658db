import Mathlib.Algebra.Group.Nat.Defs
import Preimage.Wire.Progress
import Preimage.Wire.Field

/-! What spells a varint, said without reading it: digits to the base 128, the lowest first, and ten
bytes at most. A word has many spellings, and none of them begins another. -/
namespace Preimage.Wire.Varint
variable {bytes rest : Bytes} {index number taken : Nat} {word : UInt64}

inductive Digits : Bytes → Nat → Prop where
  | last {byte : UInt8} (low : byte.toNat < 128) : Digits [byte] byte.toNat
  | more {byte : UInt8} {rest : Bytes} {number : Nat} (marked : 128 ≤ byte.toNat)
      (tail : Digits rest number) : Digits (byte :: rest) (byte.toNat - 128 + 128 * number)

/-- Ten bytes have room for 70 bits, of which a word fills 64. -/
structure Spells (bytes : Bytes) (word : UInt64) : Prop where
  digits : Digits bytes word.toNat
  short : bytes.length ≤ maxLength

theorem Digits.length_pos (digits : Digits bytes number) : 0 < bytes.length := by
  cases digits <;> simp

theorem Spells.length_pos (spelled : Spells bytes word) : 0 < bytes.length :=
  spelled.digits.length_pos

/-- The room that is left for a number from the byte at place `index` on shrinks by a digit with
each byte, and comes out at one bit for the tenth. -/
theorem room_step (inside : index + 1 < maxLength) :
    2 ^ (64 - 7 * index) = 128 * 2 ^ (64 - 7 * (index + 1)) := by
  simp only [maxLength] at inside
  rw [show 64 - 7 * index = 7 + (64 - 7 * (index + 1)) by omega, Nat.pow_add]

theorem Digits.of_readFrom (inside : index < maxLength)
    (found : readFrom index bytes = .ok (number, taken)) :
    taken ≤ bytes.length ∧ Digits (bytes.take taken) number ∧ index + taken ≤ maxLength ∧
      number < 2 ^ (64 - 7 * index) := by
  induction bytes generalizing index number taken with
  | nil => cases found
  | cons byte rest ih =>
    simp only [readFrom] at found
    split at found
    · cases found
    · rename_i narrow
      -- The tenth byte brings a single bit, and any byte before it a whole digit.
      have small : index + 1 < maxLength ∨ byte.toNat ≤ 1 ∧ index + 1 = maxLength := by omega
      split at found
      · rename_i low
        cases found
        refine ⟨by simp, .last low, inside, ?_⟩
        rcases small with early | ⟨bit, final⟩
        · have wide := Nat.two_pow_pos (64 - 7 * (index + 1))
          have step := room_step early
          omega
        · rw [show index = 9 by simp only [maxLength] at final; omega]
          omega
      · rename_i marked
        have early : index + 1 < maxLength := by omega
        split at found
        · rename_i high deep deeper
          cases found
          obtain ⟨within, tail, short, fits⟩ := ih early deeper
          have step := room_step early
          have top := byte.toNat_lt
          exact ⟨by simpa using within, .more (by omega) tail, by omega, by omega⟩
        · cases found

theorem Digits.readFrom_append (digits : Digits bytes number)
    (short : index + bytes.length ≤ maxLength) (fits : number < 2 ^ (64 - 7 * index)) :
    readFrom index (bytes ++ rest) = .ok (number, bytes.length) := by
  induction digits generalizing index with
  | @last byte low =>
    have narrow : ¬ (index + 1 = maxLength ∧ 1 < byte.toNat) := by
      rintro ⟨final, wide⟩
      rw [show index = 9 by simp only [maxLength] at final; omega] at fits
      omega
    simp only [List.cons_append, readFrom, if_neg narrow, if_pos low, List.length_singleton]
  | @more byte tail number marked digits ih =>
    have more := digits.length_pos
    simp only [List.length_cons] at short
    have early : index + 1 < maxLength := by omega
    have step := room_step early
    have deeper : readFrom (index + 1) (tail ++ rest) = .ok (number, tail.length) :=
      ih (by omega) (by omega)
    simp only [List.cons_append, readFrom, deeper, if_neg (show ¬ byte.toNat < 128 by omega),
      if_neg (show ¬ (index + 1 = maxLength ∧ 1 < byte.toNat) by omega), List.length_cons]

/-- Bytes that follow make a difference only where the spelling was not over. -/
theorem readFrom_append_of_settled
    (settled : ∀ available, readFrom index bytes ≠ .error (.unfinished available)) :
    readFrom index (bytes ++ rest) = readFrom index bytes := by
  induction bytes generalizing index with
  | nil => exact absurd rfl (settled index)
  | cons byte tail ih =>
    simp only [List.cons_append, readFrom]
    split
    · rfl
    · split
      · rfl
      · rename_i wide low
        rw [ih fun available unfinished => settled available (by
          simp only [readFrom, if_neg wide, if_neg low, unfinished])]

theorem read_append_of_settled
    (settled : ∀ available, read bytes ≠ .error (.unfinished available)) :
    read (bytes ++ rest) = read bytes := by
  simp only [read]
  rw [readFrom_append_of_settled fun available unfinished => settled available (by
    simp only [read, unfinished])]

theorem spells_of_read (found : read bytes = .ok (word, taken)) :
    taken ≤ bytes.length ∧ Spells (bytes.take taken) word := by
  simp only [read] at found
  split at found
  · rename_i number taken' deeper
    cases found
    obtain ⟨within, digits, short, fits⟩ := Digits.of_readFrom (by decide) deeper
    have whole : (UInt64.ofNat number).toNat = number := UInt64.toNat_ofNat_of_lt' fits
    exact ⟨within, by rwa [whole], by rw [List.length_take]; omega⟩
  · cases found

theorem Spells.read_append (spelled : Spells bytes word) (rest : Bytes) :
    read (bytes ++ rest) = .ok (word, bytes.length) := by
  have found : readFrom 0 (bytes ++ rest) = .ok (word.toNat, bytes.length) :=
    spelled.digits.readFrom_append (by simpa using spelled.short) word.toNat_lt
  simp only [read, found, UInt64.ofNat_toNat]

/-- No spelling begins another one, and none spells two words. -/
theorem Spells.unique {first second front back : Bytes} {word word' : UInt64}
    (spelled : Spells first word) (spelled' : Spells second word')
    (same : first ++ front = second ++ back) : first = second ∧ word = word' ∧ front = back := by
  have found := spelled.read_append front
  rw [same, spelled'.read_append back] at found
  simp only [Except.ok.injEq, Prod.mk.injEq] at found
  obtain ⟨bytes, rests⟩ := List.append_inj same found.2.symm
  exact ⟨bytes, found.1.symm, rests⟩

theorem digits_groups (number : Nat) : Digits (groups number) number := by
  induction number using Nat.strongRecOn with
  | ind number ih =>
    rw [groups]
    split
    · rename_i low
      have byte : (UInt8.ofNat number).toNat = number := by
        rw [UInt8.toNat_ofNat']
        omega
      have digits : Digits [UInt8.ofNat number] (UInt8.ofNat number).toNat := .last (by omega)
      rwa [byte] at digits
    · rename_i high
      have byte : (UInt8.ofNat (128 + number % 128)).toNat = 128 + number % 128 := by
        rw [UInt8.toNat_ofNat']
        omega
      have marked : 128 ≤ (UInt8.ofNat (128 + number % 128)).toNat := by omega
      have digits := Digits.more marked (ih (number / 128) (by omega))
      rwa [byte, show 128 + number % 128 - 128 + 128 * (number / 128) = number by omega] at digits

theorem length_groups_le {count : Nat} (fits : number < 128 ^ (count + 1)) :
    (groups number).length ≤ count + 1 := by
  induction count generalizing number with
  | zero =>
    rw [groups, if_pos (by simpa using fits)]
    simp
  | succ count ih =>
    rw [groups]
    split
    · simp
    · have deeper : (groups (number / 128)).length ≤ count + 1 :=
        ih (Nat.div_lt_of_lt_mul (by rwa [Nat.pow_succ, Nat.mul_comm] at fits))
      simp only [List.length_cons]
      omega

theorem spells_encode (word : UInt64) : Spells (encode word) word := by
  have fits : word.toNat < 128 ^ (9 + 1) := Nat.lt_trans word.toNat_lt (by decide)
  exact ⟨digits_groups word.toNat, length_groups_le fits⟩

end Preimage.Wire.Varint
