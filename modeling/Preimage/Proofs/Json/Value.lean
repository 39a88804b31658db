import Mathlib.Algebra.Group.Int.Defs
import Mathlib.Algebra.Group.Nat.Defs
import Preimage.Json.Record
import Preimage.Proofs.Json.Text

/-! Written values read back where they stand in an object: after blanks, and in front of what
cannot be taken for more of them. -/
namespace Preimage.Json
variable {α : Type} {blank digits rest : List Char}

@[simp] theorem ok_bind {β : Type} (value : α) (next : α → Except Error β) :
    (Except.ok value >>= next) = next value := rfl

/-- What can follow a value in an object. -/
def Ends (rest : List Char) : Prop := ∃ c ∈ rest.head?, isBlank c = true ∨ c = ',' ∨ c = '}'

/-- The reader takes the written form for the value. -/
def Reads (reader : Reader α) (written : List Char) (value : α) : Prop :=
  ∀ blank rest, blank.all isBlank = true → Ends rest →
    reader (blank ++ (written ++ rest)) = .ok (value, rest)

theorem skipBlank_append (blanks : blank.all isBlank = true) (rest : List Char) :
    skipBlank (blank ++ rest) = skipBlank rest :=
  List.dropWhile_append_of_pos (by simpa using blanks)

theorem skipBlank_of_visible {c : Char} (visible : isBlank c = false) :
    skipBlank (c :: rest) = c :: rest :=
  List.dropWhile_cons_of_neg (by simp [visible])

theorem reads_readString (expected : Expected) (text : String) :
    Reads (readString expected) (printString text) text := by
  intro blank rest blanks _
  rw [readString, skipBlank_append blanks, printString_append, skipBlank_of_visible rfl]
  exact readText_flatMap_escape text rest

/-- A string that is absent is told from an empty one by its first letter. -/
theorem reads_readOptional (text : Option String) :
    Reads readOptional (printOptional text) text := by
  intro blank rest blanks ends
  rw [readOptional, skipBlank_append blanks]
  cases text with
  | none =>
    rw [printOptional, List.cons_append, skipBlank_of_visible rfl]
    rfl
  | some text =>
    have read := reads_readString .text text [] rest rfl ends
    rw [List.nil_append, printString_append] at read
    rw [printOptional, printString_append, skipBlank_of_visible rfl]
    exact congrArg (Except.map fun read => (some read.1, read.2)) read

/-- What ends a value is no sign of a number. -/
theorem Ends.cases (ends : Ends rest) : ∃ c tail, rest = c :: tail ∧
    c.isDigit = false ∧ c ≠ '.' ∧ c ≠ 'e' ∧ c ≠ 'E' := by
  obtain ⟨c, first, sign⟩ := ends
  obtain ⟨tail, rfl⟩ := List.head?_eq_some_iff.1 first
  refine ⟨c, tail, rfl, ?_⟩
  simp only [isBlank, Bool.or_eq_true, beq_iff_eq] at sign
  obtain (((rfl | rfl) | rfl) | rfl) | rfl | rfl := sign <;> decide

namespace Number

theorem le_ofDigitChars (digits : List Char) (number : Nat) :
    number ≤ Nat.ofDigitChars 10 digits number := by
  induction digits generalizing number with
  | nil => exact Nat.le_refl number
  | cons digit digits ih =>
    rw [Nat.ofDigitChars_cons]
    exact Nat.le_trans (by omega) (ih _)

/-- No digit is dropped as long as the number fits into a word. -/
theorem gather_of_lt {number : Nat} (fits : Nat.ofDigitChars 10 digits number < UInt64.size) :
    gather number digits = (Nat.ofDigitChars 10 digits number, 0) := by
  induction digits generalizing number with
  | nil => rfl
  | cons digit digits ih =>
    rw [Nat.ofDigitChars_cons] at fits ⊢
    rw [gather]
    exact (if_pos (Nat.lt_of_le_of_lt (le_ofDigitChars digits _) fits)).trans (ih fits)

theorem head?_toDigits {number : Nat} (positive : 0 < number) :
    (Nat.toDigits 10 number).head? ≠ some '0' := by
  induction number using Nat.strongRecOn with
  | ind number ih =>
    rw [Nat.toDigits_eq_if (by decide)]
    split
    · rename_i small
      intro zero
      have value := Nat.toNat_digitChar_of_lt_ten small
      rw [List.head?_cons, Option.some.injEq] at zero
      rw [zero] at value
      exact absurd value (by simp; omega)
    · rw [List.head?_append, Option.or_of_isSome (by simp [Nat.toDigits_ne_nil])]
      exact ih (number / 10) (by omega) (by omega)

theorem isDigit_of_mem_toDigits {number : Nat} {c : Char} (member : c ∈ Nat.toDigits 10 number) :
    c.isDigit = true :=
  Nat.isDigit_of_mem_toDigits (by decide) (by decide) member

theorem read_toDigits (negative : Bool) (number : Nat) (fits : number < UInt64.size)
    (ends : Ends rest) :
    read negative (Nat.toDigits 10 number ++ rest) = .ok (ofInteger negative number, rest) := by
  obtain ⟨c, tail, rfl, digit, point, lower, upper⟩ := ends.cases
  have whole : (Nat.toDigits 10 number ++ c :: tail).takeWhile Char.isDigit =
      Nat.toDigits 10 number := by
    rw [List.takeWhile_append_of_pos fun _ => isDigit_of_mem_toDigits,
      List.takeWhile_cons_of_neg (by simp [digit]), List.append_nil]
  have after : (Nat.toDigits 10 number ++ c :: tail).dropWhile Char.isDigit = c :: tail := by
    rw [List.dropWhile_append_of_pos fun _ => isDigit_of_mem_toDigits,
      List.dropWhile_cons_of_neg (by simp [digit])]
  have leading : ¬((Nat.toDigits 10 number).head? = some '0' ∧
      1 < (Nat.toDigits 10 number).length) := by
    rintro ⟨zero, more⟩
    obtain rfl | positive := Nat.eq_zero_or_pos number
    · exact absurd more (by decide)
    · exact head?_toDigits positive zero
  have gathered : gather 0 (Nat.toDigits 10 number) = (number, 0) := by
    rw [gather_of_lt (by rwa [Nat.ofDigitChars_ten_toDigits]), Nat.ofDigitChars_ten_toDigits]
  have filled : (Nat.toDigits 10 number).isEmpty = false := by
    simp [Nat.toDigits_ne_nil]
  simp only [read, whole, after, filled, leading, gathered, Bool.false_eq_true, if_false]
  split
  · rename_i same
    exact absurd (List.cons.inj same).1 point
  · simp [lower, upper]

end Number

theorem isBlank_of_isDigit {c : Char} (digit : c.isDigit = true) : isBlank c = false := by
  refine Bool.eq_false_iff.2 fun blank => ?_
  simp only [isBlank, Bool.or_eq_true, beq_iff_eq] at blank
  obtain ((rfl | rfl) | rfl) | rfl := blank <;> exact absurd digit (by decide)

theorem readWhole_digit (expected : Expected) {least greatest value : Int} {c : Char}
    {tail : List Char} (blanks : blank.all isBlank = true) (digit : c.isDigit = true)
    (read : Number.read false (c :: tail) = .ok (.integer value, rest))
    (within : least ≤ value ∧ value ≤ greatest) :
    readWhole expected least greatest (blank ++ c :: tail) = .ok (value, rest) := by
  have unsigned : c ≠ '-' := by
    rintro rfl
    exact absurd digit (by decide)
  rw [readWhole, skipBlank_append blanks, skipBlank_of_visible (isBlank_of_isDigit digit)]
  simp only [digit, if_true, read, ok_bind, within, and_self]

theorem readWhole_minus (expected : Expected) {least greatest value : Int} {tail : List Char}
    (blanks : blank.all isBlank = true)
    (read : Number.read true tail = .ok (.integer value, rest))
    (within : least ≤ value ∧ value ≤ greatest) :
    readWhole expected least greatest (blank ++ '-' :: tail) = .ok (value, rest) := by
  rw [readWhole, skipBlank_append blanks, skipBlank_of_visible rfl]
  simp only [read, ok_bind, within, and_self, if_true]

/-- How far down numbers are read as whole differs from how far up. -/
theorem reads_readWhole (expected : Expected) {least greatest value : Int}
    (within : least ≤ value ∧ value ≤ greatest) (fits : -2 ^ 63 ≤ value ∧ value < 2 ^ 64) :
    Reads (readWhole expected least greatest) (toString value).toList value := by
  intro blank rest blanks ends
  cases value with
  | ofNat number =>
    have written : (toString (Int.ofNat number)).toList = Nat.toDigits 10 number :=
      Nat.toList_repr
    obtain ⟨c, tail, digits⟩ :=
      List.exists_cons_of_ne_nil (Nat.toDigits_ne_nil (n := number) (b := 10))
    have digit : c.isDigit = true := Number.isDigit_of_mem_toDigits (by rw [digits]; simp)
    have read := Number.read_toDigits false number (Int.ofNat_lt.1 fits.2) ends
    rw [digits, List.cons_append] at read
    rw [written, digits, List.cons_append]
    exact readWhole_digit expected blanks digit read within
  | negSucc number =>
    have written : (toString (Int.negSucc number)).toList = '-' :: Nat.toDigits 10 (number + 1) :=
      (String.toList_append ..).trans (congrArg _ Nat.toList_repr)
    have lowest : Int64.minValue.toInt.natAbs = 2 ^ 63 := by decide
    have whole : Number.ofInteger true (number + 1) = .integer (.negSucc number) := by
      simp only [Number.ofInteger, if_true, lowest]
      exact if_neg (by omega)
    have read := Number.read_toDigits true (number + 1) (show _ < 2 ^ 64 by omega) ends
    rw [whole] at read
    rw [written, List.cons_append]
    exact readWhole_minus expected blanks read within

theorem reads_readInt32 (code : Int32) : Reads readInt32 (toString code).toList code := by
  intro blank rest blanks ends
  have least := code.le_toInt
  have most := code.toInt_lt
  have read := reads_readWhole .int32 ⟨code.minValue_le_toInt, code.toInt_le⟩
    ⟨by omega, by omega⟩ blank rest blanks ends
  have written : toString code = toString code.toInt := rfl
  rw [readInt32, written, read, ok_bind]
  exact congrArg (fun code => Except.ok (code, rest)) code.ofInt_toInt

theorem reads_readSize {count : Nat} (fits : count < 2 ^ 64) :
    Reads readSize (toString count).toList count := by
  intro blank rest blanks ends
  have whole : Reads (readWhole .size 0 (UInt64.size - 1)) (toString (count : Int)).toList count :=
    reads_readWhole .size ⟨by omega, by simp only [UInt64.size]; omega⟩ ⟨by omega, by omega⟩
  have written : toString count = toString (count : Int) := rfl
  rw [readSize, written, whole blank rest blanks ends, ok_bind]
  rfl

end Preimage.Json
