import Mathlib.Tactic.SplitIfs
import Preimage.Json.Syntax

/-! Written strings read back, character by character up to the quote that closes them, be it a
letter after a backslash, a code or the character itself that stands for one. -/
namespace Preimage.Json
variable {c : Char} {read input : List Char}

theorem readEscape_letter {letter meant : Char} (found : letterEscape? letter = some meant) :
    readEscape (letter :: input) = .ok (meant, input) := by
  unfold readEscape
  split
  · contradiction
  · -- The letter of a code stands for no character of its own.
    rename_i same
    cases same
    cases found
  · rename_i same
    cases same
    rw [found]

theorem readEscape_code (control : c.toNat < 0x20) :
    readEscape ('u' :: '0' :: '0' :: (c.toNat / 16).digitChar :: (c.toNat % 16).digitChar :: input) =
      .ok (c, input) := by
  have number : hexNumber? ['0', '0', (c.toNat / 16).digitChar, (c.toNat % 16).digitChar] =
      some c.toNat := by
    have zero : Text.hexValue? 48 = some 0 := rfl
    have high := Text.hexValue?_digitChar (show c.toNat / 16 < 16 by omega)
    have low := Text.hexValue?_digitChar (show c.toNat % 16 < 16 by omega)
    simp [hexNumber?, zero, high, low, Nat.div_add_mod]
  have low : isLowSurrogate c.toNat = false := by
    simp only [isLowSurrogate, Bool.and_eq_false_iff, decide_eq_false_iff_not]
    omega
  have high : isHighSurrogate c.toNat = false := by
    simp only [isHighSurrogate, Bool.and_eq_false_iff, decide_eq_false_iff_not]
    omega
  simp [readEscape, readUnit, number, low, high]

/-- A character stands for itself, or what follows a backslash stands for it. -/
theorem escape_cases (c : Char) :
    (escape c = [c] ∧ c ≠ '"' ∧ c ≠ '\\' ∧ ¬c.toNat < 0x20) ∨
      ∃ spelled, escape c = '\\' :: spelled ∧
        ∀ input, readEscape (spelled ++ input) = .ok (c, input) := by
  unfold escape
  split_ifs with quote backslash backspace feed newline turn tab control
  · exact .inr ⟨_, rfl, fun _ => readEscape_letter (by rw [quote]; rfl)⟩
  · exact .inr ⟨_, rfl, fun _ => readEscape_letter (by rw [backslash]; rfl)⟩
  · exact .inr ⟨_, rfl, fun _ => readEscape_letter (by rw [backspace]; rfl)⟩
  · exact .inr ⟨_, rfl, fun _ => readEscape_letter (by rw [feed]; rfl)⟩
  · exact .inr ⟨_, rfl, fun _ => readEscape_letter (by rw [newline]; rfl)⟩
  · exact .inr ⟨_, rfl, fun _ => readEscape_letter (by rw [turn]; rfl)⟩
  · exact .inr ⟨_, rfl, fun _ => readEscape_letter (by rw [tab]; rfl)⟩
  · exact .inr ⟨_, rfl, fun _ => readEscape_code control⟩
  · exact .inl ⟨rfl, quote, backslash, control⟩

theorem readChars_escape (c : Char) (read input : List Char) :
    readChars read (escape c ++ input) = readChars (c :: read) input := by
  obtain ⟨itself, quote, backslash, control⟩ | ⟨spelled, written, escaped⟩ := escape_cases c
  · rw [itself, List.singleton_append, readChars, if_neg quote, if_neg backslash, if_neg control]
  · rw [written, List.cons_append, readChars, if_neg (by decide), if_pos rfl]
    split <;> rename_i came <;> rw [escaped] at came
    · cases came
    · cases came
      rfl

theorem readChars_flatMap_escape (chars read rest : List Char) :
    readChars read (chars.flatMap escape ++ '"' :: rest) =
      .ok (.ofList (read.reverse ++ chars), rest) := by
  induction chars generalizing read with
  | nil => rw [List.flatMap_nil, List.nil_append, readChars, if_pos rfl, List.append_nil]
  | cons c chars ih =>
    rw [List.flatMap_cons, List.append_assoc, readChars_escape, ih, List.reverse_cons,
      List.append_assoc, List.singleton_append]

/-- A written string is its opening quote and what reads back as the text. -/
theorem printString_append (text : String) (rest : List Char) :
    printString text ++ rest = '"' :: (text.toList.flatMap escape ++ '"' :: rest) := by
  simp [printString]

theorem readText_flatMap_escape (text : String) (rest : List Char) :
    readText (text.toList.flatMap escape ++ '"' :: rest) = .ok (text, rest) := by
  rw [readText, readChars_flatMap_escape, List.reverse_nil, List.nil_append, String.ofList_toList]

end Preimage.Json
