import Preimage.Json.Error
import Preimage.Text.Basic

/-! The least pieces of JSON, read and written: blanks, literals and strings. A reader takes a text
from its front and gives what it read with what is left. Strings that nothing asks for are read
without looking at what their escapes stand for. In written strings only the quote, the backslash
and the control characters of ASCII up to U+001F are escaped, by a letter where they have one.
Objects are written in one line, or with a member to a line and two blanks before each. -/
namespace Preimage.Json

abbrev Reader (α : Type) := List Char → Except Error (α × List Char)

def isBlank (c : Char) : Bool := c == ' ' || c == '\n' || c == '\t' || c == '\r'

def skipBlank (input : List Char) : List Char := input.dropWhile isBlank

/-- What is left of a literal after its first letter. -/
def readLiteral : (word : List Char) → List Char → Except Error (List Char)
  | [], input => .ok input
  | _ :: _, [] => .error .eofValue
  | expected :: word, c :: rest =>
    if c = expected then readLiteral word rest else .error .expectedIdent

def hexNumber? (digits : List Char) : Option Nat :=
  digits.foldlM (fun number digit => (Text.hexValue? digit.toNat).map (16 * number + ·)) 0

/-- The four digits of an escaped code. The string is at its end where fewer than four bytes are
left of the text. -/
def readUnit : Reader Nat
  | a :: b :: c :: d :: rest =>
    match hexNumber? [a, b, c, d] with
    | some number => .ok (number, rest)
    | none => .error .invalidEscape
  | short =>
    if (String.ofList short).utf8ByteSize < 4 then .error .eofString else .error .invalidEscape

/-- The escapes of a single letter. -/
def letterEscape? : Char → Option Char
  | '"' => some '"'
  | '\\' => some '\\'
  | '/' => some '/'
  | 'b' => some '\x08'
  | 'f' => some '\x0c'
  | 'n' => some '\n'
  | 'r' => some '\r'
  | 't' => some '\t'
  | _ => none

def isHighSurrogate (unit : Nat) : Bool := 0xD800 ≤ unit && unit ≤ 0xDBFF

def isLowSurrogate (unit : Nat) : Bool := 0xDC00 ≤ unit && unit ≤ 0xDFFF

def pairedChar (high low : Nat) : Char :=
  .ofNat (0x10000 + (high - 0xD800) * 0x400 + (low - 0xDC00))

/-- The second half of a pair, which has to follow at once. -/
def readLowHalf (high : Nat) : Reader Char
  | [] => .error .eofString
  | '\\' :: rest =>
    match rest with
    | [] => .error .eofString
    | 'u' :: digits =>
      match readUnit digits with
      | .error fault => .error fault
      | .ok (low, rest) =>
        if isLowSurrogate low then .ok (pairedChar high low, rest) else .error .loneSurrogate
    | _ => .error .brokenPair
  | _ => .error .brokenPair

/-- What an escape stands for, read from after the backslash. -/
def readEscape : Reader Char
  | [] => .error .eofString
  | 'u' :: digits =>
    match readUnit digits with
    | .error fault => .error fault
    | .ok (unit, rest) =>
      if isLowSurrogate unit then .error .loneSurrogate
      else if isHighSurrogate unit then readLowHalf unit rest
      else .ok (.ofNat unit, rest)
  | c :: rest =>
    match letterEscape? c with
    | some meant => .ok (meant, rest)
    | none => .error .invalidEscape

theorem readUnit_length {input rest : List Char} {number : Nat}
    (done : readUnit input = .ok (number, rest)) : rest.length < input.length := by
  unfold readUnit at done
  split at done
  · split at done
    · cases done
      simp only [List.length_cons]
      omega
    · cases done
  · split at done <;> cases done

theorem readLowHalf_length {high : Nat} {input rest : List Char} {c : Char}
    (done : readLowHalf high input = .ok (c, rest)) : rest.length < input.length := by
  unfold readLowHalf at done
  split at done
  · cases done
  · split at done
    · cases done
    · split at done
      · cases done
      · rename_i found
        have := readUnit_length found
        split at done
        · simp only [Except.ok.injEq, Prod.mk.injEq] at done
          simp only [← done.2, List.length_cons]
          omega
        · cases done
    · cases done
  · cases done

theorem readEscape_length {input rest : List Char} {c : Char}
    (done : readEscape input = .ok (c, rest)) : rest.length < input.length := by
  unfold readEscape at done
  split at done
  · cases done
  · split at done
    · cases done
    · rename_i found
      have := readUnit_length found
      split at done
      · cases done
      · split at done
        · have := readLowHalf_length done
          simp only [List.length_cons]
          omega
        · cases done
          simp only [List.length_cons]
          omega
  · split at done
    · cases done
      simp
    · cases done

/-- The characters of a string up to its closing quote, after those that were read already. -/
def readChars (read : List Char) (input : List Char) : Except Error (String × List Char) :=
  match input with
  | [] => .error .eofString
  | c :: rest =>
    if c = '"' then .ok (.ofList read.reverse, rest)
    else if c = '\\' then
      match _found : readEscape rest with
      | .error fault => .error fault
      | .ok (meant, after) => readChars (meant :: read) after
    else if c.toNat < 0x20 then .error .controlCharacter
    else readChars (c :: read) rest
termination_by input.length
decreasing_by
  · have := readEscape_length _found
    simp only [List.length_cons]
    omega
  · simp

/-- A string, read from after its opening quote. -/
def readText : Reader String := readChars []

/-- Passes over an escape. Codes have to be spelled right, and need not be characters. -/
def skipEscape : List Char → Except Error (List Char)
  | [] => .error .eofString
  | 'u' :: digits =>
    match readUnit digits with
    | .error fault => .error fault
    | .ok (_, rest) => .ok rest
  | c :: rest => if (letterEscape? c).isSome then .ok rest else .error .invalidEscape

theorem skipEscape_length {input rest : List Char} (done : skipEscape input = .ok rest) :
    rest.length < input.length := by
  unfold skipEscape at done
  split at done
  · cases done
  · split at done
    · cases done
    · rename_i found
      have := readUnit_length found
      cases done
      simp only [List.length_cons]
      omega
  · split at done
    · cases done
      simp
    · cases done

/-- Passes over a string, from after its opening quote. -/
def skipText (input : List Char) : Except Error (List Char) :=
  match input with
  | [] => .error .eofString
  | c :: rest =>
    if c = '"' then .ok rest
    else if c = '\\' then
      match _found : skipEscape rest with
      | .error fault => .error fault
      | .ok after => skipText after
    else if c.toNat < 0x20 then .error .controlCharacter
    else skipText rest
termination_by input.length
decreasing_by
  · have := skipEscape_length _found
    simp only [List.length_cons]
    omega
  · simp

def escape (c : Char) : List Char :=
  if c = '"' then ['\\', '"']
  else if c = '\\' then ['\\', '\\']
  else if c = '\x08' then ['\\', 'b']
  else if c = '\x0c' then ['\\', 'f']
  else if c = '\n' then ['\\', 'n']
  else if c = '\r' then ['\\', 'r']
  else if c = '\t' then ['\\', 't']
  else if c.toNat < 0x20 then
    ['\\', 'u', '0', '0', (c.toNat / 16).digitChar, (c.toNat % 16).digitChar]
  else [c]

def printString (text : String) : List Char := '"' :: text.toList.flatMap escape ++ ['"']

def printOptional : Option String → List Char
  | none => ['n', 'u', 'l', 'l']
  | some text => printString text

/-- Names with the written forms of their values. -/
abbrev Members := List (String × List Char)

/-- An object in one line. -/
def printCompact (members : Members) : List Char :=
  '{' :: [','].intercalate (members.map fun member => printString member.1 ++ ':' :: member.2) ++ ['}']

/-- An object with a member to a line. -/
def printLines (members : Members) : List Char :=
  let lines := members.map fun member =>
    [' ', ' '] ++ printString member.1 ++ [':', ' '] ++ member.2
  ['{', '\n'] ++ [',', '\n'].intercalate lines ++ ['\n', '}']

end Preimage.Json
