/-! What is asked of characters and of texts: which characters are blank, lower case as far as a
search for words in ASCII letters can see it, and the values of hexadecimal digits. -/
namespace Preimage.Text

/-- The code points with the White_Space property of Unicode, as closed ranges. -/
def blankRanges : List (Nat × Nat) :=
  [(0x9, 0xD), (0x20, 0x20), (0x85, 0x85), (0xA0, 0xA0), (0x1680, 0x1680), (0x2000, 0x200A),
    (0x2028, 0x2029), (0x202F, 0x202F), (0x205F, 0x205F), (0x3000, 0x3000)]

def isBlank (c : Char) : Bool :=
  blankRanges.any fun range => range.1 ≤ c.toNat && c.toNat ≤ range.2

def trimList (text : List Char) : List Char :=
  ((text.dropWhile isBlank).reverse.dropWhile isBlank).reverse

def trim (text : String) : String := .ofList (trimList text.toList)

/-- Besides the capital letters of ASCII, two characters of Unicode have an ASCII letter in their
lower-case form: the Kelvin sign and the dotted capital I, whose dot becomes a character of its own.
-/
def lowerChar (c : Char) : List Char :=
  if c = '\u212a' then ['k']
  else if c = '\u0130' then ['i', '\u0307']
  else [c.toLower]

def lower (text : List Char) : List Char := text.flatMap lowerChar

/-- Whether the word stands somewhere in the text. -/
def occurs (word : List Char) : List Char → Bool
  | [] => word.isEmpty
  | c :: rest => word.isPrefixOf (c :: rest) || occurs word rest

theorem occurs_iff (word text : List Char) : occurs word text = true ↔ word <:+: text := by
  induction text with
  | nil => simp [occurs]
  | cons c rest ih => simp [occurs, ih, List.infix_cons_iff, List.isPrefixOf_iff_prefix]

/-- What a hexadecimal digit stands for, in either case, by its code point. -/
def hexValue? (code : Nat) : Option Nat :=
  if 48 ≤ code ∧ code ≤ 57 then some (code - 48)
  else if 97 ≤ code ∧ code ≤ 102 then some (code - 87)
  else if 65 ≤ code ∧ code ≤ 70 then some (code - 55)
  else none

theorem hexValue?_digitChar {value : Nat} (small : value < 16) :
    hexValue? value.digitChar.toNat = some value := by
  revert value
  decide

end Preimage.Text
