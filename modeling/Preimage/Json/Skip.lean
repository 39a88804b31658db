import Preimage.Json.Number

/-! Passing over a value that nothing asks for. Its syntax is checked, at any depth, with the open
brackets kept on a stack. -/
namespace Preimage.Json

inductive Bracket where
  | list
  | map
deriving Repr, DecidableEq

namespace Bracket

def close : Bracket → Char
  | list => ']'
  | map => '}'

/-- The text ends while the bracket is open. -/
def unclosed : Bracket → Error
  | list => .eofList
  | map => .eofObject

/-- After an element stands neither a comma nor the end. -/
def unseparated : Bracket → Error
  | list => .expectedCommaOrBracket
  | map => .expectedCommaOrBrace

end Bracket

/-- Passes over a value that holds no other, by its first character. -/
def skipScalar (c : Char) (rest : List Char) : Except Error (List Char) :=
  if c = 'n' then readLiteral ['u', 'l', 'l'] rest
  else if c = 't' then readLiteral ['r', 'u', 'e'] rest
  else if c = 'f' then readLiteral ['a', 'l', 's', 'e'] rest
  else if c = '"' then skipText rest
  else if c = '-' then Number.skip rest
  else if c.isDigit then Number.skip (c :: rest)
  else .error .expectedValue

def readColon (input : List Char) : Except Error (List Char) :=
  match skipBlank input with
  | [] => .error .eofObject
  | ':' :: rest => .ok rest
  | _ => .error .expectedColon

/-- Passes over what stands before the value of an element: nothing in a list, a key in a map. -/
def skipLabel : Bracket → List Char → Except Error (List Char)
  | .list, input => .ok input
  | .map, input =>
    match skipBlank input with
    | [] => .error .eofObject
    | '"' :: rest =>
      match skipText rest with
      | .error fault => .error fault
      | .ok rest => readColon rest
    | _ => .error .keyMustBeText

/-- Closes brackets as long as they close. Gives those that stay open, the inner one first, with the
text from where the next value starts, or no bracket at all with the text after the value. After a
bracket was opened an element may start at once; after a value it takes a comma. -/
def closeBrackets (afterValue : Bool) :
    List Bracket → List Char → Except Error (List Bracket × List Char)
  | [], input => .ok ([], input)
  | bracket :: outer, input =>
    match skipBlank input with
    | [] => .error bracket.unclosed
    | c :: rest =>
      if c = bracket.close then closeBrackets true outer rest
      else if !afterValue then (skipLabel bracket (c :: rest)).map (bracket :: outer, ·)
      else if c = ',' then (skipLabel bracket rest).map (bracket :: outer, ·)
      else .error bracket.unseparated

/-- Passes over one value inside the given brackets, and then over the rest of these. Each step
takes at least one character, so a budget beyond the length of the text never runs out. -/
def skipWithin : (budget : Nat) → List Bracket → List Char → Except Error (List Char)
  | 0, _, _ => .error .eofValue
  | budget + 1, brackets, input => do
    let (brackets, input) ← match skipBlank input with
      | [] => .error .eofValue
      | '[' :: rest => closeBrackets false (.list :: brackets) rest
      | '{' :: rest => closeBrackets false (.map :: brackets) rest
      | c :: rest => closeBrackets true brackets (← skipScalar c rest)
    if brackets.isEmpty then .ok input else skipWithin budget brackets input

def skipValue (budget : Nat) (input : List Char) : Except Error (List Char) :=
  skipWithin budget [] input

end Preimage.Json
