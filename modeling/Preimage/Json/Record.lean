import Preimage.Json.Skip

/-! Values of known types. Records come as objects, with members in any order, or as lists in the
order of their fields. Whatever else stands in the place of a value is read as far as it takes to
say what it is. -/
namespace Preimage.Json

/-- Why the value at the front is not of the expected type. Its own syntax comes first. -/
def wrongType (expected : Expected) : List Char → Error
  | [] => .eofValue
  | c :: rest =>
    let literal (word : List Char) (found : Found) : Error :=
      match readLiteral word rest with
      | .error fault => fault
      | .ok _ => .invalidType found expected
    let number (negative : Bool) (input : List Char) : Error :=
      match Number.read negative input with
      | .error fault => fault
      | .ok (number, _) => .invalidType number.found expected
    if c = 'n' then literal ['u', 'l', 'l'] .null
    else if c = 't' then literal ['r', 'u', 'e'] (.boolean true)
    else if c = 'f' then literal ['a', 'l', 's', 'e'] (.boolean false)
    else if c = '-' then number true rest
    else if c.isDigit then number false (c :: rest)
    else if c = '"' then
      match readText rest with
      | .error fault => fault
      | .ok (text, _) => .invalidType (.text text) expected
    else if c = '[' then .invalidType .sequence expected
    else if c = '{' then .invalidType .map expected
    else .expectedValue

def readString (expected : Expected) : Reader String := fun input =>
  match skipBlank input with
  | '"' :: rest => readText rest
  | input => .error (wrongType expected input)

/-- A string, or nothing where `null` stands. -/
def readOptional : Reader (Option String) := fun input =>
  match skipBlank input with
  | [] => .error .eofValue
  | 'n' :: rest => (readLiteral ['u', 'l', 'l'] rest).map (none, ·)
  | input => (readString .text input).map fun (text, rest) => (some text, rest)

def readNull : Reader Unit := fun input =>
  match skipBlank input with
  | 'n' :: rest => (readLiteral ['u', 'l', 'l'] rest).map ((), ·)
  | input => .error (wrongType .unit input)

/-- A whole number within the given bounds, which both belong to them. -/
def readWhole (expected : Expected) (least greatest : Int) : Reader Int := fun input => do
  let (number, rest) ← match skipBlank input with
    | '-' :: rest => Number.read true rest
    | c :: rest =>
      if c.isDigit then Number.read false (c :: rest)
      else .error (wrongType expected (c :: rest))
    | [] => .error .eofValue
  match number with
  | .float value => .error (.invalidType (.float value) expected)
  | .integer value =>
    if least ≤ value ∧ value ≤ greatest then .ok (value, rest)
    else .error (.invalidInteger value expected)

def readInt32 : Reader Int32 := fun input => do
  let (value, rest) ← readWhole .int32 Int32.minValue.toInt Int32.maxValue.toInt input
  return (Int32.ofInt value, rest)

/-- A number of things, of 64 bits. -/
def readSize : Reader Nat := fun input => do
  let (value, rest) ← readWhole .size 0 (UInt64.size - 1) input
  return (value.toNat, rest)

/-- The value of a member, from after its key. -/
def readMember {α : Type} (reader : Reader α) : Reader α := fun input => do
  reader (← readColon input)

/-- The start of the next key, or none before the closing brace. -/
def nextKey? (first : Bool) (input : List Char) : Except Error (Option (List Char)) :=
  match skipBlank input with
  | [] => .error .eofObject
  | c :: rest =>
    if c = '}' then .ok none
    else if first then
      if c = '"' then .ok (some rest) else .error .keyMustBeText
    else if c = ',' then
      match skipBlank rest with
      | [] => .error .eofValue
      | '"' :: rest => .ok (some rest)
      | '}' :: _ => .error .trailingComma
      | _ => .error .keyMustBeText
    else .error .expectedCommaOrBrace

/-- How a record takes one more member into what it has read so far: by the member's key, and with
the text after the key. The budget is for values that are passed over. -/
abbrev MemberReader (σ : Type) := (budget : Nat) → σ → (key : String) → Reader σ

/-- Reads members until the object ends. Each takes characters, so a budget beyond the length of the
text never runs out. -/
def readMembers {σ : Type} (member : MemberReader σ) :
    (budget : Nat) → (first : Bool) → σ → Reader σ
  | 0, _, _, _ => .error .eofObject
  | budget + 1, first, state, input => do
    match ← nextKey? first input with
    | none => .ok (state, (skipBlank input).drop 1)
    | some rest =>
      let (key, rest) ← readText rest
      let (state, rest) ← member budget state key rest
      readMembers member budget false state rest

/-- The members of an object, from after its opening brace. -/
def readObject {σ : Type} (member : MemberReader σ) (start : σ) : Reader σ := fun input =>
  readMembers member (input.length + 1) true start input

/-- Passes over a member that the record does not know, from after its key. -/
def skipMember {σ : Type} (budget : Nat) (state : σ) : Reader σ := fun input => do
  return (state, ← skipValue budget (← readColon input))

/-- The start of the next element, or none before the closing bracket. -/
def nextElement? (first : Bool) (input : List Char) : Except Error (Option (List Char)) :=
  match skipBlank input with
  | [] => .error .eofList
  | c :: rest =>
    if c = ']' then .ok none
    else if first then .ok (some (c :: rest))
    else if c = ',' then
      match skipBlank rest with
      | [] => .error .eofValue
      | ']' :: _ => .error .trailingComma
      | rest => .ok (some rest)
    else .error .expectedCommaOrBracket

def readElement? {α : Type} (first : Bool) (reader : Reader α) :
    Reader (Option α) := fun input => do
  match ← nextElement? first input with
  | none => .ok (none, input)
  | some start =>
    let (value, rest) ← reader start
    return (some value, rest)

/-- The end of a list of which all known elements have been read. -/
def closeList (input : List Char) : Except Error (List Char) :=
  match skipBlank input with
  | [] => .error .eofList
  | ']' :: rest => .ok rest
  | ',' :: rest =>
    if (skipBlank rest).head? = some ']' then .error .trailingComma
    else .error .trailingCharacters
  | _ => .error .trailingCharacters

/-- A record in either of its forms, each read from after the opening bracket. -/
def readRecord {α : Type} (name : String) (members elements : Reader α) : Reader α := fun input =>
  match skipBlank input with
  | [] => .error .eofValue
  | '{' :: rest => members rest
  | '[' :: rest => do
    let (value, rest) ← elements rest
    return (value, ← closeList rest)
  | input => .error (wrongType (.record name) input)

def readDocument {α : Type} (reader : Reader α) (text : String) : Except Error α := do
  let (value, rest) ← reader text.toList
  if (skipBlank rest).isEmpty then return value else .error .trailingCharacters

/-- Takes a member into a place that is still empty. -/
def fillOnce {α : Type} (name : String) (place : Option α) (reader : Reader α) :
    Reader (Option α) := fun input =>
  match place with
  | some _ => .error (.duplicateField name)
  | none => do
    let (value, rest) ← readMember reader input
    return (some value, rest)

end Preimage.Json
