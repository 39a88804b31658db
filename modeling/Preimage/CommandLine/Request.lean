import Preimage.CommandLine.Words
import Preimage.Digest.Algorithm

/-! What a user asks for. Before the name of a command stand only the flags that hold for the whole
program; the version is told as soon as it is asked for. Words that make no request are a usage
error, whatever is wrong with them. -/
namespace Preimage.CommandLine

inductive Command where
  /-- Writes an outcome. The bytes are still text here. -/
  | encode (dataHash data : String) (errorCode : Int32) (error : String)
  | decode (hex : String) (retain : Bool) (limit? : Option Nat)
  | validate (hex : String) (algorithm? : Option Digest.Algorithm)
  | schema
deriving Repr, DecidableEq

inductive Request where
  | version
  | run (verbose : Bool) (command : Command)
deriving Repr, DecidableEq

def readDigits (digits : List Char) : Option Nat :=
  if !digits.isEmpty && digits.all Char.isDigit then some (Nat.ofDigitChars 10 digits 0)
  else none

/-- A count, which may have a plus before it. -/
def readCount (text : String) : Option Nat := do
  let number ← readDigits (match text.toList with
    | '+' :: digits => digits
    | digits => digits)
  if number < UInt64.size then some number else none

def readSigned (text : String) : Option Int32 := do
  let number : Int ← match text.toList with
    | '-' :: digits => (readDigits digits).map fun number => -(number : Int)
    | '+' :: digits => (readDigits digits).map Int.ofNat
    | digits => (readDigits digits).map Int.ofNat
  if Int32.minValue.toInt ≤ number ∧ number ≤ Int32.maxValue.toInt then some (.ofInt number)
  else none

/-- The value of an option, or what stands for it where the option is left out. -/
def valueOf {α : Type} (supplied : Supplied) (name : String) (absent : α)
    (reader : String → Option α) : Option α :=
  match supplied.values.lookup name with
  | some text => reader text
  | none => some absent

namespace Command

def encodeSlots : Slots :=
  [(verboseName, .flag), ("data-hash", .text), ("data", .text), ("error-code", .number),
    ("error", .text)]

def decodeSlots : Slots := [(verboseName, .flag), ("retain-unknown", .flag), ("max-len", .text)]

def validateSlots : Slots := [(verboseName, .flag), ("hash", .text)]

def schemaSlots : Slots := [(verboseName, .flag)]

def ofEncode (supplied : Supplied) : Option Command := do
  let [] := supplied.operands | none
  return encode (← valueOf supplied "data-hash" "" some) (← valueOf supplied "data" "" some)
    (← valueOf supplied "error-code" 0 readSigned) (← valueOf supplied "error" "" some)

def ofDecode (supplied : Supplied) : Option Command := do
  let [hex] := supplied.operands | none
  return decode hex (supplied.flags.contains "retain-unknown")
    (← valueOf supplied "max-len" none fun text => (readCount text).map some)

def ofValidate (supplied : Supplied) : Option Command := do
  let [hex] := supplied.operands | none
  return validate hex
    (← valueOf supplied "hash" none fun text => (Digest.Algorithm.ofName? text).map some)

def ofSchema (supplied : Supplied) : Option Command := do
  let [] := supplied.operands | none
  return schema

/-- The options of a command and what it makes of them, by its name. -/
def grammar? : String → Option (Slots × (Supplied → Option Command))
  | "encode" => some (encodeSlots, ofEncode)
  | "decode" => some (decodeSlots, ofDecode)
  | "validate" => some (validateSlots, ofValidate)
  | "schema" => some (schemaSlots, ofSchema)
  | _ => none

end Command

namespace Request

/-- Letters behind a single dash, before the name of a command: whether the log is on after them, or
the request that they make on their own. -/
def ofLetters (verbose : Bool) : List Char → Option (Bool ⊕ Request)
  | [] => some (.inl verbose)
  | letter :: rest =>
    if letter = verboseLetter then if verbose then none else ofLetters true rest
    else if letter = 'V' then some (.inr version)
    else none

def ofCommand (verbose : Bool) (name : String) (words : List String) : Option Request := do
  let (slots, build) ← Command.grammar? name
  let supplied ← sortWords slots none {} words
  return run (verbose || supplied.flags.contains verboseName) (← build supplied)

/-- The request that words make, once the log has been asked for or not. -/
def ofWords (verbose : Bool) : List String → Option Request
  | [] => none
  | word :: rest =>
    match word.toList with
    | '-' :: '-' :: option =>
      if String.ofList option = verboseName then if verbose then none else ofWords true rest
      else if String.ofList option = "version" then some version
      else none
    | '-' :: letter :: letters => do
      match ← ofLetters verbose (letter :: letters) with
      | .inl verbose => ofWords verbose rest
      | .inr request => return request
    | _ => ofCommand verbose word rest

def ofArguments (arguments : List String) : Option Request := ofWords false arguments

end Request
end Preimage.CommandLine
