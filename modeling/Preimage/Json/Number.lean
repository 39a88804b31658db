import Preimage.Json.Syntax

/-! Numbers. One without point and exponent is whole as long as it fits into 64 bits, unsigned, or
signed where it has a minus. Any other is a floating-point number, made from the digits that fit
into 64 bits and a power of ten. -/
namespace Preimage.Json

inductive Number where
  | integer (value : Int)
  | float (value : Float)

namespace Number

def found : Number → Found
  | integer value => .integer value
  | float value => .float value

/-- The first digits that still fit into a word, taken on from a number, and how many do not. -/
def gather (number : Nat) : List Char → Nat × Nat
  | [] => (number, 0)
  | digit :: rest =>
    let more := 10 * number + (digit.toNat - 48)
    if more < UInt64.size then gather more rest else (number, rest.length + 1)

/-- Past 308 the power of ten is taken in steps, and a step up from a number other than zero goes
beyond all floating-point numbers. -/
def scale (number : Float) (exponent : Int) : Except Error Float :=
  if exponent.natAbs ≤ 308 then
    let power := Float.ofScientific 1 false exponent.natAbs
    if 0 ≤ exponent then
      let scaled := number * power
      if scaled.isInf then .error .numberOutOfRange else .ok scaled
    else .ok (number / power)
  else if number == 0 then .ok number
  else if 0 ≤ exponent then .error .numberOutOfRange
  else scale (number / Float.ofScientific 1 false 308) (exponent + 308)
termination_by exponent.natAbs
decreasing_by omega

def signed (negative : Bool) (number : Float) : Float := if negative then -number else number

def ofParts (negative : Bool) (significand : Nat) (exponent : Int) : Except Error Number := do
  return float (signed negative (← scale (Float.ofNat significand) exponent))

def ofInteger (negative : Bool) (number : Nat) : Number :=
  if negative then
    if number = 0 ∨ Int64.minValue.toInt.natAbs < number then float (-Float.ofNat number)
    else integer (-(number : Int))
  else integer number

/-- The largest exponent whose digits are read for their value. -/
def maxExponent : Nat := Int32.maxValue.toInt.toNat

/-- The exponent, from after its letter. A vast one makes the number zero or too large. -/
def readExponent (negative : Bool) (significand : Nat) (exponent : Int) (input : List Char) :
    Except Error (Number × List Char) :=
  let (down, input) := match input with
    | '+' :: rest => (false, rest)
    | '-' :: rest => (true, rest)
    | _ => (false, input)
  let digits := input.takeWhile Char.isDigit
  let rest := input.dropWhile Char.isDigit
  if digits.isEmpty then .error (if rest.isEmpty then .eofValue else .invalidNumber)
  else
    let shift := Nat.ofDigitChars 10 digits 0
    if maxExponent < shift then
      if significand ≠ 0 ∧ !down then .error .numberOutOfRange
      else .ok (float (signed negative 0), rest)
    else
      match ofParts negative significand (if down then exponent - shift else exponent + shift) with
      | .error fault => .error fault
      | .ok number => .ok (number, rest)

/-- What follows the digits of a number that is no longer whole. -/
def readTail (negative : Bool) (significand : Nat) (exponent : Int) (input : List Char) :
    Except Error (Number × List Char) :=
  match input with
  | 'e' :: rest => readExponent negative significand exponent rest
  | 'E' :: rest => readExponent negative significand exponent rest
  | _ =>
    match ofParts negative significand exponent with
    | .error fault => .error fault
    | .ok number => .ok (number, input)

/-- A number, from after its minus. -/
def read (negative : Bool) (input : List Char) : Except Error (Number × List Char) :=
  let digits := input.takeWhile Char.isDigit
  let rest := input.dropWhile Char.isDigit
  if digits.isEmpty then .error (if rest.isEmpty then .eofValue else .invalidNumber)
  else if digits.head? = some '0' ∧ 1 < digits.length then .error .invalidNumber
  else
    let (significand, dropped) := gather 0 digits
    match rest with
    | '.' :: after =>
      let decimals := after.takeWhile Char.isDigit
      let rest := after.dropWhile Char.isDigit
      if decimals.isEmpty then .error (if rest.isEmpty then .eofValue else .invalidNumber)
      else
        let (significand, ignored) := gather significand decimals
        readTail negative significand ((dropped : Int) - (decimals.length - ignored : Nat)) rest
    | _ =>
      let opensExponent := rest.head? = some 'e' ∨ rest.head? = some 'E'
      if opensExponent ∨ 0 < dropped then readTail negative significand dropped rest
      else .ok (ofInteger negative significand, rest)

/-- Passes over an exponent, from after its letter. -/
def skipExponent (input : List Char) : Except Error (List Char) :=
  let input := match input with
    | '+' :: rest => rest
    | '-' :: rest => rest
    | _ => input
  if (input.takeWhile Char.isDigit).isEmpty then .error .invalidNumber
  else .ok (input.dropWhile Char.isDigit)

def skipTail : List Char → Except Error (List Char)
  | 'e' :: rest => skipExponent rest
  | 'E' :: rest => skipExponent rest
  | rest => .ok rest

/-- Passes over a number, from after its minus, whatever its size. -/
def skip (input : List Char) : Except Error (List Char) :=
  let digits := input.takeWhile Char.isDigit
  let rest := input.dropWhile Char.isDigit
  if digits.isEmpty then .error .invalidNumber
  else if digits.head? = some '0' ∧ 1 < digits.length then .error .invalidNumber
  else match rest with
    | '.' :: after =>
      if (after.takeWhile Char.isDigit).isEmpty then .error .invalidNumber
      else skipTail (after.dropWhile Char.isDigit)
    | _ => skipTail rest

end Number
end Preimage.Json
