import Preimage.Bytes
import Preimage.Text.Basic
import Preimage.Text.Quoted

/-! Bytes as hexadecimal digits. They are written in lower case and without a mark. On the way in,
either case is read, with blanks around the digits and one mark before them. Places of bad digits
count bytes of the UTF-8 form, from the first after blanks and mark. -/
namespace Preimage.Hex

def encodeByte (byte : UInt8) : List Char :=
  [(byte.toNat / 16).digitChar, (byte.toNat % 16).digitChar]

def encode (bytes : Bytes) : String := .ofList (bytes.flatMap encodeByte)

inductive Fault where
  | oddLength
  | invalidDigit (byte : UInt8) (place : Nat)
deriving Repr, DecidableEq

/-- A byte that is no digit is shown as the character with its number. -/
def Fault.message : Fault → String
  | oddLength => "Odd number of digits"
  | invalidDigit byte place =>
    s!"Invalid character {Text.quoteChar (.ofNat byte.toNat)} at position {place}"

def value? (byte : UInt8) : Option Nat := Text.hexValue? byte.toNat

/-- Joins digits two by two, once all of them are known to be digits. -/
def joinPairs : Bytes → Bytes
  | high :: low :: rest =>
    UInt8.ofNat (16 * (value? high).getD 0 + (value? low).getD 0) :: joinPairs rest
  | _ => []

/-- An odd number of digits is found before a bad one. -/
def decodeDigits (digits : Bytes) : Except Fault Bytes :=
  if digits.length % 2 = 1 then .error .oddLength
  else match digits.findIdx? fun byte => (value? byte).isNone with
    | some place => .error (.invalidDigit (digits.getD place 0) place)
    | none => .ok (joinPairs digits)

/-- What follows the mark, if there is one. -/
def dropMark : List Char → List Char
  | '0' :: 'x' :: rest => rest
  | '0' :: 'X' :: rest => rest
  | text => text

def decode (text : String) : Except Fault Bytes :=
  decodeDigits (.ofText (.ofList (dropMark (Text.trimList text.toList))))

end Preimage.Hex
