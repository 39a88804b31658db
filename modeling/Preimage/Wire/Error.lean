/-! Why bytes are refused. Either the input stops before something it announced is complete, or
bytes that are present cannot be what their place calls for, or the message is over the agreed size.
-/
namespace Preimage.Wire

inductive Malformation where
  | varintOverflow
  | invalidFieldNumber (number : Nat)
  | unsupportedWireType (code : UInt8)
  | wireTypeMismatch (number : UInt32) (expected found : UInt8)
  | invalidText (number : UInt32)
deriving Repr, DecidableEq

/-- Offsets count bytes from the start of the input. -/
inductive DecodeError where
  /-- `needed` bytes were called for at `offset`, where the input has `available` left. -/
  | truncated (offset needed available : Nat)
  | malformed (offset : Nat) (reason : Malformation)
  | tooLarge (size limit : Nat)
deriving Repr, DecidableEq

def Malformation.message : Malformation → String
  | varintOverflow => "varint longer than 10 bytes or wider than 64 bits"
  | invalidFieldNumber number => s!"invalid field number {number}"
  | unsupportedWireType code => s!"unsupported wire type {code}"
  | wireTypeMismatch number expected found =>
    s!"field {number} expects wire type {expected}, found {found}"
  | invalidText number => s!"field {number} is not valid UTF-8"

namespace DecodeError

def message : DecodeError → String
  | truncated offset needed available =>
    s!"Truncated input at offset {offset}: needed {needed} bytes, {available} available"
  | malformed offset reason => s!"Malformed input at offset {offset}: {reason.message}"
  | tooLarge size limit => s!"Message of {size} bytes exceeds the limit of {limit} bytes"

def isTruncated : DecodeError → Bool
  | truncated .. => true
  | _ => false

def isMalformed : DecodeError → Bool
  | malformed .. => true
  | _ => false

/-- Where decoding stopped. A message over the size limit is not looked into. -/
def offset? : DecodeError → Option Nat
  | truncated offset .. => some offset
  | malformed offset _ => some offset
  | tooLarge .. => none

end DecodeError
end Preimage.Wire
