import Preimage.Outcome.Part

/-! The one written form of an outcome, and decoding from any spelling of it. Written are the known
fields by ascending tag, none where the value is zero or empty, and then the retained records of
unknown fields; the length can be told without writing. Decoding takes records in any order. Where a
field occurs more than once its last record counts, also one that is explicitly empty or zero.
Whether the parts fit together is not asked here: an outcome that promises a payload and has none
must still reach whoever is to find the cause. -/
namespace Preimage.Outcome

def encodeBytes (tag : Tag) (payload : Bytes) : Bytes :=
  if payload.isEmpty then [] else Wire.encodeBytesField tag.number payload

def encodeCode (code : Int32) : Bytes :=
  if code = 0 then [] else Wire.encodeInt32Field Tag.errorCode.number code

def encode (outcome : Outcome) : Bytes :=
  encodeBytes .dataHash outcome.dataHash ++ encodeBytes .data outcome.data ++
    encodeCode outcome.errorCode ++ encodeBytes .error (.ofText outcome.error) ++
    outcome.unknown.flatMap UnknownField.raw

/-- The layout does not show in the length of a key. -/
def keyLength (tag : Tag) : Nat := Wire.Varint.length (UInt64.ofNat (tag.number.toNat * 8))

def bytesLength (tag : Tag) (size : Nat) : Nat :=
  if size = 0 then 0 else keyLength tag + Wire.Varint.length (UInt64.ofNat size) + size

def codeLength (code : Int32) : Nat :=
  if code = 0 then 0 else keyLength .errorCode + Wire.Varint.length (Wire.wordOfInt32 code)

def encodedLength (outcome : Outcome) : Nat :=
  bytesLength .dataHash outcome.dataHash.length + bytesLength .data outcome.data.length +
    codeLength outcome.errorCode + bytesLength .error outcome.error.utf8ByteSize +
    outcome.unknownSize

end Preimage.Outcome

namespace Preimage

/-- What becomes of records that the schema does not list. -/
inductive UnknownPolicy where
  | discard
  | retain
deriving Repr, DecidableEq

structure Decoder where
  policy : UnknownPolicy := .discard
  /-- The size beyond which a message is refused unseen. -/
  limit? : Option Nat := none
deriving Repr, DecidableEq

namespace Outcome

/-- Sets what one part says, over whatever was there. -/
def set (outcome : Outcome) : Part → Outcome
  | .dataHash payload => { outcome with dataHash := payload }
  | .data payload => { outcome with data := payload }
  | .errorCode code => { outcome with errorCode := code }
  | .error text => { outcome with error := text }
  | .unknown _ => outcome

def ofParts (policy : UnknownPolicy) (parts : List Part) : Outcome :=
  { parts.foldl set {} with
    unknown := match policy with
      | .discard => []
      | .retain => parts.filterMap Part.unknown? }

end Outcome

namespace Decoder

/-- For consumers of the known fields. -/
def plain : Decoder := {}

/-- For relays, which pass on what they do not know. -/
def relay : Decoder := { policy := .retain }

/-- For messages from anywhere. -/
def bounded (limit : Nat) : Decoder := { limit? := some limit }

def withPolicy (decoder : Decoder) (policy : UnknownPolicy) : Decoder := { decoder with policy }

def retains (decoder : Decoder) : Bool := decoder.policy == .retain

/-- The refusal of a message for its size alone. -/
def oversize? (decoder : Decoder) (size : Nat) : Option Wire.DecodeError :=
  match decoder.limit? with
  | some limit => if limit < size then some (.tooLarge size limit) else none
  | none => none

/-- Decodes with the wire types that the given revision declares. -/
def decodeUnder (schema : Schema) (decoder : Decoder) (bytes : Bytes) :
    Except Wire.DecodeError Outcome :=
  match decoder.oversize? bytes.length with
  | some fault => .error fault
  | none =>
    match Outcome.Part.readAll schema (.ofBytes bytes) with
    | (_, some fault) => .error fault
    | (parts, none) => .ok (.ofParts decoder.policy parts)

def decode (decoder : Decoder) (bytes : Bytes) : Except Wire.DecodeError Outcome :=
  decoder.decodeUnder Outcome.activeSchema bytes

end Decoder
end Preimage
