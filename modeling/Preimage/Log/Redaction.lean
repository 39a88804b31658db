import Preimage.Bytes
import Preimage.Text.Basic

/-! What a log line may show of a value is decided by its key. Secrets and payloads are reduced to
their length, digests to both their ends; lengths and counts pass as they are. Lengths are those of
the UTF-8 form, and so are the cuts through a digest. -/
namespace Preimage.Log

inductive Sensitivity where
  | plain
  | secret
  | digest
  | payload
deriving Repr, DecidableEq

def secretWords : List String :=
  ["private_key", "privatekey", "secret", "seed", "mnemonic", "signing_key"]

def digestWords : List String := ["hash", "digest", "sighash"]

def payloadWords : List String := ["preimage", "payload", "data", "raw"]

/-- The endings of keys whose values are numbers and show nothing. -/
def countEndings : List String := ["_len", "_count"]

def mentions (key : List Char) (words : List String) : Bool :=
  words.any fun word => Text.occurs word.toList key

namespace Sensitivity

/-- Where a key names several things, the ending decides first, then secrets, then digests. -/
def ofKey (key : String) : Sensitivity :=
  let key := Text.lower key.toList
  if countEndings.any fun ending => ending.toList.isSuffixOf key then plain
  else if mentions key secretWords then secret
  else if mentions key digestWords then digest
  else if mentions key payloadWords then payload
  else plain

end Sensitivity

/-- Shows at most how long a value is. -/
def hide (value : String) : String :=
  let length := value.utf8ByteSize
  if length = 0 then "[EMPTY]"
  else if length ≤ 4 then "[REDACTED]"
  else s!"[REDACTED:{length}chars]"

def shortDigest : Nat := 20

/-- How many bytes are shown of the start of a long digest. -/
def shownStart (digest : Bytes) : Nat :=
  if (Bytes.ofText "0x").isPrefixOf digest then 12 else 10

def shownEnd : Nat := 6

/-- The two ends of a digest, blanks around it apart. There is no such text if a cut would go
through a character. -/
def abbreviate? (value : String) : Option String :=
  let trimmed := Text.trim value
  let digest := Bytes.ofText trimmed
  if digest.isEmpty then some "[EMPTY]"
  else if digest.length ≤ shortDigest then some trimmed
  else
    match Bytes.toText? (digest.take (shownStart digest)),
      Bytes.toText? (digest.drop (digest.length - shownEnd)) with
    | some front, some back => some (front ++ "..." ++ back)
    | _, _ => none

def redact? (key value : String) : Option String :=
  match Sensitivity.ofKey key with
  | .plain => some value
  | .secret => some (hide value)
  | .digest => abbreviate? value
  | .payload => some (hide value)

end Preimage.Log
