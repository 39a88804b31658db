import Preimage.Digest.Blake2b
import Preimage.Digest.Keccak
import Preimage.Digest.Sha2
import Preimage.Text.Basic

/-! The functions by which chains digest a pre-image. Which one a chain uses is not written in the
message, so whoever checks a digest brings the algorithm along. -/
namespace Preimage.Digest

inductive Algorithm where
  | sha256
  | sha256d
  | keccak256
  | sha3
  | blake2b256
  | sha512t256
deriving Repr, DecidableEq

namespace Algorithm

def all : List Algorithm := [sha256, sha256d, keccak256, sha3, blake2b256, sha512t256]

def name : Algorithm → String
  | sha256 => "sha256"
  | sha256d => "sha256d"
  | keccak256 => "keccak256"
  | sha3 => "sha3-256"
  | blake2b256 => "blake2b256"
  | sha512t256 => "sha512-256"

/-- Names are found with blanks around them and in either case, where case is that of ASCII. -/
def ofName? (text : String) : Option Algorithm :=
  let wanted := (Text.trim text).map Char.toLower
  all.find? fun algorithm => algorithm.name == wanted

/-- The length of every digest. -/
def size (_ : Algorithm) : Nat := 32

def digest : Algorithm → Bytes → Bytes
  | sha256, message => Sha2.sha256 message
  | sha256d, message => Sha2.sha256 (Sha2.sha256 message)
  | keccak256, message => Keccak.keccak256 message
  | sha3, message => Keccak.sha3 message
  | blake2b256, message => Blake2b.blake2b256 message
  | sha512t256, message => Sha2.sha512t256 message

theorem length_digest (algorithm : Algorithm) (message : Bytes) :
    (algorithm.digest message).length = algorithm.size := by
  cases algorithm with
  | sha256 => exact Sha2.length_sha256 message
  | sha256d => exact Sha2.length_sha256 _
  | keccak256 => exact Keccak.length_digest _ message
  | sha3 => exact Keccak.length_digest _ message
  | blake2b256 => exact Blake2b.length_blake2b256 message
  | sha512t256 => exact Sha2.length_sha512t256 message

end Algorithm
end Preimage.Digest
