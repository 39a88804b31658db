import Preimage.Json.Shortest
import Preimage.Text.Quoted

/-! Why a text is not the JSON that was called for. Texts are read from the left and refused at the
first fault, be it one of syntax or of type. -/
namespace Preimage.Json

/-- What stands where something else is called for. -/
inductive Found where
  | null
  | boolean (value : Bool)
  | integer (value : Int)
  | float (value : Float)
  | text (value : String)
  | sequence
  | map

inductive Expected where
  | text
  | int32
  | size
  | unit
  | record (name : String)

inductive Error where
  | eofValue
  | eofObject
  | eofList
  | eofString
  | expectedValue
  | expectedIdent
  | expectedColon
  | expectedCommaOrBrace
  | expectedCommaOrBracket
  | keyMustBeText
  | trailingComma
  | trailingCharacters
  | invalidNumber
  | numberOutOfRange
  | invalidEscape
  | brokenPair
  | loneSurrogate
  | controlCharacter
  | invalidType (found : Found) (expected : Expected)
  | invalidInteger (value : Int) (expected : Expected)
  /-- A list for a record of `fields` fields ends after `length` elements. -/
  | tooShort (length : Nat) (record : String) (fields : Nat)
  | missingField (name : String)
  | duplicateField (name : String)
  | unknownVariant (name : String) (known : List String)
  /-- A text of the right form does not hold what it should. -/
  | content (message : String)

def Found.message : Found → String
  | null => "null"
  | boolean value => "boolean \x60" ++ toString value ++ "\x60"
  | integer value => "integer \x60" ++ toString value ++ "\x60"
  | float value => "floating point \x60" ++ Shortest.text value ++ "\x60"
  | text value => "string " ++ Text.quoteText value
  | sequence => "sequence"
  | map => "map"

def Expected.message : Expected → String
  | text => "a string"
  | int32 => "i32"
  | size => "usize"
  | unit => "unit"
  | record name => s!"struct {name}"

/-- A name between grave accents. -/
def tick (name : String) : String := "\x60" ++ name ++ "\x60"

def Error.message : Error → String
  | eofValue => "EOF while parsing a value"
  | eofObject => "EOF while parsing an object"
  | eofList => "EOF while parsing a list"
  | eofString => "EOF while parsing a string"
  | expectedValue => "expected value"
  | expectedIdent => "expected ident"
  | expectedColon => "expected " ++ tick ":"
  | expectedCommaOrBrace => "expected " ++ tick "," ++ " or " ++ tick "\x7d"
  | expectedCommaOrBracket => "expected " ++ tick "," ++ " or " ++ tick "]"
  | keyMustBeText => "key must be a string"
  | trailingComma => "trailing comma"
  | trailingCharacters => "trailing characters"
  | invalidNumber => "invalid number"
  | numberOutOfRange => "number out of range"
  | invalidEscape => "invalid escape"
  | brokenPair => "unexpected end of hex escape"
  | loneSurrogate => "lone leading surrogate in hex escape"
  | controlCharacter => "control character (\\u0000-\\u001F) found while parsing a string"
  | invalidType found expected => s!"invalid type: {found.message}, expected {expected.message}"
  | invalidInteger value expected =>
    "invalid value: integer " ++ tick (toString value) ++ ", expected " ++ expected.message
  | tooShort length record fields =>
    s!"invalid length {length}, expected struct {record} with {fields} elements"
  | missingField name => "missing field " ++ tick name
  | duplicateField name => "duplicate field " ++ tick name
  | unknownVariant name known =>
    "unknown variant " ++ tick name ++ ", expected one of " ++ ", ".intercalate (known.map tick)
  | content message => message

end Preimage.Json
