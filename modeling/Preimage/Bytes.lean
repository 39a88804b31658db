/-! Messages, pre-images and digests are strings of bytes. They are kept as lists, so that whatever
reads them takes them apart from the front. Text becomes bytes by its UTF-8 form, and only
well-formed UTF-8 becomes text again. -/
namespace Preimage

abbrev Bytes := List UInt8

namespace Bytes
variable {bytes : Bytes} {count : Nat} {text : String}

/-- Whether `count` bytes are there. The list is walked no further than that. -/
def holds (count : Nat) (bytes : Bytes) : Bool :=
  count == 0 || !(bytes.drop (count - 1)).isEmpty

@[simp] theorem holds_iff : bytes.holds count = true ↔ count ≤ bytes.length := by
  by_cases none : count = 0
  · simp [holds, none]
  · simp [holds, none, List.drop_eq_nil_iff]
    omega

def ofText (text : String) : Bytes := text.toByteArray.data.toList

def toText? (bytes : Bytes) : Option String := String.fromUTF8? bytes.toByteArray

theorem length_ofText (text : String) : (ofText text).length = text.utf8ByteSize := by
  simp [ofText]

@[simp] theorem toByteArray_ofText : (ofText text).toByteArray = text.toByteArray := by
  ext1
  simp [ofText]

theorem toText?_eq_some_iff : bytes.toText? = some text ↔ bytes = ofText text := by
  constructor
  · intro read
    simp only [toText?, String.fromUTF8?] at read
    split at read
    · cases read
      simp [ofText, String.fromUTF8]
    · cases read
  · rintro rfl
    simp [toText?, String.fromUTF8?, text.isValidUTF8, String.fromUTF8]

@[simp] theorem toText?_ofText : (ofText text).toText? = some text :=
  toText?_eq_some_iff.2 rfl

theorem ofText_ofList (chars : List Char) :
    ofText (.ofList chars) = chars.flatMap String.utf8EncodeChar := by
  simp [ofText, String.toByteArray_ofList, List.utf8Encode]

end Bytes
end Preimage
