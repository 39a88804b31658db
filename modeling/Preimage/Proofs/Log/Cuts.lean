import Preimage.Proofs.Log.Redaction

/-! Where digests are cut. The two ends that are shown of a long one are measured in bytes, and it
has an entry just where both measures end between two characters. All other values have one. -/
namespace Preimage.Bytes
variable {bytes : Bytes} {text : String} {count : Nat}

theorem toText?_isSome_iff : bytes.toText?.isSome = true ↔ bytes.toByteArray.IsValidUTF8 := by
  simp only [toText?, String.fromUTF8?]
  split
  · rename_i valid
    simpa using valid
  · rename_i invalid
    simpa using invalid

theorem toByteArray_take :
    ((ofText text).take count).toByteArray = text.toByteArray.extract 0 count := by
  ext1
  apply Array.toList_inj.1
  simp [ofText]

theorem toByteArray_drop :
    ((ofText text).drop count).toByteArray =
      text.toByteArray.extract count text.utf8ByteSize := by
  have whole : text.toByteArray.data.toList.length = text.utf8ByteSize := length_ofText text
  ext1
  apply Array.toList_inj.1
  simp [ofText, List.take_of_length_le, whole]

/-- The bytes in front of a place are a text where the place is between two characters, and so are
those behind it. -/
theorem toText?_take_isSome_iff (within : count ≤ text.utf8ByteSize) :
    (toText? ((ofText text).take count)).isSome = true ↔ String.Pos.Raw.IsValid text ⟨count⟩ := by
  rw [toText?_isSome_iff, toByteArray_take, String.Pos.Raw.isValid_iff_isValidUTF8_extract_zero,
    and_iff_right (show (⟨count⟩ : String.Pos.Raw) ≤ text.rawEndPos from within)]

theorem toText?_drop_isSome_iff (within : count ≤ text.utf8ByteSize) :
    (toText? ((ofText text).drop count)).isSome = true ↔ String.Pos.Raw.IsValid text ⟨count⟩ := by
  rw [toText?_isSome_iff, toByteArray_drop,
    String.Pos.Raw.isValid_iff_isValidUTF8_extract_utf8ByteSize,
    and_iff_right (show (⟨count⟩ : String.Pos.Raw) ≤ text.rawEndPos from within)]

end Preimage.Bytes

namespace Preimage.Log
variable {key value : String} {words : List String}

/-- One of the words stands somewhere in the key, capital letters or not. -/
def Names (words : List String) (key : String) : Prop :=
  ∃ word ∈ words, word.toList <:+: Text.lower key.toList

/-- The key is the name of a length or of a count. -/
def Counts (key : String) : Prop :=
  ∃ ending ∈ countEndings, ending.toList <:+ Text.lower key.toList

theorem mem_words_iff {word : String} :
    (word ∈ secretWords ↔ word = "private_key" ∨ word = "privatekey" ∨ word = "secret" ∨
        word = "seed" ∨ word = "mnemonic" ∨ word = "signing_key") ∧
      (word ∈ digestWords ↔ word = "hash" ∨ word = "digest" ∨ word = "sighash") ∧
      (word ∈ payloadWords ↔
        word = "preimage" ∨ word = "payload" ∨ word = "data" ∨ word = "raw") ∧
      (word ∈ countEndings ↔ word = "_len" ∨ word = "_count") := by
  simp [secretWords, digestWords, payloadWords, countEndings]

theorem mentions_iff : mentions (Text.lower key.toList) words = true ↔ Names words key := by
  simp only [mentions, List.any_eq_true, Text.occurs_iff, Names]

theorem counts_iff :
    (countEndings.any fun ending => ending.toList.isSuffixOf (Text.lower key.toList)) = true ↔
      Counts key := by
  simp only [List.any_eq_true, List.isSuffixOf_iff_suffix, Counts]

instance : Decidable (Names words key) := decidable_of_iff _ mentions_iff

instance : Decidable (Counts key) := decidable_of_iff _ counts_iff

/-- What the key names first decides how its value is treated. -/
theorem Sensitivity.ofKey_eq (key : String) :
    ofKey key =
      if Counts key then .plain
      else if Names secretWords key then .secret
      else if Names digestWords key then .digest
      else if Names payloadWords key then .payload
      else .plain := by
  simp only [ofKey, ← counts_iff, ← mentions_iff]

theorem Sensitivity.ofKey_eq_digest_iff :
    ofKey key = .digest ↔ ¬ Counts key ∧ ¬ Names secretWords key ∧ Names digestWords key := by
  rw [ofKey_eq]
  by_cases counts : Counts key
  · simp [counts]
  · by_cases secret : Names secretWords key
    · simp [counts, secret]
    · by_cases digest : Names digestWords key
      · simp [counts, secret, digest]
      · by_cases payload : Names payloadWords key
        · simp [counts, secret, digest, payload]
        · simp [counts, secret, digest, payload]

/-- Some digests open with a mark, which is shown beside the first ten bytes. -/
def Marked (value : String) : Prop := Bytes.ofText "0x" <+: Bytes.ofText (Text.trim value)

instance : Decidable (Marked value) := inferInstanceAs (Decidable (_ <+: _))

def frontPlace (value : String) : Nat := if Marked value then 12 else 10

def backPlace (value : String) : Nat := (Text.trim value).utf8ByteSize - 6

theorem frontPlace_le (value : String) : frontPlace value ≤ 12 := by
  rw [frontPlace]
  split <;> decide

theorem shownStart_eq (value : String) :
    shownStart (.ofText (Text.trim value)) = frontPlace value := by
  by_cases marked : Marked value
  · rw [shownStart, frontPlace, if_pos marked, if_pos (List.isPrefixOf_iff_prefix.2 marked)]
  · rw [shownStart, frontPlace, if_neg marked, if_neg (mt List.isPrefixOf_iff_prefix.1 marked)]

theorem isSome_abbreviate?_of_short (short : (Text.trim value).utf8ByteSize ≤ 20) :
    (abbreviate? value).isSome = true := by
  simp only [abbreviate?, Bytes.length_ofText]
  split
  · rfl
  · rw [if_pos (show _ ≤ shortDigest from short)]
    rfl

theorem abbreviate?_of_long (long : 20 < (Text.trim value).utf8ByteSize) :
    abbreviate? value =
      (Bytes.toText? ((Bytes.ofText (Text.trim value)).take (frontPlace value))).bind fun front =>
        (Bytes.toText? ((Bytes.ofText (Text.trim value)).drop (backPlace value))).map fun back =>
          front ++ "..." ++ back := by
  have filled : ¬ (Bytes.ofText (Text.trim value)).isEmpty = true := by
    rw [List.isEmpty_iff_length_eq_zero, Bytes.length_ofText]
    omega
  have whole : ¬ (Text.trim value).utf8ByteSize ≤ shortDigest := Nat.not_le.2 long
  simp only [abbreviate?, Bytes.length_ofText, shownStart_eq]
  rw [if_neg filled, if_neg whole]
  simp only [shownEnd, backPlace]
  cases Bytes.toText? ((Bytes.ofText (Text.trim value)).take (frontPlace value)) with
  | none => rfl
  | some front =>
    cases Bytes.toText? ((Bytes.ofText (Text.trim value)).drop
        ((Text.trim value).utf8ByteSize - 6)) with
    | none => rfl
    | some back => rfl

theorem isSome_abbreviate?_iff :
    (abbreviate? value).isSome = true ↔
      (20 < (Text.trim value).utf8ByteSize →
        String.Pos.Raw.IsValid (Text.trim value) ⟨frontPlace value⟩ ∧
          String.Pos.Raw.IsValid (Text.trim value) ⟨backPlace value⟩) := by
  by_cases long : 20 < (Text.trim value).utf8ByteSize
  · have front := Bytes.toText?_take_isSome_iff (Nat.le_trans (frontPlace_le value)
      (show 12 ≤ (Text.trim value).utf8ByteSize by omega))
    have back := Bytes.toText?_drop_isSome_iff
      (show backPlace value ≤ (Text.trim value).utf8ByteSize from Nat.sub_le _ _)
    rw [imp_iff_right long, ← front, ← back, abbreviate?_of_long long]
    cases Bytes.toText? ((Bytes.ofText (Text.trim value)).take (frontPlace value)) with
    | none => simp
    | some front => simp
  · exact iff_of_true (isSome_abbreviate?_of_short (by omega)) fun long' => absurd long' long

/-- A value has its entry unless it is a long digest with an end that would be cut within a
character. -/
theorem Entry.isSome_field?_iff (entry : Entry) (key value : String) :
    (entry.field? key value).isSome = true ↔
      (¬ Counts key → ¬ Names secretWords key → Names digestWords key →
        20 < (Text.trim value).utf8ByteSize →
          String.Pos.Raw.IsValid (Text.trim value) ⟨frontPlace value⟩ ∧
            String.Pos.Raw.IsValid (Text.trim value) ⟨backPlace value⟩) := by
  have shown : (entry.field? key value).isSome = (redact? key value).isSome := by
    simp only [field?, Option.isSome_map]
  rw [shown]
  by_cases digest : Sensitivity.ofKey key = .digest
  · obtain ⟨counts, secret, named⟩ := Sensitivity.ofKey_eq_digest_iff.1 digest
    simp only [redact?, digest, isSome_abbreviate?_iff, counts, secret, named, not_false_eq_true,
      forall_const]
  · have open' : (redact? key value).isSome = true := by
      simp only [redact?]
      cases kind : Sensitivity.ofKey key with
      | digest => exact absurd kind digest
      | plain | secret | payload => rfl
    refine iff_of_true open' fun counts secret named => ?_
    exact absurd (Sensitivity.ofKey_eq_digest_iff.2 ⟨counts, secret, named⟩) digest

/-- Seven characters of three bytes each: the tenth byte is inside the fourth of them. -/
theorem Entry.field?_cut :
    ¬ ∀ (entry : Entry) (key value : String), ∃ next, entry.field? key value = some next := by
  intro all
  obtain ⟨next, added⟩ :=
    all { level := .info, source := "test", message := "msg" } "hash" "日日日日日日日"
  have missing : Entry.field? { level := .info, source := "test", message := "msg" } "hash"
      "日日日日日日日" = none := by decide +kernel
  rw [missing] at added
  cases added

end Preimage.Log
