import Preimage.Proofs.Log.Cuts

/-! What redaction conceals. A value that is hidden leaves its size behind and nothing else, and a
long digest its two ends. -/
namespace Preimage.Log
variable {entry : Entry} {key value value' shown : String}

def Entry.Stores (entry : Entry) (key value shown : String) : Prop :=
  entry.field? key value = some { entry with fields := entry.fields ++ [(key, shown)] }

theorem Entry.stores_iff : entry.Stores key value shown ↔ redact? key value = some shown := by
  simp only [Stores, field?]
  cases redact? key value with
  | none => simp
  | some shown' => simp

theorem Entry.exists_stores (added : (entry.field? key value).isSome = true) :
    ∃ shown, entry.Stores key value shown := by
  simp only [field?, Option.isSome_map] at added
  obtain ⟨shown, redacted⟩ := Option.isSome_iff_exists.1 added
  exact ⟨shown, stores_iff.2 redacted⟩

theorem hide_congr (same : value.utf8ByteSize = value'.utf8ByteSize) :
    hide value = hide value' := by
  simp only [hide, same]

/-- A secret is hidden, and a payload unless it goes by the name of its digest. -/
theorem redact?_of_hidden (counts : ¬ Counts key)
    (hidden : Names secretWords key ∨ Names payloadWords key ∧ ¬ Names digestWords key)
    (value : String) : redact? key value = some (hide value) := by
  simp only [redact?, Sensitivity.ofKey_eq, if_neg counts]
  rcases hidden with secret | ⟨payload, digest⟩
  · rw [if_pos secret]
  · by_cases secret : Names secretWords key
    · rw [if_pos secret]
    · rw [if_neg secret, if_neg digest, if_pos payload]

theorem redact?_of_digest (counts : ¬ Counts key) (secret : ¬ Names secretWords key)
    (digest : Names digestWords key) (value : String) :
    redact? key value = abbreviate? value := by
  simp only [redact?, Sensitivity.ofKey_eq_digest_iff.2 ⟨counts, secret, digest⟩]

/-- Two long digests that agree on all that is shown of either. -/
structure Lookalike (value value' : String) : Prop where
  long : 20 < (Text.trim value).utf8ByteSize
  long' : 20 < (Text.trim value').utf8ByteSize
  mark : Marked value ↔ Marked value'
  front : (Bytes.ofText (Text.trim value)).take (frontPlace value) =
    (Bytes.ofText (Text.trim value')).take (frontPlace value)
  back : (Bytes.ofText (Text.trim value)).drop (backPlace value) =
    (Bytes.ofText (Text.trim value')).drop (backPlace value')

namespace Lookalike

theorem frontPlace_eq (alike : Lookalike value value') : frontPlace value = frontPlace value' := by
  simp only [frontPlace, alike.mark]

theorem abbreviate?_eq (alike : Lookalike value value') :
    abbreviate? value = abbreviate? value' := by
  rw [abbreviate?_of_long alike.long, abbreviate?_of_long alike.long', alike.front, alike.back,
    alike.frontPlace_eq]

end Lookalike

theorem utf8ByteSize_of_abbreviate? (long : 20 < (Text.trim value).utf8ByteSize)
    (abbreviated : abbreviate? value = some shown) :
    shown.utf8ByteSize = frontPlace value + 3 + 6 := by
  rw [abbreviate?_of_long long] at abbreviated
  obtain ⟨front, starts, abbreviated⟩ := Option.bind_eq_some_iff.1 abbreviated
  obtain ⟨back, ends, rfl⟩ := Option.map_eq_some_iff.1 abbreviated
  have size := Bytes.length_ofText (Text.trim value)
  have short := frontPlace_le value
  have first : front.utf8ByteSize = frontPlace value := by
    rw [← Bytes.length_ofText, ← Bytes.toText?_eq_some_iff.1 starts, List.length_take, size]
    omega
  have last : back.utf8ByteSize = 6 := by
    rw [← Bytes.length_ofText, ← Bytes.toText?_eq_some_iff.1 ends, List.length_drop, size,
      backPlace]
    omega
  rw [String.utf8ByteSize_append, String.utf8ByteSize_append, first, last]
  rfl

/-- A value that is hidden, by its key or since that was asked for, is stored by its size alone.
Long digests that agree on both ends are stored as the same text. -/
theorem Entry.field?_conceals (entry : Entry) :
    (∀ key value value' : String, ¬ Counts key →
      Names secretWords key ∨ Names payloadWords key ∧ ¬ Names digestWords key →
      value.utf8ByteSize = value'.utf8ByteSize →
      ∃ shown, entry.Stores key value shown ∧ entry.Stores key value' shown) ∧
    (∀ key value value' : String, ¬ Counts key →
      Names digestWords key → ¬ Names secretWords key → Lookalike value value' →
      (entry.field? key value).isSome = true → (entry.field? key value').isSome = true →
      ∃ shown, entry.Stores key value shown ∧ entry.Stores key value' shown ∧
        shown.utf8ByteSize = if Marked value then 21 else 19) ∧
    ∀ key value value' : String, value.utf8ByteSize = value'.utf8ByteSize →
      entry.hiddenField key value = entry.hiddenField key value' := by
  refine ⟨?_, ?_, ?_⟩
  · intro key value value' counts hidden same
    refine ⟨hide value, ?_, ?_⟩
    · exact stores_iff.2 (redact?_of_hidden counts hidden value)
    · rw [hide_congr same]
      exact stores_iff.2 (redact?_of_hidden counts hidden value')
  · intro key value value' counts digest secret alike added _
    obtain ⟨shown, stored⟩ := exists_stores added
    have redacted := stores_iff.1 stored
    rw [redact?_of_digest counts secret digest] at redacted
    refine ⟨shown, stored, ?_, ?_⟩
    · rw [stores_iff, redact?_of_digest counts secret digest, ← alike.abbreviate?_eq, redacted]
    · rw [utf8ByteSize_of_abbreviate? alike.long redacted, frontPlace]
      split <;> rfl
  · intro key value value' same
    simp only [hiddenField, hide_congr same]

/-- Keys that name several things at once, a digest with a mark, and a length that was to be hidden.
-/
theorem Entry.field?_conceals_overlapping :
    (∃ shown,
      Entry.Stores ⟨.info, "test", "msg", []⟩ "DATA_SEED_HASH" "abc" shown ∧
      Entry.Stores ⟨.info, "test", "msg", []⟩ "DATA_SEED_HASH" "日" shown) ∧
    (∃ shown,
      Entry.Stores ⟨.info, "test", "msg", []⟩ "raw_digest" "0x0123456789ABCDEFabcdef" shown ∧
      Entry.Stores ⟨.info, "test", "msg", []⟩ "raw_digest" " 0x0123456789日日abcdef\n" shown ∧
      shown.utf8ByteSize = if Marked "0x0123456789ABCDEFabcdef" then 21 else 19) ∧
    Entry.hiddenField ⟨.info, "test", "msg", []⟩ "data_len" "abc" =
      Entry.hiddenField ⟨.info, "test", "msg", []⟩ "data_len" "日" := by
  obtain ⟨hidden, digests, asked⟩ := Entry.field?_conceals ⟨.info, "test", "msg", []⟩
  have secret : Names secretWords "DATA_SEED_HASH" :=
    ⟨"seed", mem_words_iff.1.2 (by simp), by decide +kernel⟩
  have digest : Names digestWords "raw_digest" :=
    ⟨"digest", mem_words_iff.2.1.2 (by simp), by decide +kernel⟩
  refine ⟨?_, ?_, asked _ _ _ (by decide +kernel)⟩
  · exact hidden _ _ _ (by decide +kernel) (.inl secret) (by decide +kernel)
  · refine digests _ _ _ (by decide +kernel) digest (by decide +kernel) ?_
      (by decide +kernel) (by decide +kernel)
    exact ⟨by decide +kernel, by decide +kernel, by decide +kernel, by decide +kernel,
      by decide +kernel⟩

end Preimage.Log
