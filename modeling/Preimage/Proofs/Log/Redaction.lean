import Preimage.Log.Event
import Preimage.Proofs.Text.Hex

/-! What lines of the log show of the values that come with an event. Digests are in hexadecimal
there, so that no cut goes through a character and every event has its line. -/
namespace Preimage.Log

/-- What is shown of a digest: all of it or, where it is long, five bytes and three. -/
def shownDigest (digest : Bytes) : String :=
  if digest = [] then "[EMPTY]"
  else if digest.length ≤ 10 then Hex.encode digest
  else Hex.encode (digest.take 5) ++ "..." ++ Hex.encode (digest.drop (digest.length - 3))

theorem abbreviate?_encode (digest : Bytes) :
    abbreviate? (Hex.encode digest) = some (shownDigest digest) := by
  have digits := Hex.length_ofText_encode digest
  simp only [abbreviate?, shownDigest, Hex.trim_encode, shownStart, shownEnd, shortDigest,
    Hex.unmarked_encode, digits, List.isEmpty_iff_length_eq_zero]
  by_cases empty : digest = []
  · simp [empty]
  · have filled : 0 < digest.length := List.length_pos_iff.2 empty
    rw [if_neg (by omega), if_neg empty]
    by_cases short : digest.length ≤ 10
    · rw [if_pos (by omega), if_pos short]
    · have front := (Hex.cut_ofText_encode (show 5 ≤ digest.length by omega)).1
      have back := (Hex.cut_ofText_encode (Nat.sub_le digest.length 3)).2
      have behind : 2 * digest.length - 6 = 2 * (digest.length - 3) := by omega
      rw [if_neg (by omega), if_neg short, behind, back]
      simp [front]

def reveal? (value : String × String) : Option (String × String) :=
  (redact? value.1 value.2).map fun shown => (value.1, shown)

theorem Entry.field?_eq (entry : Entry) (value : String × String) :
    entry.field? value.1 value.2 =
      (reveal? value).map fun shown => { entry with fields := entry.fields ++ [shown] } := by
  simp [field?, reveal?, Function.comp_def]

theorem Entry.fields?_eq (entry : Entry) (values : List (String × String)) :
    entry.fields? values =
      (values.mapM reveal?).map fun shown => { entry with fields := entry.fields ++ shown } := by
  induction values generalizing entry with
  | nil => simp [fields?]
  | cons value values ih =>
    have step (entry : Entry) : entry.fields? (value :: values) =
        (entry.field? value.1 value.2).bind fun entry => entry.fields? values := rfl
    rw [step, field?_eq, List.mapM_cons]
    cases reveal? value with
    | none => rfl
    | some shown => cases rest : values.mapM reveal? <;> simp [ih, rest]

theorem reveal?_plain {key : String} (plain : Sensitivity.ofKey key = .plain) (value : String) :
    reveal? (key, value) = some (key, value) := by
  simp [reveal?, redact?, plain]

theorem reveal?_digest {key : String} (named : Sensitivity.ofKey key = .digest) (digest : Bytes) :
    reveal? (key, Hex.encode digest) = some (key, shownDigest digest) := by
  simp [reveal?, redact?, named, abbreviate?_encode]

namespace Event

def shown : Event → List (String × String)
  | digestMismatch algorithm dataHash =>
    [("algorithm", algorithm.name), ("data_hash", shownDigest dataHash)]
  | preimageBuilt chain algorithm size dataHash =>
    [("chain", chain), ("algorithm", algorithm.name), ("preimage_len", toString size),
      ("data_hash", shownDigest dataHash)]
  | event => event.values

def openKeys : List String :=
  ["field", "wire_type", "field_len", "reason", "data_len", "hash_len", "algorithm", "chain",
    "preimage_len", "code", "error"]

theorem plain_of_mem_openKeys : ∀ key ∈ openKeys, Sensitivity.ofKey key = .plain := by
  decide +kernel

theorem reveal?_open {key : String} (member : key ∈ openKeys) (value : String) :
    reveal? (key, value) = some (key, value) :=
  reveal?_plain (plain_of_mem_openKeys key member) value

theorem reveal?_dataHash (digest : Bytes) :
    reveal? ("data_hash", Hex.encode digest) = some ("data_hash", shownDigest digest) :=
  reveal?_digest (by decide +kernel) digest

theorem mapM_reveal?_values (event : Event) : event.values.mapM reveal? = some event.shown := by
  cases event with
  | skippedField | payloadMissing | compilationFailed =>
    simp (disch := decide) [values, shown, reveal?_open]
  | digestMismatch | preimageBuilt =>
    simp (disch := decide) [values, shown, reveal?_open, reveal?_dataHash]

def entry (event : Event) : Entry := { event.heading with fields := event.shown }

theorem compose?_eq (event : Event) : event.compose? = some event.entry := by
  have bare : event.heading.fields = [] := by cases event <;> rfl
  simp [compose?, Entry.fields?_eq, mapM_reveal?_values, bare, entry]

end Event

/-- One line is written for each event that is shown. -/
theorem Logger.render_eq (logger : Logger) (events : List Event) :
    logger.render events =
      ((events.map Event.entry).filter fun entry => logger.shows entry.level).map
        Entry.render := by
  have composed : Event.compose? = fun event => some event.entry := funext Event.compose?_eq
  simp only [render, entries, composed, List.filterMap_eq_map', List.filter_map]
  rfl

end Preimage.Log
