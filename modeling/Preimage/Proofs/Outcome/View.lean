import Preimage.Outcome.View
import Preimage.Proofs.Json.Object
import Preimage.Proofs.Text.Hex

/-! Outcomes in JSON read back. One that goes through its view loses its retained fields and nothing
else. -/
namespace Preimage.Outcome
open Json

namespace View

theorem reads_readBytes (bytes : Bytes) :
    Reads readBytes (printString (Hex.encode bytes)) bytes := by
  intro blank rest blanks ends
  have read := reads_readString .text (Hex.encode bytes) blank rest blanks ends
  simp only [readBytes, read, ok_bind, Hex.decode_encode_bytes]
  rfl

def draft (view : View) : Draft :=
  { dataHash := view.dataHash
    data := view.data
    errorCode := view.errorCode
    errorName := view.errorName
    error := view.error
    unknownFields := if view.unknownFields = 0 then none else view.unknownFields }

theorem complete_draft (view : View) : view.draft.complete = view := by
  have count : view.draft.unknownFields.getD 0 = view.unknownFields := by
    by_cases none : view.unknownFields = 0 <;> simp [draft, none]
  rw [Draft.complete, count]
  rfl

theorem takesAll_members (view : View) (fits : view.unknownFields < 2 ^ 64) :
    TakesAll readDraftMember {} view.members view.draft := by
  let { dataHash, data, errorCode, errorName, error, unknownFields } := view
  -- The count is a member only where there is something to count.
  have count : TakesAll readDraftMember { dataHash, data, errorCode, errorName, error }
      (if unknownFields = 0 then [] else [("unknown_fields", (toString unknownFields).toList)])
      { dataHash, data, errorCode, errorName, error
        unknownFields := if unknownFields = 0 then none else unknownFields } := by
    split
    · exact .nil
    · exact .cons (.fill (reads_readSize fits)
        ({ dataHash, data, errorCode, errorName, error, unknownFields := · }) fun _ _ => rfl) .nil
  refine .cons (.fill (reads_readBytes dataHash) ({ dataHash := · }) fun _ _ => rfl) ?_
  refine .cons (.fill (reads_readBytes data) ({ dataHash, data := · }) fun _ _ => rfl) ?_
  refine .cons (.fill (reads_readInt32 errorCode) ({ dataHash, data, errorCode := · })
    fun _ _ => rfl) ?_
  refine .cons (.fill (reads_readString .text errorName)
    ({ dataHash, data, errorCode, errorName := · }) fun _ _ => rfl) ?_
  refine .cons (.fill (reads_readString .text error)
    ({ dataHash, data, errorCode, errorName, error := · }) fun _ _ => rfl) ?_
  exact count

theorem ofJson_toJson_of_lt (view : View) (fits : view.unknownFields < 2 ^ 64) :
    ofJson view.toJson = .ok view := by
  obtain ⟨input, written, read⟩ :=
    readObject_of_printLines (takesAll_members view fits) (List.cons_ne_nil _ _)
  have form : readMembersForm input = .ok (view, []) := by
    simp only [readMembersForm, read, ok_bind, complete_draft]
    rfl
  rw [toJson, written, ofJson, readDocument_readRecord _ form]

end View

/-- A view is read back as it was, and an outcome comes back from its view unchanged just when it
retains nothing. Counts are those that a word can hold, as the length of any list of fields is. -/
theorem ofJson_toJson_view :
    (∀ view : View, view.unknownFields < 2 ^ 64 → View.ofJson view.toJson = .ok view) ∧
    ∀ outcome : Outcome, outcome.unknown.length < 2 ^ 64 →
      (View.ofJson outcome.view.toJson).map ofView = .ok { outcome with unknown := [] } ∧
      ((View.ofJson outcome.view.toJson).map ofView = .ok outcome ↔ outcome.unknown = []) := by
  refine ⟨View.ofJson_toJson_of_lt, fun outcome fits => ?_⟩
  have back : (View.ofJson outcome.view.toJson).map ofView =
      .ok { outcome with unknown := [] } := by
    rw [View.ofJson_toJson_of_lt outcome.view fits, Except.map, ofView_view]
  refine ⟨back, ?_, ?_⟩
  · intro same
    have kept := Except.ok.inj (back.symm.trans same)
    exact (congrArg Outcome.unknown kept).symm
  · intro none
    rw [back, ← none]

/-- Texts with a quote, a backslash, controls and characters past ASCII and past the first plane. -/
theorem ofJson_toJson_view_retained :
    let view : View := {
      dataHash := [0x00, 0x7f, 0xff]
      errorCode := -2147483648
      errorName := "\"\\/\n\x08\x00\x1f\x7f"
      error := "é😀"
      unknownFields := 18446744073709551615 }
    let outcome : Outcome := { errorCode := 7, unknown := [⟨9, .varint, [0x48, 0x07]⟩] }
    view.unknownFields < 2 ^ 64 ∧ View.ofJson view.toJson = .ok view ∧
      outcome.unknown.length < 2 ^ 64 ∧
      (View.ofJson outcome.view.toJson).map ofView = .ok { errorCode := 7 } := by
  intro view outcome
  have counted : view.unknownFields < 2 ^ 64 := by decide
  have held : outcome.unknown.length < 2 ^ 64 := by decide
  exact ⟨counted, ofJson_toJson_view.1 view counted, held, (ofJson_toJson_view.2 outcome held).1⟩

end Preimage.Outcome
