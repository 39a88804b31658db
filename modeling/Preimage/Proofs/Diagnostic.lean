import Preimage.Diagnostic
import Preimage.Proofs.Json.Object

/-! Diagnostics in JSON read back, with details that are absent told from details that are empty. -/
namespace Preimage.Diagnostic
open Json
variable (diagnostic : Diagnostic)

theorem reads_readCategory (category : Category) :
    Reads readCategory (printString category.name) category := by
  intro blank rest blanks _
  rw [readCategory, skipBlank_append blanks, printString_append, skipBlank_of_visible rfl]
  simp only [readCategoryName, readText_flatMap_escape, ok_bind, Category.ofName?_name]
  rfl

def members : Members :=
  [("code", printString diagnostic.category.name), ("message", printString diagnostic.message),
    ("details", printOptional diagnostic.details)]

/-- Absent details are a member too. -/
def draft : Draft :=
  { category := diagnostic.category
    message := diagnostic.message
    details := some diagnostic.details }

theorem takesAll_members : TakesAll readDraftMember {} diagnostic.members diagnostic.draft := by
  let { category, message, details } := diagnostic
  refine .cons (.fill (reads_readCategory category) ({ category := · }) fun _ _ => rfl) ?_
  refine .cons (.fill (reads_readString .text message) ({ category, message := · })
    fun _ _ => rfl) ?_
  exact .cons (.fill (reads_readOptional details) ({ category, message, details := · })
    fun _ _ => rfl) .nil

theorem ofJson_toJson_eq : ofJson diagnostic.toJson = .ok diagnostic := by
  obtain ⟨input, written, read⟩ :=
    readObject_of_printCompact (takesAll_members diagnostic) (List.cons_ne_nil _ _)
  have form : readMembersForm input = .ok (diagnostic, []) := by
    simp only [readMembersForm, read, ok_bind]
    rfl
  have text : diagnostic.toJson = .ofList ('{' :: input) := congrArg String.ofList written
  rw [text, ofJson, readDocument_readRecord _ form]

/-- Of all details that are given, the last are kept. -/
theorem foldl_withDetails (notes : List String) :
    notes.foldl withDetails diagnostic =
      { diagnostic with details := notes.getLast?.or diagnostic.details } := by
  induction notes generalizing diagnostic with
  | nil => rfl
  | cons note notes ih =>
    rw [List.foldl_cons, ih, List.getLast?_cons]
    cases notes.getLast? <;> rfl

/-- A diagnostic is read back with the last of the details that it was given, and two that differ,
be it in having no details and empty ones, are written differently. -/
theorem ofJson_toJson :
    (∀ diagnostic : Diagnostic, ofJson diagnostic.toJson = .ok diagnostic) ∧
    (∀ (diagnostic : Diagnostic) (notes : List String),
      ofJson (notes.foldl withDetails diagnostic).toJson =
        .ok { diagnostic with details := notes.getLast?.or diagnostic.details }) ∧
    ∀ first second : Diagnostic, first.toJson = second.toJson ↔ first = second := by
  refine ⟨ofJson_toJson_eq, fun diagnostic notes => ?_, fun first second => ⟨fun same => ?_, ?_⟩⟩
  · rw [ofJson_toJson_eq, foldl_withDetails]
  · have read := ofJson_toJson_eq first
    rw [same, ofJson_toJson_eq] at read
    exact (Except.ok.inj read).symm
  · rintro rfl
    rfl

end Preimage.Diagnostic
