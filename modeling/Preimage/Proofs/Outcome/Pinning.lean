import Preimage.Proofs.Outcome.Acceptance
import Preimage.Proofs.Schema.History

/-! Which revision decoding goes by. It asks a schema only for the wire types of the four known
tags, so that every later revision decodes all inputs just as the built-in one does. -/
namespace Preimage.Outcome.Part
open Wire
variable {schema schema' : Schema} {key : Key} {cursor : Cursor}

theorem checkWireType_congr {meaning : String × Schema.Kind}
    (assigned : schema.meaning? key.number = some meaning)
    (assigned' : schema'.meaning? key.number = some meaning) :
    checkWireType schema key = checkWireType schema' key := by
  obtain ⟨field, found, rfl⟩ := Option.map_eq_some_iff.1 assigned
  obtain ⟨field', found', same⟩ := Option.map_eq_some_iff.1 assigned'
  have kinds : field'.kind = field.kind := congrArg Prod.snd same
  simp only [checkWireType, found, found', kinds]

theorem read_eq_of_preserves (preserved : Outcome.schema.Preserves schema) :
    read schema cursor = read activeSchema cursor := by
  rw [read_eq, read_eq]
  cases Read.key cursor with
  | error fault next => rfl
  | ok key next =>
    simp only
    cases known : Tag.ofNumber? key.number with
    | none => rfl
    | some tag =>
      have number := Tag.ofNumber?_eq_some_iff.1 known
      have assigned : activeSchema.meaning? key.number =
          some (tag.field.name, tag.field.kind) := by
        rw [activeSchema_eq, number]
        cases tag <;> rfl
      have kept := preserved key.number _ (activeSchema_eq ▸ assigned)
      simp only [checkWireType_congr kept assigned]

theorem readAll_eq_of_preserves (preserved : Outcome.schema.Preserves schema) :
    readAll schema cursor = readAll activeSchema cursor := by
  -- The next record is the same under both, and after it less is left to read.
  induction size : cursor.rest.length using Nat.strongRecOn generalizing cursor with
  | ind size ih =>
    rw [readAll_eq, readAll_eq, read_eq_of_preserves preserved]
    cases step : read activeSchema cursor with
    | error fault last => rfl
    | ok part next =>
      simp only [ih _ (size ▸ read_shortens step) rfl]

end Preimage.Outcome.Part

namespace Preimage.Decoder
open Schema (Request)

theorem decodeUnder_of_preserves {schema : Schema} (preserved : Outcome.schema.Preserves schema)
    (decoder : Decoder) (bytes : Bytes) :
    decoder.decodeUnder schema bytes = decoder.decode bytes := by
  simp only [decode, decodeUnder, Outcome.Part.readAll_eq_of_preserves preserved]

/-- After any requests some schema is still registered under the built-in name, and decoding by it
is decoding by the built-in one. -/
theorem decode_pinned (requests : List Request) :
    ∃ schema, (Outcome.registry.run requests).get? "TW.TxCompiler.Proto.PreSigningOutput" =
        some schema ∧
      ∀ (decoder : Decoder) (bytes : Bytes),
        decoder.decodeUnder schema bytes = decoder.decode bytes := by
  have builtin : Outcome.registry.get? "TW.TxCompiler.Proto.PreSigningOutput" =
      some Outcome.schema := by
    decide +kernel
  obtain ⟨schema, registered, preserved⟩ :=
    Schema.Registry.continues_run Outcome.registry requests _ _ builtin
  exact ⟨schema, registered, decodeUnder_of_preserves preserved⟩

end Preimage.Decoder
