import Preimage.Proofs.Outcome.Acceptance

/-! What the settings of a decoder change. In one pass the outcome grows with each record and the
policy is asked each time, so that two passes with different policies go through the same records
side by side and differ in what they retain. -/
namespace Preimage.Outcome
open Wire
variable {policy : UnknownPolicy} {parts : List Part} {part : Part} {outcome : Outcome}

/-- A record of another field is kept at the end of those before it, or dropped. -/
def absorb (policy : UnknownPolicy) (outcome : Outcome) (part : Part) : Outcome :=
  { outcome.set part with
    unknown := if policy = .retain then outcome.unknown ++ part.unknown?.toList
      else outcome.unknown }

theorem ofParts_append_singleton :
    ofParts policy (parts ++ [part]) = (ofParts policy parts).absorb policy part := by
  cases policy <;> cases part <;> simp [ofParts, absorb, set, Part.unknown?]

theorem ofParts_eq_foldl : ofParts policy parts = parts.foldl (absorb policy) {} := by
  induction parts using List.reverseRecOn with
  | nil => cases policy <;> rfl
  | append_singleton parts part ih =>
    rw [ofParts_append_singleton, ih, List.foldl_append, List.foldl_cons, List.foldl_nil]

theorem absorb_discard (outcome : Outcome) (part : Part) :
    absorb .discard { outcome with unknown := [] } part =
      { outcome.absorb .retain part with unknown := [] } := by
  cases part <;> rfl

namespace Part
variable {schema : Schema} {cursor : Cursor}

/-- One pass over the records, up to the end of the input or the first fault. -/
def absorbAll (schema : Schema) (policy : UnknownPolicy) (outcome : Outcome) (cursor : Cursor) :
    Except DecodeError Outcome :=
  if cursor.rest.isEmpty then .ok outcome
  else match _found : read schema cursor with
    | .error fault _ => .error fault
    | .ok part next => absorbAll schema policy (outcome.absorb policy part) next
termination_by cursor.rest.length
decreasing_by exact read_shortens _found

theorem absorbAll_eq (schema : Schema) (policy : UnknownPolicy) (outcome : Outcome)
    (cursor : Cursor) :
    absorbAll schema policy outcome cursor =
      if cursor.rest.isEmpty then .ok outcome
      else match read schema cursor with
        | .error fault _ => .error fault
        | .ok part next => absorbAll schema policy (outcome.absorb policy part) next := by
  rw [absorbAll]
  split
  · rfl
  · split
    · rename_i fault last failed
      simp only [failed]
    · rename_i part next done
      simp only [done]

theorem absorbAll_eq_readAll :
    absorbAll schema policy outcome cursor =
      (readAll schema cursor).2.elim (.ok ((readAll schema cursor).1.foldl (absorb policy) outcome))
        .error := by
  fun_induction absorbAll schema policy outcome cursor with
  | case1 outcome cursor ended =>
    rw [readAll_eq, if_pos ended]
    rfl
  | case2 outcome cursor more fault last failed =>
    rw [readAll_eq, if_neg more, failed]
    rfl
  | case3 outcome cursor more part next done ih =>
    rw [readAll_eq, if_neg more, done, ih]
    rfl

theorem absorbAll_discard (outcome : Outcome) (cursor : Cursor) :
    absorbAll schema .discard { outcome with unknown := [] } cursor =
      (absorbAll schema .retain outcome cursor).map
        fun outcome => { outcome with unknown := [] } := by
  fun_induction absorbAll schema .retain outcome cursor with
  | case1 outcome cursor ended =>
    rw [absorbAll_eq, if_pos ended]
    rfl
  | case2 outcome cursor more fault last failed =>
    rw [absorbAll_eq, if_neg more, failed]
    rfl
  | case3 outcome cursor more part next done ih =>
    rw [absorbAll_eq, if_neg more, done, ← ih, ← absorb_discard]

end Part
end Preimage.Outcome

namespace Preimage.Decoder
open Wire Outcome
variable {decoder : Decoder} {bytes : Bytes}

theorem decode_eq_absorbAll (policy : UnknownPolicy) (bytes : Bytes) :
    decode { policy } bytes = Part.absorbAll activeSchema policy {} (.ofBytes bytes) := by
  obtain ⟨records, next, fault?, admitted, passed, stops⟩ :=
    Part.exists_records (Cursor.ofBytes bytes)
  rw [decode_of_records admitted passed stops, Part.absorbAll_eq_readAll,
    Part.readAll_of_records admitted passed stops, ← ofParts_eq_foldl]
  cases fault? <;> rfl

theorem decode_of_oversize {limit : Nat} (limited : decoder.limit? = some limit)
    (beyond : limit < bytes.length) :
    decoder.decode bytes = .error (.tooLarge bytes.length limit) := by
  have refused : decoder.oversize? bytes.length = some (.tooLarge bytes.length limit) := by
    simp only [oversize?, limited, if_pos beyond]
  rw [decode_eq, refused]

theorem decode_of_within (within : ∀ limit, decoder.limit? = some limit → bytes.length ≤ limit) :
    decoder.decode bytes = decode { policy := decoder.policy } bytes := by
  have allowed : decoder.oversize? bytes.length = none := by
    cases limited : decoder.limit? with
    | none => simp only [oversize?, limited]
    | some limit => simp only [oversize?, limited, if_neg (Nat.not_lt.2 (within limit limited))]
  rw [decode_eq, allowed]

theorem decode_discard (decoder : Decoder) (bytes : Bytes) :
    (decoder.withPolicy .discard).decode bytes =
      ((decoder.withPolicy .retain).decode bytes).map
        fun outcome => { outcome with unknown := [] } := by
  have limit : (decoder.withPolicy .discard).oversize? bytes.length =
      (decoder.withPolicy .retain).oversize? bytes.length := rfl
  rw [(decoder.withPolicy .discard).decode_eq, (decoder.withPolicy .retain).decode_eq, limit]
  cases (decoder.withPolicy .retain).oversize? bytes.length with
  | some fault => rfl
  | none =>
    simp only [withPolicy, decode_eq_absorbAll]
    exact Part.absorbAll_discard {} (.ofBytes bytes)

/-- A message over the limit is refused for its size, and any other is decoded as if there were no
limit. The policies refuse the same messages for the same fault, and tell the same of the others,
less what one of them retains. -/
theorem decode_of_settings (decoder : Decoder) (bytes : Bytes) :
    (∀ limit, decoder.limit? = some limit → limit < bytes.length →
      decoder.decode bytes = .error (.tooLarge bytes.length limit)) ∧
    ((∀ limit, decoder.limit? = some limit → bytes.length ≤ limit) →
      decoder.decode bytes = decode { decoder with limit? := none } bytes) ∧
    ((∃ fault, (decoder.withPolicy .discard).decode bytes = .error fault ∧
        (decoder.withPolicy .retain).decode bytes = .error fault) ∨
      ∃ outcome, (decoder.withPolicy .retain).decode bytes = .ok outcome ∧
        (decoder.withPolicy .discard).decode bytes = .ok { outcome with unknown := [] }) := by
  refine ⟨fun limit limited beyond => decode_of_oversize limited beyond, decode_of_within, ?_⟩
  have side := decode_discard decoder bytes
  cases retained : (decoder.withPolicy .retain).decode bytes with
  | error fault =>
    rw [retained] at side
    exact .inl ⟨fault, side, rfl⟩
  | ok outcome =>
    rw [retained] at side
    exact .inr ⟨outcome, rfl, side⟩

/-- A record of field 5 has been kept when one of field 9 breaks off. A limit of four bytes is found
before that. -/
theorem decode_of_settings_broken :
    (bounded 4).decode [0x28, 0x01, 0x4a, 0x05, 0x01] = .error (.tooLarge 5 4) ∧
      (bounded 5).decode [0x28, 0x01, 0x4a, 0x05, 0x01] = .error (.truncated 4 5 1) ∧
      plain.decode [0x28, 0x01, 0x4a, 0x05, 0x01] = .error (.truncated 4 5 1) := by
  have broken : relay.decode [0x28, 0x01, 0x4a, 0x05, 0x01] = .error (.truncated 4 5 1) := by
    decide +kernel
  obtain ⟨beyond, _⟩ := decode_of_settings (bounded 4) [0x28, 0x01, 0x4a, 0x05, 0x01]
  obtain ⟨_, within, _⟩ := decode_of_settings (bounded 5) [0x28, 0x01, 0x4a, 0x05, 0x01]
  obtain ⟨_, _, ⟨fault, dropped, retained⟩ | ⟨outcome, retained, _⟩⟩ :=
    decode_of_settings plain [0x28, 0x01, 0x4a, 0x05, 0x01]
  · cases retained.symm.trans broken
    refine ⟨beyond 4 rfl (by decide), ?_, dropped⟩
    exact (within fun limit limited => by cases limited; decide).trans dropped
  · cases retained.symm.trans broken

end Preimage.Decoder
