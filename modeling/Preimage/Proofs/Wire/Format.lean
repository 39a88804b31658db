import Preimage.Proofs.Wire.Grammar
import Preimage.Wire.Reader

/-! What reads accept. A read takes a format when it succeeds just where bytes of that format stand
before the cursor, with their value, and stops right after them. Each read of the wire takes its
part of the grammar, wherever the cursor stands and whatever follows. -/
namespace Preimage.Wire
variable {α β : Type}

/-- The bytes lie between two cursors on the same input. -/
structure Cursor.Passes (before : Cursor) (bytes : Bytes) (after : Cursor) : Prop where
  rest : before.rest = bytes ++ after.rest
  offset : after.offset = before.offset + bytes.length

namespace Cursor
variable {first second third before after : Cursor} {bytes front back : Bytes}

theorem passes_nil : before.Passes [] after ↔ after = before := by
  constructor
  · rintro ⟨rest, offset⟩
    cases before
    cases after
    simp_all
  · rintro rfl
    exact ⟨rfl, rfl⟩

theorem Passes.trans (near : first.Passes front second) (far : second.Passes back third) :
    first.Passes (front ++ back) third :=
  ⟨by rw [near.rest, far.rest, List.append_assoc],
    by rw [far.offset, near.offset, List.length_append, Nat.add_assoc]⟩

theorem passes_append :
    first.Passes (front ++ back) third ↔
      ∃ second, first.Passes front second ∧ second.Passes back third := by
  constructor
  · rintro ⟨rest, offset⟩
    refine ⟨⟨first.offset + front.length, back ++ third.rest⟩, ⟨?_, rfl⟩, rfl, ?_⟩
    · rw [rest, List.append_assoc]
    · rw [offset, List.length_append, Nat.add_assoc]
  · rintro ⟨second, near, far⟩
    exact near.trans far

theorem Passes.eq_advance (passed : before.Passes bytes after) :
    after = before.advance bytes.length := by
  simp only [advance, passed.rest, List.drop_left', ← passed.offset]

theorem Passes.upTo (passed : before.Passes bytes after) : before.upTo after = bytes := by
  simp [Cursor.upTo, passed.rest, passed.offset]

theorem passes_advance {count : Nat} (within : count ≤ before.rest.length) :
    before.Passes (before.rest.take count) (before.advance count) :=
  ⟨(List.take_append_drop count before.rest).symm, by
    simp only [advance, List.length_take, Nat.min_eq_left within]⟩

end Cursor

namespace Read

structure Takes (read : Read α) (format : Bytes → α → Prop) : Prop where
  ok_iff : ∀ {cursor value next}, read cursor = .ok value next ↔
    ∃ bytes, format bytes value ∧ cursor.Passes bytes next

theorem Takes.congr {read : Read α} {format format' : Bytes → α → Prop}
    (takes : read.Takes format) (same : ∀ bytes value, format bytes value ↔ format' bytes value) :
    read.Takes format' :=
  ⟨by simp only [takes.ok_iff, same, implies_true]⟩

theorem takes_bind {first : Read α} {second : α → Read β} {format : Bytes → α → Prop}
    {format' : α → Bytes → β → Prop} (front : first.Takes format)
    (back : ∀ value, (second value).Takes (format' value)) :
    (first >>= second).Takes fun bytes value =>
      ∃ near far middle, bytes = near ++ far ∧ format near middle ∧ format' middle far value := by
  constructor
  intro cursor value next
  rw [bind_eq_ok]
  constructor
  · rintro ⟨middle, between, done, done'⟩
    obtain ⟨near, formed, passed⟩ := front.ok_iff.1 done
    obtain ⟨far, formed', passed'⟩ := (back middle).ok_iff.1 done'
    exact ⟨near ++ far, ⟨near, far, middle, rfl, formed, formed'⟩, passed.trans passed'⟩
  · rintro ⟨bytes, ⟨near, far, middle, rfl, formed, formed'⟩, passed⟩
    obtain ⟨between, passed, passed'⟩ := Cursor.passes_append.1 passed
    exact ⟨middle, between, front.ok_iff.2 ⟨near, formed, passed⟩,
      (back middle).ok_iff.2 ⟨far, formed', passed'⟩⟩

theorem takes_pure (value : α) :
    (pure value : Read α).Takes fun bytes value' => bytes = [] ∧ value' = value := by
  constructor
  intro cursor value' next
  constructor
  · intro done
    cases done
    exact ⟨[], ⟨rfl, rfl⟩, Cursor.passes_nil.2 rfl⟩
  · rintro ⟨bytes, ⟨rfl, rfl⟩, passed⟩
    cases Cursor.passes_nil.1 passed
    rfl

theorem takes_throw (fault : DecodeError) :
    (throw fault : Read α).Takes fun _ _ => False := by
  constructor
  intro cursor value next
  constructor
  · intro done
    cases done
  · rintro ⟨_, ⟨⟩, _⟩

/-- What is made of a value once it has been read takes no more bytes. -/
theorem takes_then {first : Read α} {second : α → Read β} {format : Bytes → α → Prop}
    {makes : α → β → Prop} (takes : first.Takes format)
    (ends : ∀ value, (second value).Takes fun bytes made => bytes = [] ∧ makes value made) :
    (first >>= second).Takes fun bytes made => ∃ value, format bytes value ∧ makes value made := by
  apply (takes_bind takes ends).congr
  intro bytes made
  constructor
  · rintro ⟨near, far, value, rfl, formed, rfl, makes⟩
    rw [List.append_nil]
    exact ⟨value, formed, makes⟩
  · rintro ⟨value, formed, makes⟩
    exact ⟨bytes, [], value, (List.append_nil bytes).symm, formed, rfl, makes⟩

/-- Where a read starts has no part in what it takes, unless it says so. -/
theorem takes_get_bind {read : Cursor → Read α} {format : Bytes → α → Prop}
    (takes : ∀ start, (read start).Takes format) : (get >>= read).Takes format :=
  ⟨fun {cursor} => (takes cursor).ok_iff⟩

theorem discard_eq_ok {read : Read α} {cursor next : Cursor} {nothing : Unit} :
    discard read cursor = .ok nothing next ↔ ∃ value, read cursor = .ok value next := by
  rw [discard_eq]
  cases read cursor with
  | ok value last => simp
  | error fault last => simp

theorem takes_discard {read : Read α} {format : Bytes → α → Prop} (takes : read.Takes format) :
    (discard read).Takes fun bytes _ => ∃ value, format bytes value := by
  constructor
  intro cursor nothing next
  rw [discard_eq_ok]
  constructor
  · rintro ⟨value, done⟩
    obtain ⟨bytes, formed, passed⟩ := takes.ok_iff.1 done
    exact ⟨bytes, ⟨value, formed⟩, passed⟩
  · rintro ⟨bytes, ⟨value, formed⟩, passed⟩
    exact ⟨value, takes.ok_iff.2 ⟨bytes, formed, passed⟩⟩

theorem takes_varint : varint.Takes Varint.Spells := by
  constructor
  intro cursor word next
  constructor
  · intro done
    simp only [varint] at done
    split at done
    · rename_i word taken found
      cases done
      obtain ⟨within, spelled⟩ := Varint.spells_of_read found
      exact ⟨_, spelled, Cursor.passes_advance within⟩
    · cases done
    · cases done
  · rintro ⟨bytes, spelled, passed⟩
    simp only [varint, passed.rest, spelled.read_append, passed.eq_advance]

theorem takes_exact (count : Nat) :
    (exact count).Takes fun bytes payload => bytes = payload ∧ payload.length = count := by
  constructor
  intro cursor payload next
  simp only [exact]
  split
  · rename_i enough
    constructor
    · intro done
      cases done
      have within := Bytes.holds_iff.1 enough
      exact ⟨_, ⟨rfl, List.length_take_of_le within⟩, Cursor.passes_advance within⟩
    · rintro ⟨bytes, ⟨rfl, rfl⟩, passed⟩
      simp [passed.rest, passed.eq_advance]
  · rename_i short
    constructor
    · intro done
      cases done
    · rintro ⟨bytes, ⟨rfl, rfl⟩, passed⟩
      refine absurd (Bytes.holds_iff.2 ?_) short
      simp [passed.rest]

theorem takes_delimited :
    delimited.Takes fun bytes payload => (Value.delimited payload).Spells bytes := by
  refine (takes_bind takes_varint fun word => takes_exact word.toNat).congr ?_
  intro bytes payload
  constructor
  · rintro ⟨size, _, word, rfl, spelled, rfl, counted⟩
    exact .delimited spelled counted.symm
  · intro spelled
    cases spelled with
    | delimited spelled counted => exact ⟨_, _, _, rfl, spelled, rfl, counted.symm⟩

/-- Any value of the layout is passed over. -/
theorem takes_skip (wireType : WireType) :
    (skip wireType).Takes fun bytes _ =>
      ∃ value : Value, value.wireType = wireType ∧ value.Spells bytes := by
  cases wireType with
  | varint =>
    apply (takes_discard takes_varint).congr
    intro bytes _
    constructor
    · rintro ⟨word, spelled⟩
      exact ⟨.varint word, rfl, .varint spelled⟩
    · rintro ⟨_, layout, spelled⟩
      cases spelled <;> cases layout
      exact ⟨_, ‹_›⟩
  | fixed64 =>
    apply (takes_discard (takes_exact 8)).congr
    intro bytes _
    constructor
    · rintro ⟨payload, rfl, sized⟩
      exact ⟨.fixed64 bytes, rfl, .fixed64 sized⟩
    · rintro ⟨_, layout, spelled⟩
      cases spelled <;> cases layout
      exact ⟨_, rfl, ‹_›⟩
  | delimited =>
    apply (takes_discard takes_delimited).congr
    intro bytes _
    constructor
    · rintro ⟨payload, spelled⟩
      exact ⟨_, rfl, spelled⟩
    · rintro ⟨value, layout, spelled⟩
      cases spelled <;> cases layout
      exact ⟨_, .delimited ‹_› ‹_›⟩
  | fixed32 =>
    apply (takes_discard (takes_exact 4)).congr
    intro bytes _
    constructor
    · rintro ⟨payload, rfl, sized⟩
      exact ⟨.fixed32 bytes, rfl, .fixed32 sized⟩
    · rintro ⟨_, layout, spelled⟩
      cases spelled <;> cases layout
      exact ⟨_, rfl, ‹_›⟩

end Read

theorem isFieldNumber_iff {number : Nat} :
    isFieldNumber number = true ↔ 1 ≤ number ∧ number < 2 ^ 29 := by
  simp only [isFieldNumber, Bool.and_eq_true, decide_eq_true_eq]
  simp only [maxFieldNumber]
  omega

theorem WireType.ofCode?_eq_some_iff {code : UInt8} {wireType : WireType} :
    ofCode? code = some wireType ↔ code = wireType.code := by
  constructor
  · intro found
    simp only [ofCode?] at found
    apply UInt8.toNat_inj.1
    split at found <;> cases found <;> assumption
  · rintro rfl
    exact ofCode?_code wireType

theorem Key.ofWord_eq_ok_iff {word : UInt64} {key : Key} :
    ofWord word = .ok key ↔
      word.toNat / 8 = key.number.toNat ∧ word.toNat % 8 = key.wireType.code.toNat ∧
        1 ≤ key.number.toNat ∧ key.number.toNat < 2 ^ 29 := by
  have low : (UInt8.ofNat (word.toNat % 8)).toNat = word.toNat % 8 := by
    rw [UInt8.toNat_ofNat']
    omega
  constructor
  · intro found
    simp only [ofWord] at found
    split at found
    · rename_i listed
      obtain ⟨least, most⟩ := isFieldNumber_iff.1 listed
      split at found
      · rename_i wireType layout
        cases found
        have code := WireType.ofCode?_eq_some_iff.1 layout
        have number : (UInt32.ofNat (word.toNat / 8)).toNat = word.toNat / 8 := by
          rw [UInt32.toNat_ofNat']
          omega
        simp only [number]
        exact ⟨trivial, by rw [← code, low], least, most⟩
      · cases found
    · cases found
  · rintro ⟨number, code, least, most⟩
    have listed : isFieldNumber key.number.toNat = true := isFieldNumber_iff.2 ⟨least, most⟩
    have layout : UInt8.ofNat (word.toNat % 8) = key.wireType.code :=
      UInt8.toNat_inj.1 (low.trans code)
    simp only [ofWord, number, if_pos listed, layout, WireType.ofCode?_code, UInt32.ofNat_toNat]

namespace Read

theorem takes_key : key.Takes fun bytes key => key.Spells bytes := by
  have takes : key.Takes fun bytes key =>
      ∃ word, Varint.Spells bytes word ∧ Key.ofWord word = .ok key := by
    refine takes_get_bind fun start => takes_then takes_varint fun word => ?_
    cases Key.ofWord word with
    | ok key => exact (takes_pure key).congr fun _ _ => by simp [eq_comm]
    | error reason => exact (takes_throw _).congr fun _ _ => by simp
  exact takes.congr fun bytes key => by simp only [Key.Spells, Key.ofWord_eq_ok_iff]

end Read

/-- A reader whose input goes on with the format reads its value and stands right behind it. -/
theorem Reader.run_of_takes {read : Read α} {format : Bytes → α → Prop} {value : α}
    {source bytes rest : Bytes} {position : Nat} (takes : read.Takes format)
    (formed : format bytes value) (here : source.drop position = bytes ++ rest) :
    (Reader.mk source position).run read = (.ok value, ⟨source, position + bytes.length⟩) := by
  have passed : (Reader.mk source position).cursor.Passes bytes ⟨position + bytes.length, rest⟩ :=
    ⟨here, rfl⟩
  simp only [run, takes.ok_iff.2 ⟨bytes, formed, passed⟩]

end Preimage.Wire
