import Preimage.Proofs.Wire.Format

/-! The same bytes further on in an input. A read takes the same value or finds the same fault, and
only the places are counted from further on. -/
namespace Preimage.Wire
variable {α β : Type} {count : Nat}

namespace Cursor
variable {before after : Cursor} {bytes : Bytes}

def shift (cursor : Cursor) (count : Nat) : Cursor := ⟨cursor.offset + count, cursor.rest⟩

theorem advance_shift (cursor : Cursor) (count taken : Nat) :
    (cursor.shift count).advance taken = (cursor.advance taken).shift count := by
  simp only [shift, advance, Nat.add_right_comm]

theorem upTo_shift : (before.shift count).upTo (after.shift count) = before.upTo after := by
  simp only [upTo, shift, Nat.add_sub_add_right]

theorem Passes.shift (passed : before.Passes bytes after) (count : Nat) :
    (before.shift count).Passes bytes (after.shift count) :=
  ⟨passed.rest, by simp only [Cursor.shift, passed.offset, Nat.add_right_comm]⟩

end Cursor

/-- The same fault, so many bytes further on. A size is nowhere in the input. -/
def DecodeError.shift (fault : DecodeError) (count : Nat) : DecodeError :=
  match fault with
  | truncated offset needed available => truncated (offset + count) needed available
  | malformed offset reason => malformed (offset + count) reason
  | tooLarge size limit => tooLarge size limit

namespace Read

def relocated (count : Nat) :
    EStateM.Result DecodeError Cursor α → EStateM.Result DecodeError Cursor α
  | .ok value next => .ok value (next.shift count)
  | .error fault last => .error (fault.shift count) (last.shift count)

/-- The second read does at any place what the first does so many bytes before it. They are two
because a read may depend on where it was begun. -/
def Relocates (count : Nat) (read read' : Read α) : Prop :=
  ∀ cursor, read' (cursor.shift count) = relocated count (read cursor)

theorem relocates_pure (value : α) : Relocates count (pure value) (pure value) := fun _ => rfl

theorem relocates_throw (fault : DecodeError) :
    Relocates count (throw fault : Read α) (throw (fault.shift count)) := fun _ => rfl

theorem relocates_bind {first first' : Read α} {second second' : α → Read β}
    (front : Relocates count first first')
    (back : ∀ value, Relocates count (second value) (second' value)) :
    Relocates count (first >>= second) (first' >>= second') := by
  intro cursor
  simp only [bind, EStateM.bind, front cursor]
  cases first cursor with
  | ok value next => exact back value next
  | error fault last => rfl

theorem relocates_get_bind {read read' : Cursor → Read α}
    (relocates : ∀ start, Relocates count (read start) (read' (start.shift count))) :
    Relocates count (get >>= read) (get >>= read') :=
  fun cursor => relocates cursor cursor

theorem relocates_discard {read read' : Read α} (relocates : Relocates count read read') :
    Relocates count (discard read) (discard read') := by
  intro cursor
  rw [discard_eq, discard_eq, relocates cursor]
  cases read cursor with
  | ok value next => rfl
  | error fault last => rfl

theorem relocates_varint : Relocates count varint varint := by
  intro cursor
  have same : (cursor.shift count).rest = cursor.rest := rfl
  simp only [varint, same, Cursor.advance_shift]
  cases Varint.read cursor.rest with
  | ok found => rfl
  | error fault =>
    cases fault with
    | unfinished available => rfl
    | overflow => rfl

theorem relocates_exact (size : Nat) : Relocates count (exact size) (exact size) := by
  intro cursor
  have same : (cursor.shift count).rest = cursor.rest := rfl
  simp only [exact, same, Cursor.advance_shift]
  split
  · rfl
  · rfl

theorem relocates_delimited : Relocates count delimited delimited :=
  relocates_bind relocates_varint fun word => relocates_exact word.toNat

/-- A fault of the key lies where the key was begun, which is further on as well. -/
theorem relocates_key : Relocates count key key := by
  refine relocates_get_bind fun start => relocates_bind relocates_varint fun word => ?_
  cases Key.ofWord word with
  | ok key => exact relocates_pure key
  | error reason => exact relocates_throw _

theorem relocates_skip (wireType : WireType) : Relocates count (skip wireType) (skip wireType) := by
  cases wireType with
  | varint => exact relocates_discard relocates_varint
  | fixed64 => exact relocates_discard (relocates_exact 8)
  | delimited => exact relocates_discard relocates_delimited
  | fixed32 => exact relocates_discard (relocates_exact 4)

end Read
end Preimage.Wire
