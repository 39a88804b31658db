import Preimage.Proofs.Wire.Format

/-! Faults in inputs that go on. A read that ran out of input may fare better with more of it. Any
other fault is found again whatever follows. -/
namespace Preimage.Wire
variable {α β : Type}

namespace Cursor
variable {before after : Cursor} {bytes : Bytes}

def extend (cursor : Cursor) (suffix : Bytes) : Cursor := ⟨cursor.offset, cursor.rest ++ suffix⟩

theorem Passes.extend (passed : before.Passes bytes after) (suffix : Bytes) :
    (before.extend suffix).Passes bytes (after.extend suffix) :=
  ⟨by simp only [Cursor.extend, passed.rest, List.append_assoc], passed.offset⟩

end Cursor

namespace Read

theorem Takes.extend {read : Read α} {format : Bytes → α → Prop} (takes : read.Takes format)
    {cursor next : Cursor} {value : α} (done : read cursor = .ok value next) (suffix : Bytes) :
    read (cursor.extend suffix) = .ok value (next.extend suffix) := by
  obtain ⟨bytes, formed, passed⟩ := takes.ok_iff.1 done
  exact takes.ok_iff.2 ⟨bytes, formed, passed.extend suffix⟩

/-- Faults other than truncation are found again when the input goes on, wherever the read then
breaks off. -/
structure Persists (read : Read α) : Prop where
  extend : ∀ {cursor fault last}, read cursor = .error fault last → fault.isTruncated = false →
    ∀ suffix, ∃ last', read (cursor.extend suffix) = .error fault last'

theorem persists_pure (value : α) : (pure value : Read α).Persists := by
  constructor
  intro cursor fault last failed
  cases failed

theorem persists_throw (fault : DecodeError) : (throw fault : Read α).Persists := by
  constructor
  intro cursor fault' last failed _ suffix
  cases failed
  exact ⟨_, rfl⟩

theorem persists_bind {first : Read α} {second : α → Read β} {format : Bytes → α → Prop}
    (takes : first.Takes format) (front : first.Persists)
    (back : ∀ value, (second value).Persists) : (first >>= second).Persists := by
  constructor
  intro cursor fault last failed whole suffix
  simp only [bind, EStateM.bind] at failed ⊢
  cases step : first cursor with
  | ok value next =>
    rw [takes.extend step suffix]
    rw [step] at failed
    exact (back value).extend failed whole suffix
  | error fault' last' =>
    rw [step] at failed
    cases failed
    obtain ⟨last, found⟩ := front.extend step whole suffix
    exact ⟨last, by rw [found]⟩

/-- A read may use the offset where it starts, which is the same in every input that goes on. -/
theorem persists_get_bind {read : Cursor → Read α}
    (blind : ∀ start suffix, read (start.extend suffix) = read start)
    (persists : ∀ start, (read start).Persists) : (get >>= read).Persists := by
  constructor
  intro cursor fault last failed whole suffix
  obtain ⟨last', found⟩ := (persists cursor).extend failed whole suffix
  rw [← blind cursor suffix] at found
  exact ⟨last', found⟩

theorem persists_discard {read : Read α} (persists : read.Persists) :
    (discard read).Persists := by
  constructor
  intro cursor fault last failed whole suffix
  simp only [discard_eq] at failed ⊢
  cases step : read cursor with
  | ok value next =>
    rw [step] at failed
    cases failed
  | error fault' last' =>
    rw [step] at failed
    cases failed
    obtain ⟨last, found⟩ := persists.extend step whole suffix
    exact ⟨last, by rw [found]⟩

theorem persists_varint : varint.Persists := by
  constructor
  intro cursor fault last failed whole suffix
  simp only [varint] at failed
  split at failed
  · cases failed
  · cases failed
    cases whole
  · rename_i overflow
    cases failed
    have found : Varint.read (cursor.rest ++ suffix) = .error .overflow := by
      rw [Varint.read_append_of_settled (by simp [overflow]), overflow]
    exact ⟨_, by simp only [varint, Cursor.extend, found]; rfl⟩

/-- The only fault of a run of bytes is that the input is too short for it. -/
theorem persists_exact (count : Nat) : (exact count).Persists := by
  constructor
  intro cursor fault last failed whole suffix
  simp only [exact] at failed
  split at failed
  · cases failed
  · cases failed
    cases whole

theorem persists_delimited : delimited.Persists :=
  persists_bind takes_varint persists_varint fun word => persists_exact word.toNat

theorem persists_key : key.Persists := by
  refine persists_get_bind (fun start suffix => rfl) fun start =>
    persists_bind takes_varint persists_varint fun word => ?_
  cases Key.ofWord word with
  | ok key => exact persists_pure key
  | error reason => exact persists_throw _

theorem persists_skip (wireType : WireType) : (skip wireType).Persists := by
  cases wireType with
  | varint => exact persists_discard persists_varint
  | fixed64 => exact persists_discard (persists_exact 8)
  | delimited => exact persists_discard persists_delimited
  | fixed32 => exact persists_discard (persists_exact 4)

end Read
end Preimage.Wire
