import Preimage.Wire.Reader

/-! How far reads move. Whatever its result, a read leaves the cursor at or after where it was, and
a varint that was read took at least one byte. -/
namespace Preimage.Wire
variable {α β : Type}

/-- The later cursor stands some bytes further on the same input. -/
def Cursor.Reaches (before after : Cursor) : Prop :=
  ∃ count, count ≤ before.rest.length ∧ after = before.advance count

namespace Cursor.Reaches
variable {first second third : Cursor}

theorem refl (cursor : Cursor) : cursor.Reaches cursor := ⟨0, by simp, by simp [advance]⟩

theorem trans (front : first.Reaches second) (back : second.Reaches third) :
    first.Reaches third := by
  obtain ⟨m, inFront, rfl⟩ := front
  obtain ⟨n, inBack, rfl⟩ := back
  simp only [advance, List.length_drop] at inBack
  exact ⟨m + n, by omega, by simp [advance, Nat.add_assoc]⟩

theorem length_le (moved : first.Reaches second) : second.rest.length ≤ first.rest.length := by
  obtain ⟨count, _, rfl⟩ := moved
  simp [advance]

end Cursor.Reaches

theorem Varint.readFrom_taken {index : Nat} {bytes : Bytes} {number taken : Nat}
    (found : readFrom index bytes = .ok (number, taken)) : 1 ≤ taken ∧ taken ≤ bytes.length := by
  induction bytes generalizing index number taken with
  | nil => simp [readFrom] at found
  | cons byte rest ih =>
    simp only [readFrom] at found
    split at found
    · cases found
    · split at found
      · cases found
        simp
      · split at found
        · rename_i high low deeper
          have := ih deeper
          cases found
          simp
          omega
        · cases found

theorem Varint.readFrom_unfinished {index : Nat} {bytes : Bytes} {available : Nat}
    (broken : readFrom index bytes = .error (.unfinished available)) :
    available = index + bytes.length := by
  induction bytes generalizing index with
  | nil =>
    simp only [readFrom, Except.error.injEq, Fault.unfinished.injEq] at broken
    simp [broken]
  | cons byte rest ih =>
    simp only [readFrom] at broken
    split at broken
    · cases broken
    · split at broken
      · cases broken
      · split at broken
        · cases broken
        · rename_i fault deeper
          cases broken
          rw [ih deeper, List.length_cons]
          omega

theorem Varint.readFrom_overflow {index : Nat} {bytes : Bytes}
    (broken : readFrom index bytes = .error .overflow) : maxLength ≤ index + bytes.length := by
  induction bytes generalizing index with
  | nil => simp [readFrom] at broken
  | cons byte rest ih =>
    simp only [readFrom] at broken
    split at broken
    · rename_i last
      simp only [List.length_cons]
      omega
    · split at broken
      · cases broken
      · split at broken
        · cases broken
        · rename_i fault deeper
          cases broken
          have := ih deeper
          simp only [List.length_cons]
          omega

namespace Read

theorem bind_eq_ok {first : Read α} {second : α → Read β} {cursor next : Cursor} {value : β} :
    (first >>= second) cursor = .ok value next ↔
      ∃ middle between, first cursor = .ok middle between ∧
        second middle between = .ok value next := by
  simp only [bind, EStateM.bind]
  cases step : first cursor with
  | ok middle between =>
    constructor
    · intro done
      exact ⟨middle, between, rfl, done⟩
    · rintro ⟨_, _, same, done⟩
      cases same
      exact done
  | error fault last => simp

theorem varint_ok {cursor next : Cursor} {word : UInt64} (done : varint cursor = .ok word next) :
    ∃ taken, 1 ≤ taken ∧ taken ≤ cursor.rest.length ∧ next = cursor.advance taken := by
  simp only [varint, Varint.read] at done
  split at done
  · rename_i word taken read
    split at read
    · rename_i number taken' found
      cases read
      cases done
      exact ⟨taken, (Varint.readFrom_taken found).1, (Varint.readFrom_taken found).2, rfl⟩
    · cases read
  · cases done
  · cases done

/-- Without its value a read is still the same read. -/
theorem discard_eq (read : Read α) (cursor : Cursor) :
    discard read cursor = match read cursor with
      | .ok _ next => .ok () next
      | .error fault last => .error fault last := by
  simp only [discard, Functor.discard, Functor.mapConst, EStateM.map, Function.comp]
  cases read cursor with
  | ok value next => rfl
  | error fault last => rfl

/-- A read keeps to its input: it only ever moves forward, and not past the end. -/
def Forward (read : Read α) : Prop :=
  ∀ cursor, match read cursor with
    | .ok _ next => cursor.Reaches next
    | .error _ next => cursor.Reaches next

theorem forward_varint : Forward varint := by
  intro cursor
  simp only [varint, Varint.read]
  cases found : Varint.readFrom 0 cursor.rest with
  | ok pair =>
    obtain ⟨number, taken⟩ := pair
    exact ⟨taken, (Varint.readFrom_taken found).2, rfl⟩
  | error fault =>
    cases fault with
    | unfinished available =>
      have := Varint.readFrom_unfinished found
      exact ⟨available, by omega, rfl⟩
    | overflow =>
      have := Varint.readFrom_overflow found
      exact ⟨Varint.maxLength, by omega, rfl⟩

theorem forward_pure (value : α) : Forward (pure value) := fun cursor => .refl cursor

theorem forward_throw (fault : DecodeError) : Forward (throw fault : Read α) :=
  fun cursor => .refl cursor

theorem forward_get : Forward (get : Read Cursor) := fun cursor => .refl cursor

theorem forward_bind {first : Read α} {second : α → Read β} (front : Forward first)
    (back : ∀ value, Forward (second value)) : Forward (first >>= second) := by
  intro cursor
  have moved := front cursor
  simp only [bind, EStateM.bind]
  cases step : first cursor with
  | ok value next =>
    rw [step] at moved
    have moved' := back value next
    simp only
    cases step' : second value next with
    | ok _ last => rw [step'] at moved'; exact moved.trans moved'
    | error _ last => rw [step'] at moved'; exact moved.trans moved'
  | error fault next =>
    rw [step] at moved
    exact moved

theorem forward_discard {read : Read α} (moves : Forward read) : Forward (discard read) := by
  intro cursor
  have moved := moves cursor
  rw [discard_eq]
  cases step : read cursor with
  | ok value next => rw [step] at moved; exact moved
  | error fault next => rw [step] at moved; exact moved

theorem forward_key : Forward key :=
  forward_bind forward_get fun start =>
    forward_bind forward_varint fun word => by
      cases Key.ofWord word with
      | ok key => exact forward_pure key
      | error reason => exact forward_throw _

theorem forward_exact (count : Nat) : Forward (exact count) := by
  intro cursor
  simp only [exact]
  by_cases enough : cursor.rest.holds count = true
  · rw [if_pos enough]
    exact ⟨count, Bytes.holds_iff.1 enough, rfl⟩
  · rw [if_neg enough]
    exact .refl cursor

theorem forward_delimited : Forward delimited :=
  forward_bind forward_varint fun count => forward_exact count.toNat

theorem forward_skip (wireType : WireType) : Forward (skip wireType) := by
  cases wireType with
  | varint => exact forward_discard forward_varint
  | fixed64 => exact forward_discard (forward_exact 8)
  | delimited => exact forward_discard forward_delimited
  | fixed32 => exact forward_discard (forward_exact 4)

theorem key_shortens {cursor next : Cursor} {found : Key} (done : key cursor = .ok found next) :
    next.rest.length < cursor.rest.length := by
  obtain ⟨start, here, at_start, done⟩ := bind_eq_ok.1 done
  cases at_start
  obtain ⟨word, after, step, done⟩ := bind_eq_ok.1 done
  obtain ⟨taken, one, within, rfl⟩ := varint_ok step
  cases parsed : Key.ofWord word with
  | error reason => rw [parsed] at done; cases done
  | ok key =>
    rw [parsed] at done
    cases done
    simp only [Cursor.advance, List.length_drop]
    omega

end Read
end Preimage.Wire
