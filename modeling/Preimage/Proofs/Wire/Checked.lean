import Preimage.Proofs.Wire.Session

/-! The reads once more as a machine takes them, with places in the input, slices between them and
shifts within a word. A step that would go below zero or beyond the input, or lose a bit, has no
result here. The reads come to the same with these steps as without, so that none of them is ever
the one that cannot be taken. -/
namespace Preimage.Wire
variable {α β : Type}

/-- Steps on a reader. A fault is a result, from which the next call goes on, and no result is none.
-/
abbrev Checked := ExceptT DecodeError (StateT Reader Option)

namespace Checked

def stuck : Checked α := fun _ => none

def require (allowed : Prop) [Decidable allowed] : Checked Unit :=
  if allowed then pure () else stuck

def position : Checked Nat := return (← get).position

def remaining : Checked Nat := do
  let reader ← get
  require (reader.position ≤ reader.source.length)
  return reader.source.length - reader.position

def advance (count : Nat) : Checked Unit := do
  let reader ← get
  require (reader.position + count ≤ reader.source.length)
  set { reader with position := reader.position + count }

def slice (start stop : Nat) : Checked Bytes := do
  let reader ← get
  require (start ≤ stop ∧ stop ≤ reader.source.length)
  return (reader.source.drop start).take (stop - start)

/-- Seven bits at their place in a word, which must have room for all of them. -/
def place (group : UInt8) (index : Nat) : Checked UInt64 := do
  require (7 * index < 64 ∧ group.toNat * 2 ^ (7 * index) < 2 ^ 64)
  return group.toUInt64 <<< (7 * index).toUInt64

/-- The varint from the byte at place `index` on, with the word that the bytes before have brought
and the number of bytes that may still come. -/
def varintFrom (start index : Nat) (word : UInt64) : Nat → Checked UInt64
  | 0 => throw (.malformed start .varintOverflow)
  | left + 1 => do
    let reader ← get
    match reader.source[reader.position]? with
    | none => throw (.truncated start (index + 1) index)
    | some byte =>
      advance 1
      if index + 1 = Varint.maxLength ∧ 1 < byte then throw (.malformed start .varintOverflow)
      else
        let word := word ||| (← place (byte &&& 0x7f) index)
        if byte &&& 0x80 = 0 then return word else varintFrom start (index + 1) word left

def varint : Checked UInt64 := do
  let start ← position
  varintFrom start 0 0 Varint.maxLength

def key : Checked Key := do
  let start ← position
  let word ← varint
  match Key.ofWord word with
  | .ok key => return key
  | .error reason => throw (.malformed start reason)

def exact (count : Nat) : Checked Bytes := do
  let start ← position
  let available ← remaining
  if available < count then throw (.truncated start count available)
  else
    advance count
    slice start (start + count)

def delimited : Checked Bytes := do
  let count ← varint
  exact count.toNat

def skip : WireType → Checked Unit
  | .varint => discard varint
  | .fixed64 => discard (exact 8)
  | .delimited => discard delimited
  | .fixed32 => discard (exact 4)

def since (start : Nat) : Checked Bytes := do
  slice start (← position)

variable {first : Checked α} {second : α → Checked β} {reader next : Reader}

theorem bind_of_ok {value : α} (done : first reader = some (.ok value, next)) :
    (first >>= second) reader = second value next := by
  change Option.bind (first reader) _ = _
  rw [done]
  rfl

theorem bind_of_error {fault : DecodeError} (failed : first reader = some (.error fault, next)) :
    (first >>= second) reader = some (.error fault, next) := by
  change Option.bind (first reader) _ = _
  rw [failed]
  rfl

theorem get_bind {rest : Reader → Checked α} : (get >>= rest) reader = rest reader reader := rfl

theorem position_bind {rest : Nat → Checked α} :
    (position >>= rest) reader = rest reader.position reader := rfl

theorem require_bind {allowed : Prop} [Decidable allowed] {rest : Unit → Checked α}
    (holds : allowed) : (require allowed >>= rest) = rest () := by
  rw [require, if_pos holds]
  rfl

theorem advance_eq {count : Nat} (within : reader.position + count ≤ reader.source.length) :
    advance count reader = some (.ok (), { reader with position := reader.position + count }) := by
  change (require _ >>= _) reader = _
  rw [require_bind within]
  rfl

theorem slice_eq (reader : Reader) {start stop : Nat} (ordered : start ≤ stop)
    (within : stop ≤ reader.source.length) :
    slice start stop reader =
      some (.ok ((reader.source.drop start).take (stop - start)), reader) := by
  change (require _ >>= _) reader = _
  rw [require_bind ⟨ordered, within⟩]
  rfl

theorem remaining_eq (within : reader.position ≤ reader.source.length) :
    remaining reader = some (.ok reader.remaining, reader) := by
  change (require _ >>= _) reader = _
  rw [require_bind within]
  rfl

/-- Where the steps of two reads in a row come to what the reads come to, all of them do. -/
theorem bind_eq_run {read : Read α} {read' : α → Read β}
    (within : reader.position ≤ reader.source.length) (forward : read.Forward)
    (front : first reader = some (reader.run read))
    (back : ∀ {value next}, reader.run read = (.ok value, next) → reader.Reaches next →
      second value next = some (next.run (read' value))) :
    (first >>= second) reader = some (reader.run (read >>= read')) := by
  have moved := forward reader.cursor
  cases step : read reader.cursor with
  | ok value cursor =>
    rw [step] at moved
    have ran := Reader.run_of_ok step
    have both : reader.run (read >>= read') = (reader.moveTo cursor).run (read' value) := by
      simp only [Reader.run, bind, EStateM.bind, step, Reader.cursor_moveTo moved]
      rfl
    rw [both, bind_of_ok (front.trans (congrArg some ran))]
    exact back ran (Reader.reaches_moveTo within moved)
  | error fault cursor =>
    have ran := Reader.run_of_error step
    have both : reader.run (read >>= read') = (.error fault, reader.moveTo cursor) :=
      Reader.run_of_error (Read.bind_eq_error.2 (.inl step))
    rw [both, bind_of_error (front.trans (congrArg some ran))]

theorem discard_eq_run {checked : Checked α} {read : Read α}
    (within : reader.position ≤ reader.source.length) (forward : read.Forward)
    (same : checked reader = some (reader.run read)) :
    (discard checked) reader = some (reader.run (discard read)) := by
  change ((fun _ => ()) <$> checked) reader = some (reader.run ((fun _ => ()) <$> read))
  rw [← bind_pure_comp, ← bind_pure_comp]
  exact bind_eq_run within forward same fun _ _ => rfl

theorem exact_eq_run (within : reader.position ≤ reader.source.length) (count : Nat) :
    exact count reader = some (reader.run (Read.exact count)) := by
  rw [exact, position_bind, bind_of_ok (remaining_eq within)]
  rcases Nat.lt_or_ge reader.remaining count with short | enough
  · have failed := Read.exact_of_short (reader.length_rest ▸ short)
    rw [if_pos short, Reader.run_of_error failed, Reader.length_rest]
    rfl
  · have done := Read.exact_of_holds (reader.length_rest ▸ enough)
    have stop : reader.position + count ≤ reader.source.length := by
      rw [Reader.remaining] at enough
      omega
    rw [if_neg (Nat.not_lt.2 enough), Reader.run_of_ok done, bind_of_ok (advance_eq stop),
      slice_eq ⟨reader.source, reader.position + count⟩ (Nat.le_add_right _ _) stop,
      Nat.add_sub_cancel_left]
    rfl

end Checked

theorem Cursor.advance_advance (cursor : Cursor) (first second : Nat) :
    (cursor.advance first).advance second = cursor.advance (first + second) := by
  simp only [advance, List.drop_drop, Nat.add_assoc]

namespace Read
variable {cursor : Cursor} {start index low : Nat} {byte : UInt8} {rest : Bytes}

def varintFrom (start index low : Nat) : Read UInt64 := fun cursor =>
  match Varint.readFrom index cursor.rest with
  | .error .overflow =>
    .error (.malformed start .varintOverflow) (cursor.advance (Varint.maxLength - index))
  | .error (.unfinished available) =>
    .error (.truncated start (available + 1) available) (cursor.advance (available - index))
  | .ok (number, taken) =>
    .ok (UInt64.ofNat (low + number * 2 ^ (7 * index))) (cursor.advance taken)

theorem varintFrom_zero (cursor : Cursor) :
    varintFrom cursor.offset 0 0 cursor = varint cursor := by
  simp only [varintFrom, varint, Varint.read]
  cases Varint.readFrom 0 cursor.rest with
  | ok found => simp
  | error fault => cases fault <;> rfl

theorem varintFrom_nil (ended : cursor.rest = []) :
    varintFrom start index low cursor = .error (.truncated start (index + 1) index) cursor := by
  obtain ⟨offset, rest⟩ := cursor
  cases ended
  simp [varintFrom, Varint.readFrom, Cursor.advance]

theorem varintFrom_wide (here : cursor.rest = byte :: rest)
    (wide : index + 1 = Varint.maxLength ∧ 1 < byte.toNat) :
    varintFrom start index low cursor =
      .error (.malformed start .varintOverflow) (cursor.advance 1) := by
  have last : Varint.maxLength - index = 1 := by omega
  simp only [varintFrom, here, Varint.readFrom, if_pos wide, last]

theorem varintFrom_last (here : cursor.rest = byte :: rest)
    (narrow : ¬ (index + 1 = Varint.maxLength ∧ 1 < byte.toNat)) (last : byte.toNat < 128) :
    varintFrom start index low cursor =
      .ok (UInt64.ofNat (low + byte.toNat * 2 ^ (7 * index))) (cursor.advance 1) := by
  simp only [varintFrom, here, Varint.readFrom, if_neg narrow, if_pos last]

theorem varintFrom_more (here : cursor.rest = byte :: rest) (inside : index + 1 < Varint.maxLength)
    (marked : 128 ≤ byte.toNat) :
    varintFrom start index low cursor =
      varintFrom start (index + 1) (low + (byte.toNat - 128) * 2 ^ (7 * index))
        (cursor.advance 1) := by
  have narrow : ¬ (index + 1 = Varint.maxLength ∧ 1 < byte.toNat) := by omega
  have behind : (cursor.advance 1).rest = rest := by simp [Cursor.advance, here]
  simp only [varintFrom, here, behind, Varint.readFrom, if_neg narrow,
    if_neg (Nat.not_lt.2 marked), Cursor.advance_advance]
  cases deeper : Varint.readFrom (index + 1) rest with
  | ok found =>
    obtain ⟨high, taken⟩ := found
    have places : 2 ^ (7 * (index + 1)) = 128 * 2 ^ (7 * index) := by
      rw [Nat.mul_add, Nat.pow_add, Nat.mul_comm]
    simp only [places, Nat.add_comm 1 taken]
    congr 2
    rw [Nat.add_mul, Nat.add_assoc, Nat.mul_comm 128 high, Nat.mul_assoc]
  | error fault =>
    cases fault with
    | overflow =>
      simp only
      rw [show Varint.maxLength - index = 1 + (Varint.maxLength - (index + 1)) by omega]
    | unfinished available =>
      have := Varint.readFrom_unfinished deeper
      simp only
      rw [show available - index = 1 + (available - (index + 1)) by omega]

end Read

/-- The high bit of a byte is what makes it 128 or more. -/
theorem unmarked_iff (byte : UInt8) : byte &&& 0x80 = 0 ↔ byte.toNat < 128 := by
  have all : ∀ n : Fin 256, UInt8.ofNat n.val &&& 0x80 = 0 ↔ n.val < 128 := by decide +kernel
  simpa using all ⟨byte.toNat, byte.toNat_lt⟩

theorem toNat_group (byte : UInt8) : (byte &&& 0x7f).toNat = byte.toNat % 128 := by
  rw [UInt8.toNat_and]
  exact Nat.and_two_pow_sub_one_eq_mod byte.toNat 7

namespace Checked
variable {reader : Reader}

/-- Ten groups fit where the last of them is a single bit. -/
theorem group_fits {byte : UInt8} {index : Nat} (inside : index < Varint.maxLength)
    (narrow : ¬ (index + 1 = Varint.maxLength ∧ 1 < byte.toNat)) :
    (byte &&& 0x7f).toNat * 2 ^ (7 * index) < 2 ^ 64 := by
  have group := toNat_group byte
  simp only [Varint.maxLength] at inside narrow
  have room : (byte &&& 0x7f).toNat < 2 ^ (64 - 7 * index) := by
    rcases Nat.lt_or_ge index 9 with early | final
    · have wide : 2 ^ 8 ≤ 2 ^ (64 - 7 * index) := Nat.pow_le_pow_right (by decide) (by omega)
      omega
    · rw [show index = 9 by omega]
      omega
  calc (byte &&& 0x7f).toNat * 2 ^ (7 * index)
      < 2 ^ (64 - 7 * index) * 2 ^ (7 * index) :=
        Nat.mul_lt_mul_of_pos_right room (Nat.two_pow_pos _)
    _ = 2 ^ 64 := by rw [← Nat.pow_add, Nat.sub_add_cancel (by omega)]

/-- A group loses no bit at its place, and meets none of the groups below it. -/
theorem place_or {byte : UInt8} {index : Nat} {word : UInt64} (inside : index < Varint.maxLength)
    (narrow : ¬ (index + 1 = Varint.maxLength ∧ 1 < byte.toNat))
    (low : word.toNat < 2 ^ (7 * index)) :
    ∃ piece, place (byte &&& 0x7f) index reader = some (.ok piece, reader) ∧
      (word ||| piece).toNat = word.toNat + byte.toNat % 128 * 2 ^ (7 * index) := by
  have fits := group_fits inside narrow
  have places : 7 * index < 64 := by
    simp only [Varint.maxLength] at inside
    omega
  have shift : (7 * index).toUInt64.toNat % 64 = 7 * index := by
    rw [Nat.toUInt64, UInt64.toNat_ofNat']
    omega
  refine ⟨(byte &&& 0x7f).toUInt64 <<< (7 * index).toUInt64, ?_, ?_⟩
  · rw [place, require_bind ⟨places, fits⟩]
    rfl
  · rw [UInt64.toNat_or, UInt64.toNat_shiftLeft, shift, UInt8.toNat_toUInt64, Nat.shiftLeft_eq,
      Nat.mod_eq_of_lt fits, toNat_group, Nat.or_comm, Nat.mul_comm,
      ← Nat.two_pow_add_eq_or_of_lt low, Nat.add_comm]

/-- A group fills the seven bits of its place at most. -/
theorem group_lt {low digit index : Nat} (below : low < 2 ^ (7 * index)) (small : digit < 128) :
    low + digit * 2 ^ (7 * index) < 2 ^ (7 * (index + 1)) := by
  have most : digit * 2 ^ (7 * index) ≤ 127 * 2 ^ (7 * index) := Nat.mul_le_mul_right _ (by omega)
  rw [Nat.mul_add, Nat.pow_add]
  omega

theorem varintFrom_of_byte {start index left : Nat} {word : UInt64} {byte : UInt8}
    (here : reader.source[reader.position]? = some byte) :
    varintFrom start index word (left + 1) reader =
      (if index + 1 = Varint.maxLength ∧ 1 < byte then throw (.malformed start .varintOverflow)
        else do
          let word := word ||| (← place (byte &&& 0x7f) index)
          if byte &&& 0x80 = 0 then return word else varintFrom start (index + 1) word left :
        Checked UInt64) { reader with position := reader.position + 1 } := by
  have more : reader.position + 1 ≤ reader.source.length :=
    (List.getElem?_eq_some_iff.1 here).1
  rw [varintFrom, get_bind]
  simp only [here]
  rw [bind_of_ok (advance_eq more)]

/-- One byte of a varint, when the rest of the loop comes to what the rest of the read does. -/
theorem varintFrom_step {start index left : Nat} {word : UInt64}
    (inside : index < Varint.maxLength) (low : word.toNat < 2 ^ (7 * index))
    (deeper : index + 1 < Varint.maxLength → ∀ {reader : Reader} {word : UInt64},
      word.toNat < 2 ^ (7 * (index + 1)) →
      varintFrom start (index + 1) word left reader =
        some (reader.run (Read.varintFrom start (index + 1) word.toNat))) :
    varintFrom start index word (left + 1) reader =
      some (reader.run (Read.varintFrom start index word.toNat)) := by
  cases here : reader.source[reader.position]? with
  | none =>
    have ended : reader.cursor.rest = [] :=
      List.drop_eq_nil_of_le (List.getElem?_eq_none_iff.1 here)
    rw [Reader.run_of_error (Read.varintFrom_nil ended), varintFrom, get_bind]
    simp only [here]
    rfl
  | some byte =>
    have rest : reader.cursor.rest = byte :: reader.source.drop (reader.position + 1) := by
      obtain ⟨more, value⟩ := List.getElem?_eq_some_iff.1 here
      rw [← value]
      exact List.drop_eq_getElem_cons more
    rw [varintFrom_of_byte here]
    by_cases wide : index + 1 = Varint.maxLength ∧ 1 < byte
    · rw [if_pos wide, Reader.run_of_error (Read.varintFrom_wide rest wide)]
      rfl
    · have narrow : ¬ (index + 1 = Varint.maxLength ∧ 1 < byte.toNat) := wide
      obtain ⟨piece, placed, sum⟩ := place_or inside narrow low
      rw [if_neg wide, bind_of_ok placed]
      by_cases last : byte.toNat < 128
      · rw [Nat.mod_eq_of_lt last] at sum
        rw [if_pos ((unmarked_iff byte).2 last),
          Reader.run_of_ok (Read.varintFrom_last rest narrow last), ← sum, UInt64.ofNat_toNat]
        rfl
      · have early : index + 1 < Varint.maxLength := by omega
        have digit : byte.toNat % 128 = byte.toNat - 128 := by
          have top := byte.toNat_lt
          omega
        have low' : (word ||| piece).toNat < 2 ^ (7 * (index + 1)) :=
          sum ▸ group_lt low (Nat.mod_lt _ (by decide))
        have moved : (Reader.mk reader.source (reader.position + 1)).cursor =
            reader.cursor.advance 1 := by
          simp only [Reader.cursor, Cursor.advance, List.drop_drop]
        rw [if_neg (mt (unmarked_iff byte).1 last), deeper early low', sum, digit]
        simp only [Reader.run, moved, Read.varintFrom_more rest early (Nat.not_lt.1 last)]

theorem varintFrom_eq_run {start index left : Nat} {word : UInt64}
    (counted : index + (left + 1) = Varint.maxLength) (low : word.toNat < 2 ^ (7 * index)) :
    varintFrom start index word (left + 1) reader =
      some (reader.run (Read.varintFrom start index word.toNat)) := by
  induction left generalizing reader index word with
  | zero => exact varintFrom_step (by omega) low fun early => by omega
  | succ left ih =>
    exact varintFrom_step (by omega) low fun early {_ _} low => ih (by omega) low

theorem varint_eq_run (reader : Reader) : varint reader = some (reader.run Read.varint) := by
  rw [varint, position_bind, Varint.maxLength, varintFrom_eq_run rfl (by simp)]
  simp only [Reader.run, UInt64.toNat_zero]
  rw [← Read.varintFrom_zero]
  rfl

theorem key_eq_run (within : reader.position ≤ reader.source.length) :
    key reader = some (reader.run Read.key) := by
  rw [key, position_bind]
  refine bind_eq_run within Read.forward_varint (varint_eq_run reader) fun {word next} _ _ => ?_
  cases Key.ofWord word with
  | ok key => rfl
  | error reason => rfl

theorem delimited_eq_run (within : reader.position ≤ reader.source.length) :
    delimited reader = some (reader.run Read.delimited) :=
  bind_eq_run within Read.forward_varint (varint_eq_run reader) fun _ moved =>
    exact_eq_run (moved.source ▸ moved.within) _

theorem skip_eq_run (within : reader.position ≤ reader.source.length) (wireType : WireType) :
    skip wireType reader = some (reader.run (Read.skip wireType)) := by
  cases wireType with
  | varint => exact discard_eq_run within Read.forward_varint (varint_eq_run reader)
  | fixed64 => exact discard_eq_run within (Read.forward_exact 8) (exact_eq_run within 8)
  | delimited => exact discard_eq_run within Read.forward_delimited (delimited_eq_run within)
  | fixed32 => exact discard_eq_run within (Read.forward_exact 4) (exact_eq_run within 4)

theorem since_eq {start : Nat} {bytes : Bytes} (within : reader.position ≤ reader.source.length)
    (passed : reader.slice? start = some bytes) :
    since start reader = some (.ok bytes, reader) := by
  obtain ⟨before, rfl⟩ := Reader.slice?_eq_some_iff.1 passed
  rw [since, position_bind, slice_eq reader before within]

end Checked

def Request.checked : Request → Checked Answer
  | varint => return .word (← Checked.varint)
  | key => return .key (← Checked.key)
  | exact count => return .payload (← Checked.exact count.toNat)
  | delimited => return .payload (← Checked.delimited)
  | skip wireType => do
    Checked.skip wireType
    return .passed

theorem Request.checked_eq_run {reader : Reader} (within : reader.position ≤ reader.source.length)
    (request : Request) : request.checked reader = some (reader.respond request) := by
  cases request with
  | varint =>
    have steps := Checked.varint_eq_run reader
    exact Checked.bind_eq_run within Read.forward_varint steps fun _ _ => rfl
  | key =>
    have steps := Checked.key_eq_run within
    exact Checked.bind_eq_run within Read.forward_key steps fun _ _ => rfl
  | exact count =>
    have steps := Checked.exact_eq_run within count.toNat
    exact Checked.bind_eq_run within (Read.forward_exact _) steps fun _ _ => rfl
  | delimited =>
    have steps := Checked.delimited_eq_run within
    exact Checked.bind_eq_run within Read.forward_delimited steps fun _ _ => rfl
  | skip wireType =>
    have steps := Checked.skip_eq_run within wireType
    exact Checked.bind_eq_run within (Read.forward_skip wireType) steps fun _ _ => rfl

def Checked.follow (reader : Reader) :
    List Request → Option (List (Except DecodeError Answer) × Reader)
  | [] => some ([], reader)
  | request :: requests => do
    let served ← request.checked reader
    let rest ← follow served.2 requests
    return (served.1 :: rest.1, rest.2)

theorem Checked.follow_eq {reader : Reader} (within : reader.position ≤ reader.source.length)
    (requests : List Request) : follow reader requests = some (reader.follow requests) := by
  induction requests generalizing reader with
  | nil => rfl
  | cons request requests ih =>
    have near := (Reader.serves_respond within request).reaches
    rw [follow, request.checked_eq_run within]
    simp only [Option.bind_eq_bind, Option.bind_some, ih (near.source ▸ near.within)]
    rfl

end Preimage.Wire
