import Preimage.Proofs.Wire.Persistence

/-! Why reads fail. Every read has its faults, which are said of the bytes that are left and not of
the reading, and it fails just where one of them lies. Where too few bytes are left, the fault stays
for as long as too few are added. -/
namespace Preimage.Wire
variable {α β : Type}

namespace Varint
variable {index available : Nat} {bytes : Bytes}

/-- Every byte promises another one. -/
def Marked (bytes : Bytes) : Prop := ∀ byte ∈ bytes, 128 ≤ byte.toNat

theorem marked_cons {byte : UInt8} : Marked (byte :: bytes) ↔ 128 ≤ byte.toNat ∧ Marked bytes :=
  List.forall_mem_cons

/-- Behind a byte that promises another one, the fault is that of the rest. -/
theorem readFrom_cons_eq_error_iff {byte : UInt8} {rest : Bytes} {fault : Fault}
    (narrow : ¬ (index + 1 = maxLength ∧ 1 < byte.toNat)) (marked : 128 ≤ byte.toNat) :
    readFrom index (byte :: rest) = .error fault ↔ readFrom (index + 1) rest = .error fault := by
  rw [readFrom, if_neg narrow, if_neg (by omega)]
  rcases readFrom (index + 1) rest with fault' | ⟨high, taken⟩
  · simp
  · simp

theorem readFrom_eq_unfinished_iff (inside : index < maxLength) :
    readFrom index bytes = .error (.unfinished available) ↔
      Marked bytes ∧ index + bytes.length < maxLength ∧ available = index + bytes.length := by
  induction bytes generalizing index with
  | nil => simp [readFrom, Marked, inside, eq_comm]
  | cons byte rest ih =>
    rw [marked_cons, List.length_cons]
    by_cases wide : index + 1 = maxLength ∧ 1 < byte.toNat
    · rw [readFrom, if_pos wide]
      exact iff_of_false (by simp) (by omega)
    · by_cases low : byte.toNat < 128
      · rw [readFrom, if_neg wide, if_pos low]
        exact iff_of_false (by simp) (by omega)
      · -- A marked byte is too wide to be the tenth, so that another one comes after it.
        rw [readFrom_cons_eq_error_iff wide (by omega), ih (by omega),
          and_iff_right (show 128 ≤ byte.toNat by omega), Nat.add_assoc, Nat.add_comm 1]

theorem readFrom_eq_overflow_iff {room : Nat} (inside : index + room + 1 = maxLength) :
    readFrom index bytes = .error .overflow ↔
      Marked (bytes.take room) ∧ ∃ byte, bytes[room]? = some byte ∧ 1 < byte.toNat := by
  induction bytes generalizing index room with
  | nil => simp [readFrom]
  | cons byte rest ih =>
    cases room with
    | zero =>
      simp only [List.take_zero, List.getElem?_cons_zero, Option.some.injEq, exists_eq_left']
      by_cases wide : 1 < byte.toNat
      · rw [readFrom, if_pos ⟨inside, wide⟩]
        exact iff_of_true rfl ⟨by simp [Marked], wide⟩
      · rw [readFrom, if_neg (by omega), if_pos (by omega)]
        exact iff_of_false (by simp) (by omega)
    | succ room =>
      rw [List.take_succ_cons, List.getElem?_cons_succ, marked_cons]
      by_cases low : byte.toNat < 128
      · rw [readFrom, if_neg (by omega), if_pos low]
        exact iff_of_false (by simp) (by omega)
      · have deeper : index + 1 + room + 1 = maxLength := by omega
        rw [readFrom_cons_eq_error_iff (by omega) (by omega), ih deeper,
          and_iff_right (show 128 ≤ byte.toNat by omega)]

theorem read_eq_error_iff {fault : Fault} :
    read bytes = .error fault ↔ readFrom 0 bytes = .error fault := by
  simp only [read]
  cases readFrom 0 bytes with
  | ok found => simp
  | error fault => simp

theorem read_eq_unfinished_iff :
    read bytes = .error (.unfinished available) ↔
      Marked bytes ∧ bytes.length < maxLength ∧ available = bytes.length := by
  rw [read_eq_error_iff, readFrom_eq_unfinished_iff (by decide), Nat.zero_add]

theorem read_eq_overflow_iff :
    read bytes = .error .overflow ↔
      Marked (bytes.take 9) ∧ ∃ byte, bytes[9]? = some byte ∧ 1 < byte.toNat := by
  exact read_eq_error_iff.trans (readFrom_eq_overflow_iff rfl)

end Varint

/-- What can be wrong with the bytes behind a cursor. -/
abbrev Faults := Cursor → DecodeError → Prop

inductive VarintFault (cursor : Cursor) : DecodeError → Prop where
  | unfinished (marked : Varint.Marked cursor.rest)
      (short : cursor.rest.length < Varint.maxLength) :
      VarintFault cursor (.truncated cursor.offset (cursor.rest.length + 1) cursor.rest.length)
  | overflow {byte : UInt8} (marked : Varint.Marked (cursor.rest.take 9))
      (tenth : cursor.rest[9]? = some byte) (wide : 1 < byte.toNat) :
      VarintFault cursor (.malformed cursor.offset .varintOverflow)

inductive LengthFault (count : Nat) (cursor : Cursor) : DecodeError → Prop where
  | short (short : cursor.rest.length < count) :
      LengthFault count cursor (.truncated cursor.offset count cursor.rest.length)

inductive DelimitedFault (cursor : Cursor) : DecodeError → Prop where
  | size {fault : DecodeError} (broken : VarintFault cursor fault) : DelimitedFault cursor fault
  | payload {size : Bytes} {word : UInt64} {next : Cursor} {fault : DecodeError}
      (spelled : Varint.Spells size word) (passed : cursor.Passes size next)
      (broken : LengthFault word.toNat next fault) : DelimitedFault cursor fault

def ValueFault : WireType → Faults
  | .varint => VarintFault
  | .fixed64 => LengthFault 8
  | .delimited => DelimitedFault
  | .fixed32 => LengthFault 4

/-- A number that is none is found before a layout that is none. -/
inductive KeyFault (cursor : Cursor) : DecodeError → Prop where
  | varint {fault : DecodeError} (broken : VarintFault cursor fault) : KeyFault cursor fault
  | number {spelling : Bytes} {word : UInt64} {next : Cursor} (spelled : Varint.Spells spelling word)
      (passed : cursor.Passes spelling next)
      (outside : ¬ (1 ≤ word.toNat / 8 ∧ word.toNat / 8 < 2 ^ 29)) :
      KeyFault cursor (.malformed cursor.offset (.invalidFieldNumber (word.toNat / 8)))
  | layout {spelling : Bytes} {word : UInt64} {next : Cursor} (spelled : Varint.Spells spelling word)
      (passed : cursor.Passes spelling next)
      (inside : 1 ≤ word.toNat / 8 ∧ word.toNat / 8 < 2 ^ 29)
      (none : word.toNat % 8 ∉ [0, 1, 2, 5]) :
      KeyFault cursor
        (.malformed cursor.offset (.unsupportedWireType (UInt8.ofNat (word.toNat % 8))))

theorem WireType.ofCode?_eq_none_iff {code : UInt8} :
    ofCode? code = none ↔ code.toNat ∉ [0, 1, 2, 5] := by
  simp only [ofCode?]
  split <;> simp_all

theorem Key.ofWord_eq_error_iff {word : UInt64} {reason : Malformation} :
    ofWord word = .error reason ↔
      ¬ (1 ≤ word.toNat / 8 ∧ word.toNat / 8 < 2 ^ 29) ∧
          reason = .invalidFieldNumber (word.toNat / 8) ∨
        (1 ≤ word.toNat / 8 ∧ word.toNat / 8 < 2 ^ 29) ∧ word.toNat % 8 ∉ [0, 1, 2, 5] ∧
          reason = .unsupportedWireType (UInt8.ofNat (word.toNat % 8)) := by
  have low : (UInt8.ofNat (word.toNat % 8)).toNat = word.toNat % 8 := by
    rw [UInt8.toNat_ofNat']
    omega
  simp only [ofWord, isFieldNumber_iff]
  split
  · rename_i inside
    rw [or_iff_right fun refused => refused.1 inside, and_iff_right inside, ← low,
      ← WireType.ofCode?_eq_none_iff, low]
    cases WireType.ofCode? (UInt8.ofNat (word.toNat % 8)) with
    | some wireType => simp
    | none => simp [eq_comm]
  · rename_i outside
    rw [or_iff_left fun refused => outside refused.1, and_iff_right outside]
    simp [eq_comm]

namespace Read

/-- A read fails where one of its faults lies, with that fault, and nowhere else. -/
structure Fails (read : Read α) (faults : Faults) : Prop where
  error_iff : ∀ {cursor fault}, (∃ last, read cursor = .error fault last) ↔ faults cursor fault

theorem Fails.congr {read : Read α} {faults faults' : Faults}
    (fails : read.Fails faults) (same : ∀ cursor fault, faults cursor fault ↔ faults' cursor fault) :
    read.Fails faults' :=
  ⟨fails.error_iff.trans (same _ _)⟩

theorem fails_pure (value : α) : (pure value : Read α).Fails fun _ _ => False := by
  constructor
  intro cursor fault
  simp only [iff_false, not_exists]
  intro last failed
  cases failed

theorem fails_throw (fault : DecodeError) :
    (throw fault : Read α).Fails fun _ fault' => fault' = fault := by
  constructor
  intro cursor fault'
  constructor
  · rintro ⟨last, failed⟩
    cases failed
    rfl
  · rintro rfl
    exact ⟨cursor, rfl⟩

/-- Two reads in a row fail where the first does, or where the second does behind it. -/
theorem fails_bind {first : Read α} {second : α → Read β} {format : Bytes → α → Prop}
    {faults : Faults} {faults' : α → Faults}
    (takes : first.Takes format) (front : first.Fails faults)
    (back : ∀ value, (second value).Fails (faults' value)) :
    (first >>= second).Fails fun cursor fault => faults cursor fault ∨
      ∃ bytes value next, format bytes value ∧ cursor.Passes bytes next ∧
        faults' value next fault := by
  constructor
  intro cursor fault
  constructor
  · rintro ⟨last, failed⟩
    simp only [bind, EStateM.bind] at failed
    cases step : first cursor with
    | error fault' last' =>
      rw [step] at failed
      cases failed
      exact .inl (front.error_iff.1 ⟨_, step⟩)
    | ok value next =>
      rw [step] at failed
      obtain ⟨bytes, formed, passed⟩ := takes.ok_iff.1 step
      exact .inr ⟨bytes, value, next, formed, passed, (back value).error_iff.1 ⟨last, failed⟩⟩
  · simp only [bind, EStateM.bind]
    rintro (broken | ⟨bytes, value, next, formed, passed, broken⟩)
    · obtain ⟨last, failed⟩ := front.error_iff.2 broken
      exact ⟨last, by rw [failed]⟩
    · obtain ⟨last, failed⟩ := (back value).error_iff.2 broken
      exact ⟨last, by rw [takes.ok_iff.2 ⟨bytes, formed, passed⟩]; exact failed⟩

theorem fails_get_bind {read : Cursor → Read α} {faults : Cursor → Faults}
    (fails : ∀ start, (read start).Fails (faults start)) :
    (get >>= read).Fails fun cursor => faults cursor cursor :=
  ⟨fun {cursor} => (fails cursor).error_iff⟩

theorem fails_discard {read : Read α} {faults : Faults}
    (fails : read.Fails faults) : (discard read).Fails faults := by
  constructor
  intro cursor fault
  rw [← fails.error_iff, discard_eq]
  cases read cursor with
  | ok value next => simp
  | error fault' last => simp

theorem fails_varint : varint.Fails VarintFault := by
  constructor
  intro cursor fault
  simp only [varint]
  constructor
  · rintro ⟨last, failed⟩
    split at failed
    · cases failed
    · rename_i available broken
      cases failed
      obtain ⟨marked, short, rfl⟩ := Varint.read_eq_unfinished_iff.1 broken
      exact .unfinished marked short
    · rename_i broken
      cases failed
      obtain ⟨marked, byte, tenth, wide⟩ := Varint.read_eq_overflow_iff.1 broken
      exact .overflow marked tenth wide
  · intro broken
    cases broken with
    | unfinished marked short =>
      rw [Varint.read_eq_unfinished_iff.2 ⟨marked, short, rfl⟩]
      exact ⟨_, rfl⟩
    | overflow marked tenth wide =>
      rw [Varint.read_eq_overflow_iff.2 ⟨marked, _, tenth, wide⟩]
      exact ⟨_, rfl⟩

theorem fails_exact (count : Nat) : (exact count).Fails (LengthFault count) := by
  constructor
  intro cursor fault
  simp only [exact]
  split
  · rename_i enough
    have within := Bytes.holds_iff.1 enough
    constructor
    · rintro ⟨last, failed⟩
      cases failed
    · rintro ⟨short⟩
      omega
  · rename_i short
    rw [Bytes.holds_iff, Nat.not_le] at short
    constructor
    · rintro ⟨last, failed⟩
      cases failed
      exact .short short
    · rintro ⟨-⟩
      exact ⟨_, rfl⟩

theorem fails_delimited : delimited.Fails DelimitedFault := by
  refine (fails_bind takes_varint fails_varint fun word => fails_exact word.toNat).congr ?_
  intro cursor fault
  constructor
  · rintro (broken | ⟨size, word, next, spelled, passed, broken⟩)
    · exact .size broken
    · exact .payload spelled passed broken
  · rintro (broken | ⟨spelled, passed, broken⟩)
    · exact .inl broken
    · exact .inr ⟨_, _, _, spelled, passed, broken⟩

theorem fails_skip (wireType : WireType) : (skip wireType).Fails (ValueFault wireType) := by
  cases wireType with
  | varint => exact fails_discard fails_varint
  | fixed64 => exact fails_discard (fails_exact 8)
  | delimited => exact fails_discard fails_delimited
  | fixed32 => exact fails_discard (fails_exact 4)

theorem fails_key : key.Fails KeyFault := by
  have fails : key.Fails fun cursor fault => VarintFault cursor fault ∨
      ∃ bytes word next, Varint.Spells bytes word ∧ cursor.Passes bytes next ∧
        ∃ reason, Key.ofWord word = .error reason ∧ fault = .malformed cursor.offset reason := by
    refine fails_get_bind fun start => fails_bind takes_varint fails_varint fun word => ?_
    cases Key.ofWord word with
    | ok key => exact (fails_pure key).congr fun _ _ => by simp
    | error reason => exact (fails_throw _).congr fun _ _ => by simp
  refine fails.congr fun cursor fault => ?_
  constructor
  · rintro (broken | ⟨bytes, word, next, spelled, passed, reason, refused, rfl⟩)
    · exact .varint broken
    · rcases Key.ofWord_eq_error_iff.1 refused with ⟨outside, rfl⟩ | ⟨inside, none, rfl⟩
      · exact .number spelled passed outside
      · exact .layout spelled passed inside none
  · rintro (broken | ⟨spelled, passed, outside⟩ | ⟨spelled, passed, inside, none⟩)
    · exact .inl broken
    · exact .inr ⟨_, _, _, spelled, passed, _, Key.ofWord_eq_error_iff.2 (.inl ⟨outside, rfl⟩), rfl⟩
    · exact .inr ⟨_, _, _, spelled, passed, _,
        Key.ofWord_eq_error_iff.2 (.inr ⟨inside, none, rfl⟩), rfl⟩

end Read

def Cursor.stop (cursor : Cursor) : Nat := cursor.offset + cursor.rest.length

theorem Cursor.Passes.stop {before after : Cursor} {bytes : Bytes}
    (passed : before.Passes bytes after) : after.stop = before.stop := by
  simp only [Cursor.stop, passed.rest, passed.offset, List.length_append, Nat.add_assoc]

/-- A byte between the two places is wrong, or those from a place behind the first up to the second
are too few. -/
def DecodeError.LiesIn (fault : DecodeError) (start stop : Nat) : Prop :=
  match fault with
  | truncated offset needed available =>
    start ≤ offset ∧ offset + available = stop ∧ available < needed
  | malformed offset _ => start ≤ offset ∧ offset < stop
  | tooLarge .. => False

theorem DecodeError.LiesIn.mono {fault : DecodeError} {start start' stop : Nat}
    (lies : fault.LiesIn start stop) (before : start' ≤ start) : fault.LiesIn start' stop := by
  cases fault with
  | truncated offset needed available => exact ⟨Nat.le_trans before lies.1, lies.2⟩
  | malformed offset reason => exact ⟨Nat.le_trans before lies.1, lies.2⟩
  | tooLarge size limit => exact lies

/-- Faults lie in the bytes that are left, and too few bytes are too few until enough are added. -/
structure Faults.Local (faults : Faults) : Prop where
  liesIn : ∀ {cursor fault}, faults cursor fault → fault.LiesIn cursor.offset cursor.stop
  extend : ∀ {cursor offset needed available}, faults cursor (.truncated offset needed available) →
    ∀ suffix : Bytes, suffix.length < needed - available →
      faults (cursor.extend suffix) (.truncated offset needed (available + suffix.length))

theorem local_varint : Faults.Local VarintFault := by
  constructor
  · intro cursor fault broken
    cases broken with
    | unfinished marked short => exact ⟨Nat.le_refl _, rfl, Nat.lt_succ_self _⟩
    | overflow marked tenth wide =>
      have some := (List.getElem?_eq_some_iff.1 tenth).1
      exact ⟨Nat.le_refl _, by simp only [Cursor.stop]; omega⟩
  · -- Only a single byte is known to be missing, so that none are added.
    intro cursor offset needed available broken suffix few
    cases broken with
    | unfinished marked short =>
      have none : suffix = [] := List.length_eq_zero_iff.1 (by omega)
      subst none
      simpa [Cursor.extend] using VarintFault.unfinished marked short

theorem local_length (count : Nat) : Faults.Local (LengthFault count) := by
  constructor
  · rintro cursor fault ⟨short⟩
    exact ⟨Nat.le_refl _, rfl, short⟩
  · rintro cursor offset needed available ⟨short⟩ suffix few
    have longer : (cursor.extend suffix).rest.length = cursor.rest.length + suffix.length :=
      List.length_append
    rw [← longer]
    exact .short (by omega)

theorem local_delimited : Faults.Local DelimitedFault := by
  constructor
  · rintro cursor fault (broken | ⟨spelled, passed, broken⟩)
    · exact local_varint.liesIn broken
    · have lies := (local_length _).liesIn broken
      rw [passed.stop] at lies
      exact lies.mono (by rw [passed.offset]; omega)
  · rintro cursor offset needed available (broken | ⟨spelled, passed, broken⟩) suffix few
    · exact .size (local_varint.extend broken suffix few)
    · exact .payload spelled (passed.extend suffix) ((local_length _).extend broken suffix few)

theorem local_value (wireType : WireType) : Faults.Local (ValueFault wireType) := by
  cases wireType with
  | varint => exact local_varint
  | fixed64 => exact local_length 8
  | delimited => exact local_delimited
  | fixed32 => exact local_length 4

theorem local_key : Faults.Local KeyFault := by
  have nonempty {cursor next : Cursor} {spelling : Bytes} {word : UInt64}
      (spelled : Varint.Spells spelling word) (passed : cursor.Passes spelling next) :
      cursor.offset < cursor.stop := by
    have some := spelled.length_pos
    simp only [Cursor.stop, passed.rest, List.length_append]
    omega
  constructor
  · rintro cursor fault (broken | ⟨spelled, passed, -⟩ | ⟨spelled, passed, -, -⟩)
    · exact local_varint.liesIn broken
    · exact ⟨Nat.le_refl _, nonempty spelled passed⟩
    · exact ⟨Nat.le_refl _, nonempty spelled passed⟩
  · intro cursor offset needed available broken suffix few
    cases broken with
    | varint broken => exact .varint (local_varint.extend broken suffix few)

end Preimage.Wire
