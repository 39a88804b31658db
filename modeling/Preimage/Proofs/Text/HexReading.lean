import Mathlib.Logic.ExistsUnique
import Preimage.Proofs.Text.Hex
import Preimage.Proofs.Text.Trimming

/-! What a text in hexadecimal is read as. It holds digits between blanks and behind a mark, and the
verdict on these is said by their characters and their bytes alone. -/
namespace Preimage.Hex
variable {digits : Bytes} {bytes : Bytes} {chars core : List Char} {c : Char} {byte : UInt8}
  {value : Nat}

/-- A digit in either case. -/
def IsDigit (c : Char) : Prop :=
  ('0' ≤ c ∧ c ≤ '9') ∨ ('a' ≤ c ∧ c ≤ 'f') ∨ ('A' ≤ c ∧ c ≤ 'F')

instance : DecidablePred IsDigit := fun _ => inferInstanceAs (Decidable (_ ∨ _))

def marks : List (List Char) := [['0', 'x'], ['0', 'X']]

/-- One mark is no part of the digits. A second one is. -/
inductive Bears : (core chars : List Char) → Prop where
  | marked {mark chars : List Char} (listed : mark ∈ marks) : Bears (mark ++ chars) chars
  | bare {chars : List Char} (unmarked : ∀ mark ∈ marks, ¬ mark <+: chars) : Bears chars chars

def Holds (text : String) (chars : List Char) : Prop :=
  ∃ front core back, text.toList = front ++ (core ++ back) ∧ Text.Pads front core back ∧
    Bears core chars

/-- Lengths and places of faults count bytes, and an odd number of them is a fault before any of
them is looked at. -/
inductive Decides (chars : List Char) : Except Fault Bytes → Prop where
  | bytes {bytes : Bytes} (even : chars.length % 2 = 0) (listed : ∀ c ∈ chars, IsDigit c)
      (written : (encode bytes).toList = chars.map Char.toLower) : Decides chars (.ok bytes)
  | oddLength (odd : (Bytes.ofText (.ofList chars)).length % 2 = 1) :
      Decides chars (.error .oddLength)
  | invalidDigit {front back : Bytes} {byte : UInt8}
      (even : (Bytes.ofText (.ofList chars)).length % 2 = 0)
      (split : Bytes.ofText (.ofList chars) = front ++ byte :: back)
      (before : ∀ byte ∈ front, IsDigit (.ofNat byte.toNat))
      (foreign : ¬ IsDigit (.ofNat byte.toNat)) :
      Decides chars (.error (.invalidDigit byte front.length))

theorem dropMark_eq_iff : dropMark core = chars ↔ Bears core chars := by
  constructor
  · rintro rfl
    unfold dropMark
    split
    · exact @Bears.marked ['0', 'x'] _ (by simp [marks])
    · exact @Bears.marked ['0', 'X'] _ (by simp [marks])
    · rename_i lower upper
      refine .bare fun mark listed => ?_
      rintro ⟨rest, rfl⟩
      simp only [marks, List.mem_cons, List.not_mem_nil, or_false] at listed
      obtain rfl | rfl := listed
      · exact lower rest rfl
      · exact upper rest rfl
  · intro bears
    cases bears with
    | marked listed =>
      simp only [marks, List.mem_cons, List.not_mem_nil, or_false] at listed
      obtain rfl | rfl := listed <;> rfl
    | bare unmarked =>
      unfold dropMark
      split
      · exact absurd (List.prefix_append ['0', 'x'] _) (unmarked _ (by simp [marks]))
      · exact absurd (List.prefix_append ['0', 'X'] _) (unmarked _ (by simp [marks]))
      · rfl

theorem holds_iff {text : String} :
    Holds text chars ↔ dropMark (Text.trimList text.toList) = chars := by
  rw [dropMark_eq_iff]
  constructor
  · rintro ⟨front, core, back, whole, pads, bears⟩
    rwa [Text.trimList_eq_iff.2 ⟨front, back, whole, pads⟩]
  · intro bears
    obtain ⟨front, back, whole, pads⟩ := Text.exists_pads_trimList text.toList
    exact ⟨front, _, back, whole, pads, bears⟩

/-- What is so for all characters of ASCII can be looked up. -/
@[elab_as_elim] theorem of_ascii {motive : Char → Prop} (c : Char) (ascii : c.toNat ≤ 127)
    (all : ∀ n < 128, motive (.ofNat n)) : motive c := by
  have here := all c.toNat (by omega)
  rwa [Char.ofNat_toNat] at here

theorem isSome_value?_iff (byte : UInt8) :
    (value? byte).isSome = true ↔ IsDigit (.ofNat byte.toNat) := by
  have all : ∀ n < 256, (value? (.ofNat n)).isSome = true ↔ IsDigit (.ofNat n) := by
    decide +kernel
  have here := all byte.toNat byte.toNat_lt
  rwa [UInt8.ofNat_toNat] at here

theorem lt_of_value? (found : value? byte = some value) : value < 16 ∧ byte.toNat < 128 := by
  simp only [value?, Text.hexValue?] at found
  split at found
  · cases found
    omega
  · split at found
    · cases found
      omega
    · split at found
      · cases found
        omega
      · cases found

theorem value?_eq_some_iff (ascii : c.toNat ≤ 127) (small : value < 16) :
    value? (.ofNat c.toNat) = some value ↔ c.toLower = value.digitChar := by
  have all : ∀ value < 16, value? (.ofNat c.toNat) = some value ↔ c.toLower = value.digitChar := by
    refine of_ascii c ascii ?_
    decide +kernel
  exact all value small

theorem IsDigit.ascii (listed : IsDigit c) : c.toNat ≤ 127 := by
  have least (d : Char) : d ≤ c ↔ d.toNat ≤ c.toNat := Char.le_def.trans UInt32.le_iff_toNat_le
  have most (d : Char) : c ≤ d ↔ c.toNat ≤ d.toNat := Char.le_def.trans UInt32.le_iff_toNat_le
  obtain ⟨-, digit⟩ | ⟨-, lower⟩ | ⟨-, upper⟩ := listed
  · exact Nat.le_trans ((most '9').1 digit) (by decide)
  · exact Nat.le_trans ((most 'f').1 lower) (by decide)
  · exact Nat.le_trans ((most 'F').1 upper) (by decide)

/-- A digit in either case is no blank and no letter of a mark, like those that are written. -/
theorem IsDigit.plain (listed : IsDigit c) : Plain c := by
  have all : IsDigit c → Text.isBlank c = false ∧ c ≠ 'x' ∧ c ≠ 'X' := by
    refine of_ascii c listed.ascii ?_
    decide +kernel
  obtain ⟨visible, unmarked⟩ := all listed
  exact ⟨listed.ascii, visible, unmarked⟩

theorem isDigit_of_toLower (small : value < 16) (lower : c.toLower = value.digitChar) : IsDigit c := by
  have ascii : c.toNat ≤ 127 := by
    delta Char.toLower at lower
    split at lower
    · rename_i capital
      exact Nat.le_trans (UInt32.le_iff_toNat_le.1 capital.2) (by decide)
    · rw [lower]
      exact (plain_digitChar small).ascii
  have all : ∀ value < 16, c.toLower = value.digitChar → IsDigit c := by
    refine of_ascii c ascii ?_
    decide +kernel
  exact all value small lower

theorem isDigit_of_written (written : (encode bytes).toList = chars.map Char.toLower)
    (member : c ∈ chars) : IsDigit c := by
  have lower : c.toLower ∈ (encode bytes).toList := written ▸ List.mem_map_of_mem member
  rw [toList_encode] at lower
  obtain ⟨value, half, same⟩ := List.mem_map.1 lower
  exact isDigit_of_toLower (halves_lt half) same.symm

theorem length_of_written (written : (encode bytes).toList = chars.map Char.toLower) :
    chars.length = 2 * bytes.length := by
  have sizes := congrArg List.length written
  rw [toList_encode, List.length_map, List.length_map, length_halves] at sizes
  exact sizes.symm

theorem Decides.of_written (written : (encode bytes).toList = chars.map Char.toLower) :
    Decides chars (.ok bytes) := by
  have even : chars.length % 2 = 0 := by
    rw [length_of_written written]
    omega
  exact .bytes even (fun _ member => isDigit_of_written written member) written

/-- Every byte of a character past ASCII has its high bit set. -/
theorem ascii_of_mem_utf8 (low : ∀ byte ∈ String.utf8EncodeChar c, byte.toNat < 128) :
    c.toNat ≤ 127 := by
  by_contra high
  have first : ∃ byte ∈ String.utf8EncodeChar c, 128 ≤ byte.toNat := by
    have wide : ¬ c.val.toNat ≤ 127 := high
    simp only [String.utf8EncodeChar, if_neg wide]
    split
    · exact ⟨_, List.mem_cons_self, by rw [UInt8.toNat_ofNat']; omega⟩
    · split
      · exact ⟨_, List.mem_cons_self, by rw [UInt8.toNat_ofNat']; omega⟩
      · exact ⟨_, List.mem_cons_self, by rw [UInt8.toNat_ofNat']; omega⟩
  obtain ⟨byte, member, marked⟩ := first
  exact absurd (low byte member) (by omega)

theorem map_value?_joinPairs (even : digits.length % 2 = 0)
    (listed : ∀ byte ∈ digits, (value? byte).isSome = true) :
    digits.map value? = ((joinPairs digits).flatMap halves).map some := by
  fun_induction joinPairs digits with
  | case1 high low rest ih =>
    obtain ⟨upper, above⟩ := Option.isSome_iff_exists.1 (listed high (by simp))
    obtain ⟨lower, below⟩ := Option.isSome_iff_exists.1 (listed low (by simp))
    have bounds := And.intro (lt_of_value? above).1 (lt_of_value? below).1
    have byte : (UInt8.ofNat (16 * upper + lower)).toNat = 16 * upper + lower := by
      rw [UInt8.toNat_ofNat']
      omega
    have fewer : rest.length % 2 = 0 := by
      rw [List.length_cons, List.length_cons] at even
      omega
    have tail := ih fewer fun byte member => listed byte (by simp [member])
    rw [List.map_cons, List.map_cons, above, below, tail, List.flatMap_cons, List.map_append,
      halves, Option.getD_some, Option.getD_some, byte,
      show (16 * upper + lower) / 16 = upper by omega,
      show (16 * upper + lower) % 16 = lower by omega]
    rfl
  | case2 digits none =>
    -- No two digits are left, and a single one would make their number odd.
    rcases digits with _ | ⟨high, _ | ⟨low, rest⟩⟩
    · rfl
    · cases even
    · exact absurd rfl (none high low rest)

/-- Digits of the values are the digits that are written for them, but for the case. -/
theorem map_value?_eq_iff {values : List Nat} (ascii : ∀ c ∈ chars, c.toNat ≤ 127)
    (small : ∀ value ∈ values, value < 16) :
    (chars.map fun c => value? (.ofNat c.toNat)) = values.map some ↔
      chars.map Char.toLower = values.map Nat.digitChar := by
  induction chars generalizing values with
  | nil =>
    cases values with
    | nil => simp
    | cons value values => simp
  | cons c chars ih =>
    cases values with
    | nil => simp
    | cons value values =>
      have head := value?_eq_some_iff (ascii c (by simp)) (small value (by simp))
      have tail := @ih values (fun c member => ascii c (by simp [member]))
        fun value member => small value (by simp [member])
      simp only [List.map_cons, List.cons.injEq, head, tail]

theorem map_value?_ofText_iff :
    (Bytes.ofText (.ofList chars)).map value? = (bytes.flatMap halves).map some ↔
      (∀ c ∈ chars, IsDigit c) ∧ (encode bytes).toList = chars.map Char.toLower := by
  have small : ∀ value ∈ bytes.flatMap halves, value < 16 := fun _ half => halves_lt half
  constructor
  · intro values
    have ascii : ∀ c ∈ chars, c.toNat ≤ 127 := by
      refine fun c member => ascii_of_mem_utf8 fun byte part => ?_
      have inside : byte ∈ Bytes.ofText (.ofList chars) := by
        rw [Bytes.ofText_ofList]
        exact List.mem_flatMap_of_mem member part
      have found : value? byte ∈ (bytes.flatMap halves).map some :=
        values ▸ List.mem_map_of_mem inside
      obtain ⟨value, -, found⟩ := List.mem_map.1 found
      exact (lt_of_value? found.symm).2
    rw [ofText_of_ascii ascii, List.map_map] at values
    have lower := (map_value?_eq_iff ascii small).1 values
    have written : (encode bytes).toList = chars.map Char.toLower :=
      (toList_encode bytes).trans lower.symm
    exact ⟨fun _ member => isDigit_of_written written member, written⟩
  · rintro ⟨listed, written⟩
    have ascii : ∀ c ∈ chars, c.toNat ≤ 127 := fun c member => (listed c member).ascii
    rw [ofText_of_ascii ascii, List.map_map]
    exact (map_value?_eq_iff ascii small).2 (written.symm.trans (toList_encode bytes))

/-- The first byte that is no digit stands behind digits only. -/
theorem findIdx?_eq_some_iff {place : Nat} :
    digits.findIdx? (fun byte => (value? byte).isNone) = some place ↔
      ∃ front byte back, digits = front ++ byte :: back ∧ front.length = place ∧
        (∀ byte ∈ front, IsDigit (.ofNat byte.toNat)) ∧ ¬ IsDigit (.ofNat byte.toNat) := by
  simp only [← isSome_value?_iff]
  constructor
  · intro found
    obtain ⟨inside, foreign, before⟩ := List.findIdx?_eq_some_iff_getElem.1 found
    refine ⟨digits.take place, digits[place], digits.drop (place + 1), ?_, ?_, ?_, ?_⟩
    · rw [← List.drop_eq_getElem_cons inside, List.take_append_drop]
    · exact List.length_take_of_le (Nat.le_of_lt inside)
    · intro byte member
      obtain ⟨earlier, early, rfl⟩ := List.mem_iff_getElem.1 member
      rw [List.length_take_of_le (Nat.le_of_lt inside)] at early
      rw [List.getElem_take]
      simpa [Option.isSome_iff_ne_none] using before earlier early
    · simpa using foreign
  · rintro ⟨front, byte, back, rfl, rfl, before, foreign⟩
    have none : front.findIdx? (fun byte => (value? byte).isNone) = none := by
      refine List.findIdx?_eq_none_iff.2 fun byte member => ?_
      simpa using before byte member
    have here : (value? byte).isNone = true := by simpa using foreign
    rw [List.findIdx?_append, none, List.findIdx?_cons, here]
    simp

theorem decides_decodeDigits (chars : List Char) :
    Decides chars (decodeDigits (.ofText (.ofList chars))) := by
  by_cases odd : (Bytes.ofText (.ofList chars)).length % 2 = 1
  · rw [decodeDigits, if_pos odd]
    exact .oddLength odd
  · have even : (Bytes.ofText (.ofList chars)).length % 2 = 0 := by omega
    rw [decodeDigits, if_neg odd]
    cases first : (Bytes.ofText (.ofList chars)).findIdx? fun byte => (value? byte).isNone with
    | some place =>
      obtain ⟨front, byte, back, split, rfl, before, foreign⟩ := findIdx?_eq_some_iff.1 first
      have here : (Bytes.ofText (.ofList chars)).getD front.length 0 = byte := by simp [split]
      simp only [here]
      exact .invalidDigit even split before foreign
    | none =>
      have listed : ∀ byte ∈ Bytes.ofText (.ofList chars), (value? byte).isSome = true := by
        intro byte member
        simpa using List.findIdx?_eq_none_iff.1 first byte member
      obtain ⟨-, written⟩ := map_value?_ofText_iff.1 (map_value?_joinPairs even listed)
      exact .of_written written

theorem Decides.decodeDigits_eq {result : Except Fault Bytes} (decides : Decides chars result) :
    decodeDigits (.ofText (.ofList chars)) = result := by
  cases decides with
  | bytes even listed written =>
    exact decodeDigits_of_values (map_value?_ofText_iff.2 ⟨listed, written⟩)
  | oddLength odd => exact if_pos odd
  | @invalidDigit front back byte even split before foreign =>
    have first := findIdx?_eq_some_iff.2 ⟨front, byte, back, split, rfl, before, foreign⟩
    rw [decodeDigits, if_neg (by omega), first]
    simp [split]

theorem decode_eq_iff {text : String} {result : Except Fault Bytes} :
    decode text = result ↔ ∃ chars, Holds text chars ∧ Decides chars result := by
  constructor
  · rintro rfl
    exact ⟨_, holds_iff.2 rfl, decides_decodeDigits _⟩
  · rintro ⟨chars, holds, decides⟩
    rw [decode, holds_iff.1 holds]
    exact decides.decodeDigits_eq

theorem holds_of_plain {front mark back : List Char} (plain : ∀ c ∈ chars, Plain c)
    (blankFront : ∀ c ∈ front, Text.isBlank c = true)
    (blankBack : ∀ c ∈ back, Text.isBlank c = true) (listed : mark ∈ [] :: marks) :
    Holds (.ofList (front ++ (mark ++ (chars ++ back)))) chars := by
  have marked : ∀ mark ∈ [] :: marks, mark.all (!Text.isBlank ·) = true := by decide
  have visible : ∀ c ∈ mark ++ chars, Text.isBlank c = false := by
    intro c member
    obtain sign | digit := List.mem_append.1 member
    · simpa using List.all_eq_true.1 (marked mark listed) c sign
    · exact (plain c digit).visible
  refine ⟨front, mark ++ chars, back, ?_, .of_visible blankFront visible blankBack, ?_⟩
  · rw [String.toList_ofList, List.append_assoc]
  · obtain rfl | listed := List.mem_cons.1 listed
    · exact dropMark_eq_iff.1 (dropMark_of_plain plain)
    · exact .marked listed

/-- Every text holds digits, in one way, and is read as the verdict on them says. Bytes are read
from every spelling of them: in either case, with a mark or none, between any blanks. -/
theorem decode_decides :
    (∀ text : String, ∃! chars, Holds text chars) ∧
    (∀ (text : String) (result : Except Fault Bytes),
      decode text = result ↔ ∃ chars, Holds text chars ∧ Decides chars result) ∧
    ∀ (bytes : Bytes) (front mark chars back : List Char),
      (∀ c ∈ front, Text.isBlank c = true) → (∀ c ∈ back, Text.isBlank c = true) →
      mark ∈ [] :: marks → chars.map Char.toLower = (encode bytes).toList →
      decode (.ofList (front ++ (mark ++ (chars ++ back)))) = .ok bytes := by
  refine ⟨fun text => ?_, fun text result => decode_eq_iff, ?_⟩
  · exact ⟨_, holds_iff.2 rfl, fun chars holds => (holds_iff.1 holds).symm⟩
  · intro bytes front mark chars back blankFront blankBack marked lower
    have written := lower.symm
    have plain : ∀ c ∈ chars, Plain c := fun _ member => (isDigit_of_written written member).plain
    exact decode_eq_iff.2 ⟨chars, holds_of_plain plain blankFront blankBack marked,
      .of_written written⟩

/-- Both cases between two kinds of blanks, a second mark, and a character past ASCII, of which the
bytes count. -/
theorem decode_decides_mixed :
    decode "\u3000\t0XaFf0\n" = .ok [0xaf, 0xf0] ∧
      decode "0x0xab" = .error (.invalidDigit 0x78 1) ∧
      decode "0x1é" = .error .oddLength := by
  obtain ⟨-, decides, spelled⟩ := decode_decides
  refine ⟨?_, ?_, ?_⟩
  · exact spelled [0xaf, 0xf0] ['\u3000', '\t'] ['0', 'X'] ['a', 'F', 'f', '0'] ['\n']
      (List.all_eq_true.1 (by decide)) (List.all_eq_true.1 (by decide)) (by decide)
      (by decide +kernel)
  · exact (decides "0x0xab" _).2 ⟨['0', 'x', 'a', 'b'], holds_iff.2 (by decide +kernel),
      @Decides.invalidDigit _ [0x30] [0x61, 0x62] 0x78 (by decide +kernel) (by decide +kernel)
        (by decide +kernel) (by decide +kernel)⟩
  · exact (decides "0x1é" _).2 ⟨['1', 'é'], holds_iff.2 (by decide +kernel),
      .oddLength (by decide +kernel)⟩

end Preimage.Hex
