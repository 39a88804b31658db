import Preimage.Proofs.Json.Value

/-! Written objects read back. One reading serves both forms of an object, since it passes over
blanks. -/
namespace Preimage.Json
variable {α σ : Type} {member : MemberReader σ} {state next last : σ} {rest : List Char}
  {members : Members}

/-- Where an object has blanks: before each key, before each value and before the closing brace. -/
structure Layout where
  key : List Char
  value : List Char
  brace : List Char
  blankKey : key.all isBlank = true := by decide
  blankValue : value.all isBlank = true := by decide
  blankBrace : brace.all isBlank = true := by decide

namespace Layout

def onLines : Layout :=
  { key := ['\n', ' ', ' '], value := [' '], brace := ['\n'] }

def inOneLine : Layout := { key := [], value := [], brace := [] }

def entry (layout : Layout) (written : String × List Char) (rest : List Char) : List Char :=
  layout.key ++ (printString written.1 ++ ':' :: (layout.value ++ (written.2 ++ rest)))

/-- A member from after the quote that opens its key. -/
def fromKey (layout : Layout) (written : String × List Char) (rest : List Char) : List Char :=
  written.1.toList.flatMap escape ++ '"' :: ':' :: (layout.value ++ (written.2 ++ rest))

theorem skipBlank_entry (layout : Layout) (written : String × List Char) (rest : List Char) :
    skipBlank (layout.entry written rest) = '"' :: layout.fromKey written rest := by
  rw [entry, skipBlank_append layout.blankKey, printString_append, skipBlank_of_visible rfl, fromKey]

/-- What follows a member: the others, each after a comma, and the closing brace. -/
def others (layout : Layout) (members : Members) (rest : List Char) : List Char :=
  members.foldr (fun written rest => ',' :: layout.entry written rest)
    (layout.brace ++ '}' :: rest)

theorem ends_others (layout : Layout) (members : Members) (rest : List Char) :
    Ends (layout.others members rest) := by
  cases members with
  | nil =>
    cases brace : layout.brace with
    | nil => exact ⟨'}', by simp [others, brace], by simp⟩
    | cons c tail =>
      have blank := layout.blankBrace
      rw [brace, List.all_cons, Bool.and_eq_true] at blank
      exact ⟨c, by simp [others, brace], .inl blank.1⟩
  | cons written members => exact ⟨',', by simp [others], by simp⟩

theorem length_others (layout : Layout) (members : Members) (rest : List Char) :
    members.length < (layout.others members rest).length := by
  induction members with
  | nil =>
    simp only [others, List.foldr_nil, List.length_nil, List.length_append, List.length_cons]
    omega
  | cons written members ih =>
    simp only [others, List.foldr_cons, entry, List.length_cons, List.length_append] at ih ⊢
    omega

theorem others_eq_flatMap (layout : Layout) (members : Members) (rest : List Char) :
    layout.others members rest =
      (members.flatMap fun written => ',' :: layout.entry written []) ++
        (layout.brace ++ '}' :: rest) := by
  induction members with
  | nil => rfl
  | cons written members ih =>
    rw [others, List.foldr_cons, ← others, ih, List.flatMap_cons]
    simp [entry]

end Layout

theorem intercalate_cons (separator item : List Char) (items : List (List Char)) :
    separator.intercalate (item :: items) = item ++ items.flatMap (separator ++ ·) := by
  induction items generalizing item with
  | nil => rw [List.intercalate_singleton, List.flatMap_nil, List.append_nil]
  | cons next items ih =>
    rw [List.intercalate_cons_cons, ih, List.flatMap_cons, List.append_assoc, List.append_assoc]

theorem printLines_cons (written : String × List Char) (members : Members) :
    printLines (written :: members) =
      '{' :: Layout.onLines.entry written (Layout.onLines.others members []) := by
  rw [printLines, List.map_cons, intercalate_cons, List.flatMap_map, Layout.others_eq_flatMap]
  simp [Layout.entry, Layout.onLines]

theorem printCompact_cons (written : String × List Char) (members : Members) :
    printCompact (written :: members) =
      '{' :: Layout.inOneLine.entry written (Layout.inOneLine.others members []) := by
  rw [printCompact, List.map_cons, intercalate_cons, List.flatMap_map, Layout.others_eq_flatMap]
  simp [Layout.entry, Layout.inOneLine]

/-- From its key on, the member takes the state to the next, whatever the layout. -/
def Takes (member : MemberReader σ) (state : σ) (written : String × List Char) (next : σ) : Prop :=
  ∀ budget blank rest, blank.all isBlank = true → Ends rest →
    member budget state written.1 (':' :: (blank ++ (written.2 ++ rest))) = .ok (next, rest)

inductive TakesAll (member : MemberReader σ) : σ → Members → σ → Prop where
  | nil {state : σ} : TakesAll member state [] state
  | cons {state next last : σ} {written : String × List Char} {members : Members} :
      Takes member state written next → TakesAll member next members last →
        TakesAll member state (written :: members) last

theorem fillOnce_of_reads {reader : Reader α} {written : List Char} {value : α} (name : String)
    (reads : Reads reader written value) {blank : List Char} (blanks : blank.all isBlank = true)
    (ends : Ends rest) :
    fillOnce name none reader (':' :: (blank ++ (written ++ rest))) = .ok (some value, rest) := by
  have read : readMember reader (':' :: (blank ++ (written ++ rest))) = .ok (value, rest) := by
    rw [readMember, readColon, skipBlank_of_visible rfl]
    exact reads blank rest blanks ends
  simp only [fillOnce, read, ok_bind]
  rfl

/-- A member that puts its value into a place that is still empty. -/
theorem Takes.fill {reader : Reader α} {written : List Char} {value : α} {name : String}
    (reads : Reads reader written value) (put : Option α → σ)
    (fills : ∀ budget input, member budget state name input =
      (fillOnce name none reader input).map fun (place, rest) => (put place, rest)) :
    Takes member state (name, written) (put (some value)) := by
  intro budget blank rest blanks ends
  rw [fills, fillOnce_of_reads name reads blanks ends]
  rfl

theorem nextKey?_entry (layout : Layout) (written : String × List Char) (rest : List Char) :
    nextKey? true (layout.entry written rest) = .ok (some (layout.fromKey written rest)) := by
  rw [nextKey?, layout.skipBlank_entry]
  rfl

theorem nextKey?_comma_entry (layout : Layout) (written : String × List Char) (rest : List Char) :
    nextKey? false (',' :: layout.entry written rest) =
      .ok (some (layout.fromKey written rest)) := by
  rw [nextKey?, skipBlank_of_visible rfl]
  simp [layout.skipBlank_entry]

theorem readMembers_entry {layout : Layout} {written : String × List Char} {budget : Nat}
    {first : Bool} {input : List Char}
    (opened : nextKey? first input = .ok (some (layout.fromKey written rest)))
    (takes : Takes member state written next) (ends : Ends rest) :
    readMembers member (budget + 1) first state input =
      readMembers member budget false next rest := by
  have taken := takes budget layout.value rest layout.blankValue ends
  simp only [readMembers, opened, ok_bind, Layout.fromKey, readText_flatMap_escape, taken]

/-- Each member takes one round of the budget, and the closing brace takes another. -/
theorem readMembers_others (layout : Layout) (taken : TakesAll member state members last)
    {budget : Nat} (enough : members.length < budget) :
    readMembers member budget false state (layout.others members rest) = .ok (last, rest) := by
  induction taken generalizing budget with
  | nil =>
    obtain ⟨budget, rfl⟩ := Nat.exists_eq_add_one_of_ne_zero (Nat.ne_of_gt enough)
    have closed : skipBlank (layout.brace ++ '}' :: rest) = '}' :: rest := by
      rw [skipBlank_append layout.blankBrace, skipBlank_of_visible rfl]
    simp [readMembers, Layout.others, nextKey?, closed]
  | cons takes taken ih =>
    obtain ⟨budget, rfl⟩ := Nat.exists_eq_add_one_of_ne_zero (Nat.ne_zero_of_lt enough)
    have opened := nextKey?_comma_entry layout
    exact (readMembers_entry (opened _ _) takes (layout.ends_others _ _)).trans
      (ih (Nat.lt_of_succ_lt_succ enough))

theorem readObject_entry (layout : Layout) {written : String × List Char}
    (taken : TakesAll member state (written :: members) last) :
    readObject member state (layout.entry written (layout.others members rest)) =
      .ok (last, rest) := by
  cases taken with
  | cons takes taken =>
    have room : members.length < (layout.entry written (layout.others members rest)).length := by
      have others := layout.length_others members rest
      simp only [Layout.entry, List.length_append, List.length_cons]
      omega
    have opened := nextKey?_entry layout written (layout.others members rest)
    exact (readMembers_entry opened takes (layout.ends_others _ _)).trans
      (readMembers_others layout taken room)

theorem readObject_of_printLines (taken : TakesAll member state members last)
    (filled : members ≠ []) :
    ∃ input, printLines members = '{' :: input ∧
      readObject member state input = .ok (last, []) := by
  obtain ⟨written, others, rfl⟩ := List.exists_cons_of_ne_nil filled
  exact ⟨_, printLines_cons written others, readObject_entry Layout.onLines taken⟩

theorem readObject_of_printCompact (taken : TakesAll member state members last)
    (filled : members ≠ []) :
    ∃ input, printCompact members = '{' :: input ∧
      readObject member state input = .ok (last, []) := by
  obtain ⟨written, others, rfl⟩ := List.exists_cons_of_ne_nil filled
  exact ⟨_, printCompact_cons written others, readObject_entry Layout.inOneLine taken⟩

theorem readDocument_readRecord {form elements : Reader α} {written : List Char} {value : α}
    (name : String) (read : form written = .ok (value, [])) :
    readDocument (readRecord name form elements) (.ofList ('{' :: written)) = .ok value := by
  have opened : readRecord name form elements ('{' :: written) = .ok (value, []) := by
    rw [readRecord, skipBlank_of_visible rfl]
    exact read
  simp only [readDocument, String.toList_ofList, opened, ok_bind]
  rfl

end Preimage.Json
