import Mathlib.Data.List.Nodup
import Preimage.Proofs.Wire.Format
import Preimage.Schema.Registry

/-! What the checks of schemas decide. A revision may follow another when its tags are sound and
every tag that was assigned keeps its meaning. A refusal names the first field in the way: one of
the new revision if that does not stand on its own, and else one of the old. -/
namespace Preimage.Schema
variable {identity : String} {seen : List UInt32} {fields : List Field} {schema old new : Schema}
  {field : Field} {fault : Fault}

/-- Tags that a key can carry, each of them assigned once. -/
structure Sound (schema : Schema) : Prop where
  valid : ∀ field ∈ schema.fields, 1 ≤ field.number.toNat ∧ field.number.toNat < 2 ^ 29
  distinct : (schema.fields.map Field.number).Nodup

/-- Whether a tag is deprecated is no part of what it stands for. -/
def meaning? (schema : Schema) (number : UInt32) : Option (String × Kind) :=
  (schema.field? number).map fun field => (field.name, field.kind)

/-- Every tag that was assigned is still assigned, with the same name and type. -/
def Preserves (old new : Schema) : Prop :=
  ∀ number meaning, old.meaning? number = some meaning → new.meaning? number = some meaning

theorem checkFields_eq_ok_iff :
    checkFields identity seen fields = .ok () ↔
      (∀ field ∈ fields, (1 ≤ field.number.toNat ∧ field.number.toNat < 2 ^ 29) ∧
        field.number ∉ seen) ∧ (fields.map Field.number).Nodup := by
  induction fields generalizing seen with
  | nil => simp [checkFields]
  | cons field rest ih =>
    simp only [checkFields, Wire.isFieldNumber_iff, List.contains_iff_mem]
    by_cases valid : 1 ≤ field.number.toNat ∧ field.number.toNat < 2 ^ 29
    · by_cases repeated : field.number ∈ seen
      · rw [if_pos valid, if_pos repeated]
        exact iff_of_false nofun fun sound => (sound.1 field List.mem_cons_self).2 repeated
      · -- A later field may repeat neither what was seen before nor this one.
        simp only [if_pos valid, if_neg repeated, ih, List.map_cons, List.nodup_cons,
          List.mem_map, List.mem_cons, not_or]
        grind
    · rw [if_neg valid]
      exact iff_of_false nofun fun sound => valid (sound.1 field List.mem_cons_self).1

theorem check_eq_ok_iff : schema.check = .ok () ↔ schema.Sound := by
  simp only [check, checkFields_eq_ok_iff]
  constructor
  · rintro ⟨valid, distinct⟩
    exact ⟨fun field member => (valid field member).1, distinct⟩
  · rintro ⟨valid, distinct⟩
    exact ⟨fun field member => ⟨valid field member, List.not_mem_nil⟩, distinct⟩

theorem checkKept_eq_ok_iff :
    checkKept new fields = .ok () ↔
      ∀ field ∈ fields, new.meaning? field.number = some (field.name, field.kind) := by
  induction fields with
  | nil => simp [checkKept]
  | cons old rest ih =>
    rw [List.forall_mem_cons, ← ih]
    cases found : new.field? old.number with
    | none => simp [checkKept, meaning?, found]
    | some field =>
      have stands : new.meaning? old.number = some (field.name, field.kind) := by
        simp [meaning?, found]
      rw [stands, Option.some_inj, Prod.mk.injEq]
      simp only [checkKept, found]
      by_cases kept : field.name = old.name ∧ field.kind = old.kind
      · rw [if_pos kept]
        exact (and_iff_right kept).symm
      · rw [if_neg kept]
        exact iff_of_false nofun fun both => kept both.1

theorem checkRevision_eq_ok_iff :
    checkRevision old new = .ok () ↔ new.Sound ∧
      ∀ field ∈ old.fields, new.meaning? field.number = some (field.name, field.kind) := by
  simp only [checkRevision]
  cases checked : new.check with
  | ok => simp [← check_eq_ok_iff, checked, checkKept_eq_ok_iff]
  | error fault => simp [← check_eq_ok_iff, checked]

theorem Preserves.refl (schema : Schema) : schema.Preserves schema := fun _ _ assigned => assigned

theorem Preserves.trans {first second third : Schema} (near : first.Preserves second)
    (far : second.Preserves third) : first.Preserves third :=
  fun number meaning assigned => far number meaning (near number meaning assigned)

theorem preserves_of_checkRevision (checked : checkRevision old new = .ok ()) :
    old.Preserves new := by
  intro number meaning assigned
  obtain ⟨field, found, rfl⟩ := Option.map_eq_some_iff.1 assigned
  simp only [field?] at found
  have member : field ∈ old.fields := List.mem_of_find?_eq_some found
  have same : field.number = number := by simpa using List.find?_some found
  rw [← same]
  exact (checkRevision_eq_ok_iff.1 checked).2 field member

def Keeps (schema : Schema) (field : Field) : Prop :=
  ∃ kept ∈ schema.fields, kept.number = field.number ∧ kept.name = field.name ∧
    kept.kind = field.kind

/-- What is wrong with the tag of a field behind fields with the tags `taken`. -/
inductive TagFault (identity : String) (taken : List UInt32) (field : Field) : Fault → Prop where
  | invalid (outside : ¬ (1 ≤ field.number.toNat ∧ field.number.toNat < 2 ^ 29)) :
      TagFault identity taken field (.invalidTag identity field.number)
  | duplicate (inside : 1 ≤ field.number.toNat ∧ field.number.toNat < 2 ^ 29)
      (again : field.number ∈ taken) :
      TagFault identity taken field (.duplicateTag identity field.number)

/-- What became of a field that is not kept. -/
inductive Loss (new : Schema) (old : Field) : Fault → Prop where
  | removed (absent : ∀ field ∈ new.fields, field.number ≠ old.number) :
      Loss new old (.tagRemoved new.identity old)
  | repurposed {field : Field} (member : field ∈ new.fields) (same : field.number = old.number)
      (changed : ¬ (field.name = old.name ∧ field.kind = old.kind)) :
      Loss new old (.tagRepurposed new.identity old field)

def FirstUnsound (schema : Schema) (fault : Fault) : Prop :=
  ∃ before field after, schema.fields = before ++ field :: after ∧
    Sound { schema with fields := before } ∧
    TagFault schema.identity (before.map Field.number) field fault

def FirstLost (old new : Schema) (fault : Fault) : Prop :=
  ∃ before field after, old.fields = before ++ field :: after ∧
    (∀ earlier ∈ before, new.Keeps earlier) ∧ Loss new field fault

theorem exists_place_cons {α : Type} {p : List α → α → Prop} {head : α} {rest : List α} :
    (∃ before place after, head :: rest = before ++ place :: after ∧ p before place) ↔
      p [] head ∨ ∃ before place after, rest = before ++ place :: after ∧ p (head :: before) place := by
  constructor
  · rintro ⟨before, place, after, whole, holds⟩
    rcases List.cons_eq_append_iff.1 whole with ⟨rfl, same⟩ | ⟨before, rfl, rfl⟩
    · cases same
      exact .inl holds
    · exact .inr ⟨before, place, after, rfl, holds⟩
  · rintro (holds | ⟨before, place, after, rfl, holds⟩)
    · exact ⟨[], head, rest, rfl, holds⟩
    · exact ⟨head :: before, place, after, rfl, holds⟩

/-- Only what was assigned before counts, and not in which order. -/
theorem TagFault.congr {taken taken' : List UInt32}
    (same : ∀ tag, tag ∈ taken ↔ tag ∈ taken') :
    TagFault identity taken field fault ↔ TagFault identity taken' field fault := by
  constructor
  · rintro (outside | ⟨inside, again⟩)
    · exact .invalid outside
    · exact .duplicate inside ((same _).1 again)
  · rintro (outside | ⟨inside, again⟩)
    · exact .invalid outside
    · exact .duplicate inside ((same _).2 again)

theorem checkFields_cons_of_fault (faulty : TagFault identity seen field fault) :
    checkFields identity seen (field :: fields) = .error fault := by
  simp only [checkFields, Wire.isFieldNumber_iff, List.contains_iff_mem]
  cases faulty with
  | invalid outside => rw [if_neg outside]
  | duplicate inside again => rw [if_pos inside, if_pos again]

/-- The first field is refused, or it is passed and its tag is taken from then on. -/
theorem checkFields_cons (identity : String) (seen : List UInt32) (field : Field) :
    (∃ fault, TagFault identity seen field fault) ∨
      (∀ fault, ¬ TagFault identity seen field fault) ∧
        ∀ rest, checkFields identity seen (field :: rest) =
          checkFields identity (field.number :: seen) rest := by
  by_cases inside : 1 ≤ field.number.toNat ∧ field.number.toNat < 2 ^ 29
  · by_cases again : field.number ∈ seen
    · exact .inl ⟨_, .duplicate inside again⟩
    · refine .inr ⟨?_, fun rest => ?_⟩
      · rintro fault (outside | ⟨-, again'⟩)
        · exact outside inside
        · exact again again'
      · simp only [checkFields, Wire.isFieldNumber_iff, List.contains_iff_mem]
        rw [if_pos inside, if_neg again]
  · exact .inl ⟨_, .invalid inside⟩

theorem checkFields_eq_error_iff :
    checkFields identity seen fields = .error fault ↔
      ∃ before field after, fields = before ++ field :: after ∧
        checkFields identity seen before = .ok () ∧
        TagFault identity (before.map Field.number ++ seen) field fault := by
  induction fields generalizing seen with
  | nil => simp [checkFields]
  | cons field rest ih =>
    rw [exists_place_cons]
    rcases checkFields_cons identity seen field with ⟨fault', faulty⟩ | ⟨sound, passed⟩
    · simp only [checkFields_cons_of_fault faulty]
      constructor
      · intro refused
        cases refused
        exact .inl ⟨rfl, faulty⟩
      · rintro (⟨-, faulty'⟩ | ⟨before, place, after, -, passed, -⟩)
        · have refused : checkFields identity seen (field :: rest) = .error fault :=
            checkFields_cons_of_fault faulty'
          rwa [checkFields_cons_of_fault faulty] at refused
        · cases passed
    · simp only [passed, ih]
      have moved (before : List Field) (place : Field) :
          TagFault identity (before.map Field.number ++ field.number :: seen) place fault ↔
            TagFault identity ((field :: before).map Field.number ++ seen) place fault :=
        TagFault.congr fun tag => by simp [or_left_comm]
      simp only [moved]
      exact (or_iff_right fun first => sound fault first.2).symm

theorem Sound.field?_eq_some_iff (sound : schema.Sound) {tag : UInt32} :
    schema.field? tag = some field ↔ field ∈ schema.fields ∧ field.number = tag := by
  have held : ∀ {found}, schema.field? tag = some found →
      found ∈ schema.fields ∧ found.number = tag := fun found =>
    ⟨List.mem_of_find?_eq_some found, by simpa using List.find?_some found⟩
  constructor
  · exact held
  · rintro ⟨member, rfl⟩
    cases found : schema.field? field.number with
    | none =>
      have absent := List.find?_eq_none.1 found field member
      simp at absent
    | some other =>
      obtain ⟨member', same⟩ := held found
      rw [List.inj_on_of_nodup_map sound.distinct member' member same]

theorem Sound.keeps_iff (sound : schema.Sound) :
    schema.Keeps field ↔ schema.meaning? field.number = some (field.name, field.kind) := by
  simp only [Keeps, meaning?, Option.map_eq_some_iff, sound.field?_eq_some_iff, Prod.mk.injEq,
    and_assoc]

theorem checkRevision_eq_ok_iff_keeps :
    checkRevision old new = .ok () ↔ new.Sound ∧ ∀ field ∈ old.fields, new.Keeps field := by
  rw [checkRevision_eq_ok_iff]
  refine and_congr_right fun sound => ?_
  simp only [sound.keeps_iff]

theorem checkKept_cons_of_loss (sound : new.Sound) (lost : Loss new field fault) :
    checkKept new (field :: fields) = .error fault := by
  cases lost with
  | removed absent =>
    have none : new.field? field.number = none :=
      List.find?_eq_none.2 fun other member => by simpa using absent other member
    simp only [checkKept, none]
  | repurposed member same changed =>
    have found := sound.field?_eq_some_iff.2 ⟨member, same⟩
    simp only [checkKept, found, if_neg changed]

theorem checkKept_cons_of_keeps (sound : new.Sound) (keeps : new.Keeps field) :
    checkKept new (field :: fields) = checkKept new fields := by
  obtain ⟨kept, member, same, meaning⟩ := keeps
  have found := sound.field?_eq_some_iff.2 ⟨member, same⟩
  simp only [checkKept, found, if_pos meaning]

theorem keeps_or_loss (new : Schema) (old : Field) :
    new.Keeps old ∨ ∃ fault, Loss new old fault := by
  by_cases there : ∃ field ∈ new.fields, field.number = old.number
  · obtain ⟨field, member, same⟩ := there
    by_cases meaning : field.name = old.name ∧ field.kind = old.kind
    · exact .inl ⟨field, member, same, meaning⟩
    · exact .inr ⟨_, .repurposed member same meaning⟩
  · exact .inr ⟨_, .removed fun field member same => there ⟨field, member, same⟩⟩

theorem not_loss_of_keeps (sound : new.Sound) (keeps : new.Keeps field) :
    ¬ Loss new field fault := by
  intro lost
  have passed : checkKept new [field] = .ok () := checkKept_cons_of_keeps sound keeps
  rw [checkKept_cons_of_loss sound lost] at passed
  cases passed

theorem checkKept_eq_error_iff (sound : new.Sound) :
    checkKept new fields = .error fault ↔
      ∃ before field after, fields = before ++ field :: after ∧
        (∀ earlier ∈ before, new.Keeps earlier) ∧ Loss new field fault := by
  induction fields with
  | nil => simp [checkKept]
  | cons field rest ih =>
    rw [exists_place_cons]
    rcases keeps_or_loss new field with keeps | ⟨fault', lost⟩
    · rw [checkKept_cons_of_keeps sound keeps, ih]
      simp only [List.forall_mem_cons, keeps, true_and]
      exact (or_iff_right fun first => not_loss_of_keeps sound keeps first.2).symm
    · rw [checkKept_cons_of_loss sound lost]
      constructor
      · intro refused
        cases refused
        exact .inl ⟨by simp, lost⟩
      · rintro (⟨-, lost'⟩ | ⟨before, place, after, -, kept, -⟩)
        · have refused : checkKept new (field :: rest) = .error fault :=
            checkKept_cons_of_loss sound lost'
          rwa [checkKept_cons_of_loss sound lost] at refused
        · exact absurd lost (not_loss_of_keeps sound (kept field (by simp)))

theorem firstUnsound_iff : FirstUnsound schema fault ↔ schema.check = .error fault := by
  simp only [check, checkFields_eq_error_iff, List.append_nil]
  refine exists_congr fun before => exists_congr fun field => exists_congr fun after => ?_
  refine and_congr_right fun _ => and_congr_left fun _ => ?_
  rw [← check_eq_ok_iff]
  exact checkFields_eq_ok_iff.trans checkFields_eq_ok_iff.symm

theorem checkRevision_eq_error_iff :
    checkRevision old new = .error fault ↔
      FirstUnsound new fault ∨ new.Sound ∧ FirstLost old new fault := by
  rw [firstUnsound_iff, ← check_eq_ok_iff]
  simp only [checkRevision]
  cases checked : new.check with
  | ok =>
    simp only [reduceCtorEq, true_and, false_or]
    exact checkKept_eq_error_iff (check_eq_ok_iff.1 checked)
  | error fault' => simp

theorem checkRevision_self_iff : checkRevision schema schema = .ok () ↔ schema.check = .ok () := by
  rw [checkRevision_eq_ok_iff_keeps, check_eq_ok_iff]
  exact and_iff_left fun field member => ⟨field, member, rfl, rfl, rfl⟩

theorem checkRevision_trans {first second third : Schema}
    (near : checkRevision first second = .ok ()) (far : checkRevision second third = .ok ()) :
    checkRevision first third = .ok () := by
  rw [checkRevision_eq_ok_iff_keeps] at near far ⊢
  refine ⟨far.1, fun field member => ?_⟩
  obtain ⟨between, member', number, name, kind⟩ := near.2 field member
  obtain ⟨kept, member'', number', name', kind'⟩ := far.2 between member'
  exact ⟨kept, member'', number'.trans number, name'.trans name, kind'.trans kind⟩

/-- Those revisions may follow that stand on their own and keep every field, whatever else they do.
A schema follows itself just where it stands on its own, and following goes on from revision to
revision. -/
theorem checkRevision_decides (old new : Schema) :
    (checkRevision old new = .ok () ↔ new.Sound ∧ ∀ field ∈ old.fields, new.Keeps field) ∧
      (∀ fault, checkRevision old new = .error fault ↔
        FirstUnsound new fault ∨ new.Sound ∧ FirstLost old new fault) ∧
      (checkRevision new new = .ok () ↔ new.check = .ok ()) ∧
      ∀ last, checkRevision old new = .ok () → checkRevision new last = .ok () →
        checkRevision old last = .ok () :=
  ⟨checkRevision_eq_ok_iff_keeps, fun _ => checkRevision_eq_error_iff, checkRevision_self_iff,
    fun _ => checkRevision_trans⟩

/-- The first revision assigns a tag twice, which keeps it from following any, but not others from
following it. -/
theorem checkRevision_decides_repeated :
    let hash : Field := ⟨1, "hash", .bytes, false⟩
    let note : Field := ⟨5, "note", .string, false⟩
    let first : Schema := ⟨"a", "b", [hash, hash]⟩
    let second : Schema := ⟨"a", "b", [{ hash with deprecated := true }]⟩
    let third : Schema := ⟨"a", "b", [note, hash]⟩
    second.Keeps hash ∧ checkRevision first third = .ok () ∧
      FirstUnsound first (.duplicateTag "a.b" 1) := by
  intro hash note first second third
  obtain ⟨kept, _, _, follows⟩ := checkRevision_decides first second
  obtain ⟨_, refused, _, _⟩ := checkRevision_decides third first
  have keeps := (kept.1 (by decide +kernel)).2 hash (by simp [first])
  have unsound := (refused (.duplicateTag "a.b" 1)).1 (by decide +kernel)
  refine ⟨keeps, follows third (by decide +kernel) (by decide +kernel), unsound.resolve_right ?_⟩
  rintro ⟨sound, -⟩
  exact absurd (check_eq_ok_iff.2 sound) (by decide +kernel)

end Preimage.Schema
