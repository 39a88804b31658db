import Mathlib.Data.List.Nodup
import Preimage.Outcome.Basic
import Preimage.Proofs.Schema.Revision

/-! Registries over time. Whatever is requested, no two registered schemas share an identity, each
stands on its own, and what an identity or a tag once stood for it stands for ever after. -/
namespace Preimage.Schema

inductive Request where
  | register (schema : Schema)
  | upgrade (schema : Schema)
deriving Repr, DecidableEq

def Request.schema : Request → Schema
  | register schema => schema
  | upgrade schema => schema

def Request.growth : Request → Nat
  | register _ => 1
  | upgrade _ => 0

namespace Registry
variable {registry next : Registry} {schema : Schema} {identity : String} {request : Request}
  {fault : Fault}

def respond (registry : Registry) : Request → EStateM.Result Fault Registry Unit
  | .register schema => (register schema).run registry
  | .upgrade schema => (upgrade schema).run registry

/-- What stands after a request, granted or refused. -/
def after (registry : Registry) (request : Request) : Registry :=
  match registry.respond request with
  | .ok _ next => next
  | .error _ next => next

def run (registry : Registry) (requests : List Request) : Registry := requests.foldl after registry

/-- Identities tell schemas apart, and every schema stands on its own. -/
structure WellFormed (registry : Registry) : Prop where
  distinct : (registry.schemas.map Schema.identity).Nodup
  sound : ∀ schema ∈ registry.schemas, schema.Sound

/-- What was registered still is, and no tag has another meaning than it had. -/
def Continues (earlier later : Registry) : Prop :=
  ∀ identity old, earlier.get? identity = some old →
    ∃ new, later.get? identity = some new ∧ old.Preserves new

/-- What a granted request does: its schema is found from then on, and every other as before. -/
structure Grants (registry : Registry) (request : Request) (next : Registry) : Prop where
  stands : registry.after request = next
  entered : next.get? request.schema.identity = some request.schema
  others : ∀ identity, identity ≠ request.schema.identity →
    next.get? identity = registry.get? identity
  size : next.size = registry.size + request.growth

theorem identity_of_get? (found : registry.get? identity = some schema) :
    schema ∈ registry.schemas ∧ schema.identity = identity := by
  simp only [get?] at found
  exact ⟨List.mem_of_find?_eq_some found, by simpa using List.find?_some found⟩

theorem get?_eq_none_iff :
    registry.get? identity = none ↔ identity ∉ registry.schemas.map Schema.identity := by
  simp [get?]

theorem WellFormed.get?_eq_some_iff (wellFormed : registry.WellFormed) :
    registry.get? identity = some schema ↔
      schema ∈ registry.schemas ∧ schema.identity = identity := by
  constructor
  · exact identity_of_get?
  · rintro ⟨member, rfl⟩
    cases found : registry.get? schema.identity with
    | none =>
      exact absurd (List.mem_map_of_mem member) (get?_eq_none_iff.1 found)
    | some other =>
      obtain ⟨member', same⟩ := identity_of_get? found
      rw [List.inj_on_of_nodup_map wellFormed.distinct member' member same]

theorem run_liftExcept (result : Except Fault Unit) :
    (liftExcept result : Update Unit).run registry = match result with
      | .ok value => .ok value registry
      | .error fault => .error fault registry := by
  cases result <;> rfl

theorem register_eq_ok_iff :
    (register schema).run registry = .ok () next ↔
      schema.Sound ∧ registry.get? schema.identity = none ∧ next = registry.append schema := by
  simp only [register, EStateM.run_bind, run_liftExcept, ← check_eq_ok_iff]
  cases checked : schema.check with
  | error fault => simp
  | ok =>
    cases found : registry.get? schema.identity with
    | none => simp [found, eq_comm]
    | some other => simp [found]

theorem upgrade_eq_ok_iff :
    (upgrade schema).run registry = .ok () next ↔
      ∃ current, registry.get? schema.identity = some current ∧
        checkRevision current schema = .ok () ∧ next = registry.replace schema := by
  simp only [upgrade, EStateM.run_bind]
  cases found : registry.get? schema.identity with
  | none => simp [found]
  | some current =>
    cases checked : checkRevision current schema with
    | error fault => simp [found, checked, run_liftExcept]
    | ok => simp [found, checked, run_liftExcept, eq_comm]

/-- All checks come before the only step that writes. -/
theorem eq_of_register_error (refused : (register schema).run registry = .error fault next) :
    next = registry := by
  simp only [register, EStateM.run_bind, run_liftExcept] at refused
  cases checked : schema.check with
  | error fault' =>
    rw [checked] at refused
    exact (EStateM.Result.error.inj refused).2.symm
  | ok =>
    cases found : registry.get? schema.identity with
    | none => simp [checked, found] at refused
    | some other =>
      simp only [checked, found, EStateM.run_get] at refused
      exact (EStateM.Result.error.inj refused).2.symm

theorem eq_of_upgrade_error (refused : (upgrade schema).run registry = .error fault next) :
    next = registry := by
  simp only [upgrade, EStateM.run_bind, EStateM.run_get] at refused
  cases found : registry.get? schema.identity with
  | none =>
    rw [found] at refused
    exact (EStateM.Result.error.inj refused).2.symm
  | some current =>
    simp only [found, EStateM.run_bind, run_liftExcept] at refused
    cases checked : checkRevision current schema with
    | error fault' =>
      rw [checked] at refused
      exact (EStateM.Result.error.inj refused).2.symm
    | ok => simp [checked] at refused

theorem get?_append (fresh : registry.get? schema.identity = none) :
    (registry.append schema).get? identity =
      if schema.identity = identity then some schema else registry.get? identity := by
  have found : (registry.append schema).get? identity =
      (registry.get? identity).or (if schema.identity = identity then some schema else none) := by
    simp [get?, append, List.find?_append, List.find?_singleton]
  rw [found]
  by_cases same : schema.identity = identity
  · rw [if_pos same, if_pos same, ← same, fresh, Option.none_or]
  · rw [if_neg same, if_neg same, Option.or_none]

theorem map_identity_replace :
    (registry.replace schema).schemas.map Schema.identity = registry.schemas.map Schema.identity := by
  simp only [replace, List.map_map]
  refine List.map_congr_left fun held _ => ?_
  simp only [Function.comp_apply]
  split
  · rename_i same
    exact same.symm
  · rfl

theorem get?_replace (known : (registry.get? schema.identity).isSome) :
    (registry.replace schema).get? identity =
      if schema.identity = identity then some schema else registry.get? identity := by
  have found : (registry.replace schema).get? identity =
      (registry.get? identity).map fun held =>
        if held.identity = schema.identity then schema else held := by
    simp only [get?, replace, List.find?_map]
    congr 2
    funext held
    simp only [Function.comp_apply]
    split
    · rename_i same
      rw [same]
    · rfl
  rw [found]
  by_cases same : schema.identity = identity
  · obtain ⟨current, present⟩ := Option.isSome_iff_exists.1 known
    rw [if_pos same, ← same, present]
    simp [(identity_of_get? present).2]
  · rw [if_neg same]
    cases present : registry.get? identity with
    | none => rfl
    | some held =>
      have other : held.identity ≠ schema.identity := by
        rw [(identity_of_get? present).2]
        exact Ne.symm same
      simp [other]

theorem get?_of_respond (granted : registry.respond request = .ok () next) :
    next.get? identity =
      if request.schema.identity = identity then some request.schema
      else registry.get? identity := by
  cases request with
  | register schema =>
    obtain ⟨_, fresh, rfl⟩ := register_eq_ok_iff.1 granted
    exact get?_append fresh
  | upgrade schema =>
    obtain ⟨current, present, _, rfl⟩ := upgrade_eq_ok_iff.1 granted
    exact get?_replace (by rw [present]; rfl)

theorem size_of_respond (granted : registry.respond request = .ok () next) :
    next.size = registry.size + request.growth := by
  cases request with
  | register schema =>
    obtain ⟨_, _, rfl⟩ := register_eq_ok_iff.1 granted
    simp [size, append, Request.growth]
  | upgrade schema =>
    obtain ⟨_, _, _, rfl⟩ := upgrade_eq_ok_iff.1 granted
    simp [size, replace, Request.growth]

theorem wellFormed_of_respond (granted : registry.respond request = .ok () next)
    (wellFormed : registry.WellFormed) : next.WellFormed := by
  cases request with
  | register schema =>
    obtain ⟨sound, fresh, rfl⟩ := register_eq_ok_iff.1 granted
    constructor
    · simp only [append, List.map_append, List.map_singleton, List.nodup_append]
      have other := get?_eq_none_iff.1 fresh
      refine ⟨wellFormed.distinct, List.nodup_singleton _, fun held member new fresh => ?_⟩
      rintro rfl
      rw [List.mem_singleton.1 fresh] at member
      exact other member
    · intro held member
      rcases List.mem_append.1 member with member | member
      · exact wellFormed.sound held member
      · rwa [List.mem_singleton.1 member]
  | upgrade schema =>
    obtain ⟨current, _, checked, rfl⟩ := upgrade_eq_ok_iff.1 granted
    constructor
    · rw [map_identity_replace]
      exact wellFormed.distinct
    · intro held member
      obtain ⟨before, member', rfl⟩ := List.mem_map.1 member
      split
      · exact (checkRevision_eq_ok_iff.1 checked).1
      · exact wellFormed.sound before member'

namespace Continues
variable {first second third : Registry}

theorem refl (registry : Registry) : registry.Continues registry :=
  fun _ old found => ⟨old, found, .refl old⟩

theorem trans (near : first.Continues second) (far : second.Continues third) :
    first.Continues third := by
  intro identity old found
  obtain ⟨middle, found', preserved⟩ := near identity old found
  obtain ⟨new, found'', preserved'⟩ := far identity middle found'
  exact ⟨new, found'', preserved.trans preserved'⟩

end Continues

/-- A schema is registered only where there was none, and upgraded only by one that preserves it. -/
theorem continues_of_respond (granted : registry.respond request = .ok () next) :
    registry.Continues next := by
  intro identity old found
  have now : next.get? identity = if request.schema.identity = identity then
      some request.schema else registry.get? identity := get?_of_respond granted
  by_cases same : request.schema.identity = identity
  · rw [if_pos same] at now
    refine ⟨request.schema, now, ?_⟩
    subst same
    cases request with
    | register schema =>
      obtain ⟨_, fresh, _⟩ := register_eq_ok_iff.1 granted
      rw [Request.schema, fresh] at found
      cases found
    | upgrade schema =>
      obtain ⟨current, present, checked, _⟩ := upgrade_eq_ok_iff.1 granted
      rw [Request.schema, present] at found
      cases found
      exact preserves_of_checkRevision checked
  · rw [if_neg same, found] at now
    exact ⟨old, now, .refl old⟩

theorem grants_of_respond (granted : registry.respond request = .ok () next) :
    registry.Grants request next := by
  refine ⟨by simp only [after, granted], ?_, ?_, size_of_respond granted⟩
  · rw [get?_of_respond granted, if_pos rfl]
  · intro identity other
    rw [get?_of_respond granted, if_neg (Ne.symm other)]

theorem after_of_error (refused : registry.respond request = .error fault next) :
    registry.after request = registry := by
  have same : next = registry := by
    cases request with
    | register schema => exact eq_of_register_error refused
    | upgrade schema => exact eq_of_upgrade_error refused
  simp only [after, refused, same]

theorem wellFormed_after (wellFormed : registry.WellFormed) (request : Request) :
    (registry.after request).WellFormed := by
  cases answer : registry.respond request with
  | ok value next =>
    rw [(grants_of_respond answer).stands]
    exact wellFormed_of_respond answer wellFormed
  | error fault next => rwa [after_of_error answer]

theorem continues_after (registry : Registry) (request : Request) :
    registry.Continues (registry.after request) := by
  cases answer : registry.respond request with
  | ok value next =>
    rw [(grants_of_respond answer).stands]
    exact continues_of_respond answer
  | error fault next =>
    rw [after_of_error answer]
    exact .refl registry

theorem wellFormed_run (wellFormed : registry.WellFormed) (requests : List Request) :
    (registry.run requests).WellFormed := by
  induction requests generalizing registry with
  | nil => exact wellFormed
  | cons request rest ih => exact ih (wellFormed_after wellFormed request)

theorem continues_run (registry : Registry) (requests : List Request) :
    registry.Continues (registry.run requests) := by
  induction requests generalizing registry with
  | nil => exact .refl registry
  | cons request rest ih => exact (continues_after registry request).trans (ih _)

theorem run_append (registry : Registry) (earlier later : List Request) :
    registry.run (earlier ++ later) = (registry.run earlier).run later :=
  List.foldl_append

theorem wellFormed_empty : empty.WellFormed := ⟨List.nodup_nil, by simp [empty]⟩

theorem wellFormed_builtin : Outcome.registry.WellFormed := by
  have granted : empty.respond (.register Outcome.schema) = .ok () Outcome.registry :=
    Outcome.register_schema
  exact wellFormed_of_respond granted wellFormed_empty

/-- In every state that a registry goes through, from nothing or from what is built in, all that
stood at any time before still stands, and the next request changes what it names or, refused,
nothing at all. -/
theorem run_keeps_assignments {start : Registry}
    (starts : start = empty ∨ start = Outcome.registry) (earlier later : List Request) :
    (start.run (earlier ++ later)).WellFormed ∧
      (∀ identity schema, (start.run (earlier ++ later)).get? identity = some schema ↔
        schema ∈ (start.run (earlier ++ later)).schemas ∧ schema.identity = identity) ∧
      (start.run earlier).Continues (start.run (earlier ++ later)) ∧
      ∀ request, match (start.run (earlier ++ later)).respond request with
        | .ok _ next => (start.run (earlier ++ later)).Grants request next
        | .error _ _ => (start.run (earlier ++ later)).after request =
            start.run (earlier ++ later) := by
  have initial : start.WellFormed := by
    rcases starts with rfl | rfl
    · exact wellFormed_empty
    · exact wellFormed_builtin
  have wellFormed := wellFormed_run initial (earlier ++ later)
  refine ⟨wellFormed, fun identity schema => wellFormed.get?_eq_some_iff, ?_, fun request => ?_⟩
  · rw [run_append]
    exact continues_run _ later
  · cases answer : (start.run (earlier ++ later)).respond request with
    | ok value next => exact grants_of_respond answer
    | error fault next => exact after_of_error answer

/-- A second revision comes under another split of the name. From then on both its tags are kept. -/
theorem run_keeps_assignments_across_splits :
    let first : Field := ⟨1, "hash", .bytes, false⟩
    let second : Field := ⟨5, "note", .string, false⟩
    let original : Schema := ⟨"a.b", "c", [first]⟩
    let longer : Schema := ⟨"a", "b.c", [second, { first with deprecated := true }]⟩
    let shorter : Schema := ⟨"a", "b.c", [second]⟩
    let later : List Request := [.upgrade longer, .upgrade shorter, .register original]
    (empty.run [.register original]).Continues (empty.run ([.register original] ++ later)) ∧
      (empty.run ([.register original] ++ later)).get? "a.b.c" = some longer := by
  intro first second original longer shorter later
  obtain ⟨_, _, continues, _⟩ := run_keeps_assignments (.inl rfl) [.register original] later
  exact ⟨continues, by decide +kernel⟩

end Registry
end Preimage.Schema
