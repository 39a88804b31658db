import Mathlib.Data.List.TakeWhile
import Preimage.Text.Basic

/-! What is left of a text without the blanks around it, which is its one part with nothing but
blanks on both sides and none at its own ends. -/
namespace Preimage.Text
variable {text core front back : List Char}

/-- Blanks stand on both sides of a core that neither begins nor ends with one. -/
structure Pads (front core back : List Char) : Prop where
  blankFront : ∀ c ∈ front, isBlank c = true
  first : ∀ c ∈ core.head?, isBlank c = false
  last : ∀ c ∈ core.getLast?, isBlank c = false
  blankBack : ∀ c ∈ back, isBlank c = true

theorem Pads.of_visible (blankFront : ∀ c ∈ front, isBlank c = true)
    (visible : ∀ c ∈ core, isBlank c = false) (blankBack : ∀ c ∈ back, isBlank c = true) :
    Pads front core back where
  blankFront := blankFront
  first := fun c first => visible c (List.mem_of_mem_head? first)
  last := fun c last => visible c (List.mem_of_getLast? last)
  blankBack := blankBack

theorem not_isBlank_of_mem_head?_dropWhile (text : List Char) :
    ∀ c ∈ (text.dropWhile isBlank).head?, isBlank c = false := by
  intro c first
  have stop := List.head?_dropWhile_not isBlank text
  rwa [Option.mem_def.1 first] at stop

theorem dropWhile_isBlank_of_head? (first : ∀ c ∈ core.head?, isBlank c = false) :
    core.dropWhile isBlank = core := by
  cases core with
  | nil => rfl
  | cons c rest =>
    have visible : isBlank c = false := first c rfl
    exact List.dropWhile_cons_of_neg (by simp [visible])

theorem exists_pads_trimList (text : List Char) :
    ∃ front back, text = front ++ (trimList text ++ back) ∧ Pads front (trimList text) back := by
  -- The blanks at the end are those at the front of the reversed rest.
  let rest := text.dropWhile isBlank
  have split : rest = trimList text ++ (rest.reverse.takeWhile isBlank).reverse := by
    rw [trimList, ← List.reverse_append, List.takeWhile_append_dropWhile, List.reverse_reverse]
  refine ⟨text.takeWhile isBlank, (rest.reverse.takeWhile isBlank).reverse, ?_, ?_, ?_, ?_, ?_⟩
  · rw [← split, List.takeWhile_append_dropWhile]
  · intro c member
    exact List.mem_takeWhile_imp member
  · intro c first
    refine not_isBlank_of_mem_head?_dropWhile text c ?_
    change c ∈ rest.head?
    rw [split, List.head?_append, Option.mem_def.1 first]
    rfl
  · intro c last
    refine not_isBlank_of_mem_head?_dropWhile rest.reverse c ?_
    rwa [trimList, List.getLast?_reverse] at last
  · intro c member
    exact List.mem_takeWhile_imp (List.mem_reverse.1 member)

theorem Pads.trimList_eq (pads : Pads front core back) :
    trimList (front ++ (core ++ back)) = core := by
  rw [trimList, List.dropWhile_append_of_pos pads.blankFront]
  cases core with
  | nil =>
    rw [List.nil_append, List.dropWhile_eq_nil_iff.2 pads.blankBack]
    rfl
  | cons c rest =>
    have head : ∀ d ∈ (c :: rest ++ back).head?, isBlank d = false := by
      intro d first
      exact pads.first d first
    have tail : ∀ d ∈ (c :: rest).reverse.head?, isBlank d = false := by
      rw [List.head?_reverse]
      exact pads.last
    rw [dropWhile_isBlank_of_head? head, List.reverse_append,
      List.dropWhile_append_of_pos fun d member => pads.blankBack d (List.mem_reverse.1 member),
      dropWhile_isBlank_of_head? tail, List.reverse_reverse]

/-- A text without blanks is left as it is. -/
theorem trimList_of_visible (visible : ∀ c ∈ core, isBlank c = false) : trimList core = core := by
  have pads : Pads [] core [] := .of_visible (by simp) visible (by simp)
  have kept := pads.trimList_eq
  rwa [List.nil_append, List.append_nil] at kept

theorem trimList_eq_iff :
    trimList text = core ↔ ∃ front back, text = front ++ (core ++ back) ∧ Pads front core back := by
  constructor
  · rintro rfl
    exact exists_pads_trimList text
  · rintro ⟨front, back, rfl, pads⟩
    exact pads.trimList_eq

end Preimage.Text
