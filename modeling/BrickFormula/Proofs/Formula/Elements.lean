import BrickFormula.Formula.Names
import Mathlib.Data.List.Basic

/-!
# Elements of a formula

The elements of a formula as a list, in the order in which names and resources are collected; what
is collected is what single elements contribute.

    elements          kinds and texts, operands first, the left one before the right one
    mem_collect       the names of a kind are the texts of its elements
    mem_resources     the resources are those of single elements
-/

namespace BrickFormula.Formula

/-- The kinds and texts of the elements, operands first, the left one before the right one. -/
def elements : Formula → List (Kind × Option String)
  | .empty => []
  | .node kind text left right => left.elements ++ right.elements ++ [(kind, text)]

theorem mem_elements_node {kind k : Kind} {text s : Option String} {left right : Formula} :
    (k, s) ∈ (node kind text left right).elements ↔
      (k, s) ∈ left.elements ∨ (k, s) ∈ right.elements ∨ (k = kind ∧ s = text) := by
  simp only [elements, List.mem_append, List.mem_singleton, Prod.mk.injEq, or_assoc]

/-- Adding what is not there yet. -/
theorem mem_addNew {α : Type} [DecidableEq α] (xs : List α) (x y : α) :
    y ∈ (if x ∈ xs then xs else xs ++ [x]) ↔ y ∈ xs ∨ y = x := by
  by_cases hx : x ∈ xs
  · rw [if_pos hx]
    constructor
    · exact .inl
    · rintro (h | rfl)
      · exact h
      · exact hx
  · rw [if_neg hx]
    simp

/-! ## Names -/

theorem mem_addName (names : List String) (text : Option String) (name : String) :
    name ∈ addName names text ↔ name ∈ names ∨ name = text.getD "" := by
  cases text with
  | none => simp [addName]
  | some s => exact mem_addNew names s name

/-- The collected names are the old ones and the texts of the elements of the kind. -/
theorem mem_collect (k : Kind) (t : Formula) (names : List String) (name : String) :
    name ∈ t.collect k names ↔
      name ∈ names ∨ ∃ text, (k, text) ∈ t.elements ∧ name = text.getD "" := by
  induction t generalizing names with
  | empty => simp [collect, elements]
  | node kind text left right ihl ihr =>
    have hrest : name ∈ right.collect k (left.collect k names) ↔ name ∈ names ∨
        ∃ s, ((k, s) ∈ left.elements ∨ (k, s) ∈ right.elements) ∧ name = s.getD "" := by
      rw [ihr, ihl, or_assoc]
      simp only [or_and_right, exists_or]
    unfold collect
    by_cases hk : kind = k
    · rw [if_pos hk, mem_addName, hrest]
      subst hk
      simp only [mem_elements_node, or_and_right, exists_or, or_assoc]
      simp
    · rw [if_neg hk, hrest]
      have hne : k ≠ kind := Ne.symm hk
      simp only [mem_elements_node, hne, false_and, or_false]

theorem name_mem_variableNames {t : Formula} {text : Option String}
    (h : (.userVariable, text) ∈ t.elements) : text.getD "" ∈ t.variableNames :=
  (mem_collect _ t [] _).mpr (.inr ⟨text, h, rfl⟩)

theorem name_mem_listNames {t : Formula} {text : Option String}
    (h : (.userList, text) ∈ t.elements) : text.getD "" ∈ t.listNames :=
  (mem_collect _ t [] _).mpr (.inr ⟨text, h, rfl⟩)

/-! ## Resources -/

theorem mem_addResource (resources : List Resource) (needed : Option Resource) (r : Resource) :
    r ∈ addResource resources needed ↔ r ∈ resources ∨ needed = some r := by
  cases needed with
  | none => simp [addResource]
  | some r' =>
    rw [Option.some_inj, eq_comm (a := r')]
    exact mem_addNew resources r' r

theorem mem_addResources (t : Formula) (resources : List Resource) (r : Resource) :
    r ∈ t.addResources resources ↔
      r ∈ resources ∨ ∃ kind text, (kind, text) ∈ t.elements ∧ nodeResource? kind text = some r := by
  induction t generalizing resources with
  | empty => simp [addResources, elements]
  | node kind text left right ihl ihr =>
    unfold addResources
    rw [mem_addResource, ihr, ihl]
    simp only [mem_elements_node, or_and_right, exists_or, or_assoc]
    simp

/-- The resources of a formula are what its elements need. -/
theorem mem_resources {t : Formula} {r : Resource} :
    r ∈ t.resources ↔ ∃ kind text, (kind, text) ∈ t.elements ∧ nodeResource? kind text = some r := by
  unfold resources
  rw [mem_addResources]
  simp

end BrickFormula.Formula
