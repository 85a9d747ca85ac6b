import BrickFormula.Proofs.Evaluation.Footprint

/-!
# Clones

A clone has an empty text wherever a formula has none.  Nothing that looks an element up by its text
can tell the two apart; but a literal without text counts as zero, and one with an empty text as this
text.  So a clone has the value of its formula unless evaluation comes to a literal without text.

    readElements            the elements that an evaluation comes to
    readsAlike_changeTexts  the texts of other elements do not matter
    element_agrees_cloned   only a literal can tell an empty text from none
    clone_keeps_value       clones evaluate like formulas without such literals
-/

namespace BrickFormula.Formula

/-! ## Elements that are read -/

/-- The elements that an evaluation comes to, operands first.  It passes over the left operand of a
bracket, over the left operand of an operator without a right one, and over the operands of leaves
and of elements that name no operator or function. -/
def readElements : Formula → List (Kind × Option String)
  | .empty => []
  | .node kind text left right =>
    (if readsOperands kind text right then left.readElements else []) ++
      (if kind = .bracket ∨ readsOperands kind text right then right.readElements else []) ++
      [(kind, text)]

/-- **The texts of elements that are not read do not matter.** -/
theorem readsAlike_changeTexts {env env' : Environment}
    {f : Kind → Option String → Option String} (t : Formula)
    (h : ∀ kind text, (kind, text) ∈ t.readElements →
      Element.Agrees env env' kind text (f kind text)) :
    t.ReadsAlike env env' (t.changeTexts f) := by
  induction t with
  | empty => exact .empty
  | node kind text left right ihl ihr =>
    unfold readElements at h
    have hempty : right.isEmpty = (right.changeTexts f).isEmpty := by cases right <;> rfl
    refine .node (h kind text (List.mem_append_right _ (List.mem_singleton.mpr rfl))) hempty ?_ ?_
    · intro hreads
      rw [if_pos hreads] at h
      exact ihl fun k s hks => h k s (List.mem_append_left _ (List.mem_append_left _ hks))
    · intro hreads
      rw [if_pos hreads] at h
      exact ihr fun k s hks => h k s (List.mem_append_left _ (List.mem_append_right _ hks))

/-! ## Clones -/

/-- The text of an element of a clone. -/
def clonedText (_ : Kind) (text : Option String) : Option String := some (text.getD "")

/-- A literal without text gets an empty one. -/
def writtenText (kind : Kind) (text : Option String) : Option String :=
  if kind = .number ∨ kind = .string then some (text.getD "") else text

theorem clone_eq_changeTexts (t : Formula) : t.clone = t.changeTexts clonedText := by
  induction t with
  | empty => rfl
  | node kind text left right ihl ihr =>
    rw [clone, changeTexts, ihl, ihr]
    rfl

/-- No operator, function or sensor has an empty name. -/
theorem bind_clonedText {α : Type} (lookup : String → Option α) (h : lookup "" = none) (kind : Kind)
    (text : Option String) : text.bind lookup = (clonedText kind text).bind lookup := by
  cases text with
  | none => exact h.symm
  | some s => rfl

/-- Only a literal can tell an empty text from none. -/
theorem element_agrees_cloned (env : Environment) (kind : Kind) (text : Option String)
    (h : kind = .number ∨ kind = .string → text ≠ none) :
    Element.Agrees env env kind text (clonedText kind text) := by
  constructor
  case literal => exact fun _ => rfl
  case get => exact fun _ => rfl
  case getList? => exact fun _ => rfl
  case operator => exact fun _ => bind_clonedText Operator.ofName? (by decide) kind text
  case function => exact fun _ => bind_clonedText BuiltIn.ofName? (by decide) kind text
  case call => exact fun _ _ _ => ⟨rfl, rfl, fun _ => rfl⟩
  case datum =>
    cases kind with
    | number | string =>
      obtain ⟨s, rfl⟩ := Option.ne_none_iff_exists'.mp (h (by decide))
      rfl
    | sensor =>
      unfold leafDatum
      rw [bind_clonedText Sensor.ofName? (by decide) .sensor text]
    | _ => rfl

theorem writtenText_ne_none {kind : Kind} (h : kind = .number ∨ kind = .string)
    (text : Option String) : writtenText kind text ≠ none := by
  unfold writtenText
  rw [if_pos h]
  exact nofun

theorem clonedText_writtenText (kind : Kind) (text : Option String) :
    clonedText kind (writtenText kind text) = clonedText kind text := by
  unfold writtenText
  split
  · rfl
  · rfl

/-- **Clones keep the value** of a formula, unless an evaluation of it comes to a literal without
text: the outcome is the same, and so are the random numbers drawn, from any count on.  In any
formula, cloning does to an evaluation just what writing an empty text into such literals does. -/
theorem clone_keeps_value (t : Formula) (env : Environment) :
    ((.number, none) ∉ t.readElements → (.string, none) ∉ t.readElements →
      t.clone.evaluate env = t.evaluate env) ∧
    t.clone.evaluate env = (t.changeTexts writtenText).evaluate env := by
  rw [clone_eq_changeTexts]
  constructor
  · intro hnumber hstring
    symm
    refine (readsAlike_changeTexts t fun kind text he => ?_).evaluate_eq rfl
    apply element_agrees_cloned
    rintro (rfl | rfl) rfl
    · exact hnumber he
    · exact hstring he
  · symm
    refine (agrees_of_texts t fun kind text _ => ?_).evaluate_eq rfl
    have h := element_agrees_cloned env kind (writtenText kind text) fun hk =>
      writtenText_ne_none hk text
    rwa [clonedText_writtenText] at h

/-- Three elements without text, around and below the nameless variable, and a literal without one
that nothing reads. -/
def nameless : Formula :=
  .node .bracket none .empty
    (.node .operator (some "PLUS") (.node .userVariable none .empty .empty)
      (.node .function none (.node .number none .empty .empty) .empty))

/-- The nameless variable is one. -/
def namelessStore : Environment :=
  { Environment.bare {} (fun _ => .zero) with store := ⟨fun _ _ => .number .one, fun _ _ => none⟩ }

theorem clone_keeps_value_nameless :
    (.number, none) ∉ nameless.readElements ∧ (.string, none) ∉ nameless.readElements ∧
    ((nameless.evaluate namelessStore).run.run 0).1.toOption = some (.number .one) ∧
    nameless.clone.evaluate namelessStore = nameless.evaluate namelessStore := by
  have hnumber : (.number, none) ∉ nameless.readElements := by decide
  have hstring : (.string, none) ∉ nameless.readElements := by decide
  exact ⟨hnumber, hstring, by decide +kernel,
    (clone_keeps_value nameless namelessStore).1 hnumber hstring⟩

/-- A number without text is zero, and its clone is the empty text. -/
theorem evaluate_clone_blank :
    (((node .number none .empty .empty).evaluate namelessStore).run.run 0).1.toOption =
      some (.number .zero) ∧
    (((node .number none .empty .empty).clone.evaluate namelessStore).run.run 0).1.toOption =
      some (.text "") := by
  decide +kernel

end BrickFormula.Formula
