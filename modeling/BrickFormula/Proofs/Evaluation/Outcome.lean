import BrickFormula.Proofs.Evaluation.Agreement
import BrickFormula.Proofs.Evaluation.Answers
import BrickFormula.Proofs.Formula.Elements
import BrickFormula.Proofs.Json.Fields
import BrickFormula.Scenario

/-!
# Outcomes of an evaluation

Bad operands, missing bindings and absent devices do not stop an evaluation.  In a scenario every
formula without the layer sensor has a value, which is a text, a finite number or not-a-number; only
the pattern of a search can stop it, and only with the faults of patterns.

    yields_operand       the outcome where the environment answers, by induction on the formula
    environment_answers  the environment of a scenario answers
    evaluate_answers     the outcome in a scenario
-/

namespace BrickFormula

/-! ## Formulas -/

theorem BuiltIn.name_of_ofName? {text : String} {f : BuiltIn} (h : ofName? text = some f) :
    f.name = text := by
  have hname := List.find?_some h
  exact of_decide_eq_true hname

theorem Sensor.name_of_ofName? {text : String} {sensor : Sensor} (h : ofName? text = some sensor) :
    sensor.name = text := by
  have hname := List.find?_some h
  exact of_decide_eq_true hname

namespace Formula
variable {env : Environment}

theorem leafDatum_ok (h : env.Answers) {kind : Kind} {text : Option String}
    (hlayer : (kind, text) ≠ (.sensor, some "OBJECT_LAYER")) :
    ∃ d, leafDatum env kind text = .ok d ∧ d.IsPlain := by
  cases kind with
  | number | string =>
    cases text with
    | none => exact ⟨.absent, rfl, Datum.isPlain_absent⟩
    | some s => exact ⟨.text s, rfl, Datum.isPlain_text s⟩
  | sensor =>
    unfold leafDatum
    simp only
    cases hsensor : text.bind Sensor.ofName? with
    | none => exact ⟨_, rfl, Datum.isPlain_number _⟩
    | some sensor =>
      obtain ⟨s, rfl, hs⟩ := Option.bind_eq_some_iff.mp hsensor
      refine h.readSensor ?_
      rintro rfl
      rw [← Sensor.name_of_ofName? hs] at hlayer
      exact hlayer rfl
  | userVariable => exact ⟨_, rfl, h.readVariable _⟩
  | userList => exact h.readList _
  | collisionFormula => exact ⟨_, rfl, Datum.isPlain_ofValue _⟩
  | bracket | operator | function => exact ⟨.absent, rfl, Datum.isPlain_absent⟩

/-- A fault of a pattern, in a formula that searches for one. -/
def MayStop (t : Formula) (f : Fault) : Prop :=
  f.isOfPattern = true ∧ (.function, some "REGEX") ∈ t.elements

section
variable {kind : Kind} {text : Option String} {left right : Formula}

theorem MayStop.of_left {f : Fault} (h : left.MayStop f) : (node kind text left right).MayStop f :=
  ⟨h.1, mem_elements_node.mpr (.inl h.2)⟩

theorem MayStop.of_right {f : Fault} (h : right.MayStop f) :
    (node kind text left right).MayStop f :=
  ⟨h.1, mem_elements_node.mpr (.inr (.inl h.2))⟩

theorem yields_leaf (h : env.Answers) (hlayer : (kind, text) ≠ (.sensor, some "OBJECT_LAYER"))
    (hbracket : kind ≠ .bracket) (hop : kind = .operator → operatorOf? text = none)
    (hf : kind = .function → text.bind BuiltIn.ofName? = none) :
    ((node kind text left right).operand env).Yields (fun o => ∀ v ∈ o, v.IsSettled)
      (node kind text left right).MayStop := by
  obtain ⟨d, hd, hplain⟩ := leafDatum_ok h hlayer
  rw [operand_leaf env text left right hbracket hop hf]
  exact .bind (Evaluation.yields_ofExcept hd hplain) fun d hplain =>
    Evaluation.yields_normalize hplain

/-- A function that stops is a search, and its element is in the formula. -/
theorem yields_call (h : env.Answers) {f : BuiltIn} (hf : text.bind BuiltIn.ofName? = some f)
    (x y : Argument) :
    (Call.apply env f x y).Yields Datum.IsPlain (node .function text left right).MayStop := by
  obtain ⟨s, rfl, hs⟩ := Option.bind_eq_some_iff.mp hf
  refine (Call.yields_apply h f x y).mono fun fault hfault => ⟨hfault.1, ?_⟩
  rw [hfault.2] at hs
  have hname := congrArg some (BuiltIn.name_of_ofName? hs)
  exact mem_elements_node.mpr (.inr (.inr ⟨rfl, hname⟩))

end

/-- An element has a settled value, or stops where one of its operands or its own search does. -/
theorem yields_operand (h : env.Answers) {t : Formula}
    (hlayer : (.sensor, some "OBJECT_LAYER") ∉ t.elements) :
    (t.operand env).Yields (fun o => ∀ v ∈ o, v.IsSettled) t.MayStop := by
  induction t with
  | empty => exact Evaluation.yields_pure fun v hv => by cases hv
  | node kind text left right ihl ihr =>
    simp only [mem_elements_node, not_or] at hlayer
    obtain ⟨hleft, hright, hroot⟩ := hlayer
    have ihl := (ihl hleft).mono (G := (node kind text left right).MayStop) fun f => .of_left
    have ihr := (ihr hright).mono (G := (node kind text left right).MayStop) fun f => .of_right
    have hroot : (kind, text) ≠ (.sensor, some "OBJECT_LAYER") := by
      rintro ⟨⟩
      exact hroot ⟨rfl, rfl⟩
    cases kind with
    | bracket =>
      rw [operand_bracket]
      exact ihr.bind fun y _ => Evaluation.yields_normalize (Datum.isPlain_ofOption y)
    | operator =>
      cases hop : operatorOf? text with
      | none => exact yields_leaf h hroot (by simp) (fun _ => hop) (by simp)
      | some op =>
        rw [operand_operator env text left right hop]
        split
        · exact Evaluation.yields_normalize (Datum.isPlain_number _)
        · exact ihr.bind fun y _ => ihl.bind fun x _ =>
            Evaluation.yields_normalize (Datum.isPlain_ofValue _)
    | function =>
      cases hf : text.bind BuiltIn.ofName? with
      | none => exact yields_leaf h hroot (by simp) (by simp) (fun _ => hf)
      | some f =>
        rw [operand_function env text left right hf]
        exact ihl.bind fun x _ => ihr.bind fun y _ => (yields_call h hf _ _).bind fun d hd =>
          Evaluation.yields_normalize hd
    | _ => exact yields_leaf h hroot (by simp) (by simp) (by simp)

theorem yields_evaluate (h : env.Answers) {t : Formula}
    (hlayer : (.sensor, some "OBJECT_LAYER") ∉ t.elements) :
    (t.evaluate env).Yields Value.IsSettled t.MayStop := by
  refine (yields_operand h hlayer).bind fun o ho => Evaluation.yields_pure ?_
  cases o with
  | none => exact Value.isSettled_zero
  | some v => exact ho v rfl

end Formula

/-! ## Scenarios -/

/-- All bound variables and list items are texts, numbers, truth values or absent. -/
structure VariableMemory.IsPlain (m : VariableMemory) : Prop where
  boundVariables : ∀ b ∈ m.boundVariables, b.2.IsPlain
  boundLists : ∀ b ∈ m.boundLists, ∀ d ∈ b.2, d.IsPlain

namespace VariableMemory
variable {m : VariableMemory}

theorem isPlain_empty : ({} : VariableMemory).IsPlain :=
  ⟨fun _ hb => absurd hb List.not_mem_nil, fun _ hb => absurd hb List.not_mem_nil⟩

theorem IsPlain.setVariable (h : m.IsPlain) (name : String) (value : Value) (scope : SpriteName) :
    (m.setVariable name (.ofValue value) scope).IsPlain := by
  refine ⟨fun b hb => ?_, h.boundLists⟩
  rcases mem_setField hb with hb | rfl
  · exact h.boundVariables b hb
  · exact Datum.isPlain_ofValue value

theorem IsPlain.setList (h : m.IsPlain) (name : String) (items : List Value) (scope : SpriteName) :
    (m.setList name (items.map .ofValue) scope).IsPlain := by
  refine ⟨h.boundVariables, fun b hb => ?_⟩
  rcases mem_setField hb with hb | rfl
  · exact h.boundLists b hb
  · intro d hd
    obtain ⟨value, -, rfl⟩ := List.mem_map.mp hd
    exact Datum.isPlain_ofValue value

/-- What is found was bound, in one scope or the other. -/
theorem mem_of_find? {α : Type} {bindings : List (ScopedName × α)} {name : String}
    {sprite : SpriteName} {a : α} (h : find? bindings name sprite = some a) :
    ∃ scope, (scope, a) ∈ bindings := by
  rcases Option.or_eq_some_iff.mp h with h | ⟨-, h⟩
  all_goals
    obtain ⟨before, after, rfl, -⟩ := List.lookup_eq_some_iff.mp h
    exact ⟨_, List.mem_append_right _ List.mem_cons_self⟩

theorem IsPlain.get (h : m.IsPlain) (name : String) (sprite : SpriteName) :
    (m.store.get name sprite).IsPlain := by
  change ((m.findVariable? name sprite).getD .absent).IsPlain
  cases hfind : m.findVariable? name sprite with
  | none => exact Datum.isPlain_absent
  | some d =>
    obtain ⟨scope, hmem⟩ := mem_of_find? hfind
    exact h.boundVariables _ hmem

theorem IsPlain.getList? (h : m.IsPlain) {name : String} {sprite : SpriteName} {items : List Datum}
    (hfind : m.store.getList? name sprite = some items) : ∀ d ∈ items, d.IsPlain := by
  obtain ⟨scope, hmem⟩ := mem_of_find? hfind
  exact h.boundLists _ hmem

end VariableMemory

namespace Scenario

theorem isPlain_addVariables {m : VariableMemory} (h : m.IsPlain) (scope : SpriteName)
    (bindings : List (String × Value)) : (addVariables scope m bindings).IsPlain :=
  List.foldlRecOn bindings _ h fun _ hm b _ => hm.setVariable b.1 b.2 scope

theorem isPlain_addLists {m : VariableMemory} (h : m.IsPlain) (scope : SpriteName)
    (lists : List (String × List Value)) : (addLists scope m lists).IsPlain :=
  List.foldlRecOn lists _ h fun _ hm b _ => hm.setList b.1 b.2 scope

theorem isPlain_memory (s : Scenario) : s.memory.IsPlain := by
  have hglobal : (addLists none (addVariables none {} s.globalVariables) s.globalLists).IsPlain :=
    isPlain_addLists (isPlain_addVariables VariableMemory.isPlain_empty _ _) _ _
  unfold memory
  refine List.foldlRecOn s.localLists _ ?_ fun _ hm b _ => isPlain_addLists hm _ b.2
  exact List.foldlRecOn s.localVariables _ hglobal fun _ hm b _ => isPlain_addVariables hm _ b.2

/-- Documents hold no whole numbers beyond binary64, and no test for a collision and no reading of a
board fails. -/
theorem environment_answers (s : Scenario) {settings : Settings} {draw : Nat → Binary64}
    (characters : CharacterNames)
    (hepsilon : settings.integerEpsilon.le .one = true)
    (hdraw : ∀ n, Binary64.zero.le (draw n) = true ∧ (draw n).lt .one = true) :
    (s.environment settings draw characters).Answers where
  get name := s.isPlain_memory.get name s.sprite
  getList? _ _ hitems := s.isPlain_memory.getList? hitems
  touchesEdge := ⟨_, rfl⟩
  collidesWithFinger := ⟨_, rfl⟩
  arduino board hboard n := by
    obtain ⟨pins, -, rfl⟩ := Option.map_eq_some_iff.mp hboard
    exact ⟨⟨_, rfl⟩, _, rfl⟩
  epsilon := hepsilon
  draw n := Binary64.within_of_lt_one (hdraw n).1 (hdraw n).2

end Scenario

namespace Formula

/-- **Only the pattern of a search can stop an evaluation.**  In every scenario, a formula without
the layer sensor, whatever its shape and its texts, has a value that is a text, a finite number or
not-a-number; or else it searches for a pattern, and stops with a fault of patterns. -/
theorem evaluate_answers (s : Scenario) {settings : Settings} {draw : Nat → Binary64}
    (characters : CharacterNames) {t : Formula}
    (hlayer : (.sensor, some "OBJECT_LAYER") ∉ t.elements)
    (hepsilon : settings.integerEpsilon.le .one = true)
    (hdraw : ∀ n, Binary64.zero.le (draw n) = true ∧ (draw n).lt .one = true) :
    (t.evaluate (s.environment settings draw characters)).Yields Value.IsSettled t.MayStop :=
  yields_evaluate (s.environment_answers characters hepsilon hdraw) hlayer

/-- A die of infinitely many sides. -/
def endlessDie : Formula :=
  .node .function (some "RAND") (.node .number (some "1") .empty .empty)
    (.node .number (some "1e999") .empty .empty)

theorem evaluate_answers_endlessDie :
    (endlessDie.evaluate (Scenario.environment {} {} fun _ => .zero)).Yields Value.IsSettled
      endlessDie.MayStop :=
  evaluate_answers {} _ (by decide) (by decide +kernel) fun _ => by decide +kernel

/-- A search for a pattern that asks for ASCII and for Unicode matching. -/
def conflictingSearch : Formula :=
  .node .function (some "REGEX") (.node .string (some "(?a)(?u)") .empty .empty)
    (.node .string (some "x") .empty .empty)

/-- Not every flaw of a pattern is reported as its own result, or is a repetition that is too
large. -/
theorem evaluate_conflictingSearch :
    ((conflictingSearch.evaluate (Scenario.environment {} {} fun _ => .zero)).run.run 0).1 =
      .error .conflictingPatternFlags := by
  decide +kernel

end Formula

end BrickFormula
