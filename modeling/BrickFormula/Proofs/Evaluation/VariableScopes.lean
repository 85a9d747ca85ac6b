import BrickFormula.Proofs.Evaluation.Membership
import BrickFormula.Proofs.Json.Fields
import BrickFormula.Proofs.Steps
import BrickFormula.Scenario.Document

/-!
# Scopes of variables

A lookup gives what the last call for the name bound in the scope of the sprite, or else what the last
one bound in the project, or else nothing.  Variables and lists do not meet, names do not either, and a
name of a sprite hides the one of the project, whatever is bound there afterwards.

    find?_run             a lookup after calls
    Scenario.Distinct     no name stands twice in a table, as in every scenario of a document
    variables_scoped      lookups after calls, and the variables of scenarios
-/

namespace BrickFormula

/-! ## Calls -/

/-- A call that binds a name in a scope. -/
inductive BindingCall where
  | setVariable (name : String) (value : Datum) (scope : SpriteName)
  | setList (name : String) (items : List Datum) (scope : SpriteName)

namespace BindingCall

def boundVariable? : BindingCall → Option (ScopedName × Datum)
  | setVariable name value scope => some ((scope, name), value)
  | setList .. => none

def boundList? : BindingCall → Option (ScopedName × List Datum)
  | setVariable .. => none
  | setList name items scope => some ((scope, name), items)

end BindingCall

namespace VariableMemory

/-- The memory after a call. -/
def apply (m : VariableMemory) : BindingCall → VariableMemory
  | .setVariable name value scope => m.setVariable name value scope
  | .setList name items scope => m.setList name items scope

/-- The empty memory after calls. -/
def run (calls : List BindingCall) : VariableMemory := calls.foldl apply {}

/-- What the last call for a variable in a scope binds. -/
def lastVariable? (calls : List BindingCall) (scope : SpriteName) (name : String) : Option Datum :=
  last? (calls.filterMap BindingCall.boundVariable?) (scope, name)

/-- What the last call for a list in a scope binds. -/
def lastList? (calls : List BindingCall) (scope : SpriteName) (name : String) :
    Option (List Datum) :=
  last? (calls.filterMap BindingCall.boundList?) (scope, name)

theorem run_concat (calls : List BindingCall) (call : BindingCall) :
    run (calls ++ [call]) = (run calls).apply call := by
  unfold run
  rw [List.foldl_append, List.foldl_cons, List.foldl_nil]

/-- A call binds what it is for, and leaves the rest alone. -/
theorem bound_run (calls : List BindingCall) :
    (run calls).boundVariables = bindAll (calls.filterMap BindingCall.boundVariable?) ∧
    (run calls).boundLists = bindAll (calls.filterMap BindingCall.boundList?) := by
  induction calls using List.reverseRecOn with
  | nil => exact ⟨rfl, rfl⟩
  | append_singleton calls call ih =>
    rw [run_concat, List.filterMap_append, List.filterMap_append]
    cases call with
    | setVariable name value scope =>
      constructor
      · show setField (run calls).boundVariables (scope, name) value =
          bindAll (_ ++ [((scope, name), value)])
        rw [bindAll_concat, ih.1]
      · show (run calls).boundLists = bindAll (_ ++ [])
        rw [List.append_nil, ih.2]
    | setList name items scope =>
      constructor
      · show (run calls).boundVariables = bindAll (_ ++ [])
        rw [List.append_nil, ih.1]
      · show setField (run calls).boundLists (scope, name) items =
          bindAll (_ ++ [((scope, name), items)])
        rw [bindAll_concat, ih.2]

/-- What was bound last for the sprite, or else for the project. -/
theorem find?_run (calls : List BindingCall) (name : String) (sprite : SpriteName) :
    (run calls).findVariable? name sprite =
      (lastVariable? calls sprite name).or (lastVariable? calls none name) ∧
    (run calls).findList? name sprite =
      (lastList? calls sprite name).or (lastList? calls none name) := by
  obtain ⟨hvariables, hlists⟩ := bound_run calls
  unfold findVariable? findList? find? lastVariable? lastList?
  rw [hvariables, hlists]
  simp only [lookup_bindAll, and_self]

theorem get_of_findVariable? {m : VariableMemory} {name : String} {sprite : SpriteName}
    {d : Option Datum} (h : m.findVariable? name sprite = d) :
    m.store.get name sprite = d.getD .absent :=
  congrArg (fun d : Option Datum => d.getD Datum.absent) h

/-- A lookup sees nothing of a call for another name. -/
theorem find?_setField_of_ne {α : Type} (bindings : List (ScopedName × α)) {name other : String}
    (h : name ≠ other) (scope sprite : SpriteName) (a : α) :
    find? (setField bindings (scope, other) a) name sprite = find? bindings name sprite := by
  have hkey (place : SpriteName) : (place, name) ≠ (scope, other) := fun heq => h (Prod.mk.inj heq).2
  unfold find?
  rw [lookup_setField, lookup_setField, if_neg (hkey sprite), if_neg (hkey none)]

/-- What is bound in the project is hidden by a binding of the sprite. -/
theorem find?_setField_of_hidden {α : Type} (bindings : List (ScopedName × α)) (name : String)
    {sprite : String} (h : (bindings.lookup (some sprite, name)).isSome) (a : α) :
    find? (setField bindings (none, name) a) name (some sprite) =
      find? bindings name (some sprite) := by
  obtain ⟨b, hb⟩ := Option.isSome_iff_exists.mp h
  have hkey : (some sprite, name) ≠ ((none, name) : ScopedName) := nofun
  unfold find?
  rw [lookup_setField, if_neg hkey, hb, Option.some_or, Option.some_or]

end VariableMemory

/-! ## Scenarios -/

namespace Scenario
open VariableMemory

/-- The variables of a table in its scope. -/
def inScope (scope : SpriteName) (table : List (String × Value)) : List (ScopedName × Datum) :=
  table.map fun e => ((scope, e.1), .ofValue e.2)

/-- The variables of the project and of the sprites, each in its scope. -/
def scopedVariables (s : Scenario) : List (ScopedName × Datum) :=
  inScope none s.globalVariables ++
    s.localVariables.flatMap fun table => inScope (some table.1) table.2

/-- No name stands twice in a table of variables, and no sprite has two tables. -/
structure Distinct (s : Scenario) : Prop where
  globals : (s.globalVariables.map Prod.fst).Nodup
  sprites : (s.localVariables.map Prod.fst).Nodup
  locals : ∀ table ∈ s.localVariables, (table.2.map Prod.fst).Nodup

/-- The entry for a variable in the table of a scope. -/
def HasEntry (s : Scenario) : SpriteName → String → Value → Prop
  | none, name, v => (name, v) ∈ s.globalVariables
  | some sprite, name, v => ∃ table, (sprite, table) ∈ s.localVariables ∧ (name, v) ∈ table

/-- The entry that is found for a variable in the table of a scope. -/
def entry? (s : Scenario) : SpriteName → String → Option Value
  | none, name => s.globalVariables.lookup name
  | some sprite, name => (s.localVariables.lookup sprite).bind fun table => table.lookup name

/-- The entries of two scenarios with the same evaluating sprite are the same, in whatever order. -/
structure SameEntries (s s' : Scenario) : Prop where
  sprite : s'.sprite = s.sprite
  entry : ∀ scope name v, s'.HasEntry scope name v ↔ s.HasEntry scope name v

/-- The value of a variable: the entry of the evaluating sprite, or else the one of the project, or
else zero. -/
def variableValue (s : Scenario) (name : String) : Value :=
  ((s.entry? s.sprite name).or (s.entry? none name)).elim .zero Value.settled

theorem boundVariables_addVariables (scope : SpriteName) (table : List (String × Value))
    (m : VariableMemory) :
    (addVariables scope m table).boundVariables =
      (inScope scope table).foldl (fun fields e => setField fields e.1 e.2) m.boundVariables := by
  unfold addVariables inScope
  rw [List.foldl_map]
  induction table generalizing m with
  | nil => rfl
  | cons e rest ih => exact ih _

theorem boundVariables_addLists (scope : SpriteName) (lists : List (String × List Value))
    (m : VariableMemory) : (addLists scope m lists).boundVariables = m.boundVariables := by
  unfold addLists
  induction lists generalizing m with
  | nil => rfl
  | cons e rest ih => exact ih _

/-- The memory of a scenario holds its entries, bound one after the other. -/
theorem boundVariables_memory (s : Scenario) :
    s.memory.boundVariables = bindAll s.scopedVariables := by
  have hlists (lists : List (String × List (String × List Value))) (m : VariableMemory) :
      (lists.foldl (fun m table => addLists (some table.1) m table.2) m).boundVariables =
        m.boundVariables := by
    induction lists generalizing m with
    | nil => rfl
    | cons table rest ih => exact (ih _).trans (boundVariables_addLists _ _ _)
  have hlocals (tables : List (String × List (String × Value))) (m : VariableMemory) :
      (tables.foldl (fun m table => addVariables (some table.1) m table.2) m).boundVariables =
        (tables.flatMap fun table => inScope (some table.1) table.2).foldl
          (fun fields e => setField fields e.1 e.2) m.boundVariables := by
    induction tables generalizing m with
    | nil => rfl
    | cons table rest ih =>
      rw [List.foldl_cons, ih, boundVariables_addVariables, List.flatMap_cons, List.foldl_append]
  refine (hlists _ _).trans ((hlocals _ _).trans ?_)
  rw [boundVariables_addLists, boundVariables_addVariables, ← List.foldl_append]
  rfl

theorem map_fst_inScope (scope : SpriteName) (table : List (String × Value)) :
    (inScope scope table).map Prod.fst = (table.map Prod.fst).map (Prod.mk scope) := by
  unfold inScope
  rw [List.map_map, List.map_map]
  rfl

theorem mem_inScope {scope place : SpriteName} {table : List (String × Value)} {name : String}
    {d : Datum} : ((place, name), d) ∈ inScope scope table ↔
      place = scope ∧ ∃ v, (name, v) ∈ table ∧ d = .ofValue v := by
  unfold inScope
  rw [List.mem_map]
  constructor
  · rintro ⟨⟨name, v⟩, hmem, heq⟩
    cases heq
    exact ⟨rfl, v, hmem, rfl⟩
  · rintro ⟨rfl, v, hmem, rfl⟩
    exact ⟨(name, v), hmem, rfl⟩

theorem mem_scopedVariables {s : Scenario} {scope : SpriteName} {name : String} {d : Datum} :
    ((scope, name), d) ∈ s.scopedVariables ↔ ∃ v, s.HasEntry scope name v ∧ d = .ofValue v := by
  unfold scopedVariables
  rw [List.mem_append, List.mem_flatMap]
  simp only [mem_inScope]
  cases scope with
  | none =>
    constructor
    · rintro (⟨-, hv⟩ | ⟨_, -, ⟨⟩, -⟩)
      exact hv
    · exact fun hv => .inl ⟨rfl, hv⟩
  | some sprite =>
    constructor
    · rintro (⟨⟨⟩, -⟩ | ⟨⟨_, table⟩, htable, hsprite, v, hv, hd⟩)
      cases hsprite
      exact ⟨v, ⟨table, htable, hv⟩, hd⟩
    · rintro ⟨v, ⟨table, htable, hv⟩, hd⟩
      exact .inr ⟨_, htable, rfl, v, hv, hd⟩

section
variable {s s' : Scenario} (h : s.Distinct)
include h

/-- Names that are distinct in their tables stay distinct with their scopes. -/
theorem Distinct.nodup_scopedVariables : (s.scopedVariables.map Prod.fst).Nodup := by
  have htable (scope : SpriteName) {table : List (String × Value)}
      (hnames : (table.map Prod.fst).Nodup) : ((inScope scope table).map Prod.fst).Nodup := by
    rw [map_fst_inScope]
    exact hnames.map (Prod.mk_right_injective scope)
  have hscope {scope : SpriteName} {table : List (String × Value)} {key : ScopedName}
      (hkey : key ∈ (inScope scope table).map Prod.fst) : key.1 = scope := by
    rw [map_fst_inScope] at hkey
    obtain ⟨name, -, rfl⟩ := List.mem_map.mp hkey
    rfl
  unfold scopedVariables
  rw [List.map_append, List.map_flatMap, List.nodup_append, List.nodup_flatMap]
  refine ⟨htable none h.globals, ⟨fun table hmem => htable _ (h.locals table hmem), ?_⟩, ?_⟩
  · refine (List.pairwise_map.mp h.sprites).imp fun hne key hkey hkey' => ?_
    exact hne (Option.some.inj ((hscope hkey).symm.trans (hscope hkey')))
  · intro key hkey key' hkey' heq
    obtain ⟨table, -, hkey'⟩ := List.mem_flatMap.mp hkey'
    have hnone := hscope hkey
    rw [heq, hscope hkey'] at hnone
    cases hnone

theorem Distinct.entry?_eq_some_iff (scope : SpriteName) (name : String) (v : Value) :
    s.entry? scope name = some v ↔ s.HasEntry scope name v := by
  cases scope with
  | none => exact lookup_eq_some_iff_mem h.globals name v
  | some sprite =>
    unfold entry? HasEntry
    rw [Option.bind_eq_some_iff]
    refine exists_congr fun table => ?_
    rw [lookup_eq_some_iff_mem h.sprites]
    exact and_congr_right fun hmem => lookup_eq_some_iff_mem (h.locals _ hmem) name v

/-- **The memory of a scenario gives its entries.** -/
theorem Distinct.lookup_memory (scope : SpriteName) (name : String) :
    s.memory.boundVariables.lookup (scope, name) = (s.entry? scope name).map .ofValue := by
  refine Option.ext fun d => ?_
  rw [boundVariables_memory, lookup_bindAll, last?_eq_some_iff_mem h.nodup_scopedVariables,
    mem_scopedVariables, Option.map_eq_some_iff]
  refine exists_congr fun v => ?_
  rw [h.entry?_eq_some_iff, eq_comm]

/-- A variable has its value in a scenario. -/
theorem Distinct.evaluate_variable (settings : Settings) (draw : Nat → Binary64)
    (characters : CharacterNames) (text : Option String) (left right : Formula) :
    (Formula.node .userVariable text left right).evaluate (s.environment settings draw characters) =
      pure (s.variableValue (text.getD "")) := by
  have hfind : s.memory.findVariable? (text.getD "") s.sprite =
      ((s.entry? s.sprite (text.getD "")).or (s.entry? none (text.getD ""))).map .ofValue := by
    unfold findVariable? find?
    rw [h.lookup_memory, h.lookup_memory, Option.map_or]
  have hget : (s.environment settings draw characters).get (text.getD "") =
      (((s.entry? s.sprite (text.getD "")).or (s.entry? none (text.getD ""))).map
        Datum.ofValue).getD .absent := get_of_findVariable? hfind
  have hvalue : ((s.environment settings draw characters).readVariable (text.getD "")).normalize =
      .ok (s.variableValue (text.getD "")) := by
    unfold Environment.readVariable variableValue
    rw [hget]
    cases (s.entry? s.sprite (text.getD "")).or (s.entry? none (text.getD "")) with
    | none => rfl
    | some v => cases v <;> rfl
  rw [Formula.evaluate_leaf _ text left right (by decide) (by simp) (by simp)]
  show Evaluation.ofExcept (Datum.normalize _) = _
  rw [hvalue]
  rfl

theorem SameEntries.variableValue (h' : s'.Distinct) (hsame : s.SameEntries s') (name : String) :
    s'.variableValue name = s.variableValue name := by
  have hentry (scope : SpriteName) : s'.entry? scope name = s.entry? scope name := by
    refine Option.ext fun v => ?_
    rw [h'.entry?_eq_some_iff, h.entry?_eq_some_iff, hsame.entry]
  unfold Scenario.variableValue
  rw [hsame.sprite, hentry, hentry]

end

end Scenario

/-! ## Documents -/

namespace Checked
variable {α β γ : Type}

/-- What the part is, if it is sound, has a property. -/
def Ensures (P : α → Prop) (c : Checked α) : Prop := ∀ x, c = .ok x → P x

theorem Ensures.ap {f : Checked (α → β)} {a : Checked α} {P : α → Prop} {Q : β → Prop}
    (hf : f.Ensures fun g => ∀ x, P x → Q (g x)) (ha : a.Ensures P) : (f.ap a).Ensures Q := by
  intro b hb
  cases f with
  | error => cases hb
  | ok g =>
    cases a with
    | error => cases hb
    | ok x =>
      obtain rfl := Except.ok.inj hb
      exact hf g rfl x (ha x rfl)

theorem Ensures.map {c : Checked α} {f : α → β} {Q : β → Prop} (h : c.Ensures fun x => Q (f x)) :
    Ensures Q (Except.map f c) := by
  intro b hb
  obtain ⟨x, hx, rfl⟩ := map_eq_ok_iff.mp hb
  exact h x hx

/-- Nothing is asked of the part. -/
theorem Ensures.any {f : Checked (α → β)} {a : Checked α} {Q : β → Prop}
    (hf : f.Ensures fun g => ∀ x, Q (g x)) : (f.ap a).Ensures Q :=
  .ap (P := fun _ => True) (fun g hg x _ => hf g hg x) fun _ _ => trivial

theorem both_eq_ok_iff {f : α → β → γ} {a : Checked α} {b : Checked β} {c : γ} :
    both f a b = .ok c ↔ ∃ x y, a = .ok x ∧ b = .ok y ∧ c = f x y := by
  cases a <;> cases b <;> simp [both, eq_comm]

/-- The parts of a sound list are sound. -/
theorem mem_of_all_eq_ok {parts : List (Checked α)} {xs : List α} (h : all parts = .ok xs) {x : α}
    (hx : x ∈ xs) : .ok x ∈ parts := by
  induction parts generalizing xs with
  | nil =>
    cases h
    cases hx
  | cons part rest ih =>
    obtain ⟨y, ys, hpart, hrest, rfl⟩ := both_eq_ok_iff.mp h
    rcases List.mem_cons.mp hx with rfl | hx
    · exact hpart ▸ List.mem_cons_self
    · exact List.mem_cons_of_mem _ (ih hrest hx)

end Checked

namespace Coercion
variable {κ α : Type}

/-- The keys of a table are distinct, and its values have what the reader ensures. -/
theorem ensures_table [DecidableEq κ] (key : KeyReader κ) {reader : Reader α} {P : α → Prop}
    (hreader : ∀ path json, (reader path json).Ensures P) (path : Path) (json : Json) :
    (table key reader path json).Ensures fun entries =>
      (entries.map Prod.fst).Nodup ∧ ∀ e ∈ entries, P e.2 := by
  cases json with
  | object fields =>
    refine .map fun parts hparts => ⟨nodup_bindAll parts, fun e he => ?_⟩
    have hpart := Checked.mem_of_all_eq_ok hparts (mem_of_mem_bindAll he)
    obtain ⟨field, -, hfield⟩ := List.mem_map.mp hpart
    obtain ⟨_, value, -, hvalue, rfl⟩ := Checked.both_eq_ok_iff.mp hfield
    exact hreader _ _ value hvalue
  | _ => exact nofun

theorem ensures_field {reader : Reader α} {default : α} {P : α → Prop}
    (hreader : ∀ path json, (reader path json).Ensures P) (hdefault : P default) (path : Path)
    (name : String) (fields : List (String × Json)) : (field reader default path name fields).Ensures P := by
  unfold field
  cases fields.lookup name with
  | none =>
    intro a ha
    obtain rfl := Except.ok.inj ha
    exact hdefault
  | some json => exact hreader _ json

end Coercion

open Coercion in
/-- **The scenario of a document has distinct names.** -/
theorem Scenario.ensures_distinct (document : Json) :
    (Scenario.ofJson? document).Ensures Distinct := by
  cases document with
  | object fields =>
    have hvalues (path : Path) (json : Json) :
        (table nameKey value path json).Ensures fun t => (t.map Prod.fst).Nodup := fun t ht =>
      (ensures_table nameKey (P := fun _ => True) (fun _ _ _ _ => trivial) path json t ht).1
    have hglobals : (field (table nameKey value) [] [] "variables" fields).Ensures fun t =>
        (t.map Prod.fst).Nodup := ensures_field hvalues (by simp) [] "variables" fields
    have hlocals : (field (table nameKey (table nameKey value)) [] [] "local_variables"
        fields).Ensures fun tables => (tables.map Prod.fst).Nodup ∧
          ∀ e ∈ tables, (e.2.map Prod.fst).Nodup :=
      ensures_field (ensures_table nameKey hvalues) (by simp) [] "local_variables" fields
    unfold ofJson? read
    -- nothing is asked of the fields behind the tables of the sprites, of the lists and the sprite
    iterate 13 refine .any ?_
    refine .ap (.any (.ap (.any ?_) hglobals)) hlocals
    rintro _ ⟨⟩ _ globals hglobals _ tables htables
    intros
    exact ⟨hglobals, htables.1, htables.2⟩
  | _ => exact nofun

/-! ## Lookups -/

namespace VariableMemory
variable {name : String}

theorem get_apply (m : VariableMemory) {call : BindingCall}
    (h : ∀ value scope, call ≠ .setVariable name value scope) (sprite : SpriteName) :
    (m.apply call).store.get name sprite = m.store.get name sprite := by
  refine get_of_findVariable? ?_
  cases call with
  | setVariable other value scope =>
    have hne : name ≠ other := by
      rintro rfl
      exact h value scope rfl
    exact find?_setField_of_ne m.boundVariables hne scope sprite value
  | setList => rfl

theorem getList?_apply (m : VariableMemory) {call : BindingCall}
    (h : ∀ items scope, call ≠ .setList name items scope) (sprite : SpriteName) :
    (m.apply call).store.getList? name sprite = m.store.getList? name sprite := by
  cases call with
  | setVariable => rfl
  | setList other items scope =>
    have hne : name ≠ other := by
      rintro rfl
      exact h items scope rfl
    exact find?_setField_of_ne m.boundLists hne scope sprite items

/-- What lookups give after calls, and what another call changes about them. -/
structure Scoped (calls : List BindingCall) : Prop where
  get : ∀ name sprite, (run calls).store.get name sprite =
    ((lastVariable? calls sprite name).or (lastVariable? calls none name)).getD .absent
  getList? : ∀ name sprite, (run calls).store.getList? name sprite =
    (lastList? calls sprite name).or (lastList? calls none name)
  /-- Calls for lists and for other variables change nothing. -/
  getOther : ∀ call name, (∀ value scope, call ≠ .setVariable name value scope) → ∀ sprite,
    (run (calls ++ [call])).store.get name sprite = (run calls).store.get name sprite
  /-- Calls for variables and for other lists change nothing. -/
  getOtherList? : ∀ call name, (∀ items scope, call ≠ .setList name items scope) → ∀ sprite,
    (run (calls ++ [call])).store.getList? name sprite = (run calls).store.getList? name sprite
  /-- What is bound in the project is not seen through a binding of the sprite. -/
  getHidden : ∀ name sprite, (lastVariable? calls (some sprite) name).isSome → ∀ value,
    (run (calls ++ [.setVariable name value none])).store.get name (some sprite) =
      (run calls).store.get name (some sprite)
  getHiddenList? : ∀ name sprite, (lastList? calls (some sprite) name).isSome → ∀ items,
    (run (calls ++ [.setList name items none])).store.getList? name (some sprite) =
      (run calls).store.getList? name (some sprite)

theorem scoped_run (calls : List BindingCall) : Scoped calls where
  get name sprite := get_of_findVariable? (find?_run calls name sprite).1
  getList? name sprite := (find?_run calls name sprite).2
  getOther call name h sprite := by
    rw [run_concat]
    exact get_apply _ h sprite
  getOtherList? call name h sprite := by
    rw [run_concat]
    exact getList?_apply _ h sprite
  getHidden name sprite h value := by
    rw [run_concat]
    refine get_of_findVariable? (find?_setField_of_hidden _ name ?_ value)
    rwa [(bound_run calls).1, lookup_bindAll]
  getHiddenList? name sprite h items := by
    rw [run_concat]
    refine find?_setField_of_hidden _ name ?_ items
    rwa [(bound_run calls).2, lookup_bindAll]

end VariableMemory

/-- **Variables and lists are scoped.**  After any calls, a lookup gives what the last call for the name
bound in the scope of the sprite, or else what the last one bound in the project, or else nothing.  In a
scenario a variable has the value of its entry for the evaluating sprite, or else of its entry for the
project, or else zero, in whatever order the entries stand; and the names of a document are distinct. -/
theorem variables_scoped :
    (∀ calls, VariableMemory.Scoped calls) ∧
    (∀ s : Scenario, s.Distinct → ∀ settings draw characters text left right,
      (Formula.node .userVariable text left right).evaluate (s.environment settings draw characters) =
        pure (s.variableValue (text.getD ""))) ∧
    (∀ s s' : Scenario, s.Distinct → s'.Distinct → s.SameEntries s' →
      ∀ settings draw characters text left right,
        (Formula.node .userVariable text left right).evaluate
            (s'.environment settings draw characters) =
          (Formula.node .userVariable text left right).evaluate
            (s.environment settings draw characters)) ∧
    ∀ document, (Scenario.ofJson? document).Ensures Scenario.Distinct := by
  refine ⟨VariableMemory.scoped_run, fun s h => h.evaluate_variable, ?_, Scenario.ensures_distinct⟩
  intro s s' h h' hsame settings draw characters text left right
  rw [h.evaluate_variable, h'.evaluate_variable, hsame.variableValue h h']

/-- A score of the cat, one of the dog and one of the project. -/
def scores : Scenario where
  sprite := some "Cat"
  globalVariables := [("score", .text "project"), ("lives", .number (.infinity false))]
  localVariables :=
    [("Dog", [("score", .text "dog")]), ("Cat", [("name", .text "Tom"), ("score", .text "cat")])]

/-- The same scores in another order. -/
def scoresReordered : Scenario where
  sprite := some "Cat"
  globalVariables := [("lives", .number (.infinity false)), ("score", .text "project")]
  localVariables :=
    [("Cat", [("score", .text "cat"), ("name", .text "Tom")]), ("Dog", [("score", .text "dog")])]

theorem variables_scoped_scores :
    scores.Distinct ∧ scoresReordered.Distinct ∧ scores.SameEntries scoresReordered ∧
    (Formula.leaf .userVariable "score").evaluate (scores.environment {} fun _ => .zero) =
      pure (.text "cat") ∧
    (Formula.leaf .userVariable "lives").evaluate (scores.environment {} fun _ => .zero) =
      pure (.number .greatest) ∧
    (Formula.leaf .userVariable "score").evaluate (scoresReordered.environment {} fun _ => .zero) =
      pure (.text "cat") ∧
    (VariableMemory.run [.setVariable "score" (.text "cat") (some "Cat"),
      .setVariable "score" (.text "project") none]).store.get "score" (some "Cat") = .text "cat" := by
  obtain ⟨hscoped, hvalue, horder, -⟩ := variables_scoped
  have h : scores.Distinct := ⟨by decide, by decide, by decide⟩
  have h' : scoresReordered.Distinct := ⟨by decide, by decide, by decide⟩
  have hsame : scores.SameEntries scoresReordered := by
    refine ⟨rfl, fun scope name v => ?_⟩
    cases scope with
    | none => simp [Scenario.HasEntry, scores, scoresReordered, or_comm]
    | some sprite =>
      simp [Scenario.HasEntry, scores, scoresReordered, or_and_right, exists_or, and_assoc, or_comm]
  have hlives : scores.variableValue "lives" = .number .greatest := by decide +kernel
  refine ⟨h, h', hsame, hvalue scores h .., ?_, ?_, ?_⟩
  · exact hlives ▸ hvalue scores h {} (fun _ => .zero) _ (some "lives") .empty .empty
  · exact (horder scores scoresReordered h h' hsame ..).trans (hvalue scores h ..)
  · exact (hscoped [.setVariable "score" (.text "cat") (some "Cat")]).getHidden "score" "Cat" rfl _

end BrickFormula
