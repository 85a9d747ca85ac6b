import BrickFormula.Proofs.Evaluation.Footprint
import BrickFormula.Proofs.Workspace.Texts

/-!
# Renaming keeps the value

A variable or a list gets a new name in a formula, and the store answers under the new name what it
answered under the old one.  Then the formula evaluates as before, whatever the store now answers
under the old name: every function that looks a name up finds the same.

    VariableStore.SameAt      two stores answer the same under a name each
    agrees_changeTexts        a formula agrees with itself under new texts, element by element
    agrees_rename             and so does a renamed formula
    rename_keeps_value        renaming a variable or a list keeps the value
-/

namespace BrickFormula

/-- What one store answers under a name, as a variable or as a list, the other one answers under
another name.  Other kinds of elements do not look names up. -/
def VariableStore.SameAt (sprite : SpriteName) (k : Kind) (store : VariableStore) (name : String)
    (store' : VariableStore) (name' : String) : Prop :=
  match k with
  | .userVariable => store.get name sprite = store'.get name' sprite
  | .userList => store.getList? name sprite = store'.getList? name' sprite
  | _ => True

namespace Formula

variable {env : Environment} {store : VariableStore}

/-! ## One element -/

/-- Elements agree, in environments that differ in their stores, when what they look up is the same
and they have the same text otherwise. -/
theorem element_agrees_of_store {kind : Kind} {text text' : Option String}
    (hsame : env.store.SameAt env.sprite kind (text.getD "") store (text'.getD ""))
    (hother : kind ≠ .userVariable → kind ≠ .userList → text = text') :
    Element.Agrees env { env with store := store } kind text text' := by
  have hget : kind = .userVariable → env.get (text.getD "") =
      Environment.get { env with store := store } (text'.getD "") := by
    rintro rfl
    exact hsame
  have hlist : kind = .userList → env.getList? (text.getD "") =
      Environment.getList? { env with store := store } (text'.getD "") := by
    rintro rfl
    exact hsame
  constructor
  case get => exact hget
  case getList? => exact hlist
  case literal => rintro (rfl | rfl) <;> rw [hother (by decide) (by decide)]
  case operator => rintro rfl; rw [hother (by decide) (by decide)]
  case function => rintro rfl; rw [hother (by decide) (by decide)]
  case call => exact fun _ _ _ => ⟨rfl, rfl, fun _ => rfl⟩
  case datum =>
    cases kind with
    | userVariable => simp only [leafDatum, Environment.readVariable_congr (hget rfl)]
    | userList => simp only [leafDatum, Environment.readList_congr (hlist rfl)]
    | collisionFormula =>
      obtain rfl := hother (by decide) (by decide)
      have hprobe : env.probe (text.getD "") =
          Environment.probe { env with store := store } (text.getD "") :=
        by apply Environment.probe_congr <;> rfl
      simp only [leafDatum, hprobe]
    | _ =>
      obtain rfl := hother (by decide) (by decide)
      rfl

/-! ## All elements -/

/-- Agreement of a formula with the same formula under new texts, element by element. -/
theorem agrees_changeTexts {env' : Environment} (f : Kind → Option String → Option String)
    (t : Formula) (h : ∀ kind text, (kind, text) ∈ t.elements →
      Element.Agrees env env' kind text (f kind text)) : t.Agrees env env' (t.changeTexts f) := by
  have hchanged := agrees_of_texts (f := fun _ text => text) (g := f) t h
  rwa [changeTexts_same] at hchanged

/-- A renamed formula agrees with the old one, where the store answers under the new name what it
answered under the old one, and the same as before under all other names in the formula. -/
theorem agrees_rename (t : Formula) (k : Kind) (hk : k = .userVariable ∨ k = .userList)
    (old new : String) (hold : old ≠ "") (hnew : env.store.SameAt env.sprite k old store new)
    (hrest : ∀ kind, ∀ name ∈ t.collect kind [], (kind = k → name ≠ old) →
      env.store.SameAt env.sprite kind name store name) :
    t.Agrees env { env with store := store } (t.rename k old new) := by
  apply agrees_changeTexts
  intro kind text he
  unfold renamedText
  by_cases hren : kind = k ∧ text = some old
  · obtain ⟨rfl, rfl⟩ := hren
    rw [if_pos ⟨rfl, rfl⟩]
    refine element_agrees_of_store hnew ?_
    intro hvariable hlist
    exact (hk.elim hvariable hlist).elim
  · rw [if_neg hren]
    refine element_agrees_of_store (hrest kind _ ?_ ?_) fun _ _ => rfl
    · exact (mem_collect kind t [] _).mpr (.inr ⟨text, he, rfl⟩)
    · -- an element without text goes by the empty name, which is not the old one
      intro hkind hname
      cases text with
      | none => exact hold hname.symm
      | some s => exact hren ⟨hkind, congrArg some hname⟩

/-- A renamed formula evaluates like the old one, from any count of random numbers on. -/
theorem evaluate_rename (t : Formula) (k : Kind) (hk : k = .userVariable ∨ k = .userList)
    (old new : String) (hold : old ≠ "") (hnew : env.store.SameAt env.sprite k old store new)
    (hrest : ∀ kind, ∀ name ∈ t.collect kind [], (kind = k → name ≠ old) →
      env.store.SameAt env.sprite kind name store name) :
    (t.rename k old new).evaluate { env with store := store } = t.evaluate env := by
  symm
  apply (agrees_rename t k hk old new hold hnew hrest).evaluate_eq
  rfl

/-- **Renaming keeps the value.**  A variable is renamed throughout a formula, and the store answers
under the new name what it answered under the old one, and as before under all other names in the
formula; what it answers under the old name does not matter.  Then the value or the fault is the
same, and so are the random numbers drawn, from any count on.  The same holds of a list.  And where
a formula hangs from an element, renaming in place leaves the renamed formula there. -/
theorem rename_keeps_value (t : Formula) (env : Environment) (store : VariableStore)
    (old new : String) (hold : old ≠ "") :
    (store.get new env.sprite = env.store.get old env.sprite →
      (∀ name ∈ t.variableNames, name ≠ old →
        store.get name env.sprite = env.store.get name env.sprite) →
      (∀ name ∈ t.listNames,
        store.getList? name env.sprite = env.store.getList? name env.sprite) →
      (t.rename .userVariable old new).evaluate { env with store := store } = t.evaluate env) ∧
    (store.getList? new env.sprite = env.store.getList? old env.sprite →
      (∀ name ∈ t.listNames, name ≠ old →
        store.getList? name env.sprite = env.store.getList? name env.sprite) →
      (∀ name ∈ t.variableNames,
        store.get name env.sprite = env.store.get name env.sprite) →
      (t.rename .userList old new).evaluate { env with store := store } = t.evaluate env) ∧
    (∀ (w : Workspace) (n : Handle) (k : Kind), w.formula n = t →
      (w.rename n k old new).formula n = t.rename k old new) := by
  refine ⟨?_, ?_, ?_⟩
  · intro hnew hvariables hlists
    refine evaluate_rename t .userVariable (.inl rfl) old new hold hnew.symm ?_
    intro kind name hname hne
    cases kind with
    | userVariable => exact (hvariables name hname (hne rfl)).symm
    | userList => exact (hlists name hname).symm
    | _ => trivial
  · intro hnew hlists hvariables
    refine evaluate_rename t .userList (.inr rfl) old new hold hnew.symm ?_
    intro kind name hname hne
    cases kind with
    | userVariable => exact (hvariables name hname).symm
    | userList => exact (hlists name hname (hne rfl)).symm
    | _ => trivial
  · rintro w n k rfl
    exact Workspace.formula_rename w n k old new

/-- `JOIN(LENGTH(title), NUMBER_OF_ITEMS(books))`. -/
def shelfLabel : Formula :=
  .node .function (some "JOIN")
    (.node .function (some "LENGTH") (leaf .userVariable "title") .empty)
    (.node .function (some "NUMBER_OF_ITEMS") (leaf .userList "books") .empty)

/-- A title under one name and books under another one, and nothing else. -/
def shelf (title books : String) : VariableStore where
  get name _ := if name = title then .text "Poetry" else .absent
  getList? name _ := if name = books then some [.text "Odes", .text "Sonnets"] else none

def library : Environment :=
  { Environment.bare {} (fun _ => .zero) with store := shelf "title" "books" }

theorem rename_keeps_value_shelf :
    ((shelfLabel.evaluate library).run.run 0).1.toOption = some (.text "62") ∧
    (shelf "headline" "books").get "title" none = .absent ∧
    (shelfLabel.rename .userVariable "title" "headline").evaluate
      { library with store := shelf "headline" "books" } = shelfLabel.evaluate library ∧
    (shelfLabel.rename .userList "books" "volumes").evaluate
      { library with store := shelf "title" "volumes" } = shelfLabel.evaluate library ∧
    ((Workspace.build {} shelfLabel).1.rename 4 .userList "books" "volumes").formula 4 =
      shelfLabel.rename .userList "books" "volumes" := by
  refine ⟨by decide +kernel, rfl, ?_, ?_, ?_⟩
  · refine (rename_keeps_value shelfLabel library _ "title" "headline" (by decide)).1 rfl ?_ ?_
    · intro name hname hne
      exact absurd (List.mem_singleton.mp hname) hne
    · intro name _
      rfl
  · refine (rename_keeps_value shelfLabel library _ "books" "volumes" (by decide)).2.1 rfl ?_ ?_
    · intro name hname hne
      exact absurd (List.mem_singleton.mp hname) hne
    · intro name _
      rfl
  · exact (rename_keeps_value shelfLabel library (shelf "title" "volumes") "books" "volumes"
      (by decide)).2.2 _ 4 .userList (by decide +kernel)

end Formula

end BrickFormula
