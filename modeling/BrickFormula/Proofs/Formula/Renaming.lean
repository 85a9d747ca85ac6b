import BrickFormula.Formula.Token
import BrickFormula.Proofs.Formula.Elements
import BrickFormula.Proofs.Workspace.Build
import BrickFormula.Proofs.Workspace.Texts

/-!
# What a renaming changes

A renaming touches the elements of one kind that have the old name as their text, and nothing else: no
other element, no operand, and none of the analyses but the one that tells the names of this kind.  It
can be undone when no element of the kind had the new name before.

    contentAt? path t    kind and text of the element at the end of a path
    eq_of_contentAt?     the elements at all paths determine a formula
    Renamed k old new    what may differ between a formula and the renamed one
    rename_exact         and renaming does just that, also in place
-/

namespace BrickFormula.Formula

/-! ## Elements at paths -/

/-- Kind and text of the element at the end of a path, if there is one. -/
def contentAt? : List Side → Formula → Option (Kind × Option String)
  | _, .empty => none
  | [], .node kind text _ _ => some (kind, text)
  | side :: path, t => contentAt? path (t.operandOn side)

/-- **The elements at all paths determine a formula.** -/
theorem eq_of_contentAt? {t s : Formula} (h : ∀ path, contentAt? path t = contentAt? path s) :
    t = s := by
  induction t generalizing s with
  | empty =>
    cases s with
    | empty => rfl
    | node => cases h []
  | node kind text left right ihl ihr =>
    cases s with
    | empty => cases h []
    | node kind' text' left' right' =>
      obtain ⟨rfl, rfl⟩ := Prod.mk.inj (Option.some.inj (h []))
      obtain rfl : left = left' := ihl fun path => h (.left :: path)
      obtain rfl : right = right' := ihr fun path => h (.right :: path)
      rfl

/-- An element at a path is one of the elements. -/
theorem mem_elements_of_contentAt? {content : Kind × Option String} {path : List Side} {t : Formula}
    (h : contentAt? path t = some content) : content ∈ t.elements := by
  induction path generalizing t with
  | nil =>
    cases t with
    | empty => cases h
    | node kind text left right =>
      obtain rfl := Option.some.inj h
      exact mem_elements_node.mpr (.inr (.inr ⟨rfl, rfl⟩))
  | cons side path ih =>
    cases t with
    | empty => cases h
    | node kind text left right =>
      cases side with
      | left => exact mem_elements_node.mpr (.inl (ih h))
      | right => exact mem_elements_node.mpr (.inr (.inl (ih h)))

/-! ## New texts -/

section
variable (f : Kind → Option String → Option String)

theorem contentAt?_changeTexts (path : List Side) (t : Formula) :
    contentAt? path (t.changeTexts f) =
      (contentAt? path t).map fun content => (content.1, f content.1 content.2) := by
  induction path generalizing t with
  | nil => cases t <;> rfl
  | cons side path ih =>
    cases t with
    | empty => rfl
    | node kind text left right => cases side <;> exact ih _

theorem elements_changeTexts (t : Formula) :
    (t.changeTexts f).elements =
      t.elements.map fun content => (content.1, f content.1 content.2) := by
  induction t with
  | empty => rfl
  | node kind text left right ihl ihr => simp [changeTexts, elements, ihl, ihr]

/-- Names of a kind whose texts stay. -/
theorem collect_changeTexts {k : Kind} (h : ∀ text, f k text = text) (t : Formula)
    (names : List String) : (t.changeTexts f).collect k names = t.collect k names := by
  induction t generalizing names with
  | empty => rfl
  | node kind text left right ihl ihr =>
    simp only [changeTexts, collect, ihl, ihr]
    by_cases hk : kind = k
    · rw [hk, h]
    · rw [if_neg hk, if_neg hk]

theorem probes_changeTexts (h : ∀ text, f .collisionFormula text = text) (t : Formula)
    (target : String) : (t.changeTexts f).probes target = t.probes target := by
  induction t with
  | empty => rfl
  | node kind text left right ihl ihr =>
    simp only [changeTexts, probes, ihl, ihr]
    by_cases hk : kind = .collisionFormula
    · rw [hk, h]
    · simp [hk]

theorem addResources_changeTexts
    (h : ∀ kind text, nodeResource? kind (f kind text) = nodeResource? kind text) (t : Formula)
    (resources : List Resource) :
    (t.changeTexts f).addResources resources = t.addResources resources := by
  induction t generalizing resources with
  | empty => rfl
  | node kind text left right ihl ihr => simp only [changeTexts, addResources, ihl, ihr, h]

theorem hasKind_changeTexts (t : Formula) (kind : Kind) :
    (t.changeTexts f).hasKind kind = t.hasKind kind := by
  induction t with
  | empty => rfl
  | node kind' text left right ihl ihr => simp only [changeTexts, hasKind, ihl, ihr]

/-- The kinds of tokens, if there are tokens. -/
def tokenKinds (tokens : Option (List Token)) : Option (List TokenKind) :=
  tokens.map (List.map Token.kind)

theorem map_kind_getD {tokens tokens' : Option (List Token)}
    (h : tokenKinds tokens = tokenKinds tokens') :
    (tokens.getD []).map Token.kind = (tokens'.getD []).map Token.kind := by
  have hkinds := congrArg (fun kinds => kinds.getD []) h
  cases tokens <;> cases tokens' <;> exact hkinds

/-- The brackets and the delimiter of a call depend on which arguments there are. -/
theorem map_kind_callTokens {text text' : String} {left left' right right' : Option (List Token)}
    (hl : tokenKinds left = tokenKinds left') (hr : tokenKinds right = tokenKinds right') :
    (callTokens text left right).map Token.kind =
      (callTokens text' left' right').map Token.kind := by
  have hopened (kind : TokenKind) {tokens tokens' : Option (List Token)}
      (h : tokenKinds tokens = tokenKinds tokens') :
      (tokens.elim [] fun tokens => ⟨kind, ""⟩ :: tokens).map Token.kind =
        (tokens'.elim [] fun tokens => ⟨kind, ""⟩ :: tokens).map Token.kind := by
    have hkinds := congrArg (fun kinds => kinds.elim [] (kind :: ·)) h
    cases tokens <;> cases tokens' <;> exact hkinds
  have hclosed : (left.elim [] fun _ => [⟨.functionParametersBracketClose, ""⟩]).map Token.kind =
      (left'.elim [] fun _ => [⟨.functionParametersBracketClose, ""⟩]).map Token.kind := by
    have hkinds := congrArg
      (fun kinds => kinds.elim [] fun _ => [TokenKind.functionParametersBracketClose]) hl
    cases left <;> cases left' <;> exact hkinds
  unfold callTokens
  simp only [List.map_append, List.map_cons, hopened _ hl, hopened _ hr, hclosed]

/-- The kinds of the tokens of an element do not depend on texts. -/
theorem map_kind_nodeTokens (kind : Kind) {text text' : String}
    {left left' right right' : Option (List Token)} (hl : tokenKinds left = tokenKinds left')
    (hr : tokenKinds right = tokenKinds right') :
    (nodeTokens kind text left right).map Token.kind =
      (nodeTokens kind text' left' right').map Token.kind := by
  cases kind with
  | bracket => simp only [nodeTokens, List.map_append, List.map_cons, map_kind_getD hr]
  | operator =>
    simp only [nodeTokens, operatorTokens, List.map_append, List.map_cons, map_kind_getD hl,
      map_kind_getD hr]
  | function => exact map_kind_callTokens hl hr
  | _ => rfl

theorem tokenKinds_changeTexts (t : Formula) :
    tokenKinds (t.changeTexts f).tokens? = tokenKinds t.tokens? := by
  induction t with
  | empty => rfl
  | node kind text left right ihl ihr => exact congrArg some (map_kind_nodeTokens kind ihl ihr)

end

theorem probes_iff (t : Formula) (target : String) :
    t.probes target = true ↔ (.collisionFormula, some target) ∈ t.elements := by
  induction t with
  | empty => simp [probes, elements]
  | node kind text left right ihl ihr =>
    simp only [probes, Bool.or_eq_true, ihl, ihr, mem_elements_node,
      Bool.and_eq_true, decide_eq_true_eq, or_assoc, eq_comm (a := text), eq_comm (a := kind)]

/-! ## One name for another -/

section
variable {k : Kind} {old new : String}

theorem renamedText_old : renamedText k old new k (some old) = some new := if_pos ⟨rfl, rfl⟩

theorem renamedText_of_ne {kind : Kind} {text : Option String} (h : (kind, text) ≠ (k, some old)) :
    renamedText k old new kind text = text := by
  unfold renamedText
  rw [if_neg]
  rintro ⟨rfl, rfl⟩
  exact h rfl

/-- The names that fulfil `P`, with the new one for the old one. -/
def Replaced (old new : String) (P : String → Prop) (name : String) : Prop :=
  name = new ∧ P old ∨ name ≠ old ∧ P name

/-- What may differ between a formula and the renamed one. -/
structure Renamed (k : Kind) (old new : String) (t t' : Formula) : Prop where
  /-- No element of the kind has the old name. -/
  gone : ∀ path, contentAt? path t' ≠ some (k, some old)
  renamed : ∀ path, contentAt? path t = some (k, some old) →
    contentAt? path t' = some (k, some new)
  /-- All other elements stay, and so do the places without an element. -/
  kept : ∀ path, contentAt? path t ≠ some (k, some old) → contentAt? path t' = contentAt? path t
  names : ∀ name, name ∈ t'.collect k [] ↔ Replaced old new (· ∈ t.collect k []) name
  probes : k = .collisionFormula →
    ∀ name, t'.probes name = true ↔ Replaced old new (t.probes · = true) name
  otherNames : ∀ k', k' ≠ k → ∀ names, t'.collect k' names = t.collect k' names
  otherProbes : k ≠ .collisionFormula → ∀ name, t'.probes name = t.probes name
  resources : ∀ resources, t'.addResources resources = t.addResources resources
  kinds : ∀ kind, t'.hasKind kind = t.hasKind kind
  tokens : t'.tokens.map Token.kind = t.tokens.map Token.kind
  /-- A new name that was fresh can be taken back. -/
  undone : (k, some new) ∉ t.elements → t'.rename k new old = t

variable (k old new) in
theorem contentAt?_rename (path : List Side) (t : Formula) :
    contentAt? path (t.rename k old new) =
      if contentAt? path t = some (k, some old) then some (k, some new) else contentAt? path t := by
  unfold rename
  rw [contentAt?_changeTexts]
  cases h : contentAt? path t with
  | none => rfl
  | some content =>
    obtain ⟨kind, text⟩ := content
    rw [Option.map_some]
    split
    · next hold =>
      obtain ⟨rfl, rfl⟩ := Prod.mk.inj (Option.some.inj hold)
      rw [renamedText_old]
    · next hold => rw [renamedText_of_ne fun heq => hold (congrArg some heq)]

/-- The elements of the kind after the renaming. -/
theorem mem_elements_rename (t : Formula) (text : Option String) :
    (k, text) ∈ (t.rename k old new).elements ↔
      text = some new ∧ (k, some old) ∈ t.elements ∨ text ≠ some old ∧ (k, text) ∈ t.elements := by
  unfold rename
  rw [elements_changeTexts, List.mem_map]
  constructor
  · rintro ⟨⟨kind, before⟩, hmem, heq⟩
    obtain ⟨rfl, rfl⟩ := Prod.mk.inj heq
    by_cases hold : before = some old
    · subst hold
      exact .inl ⟨renamedText_old, hmem⟩
    · have hkeep : renamedText kind old new kind before = before :=
        renamedText_of_ne fun h => hold (Prod.mk.inj h).2
      simp only [hkeep]
      exact .inr ⟨hold, hmem⟩
  · rintro (⟨rfl, hmem⟩ | ⟨hold, hmem⟩)
    · exact ⟨_, hmem, congrArg (Prod.mk k) renamedText_old⟩
    · exact ⟨_, hmem, congrArg (Prod.mk k) (renamedText_of_ne fun h => hold (Prod.mk.inj h).2)⟩

theorem mem_collect_rename (hold : old ≠ "") (t : Formula) (name : String) :
    name ∈ (t.rename k old new).collect k [] ↔ Replaced old new (· ∈ t.collect k []) name := by
  unfold Replaced
  simp only [mem_collect, List.not_mem_nil, false_or, mem_elements_rename]
  constructor
  · rintro ⟨text, ⟨rfl, hmem⟩ | ⟨htext, hmem⟩, rfl⟩
    · exact .inl ⟨rfl, some old, hmem, rfl⟩
    · refine .inr ⟨?_, text, hmem, rfl⟩
      -- an element without text goes by the empty name, which is not the old one
      cases text with
      | none => exact hold.symm
      | some s => exact fun h => htext (congrArg some h)
  · rintro (⟨rfl, text, hmem, hname⟩ | ⟨hname, text, hmem, rfl⟩)
    · cases text with
      | none => exact absurd hname hold
      | some s =>
        obtain rfl : old = s := hname
        exact ⟨some name, .inl ⟨rfl, hmem⟩, rfl⟩
    · refine ⟨text, .inr ⟨?_, hmem⟩, rfl⟩
      rintro rfl
      exact hname rfl

theorem probes_rename (t : Formula) (name : String) :
    (t.rename .collisionFormula old new).probes name = true ↔
      Replaced old new (t.probes · = true) name := by
  unfold Replaced
  simp only [probes_iff, mem_elements_rename, Option.some.injEq, ne_eq]

/-- Renaming does not touch elements of another kind. -/
theorem renamedText_of_kind_ne {kind : Kind} (h : kind ≠ k) (text : Option String) :
    renamedText k old new kind text = text :=
  renamedText_of_ne fun heq => h (Prod.mk.inj heq).1

/-- Only the texts of functions and sensors tell what they need. -/
theorem nodeResource?_renamedText (hfunction : k ≠ .function) (hsensor : k ≠ .sensor) (kind : Kind)
    (text : Option String) :
    nodeResource? kind (renamedText k old new kind text) = nodeResource? kind text := by
  cases kind with
  | function => rw [renamedText_of_kind_ne hfunction.symm]
  | sensor => rw [renamedText_of_kind_ne hsensor.symm]
  | _ => rfl

/-- **A fresh name can be taken back.** -/
theorem rename_rename (t : Formula) (hfresh : (k, some new) ∉ t.elements) :
    (t.rename k old new).rename k new old = t := by
  apply eq_of_contentAt?
  intro path
  rw [contentAt?_rename, contentAt?_rename]
  by_cases hold : contentAt? path t = some (k, some old)
  · rw [if_pos hold, if_pos rfl, hold]
  · rw [if_neg hold, if_neg fun hnew => hfresh (mem_elements_of_contentAt? hnew)]

theorem renamed_rename (hfunction : k ≠ .function) (hsensor : k ≠ .sensor) (hold : old ≠ "")
    (hne : old ≠ new) (t : Formula) : Renamed k old new t (t.rename k old new) where
  gone path h := by
    rw [contentAt?_rename] at h
    split at h
    · exact hne (Option.some.inj (Prod.mk.inj (Option.some.inj h)).2).symm
    · next hkeep => exact hkeep h
  renamed path h := by rw [contentAt?_rename, if_pos h]
  kept path h := by rw [contentAt?_rename, if_neg h]
  names := mem_collect_rename hold t
  probes hk := by
    subst hk
    exact probes_rename t
  otherNames k' hk' := collect_changeTexts _ (renamedText_of_kind_ne hk') t
  otherProbes hk := probes_changeTexts _ (renamedText_of_kind_ne hk.symm) t
  resources := addResources_changeTexts _ (nodeResource?_renamedText hfunction hsensor) t
  kinds := hasKind_changeTexts _ t
  tokens := map_kind_getD (tokenKinds_changeTexts _ t)
  undone := rename_rename t

end

/-- The kinds of elements that can be renamed. -/
def renamable : List Kind := [.userVariable, .userList, .collisionFormula]

/-- **Renaming touches what it names, and nothing else.**  The old name of a variable, a list or a
collision target is gone, the elements that had it have the new one, and all other elements stay.  In
the names of the kind the new one takes the place of the old one, and no other analysis changes.  If
the new name was fresh, renaming it back gives the formula as it was.  Where the formula hangs from an
element, renaming in place leaves the renamed one there. -/
theorem rename_exact (t : Formula) (k : Kind) (hk : k ∈ renamable) (old new : String)
    (hold : old ≠ "") (hne : old ≠ new) :
    Renamed k old new t (t.rename k old new) ∧
    ∀ (w : Workspace) (n : Handle), w.formula n = t →
      (w.rename n k old new).formula n = t.rename k old new := by
  have hfunction : k ≠ .function := by
    rintro rfl
    revert hk
    decide
  have hsensor : k ≠ .sensor := by
    rintro rfl
    revert hk
    decide
  refine ⟨renamed_rename hfunction hsensor hold hne t, ?_⟩
  rintro w n rfl
  exact Workspace.formula_rename w n k old new

/-- A variable, a list and a collision target of one name, and a variable without text. -/
def dogTrouble : Formula :=
  .node .operator (some "LOGICAL_OR") (leaf .collisionFormula "Dog")
    (.node .function (some "CONTAINS") (leaf .userList "Dog")
      (.node .operator (some "PLUS") (leaf .userVariable "Dog")
        (.node .userVariable none .empty .empty)))

theorem rename_exact_dogTrouble :
    "Dog" ∉ (dogTrouble.rename .userVariable "Dog" "Cat").variableNames ∧
    "Cat" ∈ (dogTrouble.rename .userVariable "Dog" "Cat").variableNames ∧
    (dogTrouble.rename .userVariable "Dog" "Cat").listNames = ["Dog"] ∧
    (dogTrouble.rename .collisionFormula "Dog" "Wolf").rename .collisionFormula "Wolf" "Dog" =
      dogTrouble ∧
    ((Workspace.build {} dogTrouble).1.rename 6 .userList "Dog" "Cat").formula 6 =
      dogTrouble.rename .userList "Dog" "Cat" := by
  obtain ⟨hvariable, -⟩ := rename_exact dogTrouble .userVariable (by decide) "Dog" "Cat" (by decide)
    (by decide)
  obtain ⟨hcollision, -⟩ := rename_exact dogTrouble .collisionFormula (by decide) "Dog" "Wolf"
    (by decide) (by decide)
  obtain ⟨-, hlist⟩ := rename_exact dogTrouble .userList (by decide) "Dog" "Cat" (by decide)
    (by decide)
  refine ⟨fun hmem => ?_, (hvariable.names "Cat").mpr (.inl ⟨rfl, by decide⟩),
    hvariable.otherNames .userList (by decide) [], hcollision.undone (by decide),
    hlist _ 6 (by decide +kernel)⟩
  rcases (hvariable.names "Dog").mp hmem with ⟨hnew, -⟩ | ⟨hold, -⟩
  · exact absurd hnew (by decide)
  · exact hold rfl

end BrickFormula.Formula
