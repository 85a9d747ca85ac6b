import BrickFormula.Proofs.Workspace.Build

/-!
# Regions

A region is a set of elements whose operands and parents are in it too.  Edits follow these links
only, so a call whose elements are in a region writes there and nowhere else, and keeps it a region;
new elements count as part of it.  The copy that a clone makes is one region and all other elements
are another one: neither can be changed through elements of the other one.

    Region w S           operands and parents of elements in `S` are in `S`
    ChangedIn S w w'     from `w` to `w'` nothing has changed outside of the region `S`
    changedIn_apply      one call whose elements are in the region
    changedIn_run?       a session of such calls
    clone_independent    neither a clone nor the rest is reached by edits of the other one
-/

namespace BrickFormula

/-- The operands and the parent of an element are in `S`. -/
structure Element.LinksIn (e : Element) (S : Handle → Prop) : Prop where
  left : ∀ c ∈ e.left, S c
  right : ∀ c ∈ e.right, S c
  parent : ∀ p ∈ e.parent, S p

theorem Element.LinksIn.operand {e : Element} {S : Handle → Prop} (h : e.LinksIn S) (side : Side) :
    ∀ c ∈ e.operand side, S c := by
  cases side with
  | left => exact h.left
  | right => exact h.right

theorem Element.LinksIn.withOperand {e : Element} {S : Handle → Prop} (h : e.LinksIn S)
    (side : Side) {child : Option Handle} (hc : ∀ c ∈ child, S c) :
    (e.withOperand side child).LinksIn S := by
  cases side with
  | left => exact ⟨hc, h.right, h.parent⟩
  | right => exact ⟨h.left, hc, h.parent⟩

namespace Workspace

/-- Operands and parents of elements in `S` are in `S`. -/
def Region (w : Workspace) (S : Handle → Prop) : Prop :=
  ∀ m e, S m → w.element? m = some e → e.LinksIn S

/-- Nothing has changed outside of the region. -/
structure ChangedIn (S : Handle → Prop) (w w' : Workspace) : Prop where
  region : w'.Region S
  frame : ∀ m, ¬ S m → w'.element? m = w.element? m
  size_le : w.size ≤ w'.size

section
variable {S : Handle → Prop} {w w₁ w₂ : Workspace}

theorem ChangedIn.refl (h : w.Region S) : ChangedIn S w w := ⟨h, fun _ _ => rfl, Nat.le_refl _⟩

theorem ChangedIn.trans (h₁ : ChangedIn S w w₁) (h₂ : ChangedIn S w₁ w₂) : ChangedIn S w w₂ :=
  ⟨h₂.region, fun m hm => (h₂.frame m hm).trans (h₁.frame m hm),
    Nat.le_trans h₁.size_le h₂.size_le⟩

theorem Region.operand? (h : w.Region S) {m c : Handle} {side : Side} (hm : S m)
    (hc : w.operand? m side = some c) : S c := by
  obtain ⟨e, he⟩ := Option.isSome_iff_exists.mp
    ((element?_isSome w m).mpr (operand?_lt w m side c hc))
  exact (h m e hm he).operand side c ((operand?_of_element? w m e side he).symm.trans hc)

theorem Region.parent? (h : w.Region S) {m p : Handle} (hm : S m)
    (hp : w.parent? m = some p) : S p := by
  obtain ⟨e, he⟩ := Option.isSome_iff_exists.mp ((element?_isSome w m).mpr (parent?_lt w m p hp))
  refine (h m e hm he).parent p ?_
  unfold Workspace.parent? at hp
  rw [he] at hp
  exact hp

/-- Links that can be read are the links of an element. -/
theorem region_of_links (hop : ∀ m c, S m → w.Holds m c → S c)
    (hpar : ∀ m p, S m → w.parent? m = some p → S p) : w.Region S := by
  intro m e hm he
  have hside (side : Side) : ∀ c ∈ e.operand side, S c := fun c hc =>
    hop m c hm (holds_side ((operand?_of_element? w m e side he).trans hc))
  refine ⟨hside .left, hside .right, ?_⟩
  intro p hp
  apply hpar m p hm
  unfold Workspace.parent?
  rw [he]
  exact hp

/-! ## Changes of one element -/

/-- Every edit comes down to this: an element of the region gets links into the region. -/
theorem changedIn_modify (h : w.Region S) {n : Handle} {f : Element → Element} (hn : S n)
    (hf : ∀ e, e.LinksIn S → (f e).LinksIn S) : ChangedIn S w (w.modify n f) where
  region := by
    intro m e hm he
    rw [element?_modify] at he
    split at he
    · obtain ⟨e₀, he₀, rfl⟩ := Option.map_eq_some_iff.mp he
      exact hf e₀ (h m e₀ hm he₀)
    · exact h m e hm he
  frame := by
    intro m hm
    rw [element?_modify, if_neg]
    rintro rfl
    exact hm hn
  size_le := Nat.le_of_eq (size_modify w n f).symm

theorem changedIn_setParent (h : w.Region S) {child parent : Option Handle}
    (hc : ∀ c ∈ child, S c) (hp : ∀ p ∈ parent, S p) :
    ChangedIn S w (w.setParent child parent) := by
  cases child with
  | none => exact .refl h
  | some c =>
    exact changedIn_modify h (hc c rfl) fun e he => ⟨he.left, he.right, hp⟩

theorem changedIn_adopt (h : w.Region S) {n : Handle} (hn : S n) {child : Option Handle}
    (hc : ∀ c ∈ child, S c) : ChangedIn S w (w.adopt n child) :=
  changedIn_setParent h hc fun p hp => by
    cases hp
    exact hn

theorem changedIn_release (h : w.Region S) {n : Handle} (hn : S n) (side : Side)
    (incoming : Option Handle) : ChangedIn S w (w.release n side incoming) := by
  unfold release
  simp only
  split
  · exact changedIn_setParent h (fun c hc => h.operand? hn hc) nofun
  · exact .refl h

theorem changedIn_place (h : w.Region S) {n : Handle} (hn : S n) (side : Side)
    {child : Option Handle} (hc : ∀ c ∈ child, S c) : ChangedIn S w (w.place n side child) :=
  changedIn_modify h hn fun _ he => he.withOperand side hc

theorem changedIn_setOperand (h : w.Region S) {n : Handle} (hn : S n) (side : Side)
    {child : Option Handle} (hc : ∀ c ∈ child, S c) :
    ChangedIn S w (w.setOperand n side child) := by
  have h₁ := changedIn_release h hn side child
  have h₂ := changedIn_place h₁.region hn side hc
  exact (h₁.trans h₂).trans (changedIn_adopt h₂.region hn hc)

theorem changedIn_replace (h : w.Region S) {n source : Handle} (hn : S n) (hs : S source) :
    ChangedIn S w (w.replace n source) := by
  cases he : w.element? source with
  | none =>
    unfold replace
    rw [he]
    exact .refl h
  | some s =>
    rw [replace_eq w n source s he]
    have hlinks := h source s hs he
    have h₁ := changedIn_release h hn .left s.left
    have h₂ := changedIn_release h₁.region hn .right s.right
    have h₃ : ChangedIn S _ (((w.release n .left s.left).release n .right s.right).modify n
        fun e => { s with parent := e.parent }) :=
      changedIn_modify h₂.region hn fun _ he => ⟨hlinks.left, hlinks.right, he.parent⟩
    have h₄ := changedIn_adopt h₃.region hn hlinks.left
    have h₅ := changedIn_adopt h₄.region hn hlinks.right
    exact (((h₁.trans h₂).trans h₃).trans h₄).trans h₅

theorem changedIn_replaceContent (h : w.Region S) {n : Handle} (hn : S n) (kind : Kind)
    (text : Option String) : ChangedIn S w (w.replaceContent n kind text) :=
  changedIn_modify h hn fun _ he => ⟨he.left, he.right, he.parent⟩

/-! ## Changes of the texts of a formula -/

theorem mem_visitsTo (h : w.Region S) (depth : Nat) (a : Option Handle) (ha : ∀ n ∈ a, S n) :
    ∀ m ∈ w.visitsTo depth a, S m := by
  induction depth generalizing a with
  | zero => exact nofun
  | succ depth ih =>
    cases a with
    | none => exact nofun
    | some n =>
      intro m hm
      unfold visitsTo at hm
      split at hm
      · cases hm
      · next e he =>
        have hlinks := h n e (ha n rfl) he
        rcases List.mem_append.mp hm with hm | hm
        · rcases List.mem_append.mp hm with hm | hm
          · exact ih e.left hlinks.left m hm
          · exact ih e.right hlinks.right m hm
        · exact List.mem_singleton.mp hm ▸ ha n rfl

theorem changedIn_changeTexts (h : w.Region S) {n : Handle} (hn : S n)
    (f : Kind → Option String → Option String) : ChangedIn S w (w.changeTexts n f) := by
  have hvisits : ∀ m ∈ w.visits n, S m :=
    mem_visitsTo h w.size (some n) fun m hm => by
      cases hm
      exact hn
  unfold changeTexts
  generalize w.visits n = visits at hvisits
  induction visits generalizing w with
  | nil => exact .refl h
  | cons m rest ih =>
    have h₁ : ChangedIn S w (w.changeText m f) :=
      changedIn_modify h (hvisits m List.mem_cons_self) fun _ he => ⟨he.left, he.right, he.parent⟩
    exact h₁.trans (ih h₁.region fun m hm => hvisits m (List.mem_cons_of_mem _ hm))

/-! ## New elements -/

theorem changedIn_append (h : w.Region S) (hnew : S w.size) {e : Element} (he : e.LinksIn S) :
    ChangedIn S w ⟨w.elements ++ [e]⟩ where
  region := by
    intro m e' hm hat
    rw [element?_append] at hat
    split at hat
    · cases hat
      exact he
    · exact h m e' hm hat
  frame := by
    intro m hm
    rw [element?_append, if_neg]
    rintro rfl
    exact hm hnew
  size_le := by simp [size]

theorem changedIn_add (h : w.Region S) (hnew : S w.size) (kind : Kind) (text : Option String)
    {left right : Option Handle} (hl : ∀ c ∈ left, S c) (hr : ∀ c ∈ right, S c) :
    ChangedIn S w (w.add kind text left right).1 := by
  have h₁ : ChangedIn S w ⟨w.elements ++ [⟨kind, text, left, right, none⟩]⟩ :=
    changedIn_append h hnew ⟨hl, hr, nofun⟩
  have h₂ := changedIn_adopt h₁.region hnew hl
  exact (h₁.trans h₂).trans (changedIn_adopt h₂.region hnew hr)

/-- The elements from a handle on are a region if the links of each lead to such. -/
theorem Grown.region {w w' : Workspace} {r : Option Handle} {t : Formula}
    (h : Grown w w' r t) : w'.Region (w.size ≤ ·) := by
  apply region_of_links
  · intro m c hm hmc
    exact (h.held m c hm hmc).1
  · intro m p hm hp
    obtain ⟨c, hc, hcm⟩ := h.covered m hm (parent?_lt w' m p hp)
    obtain ⟨hcge, hclt, hroot⟩ := h.root c hc
    -- every new element but the root is held by the new one that is its parent
    rcases Relation.ReflTransGen.cases_tail hcm with rfl | ⟨q, hcq, hqm⟩
    · rw [hroot] at hp
      cases hp
    · have hq := (h.fresh hcge hclt hcq).1
      rw [(h.held q m hq hqm).2.2] at hp
      cases hp
      exact hq

theorem changedIn_build (h : w.Region S) (hnew : ∀ m, w.size ≤ m → S m) (t : Formula) :
    ChangedIn S w (w.build t).1 where
  region := by
    have hgrown := grown_build w t
    intro m e hm he
    by_cases hlt : m < w.size
    · rw [hgrown.old m hlt] at he
      exact h m e hm he
    · have hlinks := hgrown.region m e (Nat.le_of_not_lt hlt) he
      exact ⟨fun c hc => hnew c (hlinks.left c hc), fun c hc => hnew c (hlinks.right c hc),
        fun p hp => hnew p (hlinks.parent p hp)⟩
  frame m hm := (grown_build w t).old m (Nat.lt_of_not_le fun hle => hm (hnew m hle))
  size_le := (grown_build w t).size_le

theorem changedIn_wrap (h : w.Region S) (hnew : S w.size) {n m : Handle} (hn : S n)
    (operator : String) {right : Option Handle} (hr : ∀ c ∈ right, S c)
    (hw : w.wrap n operator right = .ok (w₁, m)) : ChangedIn S w w₁ := by
  unfold wrap at hw
  cases hp : w.parent? n with
  | none =>
    rw [hp] at hw
    cases hw
  | some p =>
    rw [hp] at hw
    cases hw
    have hSp := h.parent? hn hp
    have hn' : ∀ c ∈ some n, S c := fun c hc => by
      cases hc
      exact hn
    have hwrapper : ∀ c ∈ some w.size, S c := fun c hc => by
      cases hc
      exact hnew
    have h₁ := changedIn_add h hnew .operator (some operator) hn' hr
    have h₂ := changedIn_place h₁.region hSp
      (if w.operand? p .left = some n then .left else .right) hwrapper
    exact (h₁.trans h₂).trans (changedIn_adopt h₂.region hSp hwrapper)

end

/-! ## Sessions -/

/-- **A call writes only in the region of its elements.** -/
theorem changedIn_apply {S : Handle → Prop} {w : Workspace} (hnew : ∀ m, w.size ≤ m → S m)
    (h : w.Region S) (e : Edit) (he : ∀ n ∈ e.handles, S n) : ChangedIn S w (w.apply e) := by
  have hsize := hnew w.size (Nat.le_refl _)
  cases e with
  | add kind text left right =>
    obtain ⟨hl, hr⟩ := Edit.handles_add he
    exact changedIn_add h hsize kind text hl hr
  | setOperand n side child =>
    obtain ⟨hn, hc⟩ := Edit.handles_setOperand he
    exact changedIn_setOperand h hn side hc
  | replace n source =>
    obtain ⟨hn, hs⟩ := Edit.handles_replace he
    exact changedIn_replace h hn hs
  | replaceContent n kind text =>
    exact changedIn_replaceContent h (he n List.mem_cons_self) kind text
  | wrap n operator right =>
    unfold apply
    simp only
    split
    · next w' m hw =>
      obtain ⟨hn, hr⟩ := Edit.handles_wrap he
      exact changedIn_wrap h hsize hn operator hr hw
    · exact .refl h
  | clone n => exact changedIn_build h hnew _
  | rename n kind old new => exact changedIn_changeTexts h (he n List.mem_cons_self) _
  | migrate n resolve => exact changedIn_changeTexts h (he n List.mem_cons_self) _

/-- **So does a session**, if the elements made meanwhile count as part of the region. -/
theorem changedIn_run? {S : Handle → Prop} {w w' : Workspace} (hnew : ∀ m, w.size ≤ m → S m)
    (h : w.Region S) (edits : List Edit) (he : ∀ e ∈ edits, ∀ n ∈ e.handles, S n)
    (hrun : w.run? edits = some w') : ChangedIn S w w' := by
  induction edits generalizing w with
  | nil =>
    rw [run?, Option.some.injEq] at hrun
    exact hrun ▸ .refl h
  | cons e rest ih =>
    rw [run?] at hrun
    split at hrun
    · have h₁ := changedIn_apply hnew h e (he e List.mem_cons_self)
      refine h₁.trans (ih (fun m hm => hnew m (Nat.le_trans h₁.size_le hm)) h₁.region ?_ hrun)
      exact fun e' he' => he e' (List.mem_cons_of_mem _ he')
    · cases hrun

/-! ## A clone and the rest -/

/-- What is not part of a copy is a region as well. -/
theorem Grown.region_rest {w w' : Workspace} {c : Handle} {t : Formula} (hw : w.Linked)
    (h : Grown w w' (some c) t) : w'.Region fun m => ¬ w'.Reaches c m := by
  have hrest (m : Handle) : ¬ w'.Reaches c m ↔ m < w.size ∨ w'.size ≤ m := by
    rw [h.reaches_iff, not_and_or, Nat.not_le, Nat.not_lt]
  have hold {m : Handle} (hm : ¬ w'.Reaches c m) (hlt : m < w'.size) : m < w.size :=
    ((hrest m).mp hm).resolve_right (Nat.not_le.mpr hlt)
  apply region_of_links
  · intro m d hm hmd
    have hmlt := hold hm hmd.lt
    rw [(sameAt_of_element? (h.old m hmlt)).holds_iff] at hmd
    exact (hrest d).mpr (.inl (hw.lt m d hmd))
  · intro m p hm hp
    have hmlt := hold hm (parent?_lt w' m p hp)
    rw [parent?_of_element? (h.old m hmlt)] at hp
    exact (hrest p).mpr (.inl (hw.held m p hp).lt)

/-- The formula of an element is read in full if no part of it is inside itself. -/
theorem shows_formula_of_reaches {w : Workspace} (hw : w.Linked) {n : Handle} (hn : n < w.size)
    (ha : ∀ m, w.Reaches n m → ¬ Relation.TransGen w.Holds m m) :
    w.Shows (some n) (w.formula n) := by
  apply shows_formula? w (w.Reaches n) _ (fun p c hp hpc => hp.tail hpc) ha
  · intro m hm
    cases hm
    exact .refl
  · intro m hm
    induction hm with
    | refl => exact hn
    | tail _ hpc _ => exact hw.lt _ _ hpc

theorem Shows.clone_ne_empty {w : Workspace} {n : Handle} {t : Formula}
    (h : w.Shows (some n) t) : t.clone ≠ .empty := by
  cases h
  nofun

/-- **A clone is independent.**  Clone an element of which no part is inside itself, at any time.
The clone shows the same formula, with a text everywhere; its elements are all new, its root has no
parent, and each other one has its holder as parent.  Whatever is done later to these elements and
to new ones changes nothing that was there before the clone; and whatever is done without them
leaves every one of them as it is. -/
theorem clone_independent (edits : List Edit) (w : Workspace)
    (h : Workspace.run? {} edits = some w) (n : Handle) (hn : n < w.size)
    (hacyclic : ∀ m, w.Reaches n m → ¬ Relation.TransGen w.Holds m m) :
    ∃ w' c, w.clone n = (w', some c) ∧
      (∃ t, w.Shows (some n) t ∧ w'.Shows (some c) t.clone) ∧
      (∀ m, m < w.size → w'.element? m = w.element? m) ∧
      (∀ m, w'.Reaches c m → w.size ≤ m) ∧ w'.parent? c = none ∧
      (∀ p m, w'.Reaches c p → w'.Holds p m → w'.parent? m = some p) ∧
      (∀ later w'', (∀ e ∈ later, ∀ m ∈ e.handles, w'.Reaches c m ∨ w'.size ≤ m) →
        w'.run? later = some w'' → ∀ m, m < w.size → w''.element? m = w.element? m) ∧
      (∀ later w'', (∀ e ∈ later, ∀ m ∈ e.handles, ¬ w'.Reaches c m) →
        w'.run? later = some w'' → ∀ m, w'.Reaches c m → w''.element? m = w'.element? m) := by
  have hlinked := linked_run? edits {} w linked_empty h
  have hshows := shows_formula_of_reaches hlinked hn hacyclic
  obtain ⟨c, hc⟩ := build_root w (w.formula n).clone hshows.clone_ne_empty
  have hgrown := grown_build w (w.formula n).clone
  rw [hc] at hgrown
  generalize hw' : (w.build (w.formula n).clone).1 = w' at hgrown
  have hclone : w.clone n = (w', some c) := Prod.ext hw' hc
  have hbelow (m : Handle) := hgrown.reaches_iff m
  refine ⟨w', c, hclone, ⟨_, hshows, hgrown.shown⟩, hgrown.old, fun m hm => ((hbelow m).mp hm).1,
    (hgrown.root c rfl).2.2, ?_, ?_, ?_⟩
  · intro p m hp hpm
    exact (hgrown.held p m ((hbelow p).mp hp).1 hpm).2.2
  · intro later w'' hlater hrun m hm
    have hchanged := changedIn_run? (fun m hm => Nat.le_trans hgrown.size_le hm) hgrown.region later
      (fun e he m hm => (hlater e he m hm).elim (fun hr => ((hbelow m).mp hr).1)
        (Nat.le_trans hgrown.size_le)) hrun
    exact (hchanged.frame m (Nat.not_le.mpr hm)).trans (hgrown.old m hm)
  · intro later w'' hlater hrun m hm
    have hnew (m : Handle) (hle : w'.size ≤ m) : ¬ w'.Reaches c m :=
      fun hr => Nat.not_le.mpr ((hbelow m).mp hr).2 hle
    have hchanged := changedIn_run? hnew (hgrown.region_rest hlinked) later hlater hrun
    exact hchanged.frame m (not_not_intro hm)

/-- A sum with one number in both places, under a function. -/
def doubledSession : List Edit :=
  [.add .number (some "1") none none, .add .operator (some "PLUS") (some 0) (some 0),
   .add .function (some "ABS") (some 1) none]

/-- In a clone of the sum the two numbers, 3 and 4, differ: one is changed and comes to stand under
an operator around the other one, then a new number takes the place of this operator. -/
def cloneSession : List Edit :=
  [.replaceContent 3 .number (some "2"), .wrap 4 "MULT" (some 3), .add .number none none none,
   .setOperand 5 .right (some 7), .rename 5 .number "2" "3"]

/-- The sum that was cloned is put under an operator, then loses its left place. -/
def originalSession : List Edit :=
  [.wrap 1 "MINUS" (some 0), .setOperand 1 .left none, .replace 2 0, .clone 1]

theorem clone_independent_doubled :
    ∃ w w', Workspace.run? {} doubledSession = some w ∧ 1 < w.size ∧
      (∀ m, w.Reaches 1 m → ¬ Relation.TransGen w.Holds m m) ∧ w.clone 1 = (w', some 5) ∧
      (∃ w'', w'.run? cloneSession = some w'' ∧ ∀ m, m < w.size → w''.element? m = w.element? m) ∧
      (∃ w'', w'.run? originalSession = some w'' ∧
        ∀ m, w'.Reaches 5 m → w''.element? m = w'.element? m) := by
  have ha := acyclic_of_rank ((Workspace.run? {} doubledSession).get rfl) (fun n => n) (by decide)
  have hacyclic := fun m (_ : Reaches ((Workspace.run? {} doubledSession).get rfl) 1 m) => ha m
  obtain ⟨w', c, hclone, -, -, hfresh, -, -, hcopy, hrest⟩ :=
    clone_independent doubledSession _ rfl 1 (by decide) hacyclic
  cases hclone
  refine ⟨_, _, rfl, by decide, hacyclic, rfl, ⟨_, rfl, hcopy cloneSession _ ?_ rfl⟩,
    ⟨_, rfl, hrest originalSession _ ?_ rfl⟩⟩
  · have hhandles : ∀ e ∈ cloneSession, ∀ m ∈ e.handles, m = 3 ∨ m = 4 ∨ m = 5 ∨ 6 ≤ m := by decide
    intro e he m hm
    rcases hhandles e he m hm with rfl | rfl | rfl | hm
    · exact .inl (.single (by decide))
    · exact .inl (.single (by decide))
    · exact .inl .refl
    · exact .inr hm
  · have hhandles : ∀ e ∈ originalSession, ∀ m ∈ e.handles, m < 3 := by decide
    exact fun e he m hm hr => Nat.not_le.mpr (hhandles e he m hm) (hfresh m hr)

end Workspace

end BrickFormula
