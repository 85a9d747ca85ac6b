import BrickFormula.Proofs.Workspace.Shape

/-!
# New elements for a formula

Building a formula makes a tree of new elements and leaves all others alone.  The formula hangs from
its root, which has no parent; every other new element has its holder as parent; and operands of new
elements are new, all of them below the root.

    Grown w w' r t      what building `t` makes of the workspace `w`: `w'`, and the root `r`
    grown_build         building does make that of it
    Grown.reaches_iff   what is below the root is what is new
-/

namespace BrickFormula.Workspace

/-- The workspace `w'` is `w` with new elements for the formula `t`, the root of which is `r`. -/
structure Grown (w w' : Workspace) (r : Option Handle) (t : Formula) : Prop where
  size_le : w.size ≤ w'.size
  old : ∀ m, m < w.size → w'.element? m = w.element? m
  shown : w'.Shows r t
  root : ∀ c ∈ r, w.size ≤ c ∧ c < w'.size ∧ w'.parent? c = none
  held : ∀ p c, w.size ≤ p → w'.Holds p c → w.size ≤ c ∧ c < w'.size ∧ w'.parent? c = some p
  covered : ∀ m, w.size ≤ m → m < w'.size → ∃ c ∈ r, w'.Reaches c m

/-! ## One more element -/

theorem element?_setParent_of_ne (w : Workspace) (child parent : Option Handle) (m : Handle)
    (h : child ≠ some m) : (w.setParent child parent).element? m = w.element? m := by
  cases child with
  | none => rfl
  | some c =>
    show (w.modify c _).element? m = _
    rw [element?_modify, if_neg (fun hm => h (congrArg some hm.symm))]

theorem element?_add_of_ne (w : Workspace) (kind : Kind) (text : Option String)
    (left right : Option Handle) (m : Handle) (hm : m ≠ w.size) (hl : left ≠ some m)
    (hr : right ≠ some m) : (w.add kind text left right).1.element? m = w.element? m := by
  unfold add adopt
  simp only
  rw [element?_setParent_of_ne _ _ _ _ hr, element?_setParent_of_ne _ _ _ _ hl, element?_append,
    if_neg hm]

theorem sameAt_add (w : Workspace) (kind : Kind) (text : Option String)
    (left right : Option Handle) (m : Handle) (hm : m < w.size) :
    w.SameAt (w.add kind text left right).1 m := by
  constructor
  · rw [content?_add, if_neg (Nat.ne_of_lt hm)]
  · intro side
    rw [operand?_add, if_neg (Nat.ne_of_lt hm)]

theorem holds_add_new (w : Workspace) (kind : Kind) (text : Option String)
    (left right : Option Handle) (c : Handle) :
    (w.add kind text left right).1.Holds w.size c ↔ left = some c ∨ right = some c := by
  unfold Holds
  rw [operand?_add, operand?_add, if_pos rfl, if_pos rfl]
  exact Iff.rfl

section
variable {w w' : Workspace}

/-- What is kept of an element that is kept. -/
theorem sameAt_of_element? {m : Handle} (h : w'.element? m = w.element? m) : w.SameAt w' m := by
  constructor
  · unfold content?
    rw [h]
  · intro side
    unfold operand?
    rw [h]

theorem SameAt.holds_iff {p : Handle} (h : w.SameAt w' p) (c : Handle) :
    w'.Holds p c ↔ w.Holds p c := by
  unfold Holds
  rw [h.operand .left, h.operand .right]

theorem Reaches.mono {a b : Handle} (h : w.Reaches a b)
    (hsub : ∀ p c, w.Holds p c → w'.Holds p c) : w'.Reaches a b := by
  induction h with
  | refl => exact .refl
  | tail _ hpc ih => exact ih.tail (hsub _ _ hpc)

theorem parent?_of_element? {m : Handle} (h : w'.element? m = w.element? m) :
    w'.parent? m = w.parent? m := by
  unfold parent?
  rw [h]

end

/-! ## All elements of a formula -/

section
variable {w w' : Workspace} {r : Option Handle} {t : Formula}

/-- What is below a new element is new. -/
theorem Grown.fresh (h : Grown w w' r t) {a m : Handle} (ha : w.size ≤ a) (hlt : a < w'.size)
    (ham : w'.Reaches a m) : w.size ≤ m ∧ m < w'.size := by
  induction ham with
  | refl => exact ⟨ha, hlt⟩
  | tail _ hpc ih =>
    obtain ⟨hc, hclt, -⟩ := h.held _ _ ih.1 hpc
    exact ⟨hc, hclt⟩

/-- What is below the root is what is new. -/
theorem Grown.reaches_iff {c : Handle} (h : Grown w w' (some c) t) (m : Handle) :
    w'.Reaches c m ↔ w.size ≤ m ∧ m < w'.size := by
  constructor
  · intro hm
    obtain ⟨hc, hlt, -⟩ := h.root c rfl
    exact h.fresh hc hlt hm
  · rintro ⟨hm, hlt⟩
    obtain ⟨d, hd, hdm⟩ := h.covered m hm hlt
    cases hd
    exact hdm

theorem grown_empty (w : Workspace) : Grown w w none .empty where
  size_le := Nat.le_refl _
  old _ _ := rfl
  shown := .empty
  root _ hc := by cases hc
  held p c hp hpc := absurd hpc.lt (Nat.not_lt.mpr hp)
  covered m hm hlt := absurd hlt (Nat.not_lt.mpr hm)

end

/-! ## Two formulas, built one after the other, below a new element -/

section
variable {w w₁ w₂ : Workspace} {l r : Option Handle} {left right : Formula} (kind : Kind)
  (text : Option String)

/-- The elements of the left formula and the old ones keep their contents and operands. -/
theorem Grown.sameAt_add_left (hr : Grown w₁ w₂ r right) {m : Handle} (hm : m < w₁.size) :
    w₁.SameAt (w₂.add kind text l r).1 m := by
  have h₁ := sameAt_of_element? (hr.old m hm)
  have h₂ := sameAt_add w₂ kind text l r m (Nat.lt_of_lt_of_le hm hr.size_le)
  exact ⟨h₂.content.trans h₁.content, fun side => (h₂.operand side).trans (h₁.operand side)⟩

variable (hl : Grown w w₁ l left) (hr : Grown w₁ w₂ r right)
include hl hr

theorem Grown.left_lt : ∀ c ∈ l, c < w₂.size :=
  fun c hc => Nat.lt_of_lt_of_le (hl.root c hc).2.1 hr.size_le

theorem Grown.parent?_add (m : Handle) :
    (w₂.add kind text l r).1.parent? m =
      if l = some m ∨ r = some m then some w₂.size else w₂.parent? m :=
  Workspace.parent?_add w₂ kind text l r m (hl.left_lt hr) fun c hc => (hr.root c hc).2.1

theorem Grown.old_add (m : Handle) (hm : m < w.size) :
    (w₂.add kind text l r).1.element? m = w.element? m := by
  have hm₁ : m < w₁.size := Nat.lt_of_lt_of_le hm hl.size_le
  rw [element?_add_of_ne, hr.old m hm₁, hl.old m hm]
  · exact Nat.ne_of_lt (Nat.lt_of_lt_of_le hm₁ hr.size_le)
  · exact fun e => Nat.not_lt.mpr (hl.root m e).1 hm
  · exact fun e => Nat.not_lt.mpr (hr.root m e).1 hm₁

theorem Grown.shown_add :
    (w₂.add kind text l r).1.Shows (some w₂.size) (.node kind text left right) := by
  refine .node (by rw [content?_add, if_pos rfl]) ?_ ?_
  · rw [operand?_add, if_pos rfl]
    apply hl.shown.frame
    intro c hc m hm
    obtain ⟨hcge, hclt, -⟩ := hl.root c hc
    exact hr.sameAt_add_left kind text (hl.fresh hcge hclt hm).2
  · rw [operand?_add, if_pos rfl]
    apply hr.shown.frame
    intro c hc m hm
    obtain ⟨hcge, hclt, -⟩ := hr.root c hc
    exact sameAt_add w₂ kind text l r m (hr.fresh hcge hclt hm).2

theorem Grown.parent?_add_root : (w₂.add kind text l r).1.parent? w₂.size = none := by
  rw [hl.parent?_add kind text hr, if_neg]
  · cases hp : w₂.parent? w₂.size with
    | none => rfl
    | some p => exact absurd (parent?_lt w₂ _ p hp) (Nat.lt_irrefl _)
  · rintro (e | e)
    · exact Nat.lt_irrefl _ (hl.left_lt hr _ e)
    · exact Nat.lt_irrefl _ (hr.root _ e).2.1

/-- An element that is held in one of the formulas keeps its parent, since it is not a root. -/
theorem Grown.parent?_add_held {p c : Handle} (hp : w.size ≤ p) (hplt : p < w₂.size)
    (hpc : (w₂.add kind text l r).1.Holds p c) :
    w.size ≤ c ∧ c < w₂.size ∧ (w₂.add kind text l r).1.parent? c = some p := by
  rw [hl.parent?_add kind text hr]
  by_cases hold : p < w₁.size
  · have hpc₁ := ((hr.sameAt_add_left kind text hold).holds_iff c).mp hpc
    obtain ⟨hc, hclt, hcp⟩ := hl.held p c hp hpc₁
    refine ⟨hc, Nat.lt_of_lt_of_le hclt hr.size_le, ?_⟩
    rw [if_neg, parent?_of_element? (hr.old c hclt), hcp]
    rintro (e | e)
    · exact absurd ((hl.root c e).2.2.symm.trans hcp) nofun
    · exact Nat.not_lt.mpr (hr.root c e).1 hclt
  · have hpc₂ := ((sameAt_add w₂ kind text l r p hplt).holds_iff c).mp hpc
    obtain ⟨hc, hclt, hcp⟩ := hr.held p c (Nat.le_of_not_lt hold) hpc₂
    refine ⟨Nat.le_trans hl.size_le hc, hclt, ?_⟩
    rw [if_neg, hcp]
    rintro (e | e)
    · exact Nat.not_lt.mpr hc (hl.root c e).2.1
    · exact absurd ((hr.root c e).2.2.symm.trans hcp) nofun

theorem Grown.covered_add {m : Handle} (hm : w.size ≤ m) (hlt : m ≤ w₂.size) :
    (w₂.add kind text l r).1.Reaches w₂.size m := by
  have hroot (c : Handle) (hc : l = some c ∨ r = some c) :
      (w₂.add kind text l r).1.Holds w₂.size c := (holds_add_new w₂ kind text l r c).mpr hc
  rcases Nat.eq_or_lt_of_le hlt with rfl | hlt
  · exact .refl
  by_cases hold : m < w₁.size
  · obtain ⟨c, hc, hcm⟩ := hl.covered m hm hold
    exact .head (hroot c (.inl hc)) <| hcm.mono fun p d hpd =>
      ((hr.sameAt_add_left kind text hpd.lt).holds_iff d).mpr hpd
  · obtain ⟨c, hc, hcm⟩ := hr.covered m (Nat.le_of_not_lt hold) hlt
    exact .head (hroot c (.inr hc)) <| hcm.mono fun p d hpd =>
      ((sameAt_add w₂ kind text l r p hpd.lt).holds_iff d).mpr hpd

theorem grown_add :
    Grown w (w₂.add kind text l r).1 (some w₂.size) (.node kind text left right) := by
  have hle : w.size ≤ w₂.size := Nat.le_trans hl.size_le hr.size_le
  constructor
  case size_le =>
    rw [size_add]
    exact Nat.le_succ_of_le hle
  case old => exact hl.old_add kind text hr
  case shown => exact hl.shown_add kind text hr
  case root =>
    intro c hc
    cases hc
    rw [size_add]
    exact ⟨hle, Nat.lt_succ_self _, hl.parent?_add_root kind text hr⟩
  case held =>
    intro p c hp hpc
    have hplt := hpc.lt
    rw [size_add] at hplt ⊢
    rcases Nat.eq_or_lt_of_le (Nat.le_of_lt_succ hplt) with rfl | hplt
    · have hc := (holds_add_new w₂ kind text l r c).mp hpc
      rw [hl.parent?_add kind text hr, if_pos hc]
      rcases hc with hc | hc
      · exact ⟨(hl.root c hc).1, Nat.lt_succ_of_lt (hl.left_lt hr c hc), rfl⟩
      · obtain ⟨hcge, hclt, -⟩ := hr.root c hc
        exact ⟨Nat.le_trans hl.size_le hcge, Nat.lt_succ_of_lt hclt, rfl⟩
    · obtain ⟨hc, hclt, hcp⟩ := hl.parent?_add_held kind text hr hp hplt hpc
      exact ⟨hc, Nat.lt_succ_of_lt hclt, hcp⟩
  case covered =>
    intro m hm hlt
    rw [size_add] at hlt
    exact ⟨w₂.size, rfl, hl.covered_add kind text hr hm (Nat.le_of_lt_succ hlt)⟩

end

/-- **Building makes a tree of new elements.** -/
theorem grown_build (w : Workspace) (t : Formula) : Grown w (w.build t).1 (w.build t).2 t := by
  induction t generalizing w with
  | empty => exact grown_empty w
  | node kind text left right ihl ihr => exact grown_add kind text (ihl w) (ihr (w.build left).1)

theorem build_root (w : Workspace) (t : Formula) (h : t ≠ .empty) :
    ∃ c, (w.build t).2 = some c := by
  cases t with
  | empty => exact absurd rfl h
  | node => exact ⟨_, rfl⟩

end BrickFormula.Workspace
