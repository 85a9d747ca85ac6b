import BrickFormula.Workspace.Editing
import Mathlib.Logic.Basic

/-!
# What an edit changes

An element shows three things: its content (kind and text), its operands and its parent link.  The
lemmas here say, for each operation of the editor and for each of the three, what an element shows
afterwards in terms of what the elements showed before:

    operand?_setOperand   one place of `n` holds the new operand
    parent?_setOperand    the new operand has parent `n`, the old one has none
    operand?_replace      both places of `n` hold the operands of the source
    parent?_replace       they have parent `n`, the old operands have none
    operand?_add          a new element holds its operands
    wrap_eq               wrapping adds an operator and puts it into the place

All later modules read the operations through these lemmas.
-/

namespace BrickFormula.Workspace

/-- The kind and the text of an element. -/
def content? (w : Workspace) (n : Handle) : Option (Kind × Option String) :=
  (w.element? n).bind fun e => some (e.kind, e.text)

/-- An element has another one as an operand. -/
def Holds (w : Workspace) (p c : Handle) : Prop :=
  w.operand? p .left = some c ∨ w.operand? p .right = some c

instance (w : Workspace) (p c : Handle) : Decidable (w.Holds p c) :=
  inferInstanceAs (Decidable (_ ∨ _))

theorem holds_iff (w : Workspace) (p c : Handle) :
    w.Holds p c ↔ ∃ side, w.operand? p side = some c := by
  constructor
  · rintro (h | h)
    · exact ⟨.left, h⟩
    · exact ⟨.right, h⟩
  · rintro ⟨_ | _, h⟩
    · exact .inl h
    · exact .inr h

/-! ## Reading after a change of one element -/

theorem element?_modify (w : Workspace) (n : Handle) (f : Element → Element) (m : Handle) :
    (w.modify n f).element? m = if m = n then (w.element? m).map f else w.element? m := by
  unfold modify element?
  rw [List.getElem?_modify]
  by_cases h : n = m
  · simp [h]
  · simp [h, Ne.symm h]

@[simp] theorem size_modify (w : Workspace) (n : Handle) (f : Element → Element) :
    (w.modify n f).size = w.size := by
  unfold modify size
  exact List.length_modify _ _ _

theorem element?_isSome (w : Workspace) (n : Handle) : (w.element? n).isSome ↔ n < w.size := by
  unfold element? size
  simp

section
variable {α : Type} (w : Workspace) (n : Handle) (f : Element → Element) (g : Element → Option α)
  (m : Handle)

theorem read_modify_of_ne (hm : m ≠ n) :
    ((w.modify n f).element? m).bind g = (w.element? m).bind g := by
  rw [element?_modify, if_neg hm]

/-- What a change of one element keeps reads as before. -/
theorem read_modify_keep (hg : ∀ e, g (f e) = g e) :
    ((w.modify n f).element? m).bind g = (w.element? m).bind g := by
  by_cases hm : m = n
  · rw [element?_modify, if_pos hm]
    cases w.element? m with
    | none => rfl
    | some e => exact hg e
  · exact read_modify_of_ne w n f g m hm

/-- What it sets reads so at this element only. -/
theorem read_modify_set (hn : n < w.size) {a : Option α} (hg : ∀ e, g (f e) = a) :
    ((w.modify n f).element? m).bind g = if m = n then a else (w.element? m).bind g := by
  by_cases hm : m = n
  · have hsome := (element?_isSome w m).mpr (hm ▸ hn)
    rw [element?_modify, if_pos hm, if_pos hm]
    cases he : w.element? m with
    | none => rw [he] at hsome; cases hsome
    | some e => exact hg e
  · rw [if_neg hm]
    exact read_modify_of_ne w n f g m hm

end

theorem operand_withOperand (e : Element) (side side' : Side) (child : Option Handle) :
    (e.withOperand side child).operand side' = if side' = side then child else e.operand side' := by
  cases side <;> cases side' <;> rfl

theorem operand?_lt (w : Workspace) (n : Handle) (side : Side) (c : Handle)
    (h : w.operand? n side = some c) : n < w.size := by
  rw [← element?_isSome]
  unfold operand? at h
  cases he : w.element? n with
  | none => rw [he] at h; cases h
  | some e => rfl

theorem parent?_lt (w : Workspace) (n p : Handle) (h : w.parent? n = some p) : n < w.size := by
  rw [← element?_isSome]
  unfold parent? at h
  cases he : w.element? n with
  | none => rw [he] at h; cases h
  | some e => rfl

theorem content?_isSome (w : Workspace) (n : Handle) : (w.content? n).isSome ↔ n < w.size := by
  rw [← element?_isSome]
  unfold content?
  cases w.element? n with
  | none => rfl
  | some e => exact Iff.rfl

/-- The formula of an element, one level down, from its content and its operands. -/
theorem formulaTo_succ (w : Workspace) (depth : Nat) (n : Handle) (kind : Kind)
    (text : Option String) (h : w.content? n = some (kind, text)) :
    w.formulaTo (depth + 1) (some n) =
      .node kind text (w.formulaTo depth (w.operand? n .left))
        (w.formulaTo depth (w.operand? n .right)) := by
  unfold content? at h
  cases he : w.element? n with
  | none => rw [he] at h; cases h
  | some e =>
    rw [he] at h
    simp only [Option.bind_some, Option.some.injEq, Prod.mk.injEq] at h
    simp [formulaTo, operand?, Element.operand, he, h.1, h.2]

/-! ## Parent links -/

@[simp] theorem size_setParent (w : Workspace) (child parent : Option Handle) :
    (w.setParent child parent).size = w.size := by
  cases child with
  | none => rfl
  | some c => exact size_modify _ _ _

@[simp] theorem operand?_setParent (w : Workspace) (child parent : Option Handle) (m : Handle)
    (side : Side) : (w.setParent child parent).operand? m side = w.operand? m side := by
  cases child with
  | none => rfl
  | some c => exact read_modify_keep w c _ _ m (fun _ => by cases side <;> rfl)

@[simp] theorem content?_setParent (w : Workspace) (child parent : Option Handle) (m : Handle) :
    (w.setParent child parent).content? m = w.content? m := by
  cases child with
  | none => rfl
  | some c => exact read_modify_keep w c _ _ m (fun _ => rfl)

theorem parent?_setParent (w : Workspace) (child parent : Option Handle) (m : Handle)
    (h : child = some m → m < w.size) :
    (w.setParent child parent).parent? m = if child = some m then parent else w.parent? m := by
  cases child with
  | none => rfl
  | some c =>
    by_cases hc : m = c
    · subst hc
      rw [if_pos rfl]
      have hset := read_modify_set w m (fun e => { e with parent := parent }) Element.parent m (h rfl)
        (fun _ => rfl)
      exact hset.trans (if_pos rfl)
    · rw [if_neg (fun e => hc (Option.some.inj e).symm)]
      exact read_modify_of_ne w c _ _ m hc

theorem parent?_clear (w : Workspace) (child : Option Handle) (m : Handle) :
    (w.setParent child none).parent? m = if child = some m then none else w.parent? m := by
  by_cases hm : m < w.size
  · exact parent?_setParent w child none m fun _ => hm
  · have hnone : ∀ v : Workspace, v.size = w.size → v.parent? m = none := by
      intro v hv
      cases hp : v.parent? m with
      | none => rfl
      | some p => exact absurd (hv ▸ parent?_lt v m p hp) hm
    rw [hnone _ (size_setParent w child none), hnone w rfl]
    split <;> rfl

@[simp] theorem size_adopt (w : Workspace) (n : Handle) (child : Option Handle) :
    (w.adopt n child).size = w.size := size_setParent _ _ _

@[simp] theorem operand?_adopt (w : Workspace) (n : Handle) (child : Option Handle) (m : Handle)
    (side : Side) : (w.adopt n child).operand? m side = w.operand? m side :=
  operand?_setParent _ _ _ _ _

@[simp] theorem content?_adopt (w : Workspace) (n : Handle) (child : Option Handle) (m : Handle) :
    (w.adopt n child).content? m = w.content? m := content?_setParent _ _ _ _

theorem parent?_adopt (w : Workspace) (n : Handle) (child : Option Handle) (m : Handle)
    (h : child = some m → m < w.size) :
    (w.adopt n child).parent? m = if child = some m then some n else w.parent? m :=
  parent?_setParent _ _ _ _ h

/-! ## Places -/

@[simp] theorem size_place (w : Workspace) (n : Handle) (side : Side) (child : Option Handle) :
    (w.place n side child).size = w.size := size_modify _ _ _

theorem operand?_place (w : Workspace) (n : Handle) (side : Side) (child : Option Handle)
    (m : Handle) (side' : Side) (hn : n < w.size) :
    (w.place n side child).operand? m side' =
      if m = n ∧ side' = side then child else w.operand? m side' := by
  by_cases hs : side' = side
  · simp only [hs, and_true]
    apply read_modify_set w n _ _ m hn
    intro e
    rw [operand_withOperand, if_pos rfl]
  · rw [if_neg (fun hat => hs hat.2)]
    apply read_modify_keep w n _ _ m
    intro e
    rw [operand_withOperand, if_neg hs]

@[simp] theorem parent?_place (w : Workspace) (n : Handle) (side : Side) (child : Option Handle)
    (m : Handle) : (w.place n side child).parent? m = w.parent? m :=
  read_modify_keep w n _ _ m (fun _ => by cases side <;> rfl)

@[simp] theorem content?_place (w : Workspace) (n : Handle) (side : Side) (child : Option Handle)
    (m : Handle) : (w.place n side child).content? m = w.content? m :=
  read_modify_keep w n _ _ m (fun _ => by cases side <;> rfl)

@[simp] theorem size_release (w : Workspace) (n : Handle) (side : Side) (incoming : Option Handle) :
    (w.release n side incoming).size = w.size := by
  unfold release
  simp only
  split
  · exact size_setParent _ _ _
  · rfl

@[simp] theorem operand?_release (w : Workspace) (n : Handle) (side : Side)
    (incoming : Option Handle) (m : Handle) (side' : Side) :
    (w.release n side incoming).operand? m side' = w.operand? m side' := by
  unfold release
  simp only
  split
  · exact operand?_setParent _ _ _ _ _
  · rfl

@[simp] theorem content?_release (w : Workspace) (n : Handle) (side : Side)
    (incoming : Option Handle) (m : Handle) :
    (w.release n side incoming).content? m = w.content? m := by
  unfold release
  simp only
  split
  · exact content?_setParent _ _ _ _
  · rfl

/-- The operand on one side loses its parent link, unless the same one comes in or the link leads
elsewhere. -/
theorem parent?_release (w : Workspace) (n : Handle) (side : Side) (incoming : Option Handle)
    (m : Handle) :
    (w.release n side incoming).parent? m =
      if w.operand? n side = some m ∧ incoming ≠ some m ∧ w.parent? m = some n then none
      else w.parent? m := by
  unfold release
  simp only
  by_cases hm : w.operand? n side = some m
  · rw [hm]
    simp only [Option.bind_some, true_and]
    by_cases hi : incoming = some m
    · rw [if_neg (fun h => h.1 hi.symm), if_neg (fun h => h.1 hi)]
    · by_cases hp : w.parent? m = some n
      · rw [if_pos ⟨Ne.symm hi, hp⟩, if_pos ⟨hi, hp⟩, parent?_clear, if_pos rfl]
      · rw [if_neg (fun h => hp h.2), if_neg (fun h => hp h.2)]
  · rw [if_neg (fun h : w.operand? n side = some m ∧ _ => hm h.1)]
    split
    · rw [parent?_clear, if_neg hm]
    · rfl

/-! ## Replacing an operand -/

@[simp] theorem size_setOperand (w : Workspace) (n : Handle) (side : Side) (child : Option Handle) :
    (w.setOperand n side child).size = w.size := by
  simp [setOperand]

@[simp] theorem content?_setOperand (w : Workspace) (n : Handle) (side : Side)
    (child : Option Handle) (m : Handle) :
    (w.setOperand n side child).content? m = w.content? m := by
  simp [setOperand]

theorem operand?_setOperand (w : Workspace) (n : Handle) (side : Side) (child : Option Handle)
    (m : Handle) (side' : Side) (hn : n < w.size) :
    (w.setOperand n side child).operand? m side' =
      if m = n ∧ side' = side then child else w.operand? m side' := by
  unfold setOperand
  rw [operand?_adopt, operand?_place _ _ _ _ _ _ (by simpa using hn), operand?_release]

theorem parent?_setOperand (w : Workspace) (n : Handle) (side : Side) (child : Option Handle)
    (m : Handle) (hc : ∀ c ∈ child, c < w.size) :
    (w.setOperand n side child).parent? m =
      if child = some m then some n
      else if w.operand? n side = some m ∧ w.parent? m = some n then none else w.parent? m := by
  unfold setOperand
  rw [parent?_adopt _ _ _ _ (fun h => by simpa using hc m h), parent?_place, parent?_release]
  by_cases h : child = some m
  · rw [if_pos h, if_pos h]
  · simp only [ne_eq, h, not_false_eq_true, true_and]

/-! ## Taking over another element -/

theorem size_replace (w : Workspace) (n source : Handle) : (w.replace n source).size = w.size := by
  unfold replace
  split
  · rfl
  · simp

/-- The effect on an element that exists: both places are parted, overwritten and adopted. -/
theorem replace_eq (w : Workspace) (n source : Handle) (s : Element)
    (h : w.element? source = some s) :
    w.replace n source =
      (((((w.release n .left s.left).release n .right s.right).modify n
        fun e => { s with parent := e.parent }).adopt n s.left).adopt n s.right) := by
  unfold replace
  rw [h]

theorem operand?_of_element? (w : Workspace) (n : Handle) (e : Element) (side : Side)
    (h : w.element? n = some e) : w.operand? n side = e.operand side := by
  unfold operand?
  rw [h]
  rfl

theorem operand?_replace (w : Workspace) (n source m : Handle) (side : Side) (hn : n < w.size)
    (hs : source < w.size) :
    (w.replace n source).operand? m side =
      if m = n then w.operand? source side else w.operand? m side := by
  obtain ⟨s, h⟩ := Option.isSome_iff_exists.mp ((element?_isSome w source).mpr hs)
  rw [replace_eq w n source s h, operand?_adopt, operand?_adopt]
  have hside (e : Element) :
      Element.operand { s with parent := e.parent } side = w.operand? source side := by
    rw [operand?_of_element? w source s side h]
    cases side <;> rfl
  refine (read_modify_set _ n _ _ m (by simpa using hn) hside).trans ?_
  show (if m = n then _ else operand? _ m side) = _
  rw [operand?_release, operand?_release]

theorem content?_replace (w : Workspace) (n source m : Handle) (hn : n < w.size)
    (hs : source < w.size) :
    (w.replace n source).content? m = if m = n then w.content? source else w.content? m := by
  obtain ⟨s, h⟩ := Option.isSome_iff_exists.mp ((element?_isSome w source).mpr hs)
  rw [replace_eq w n source s h, content?_adopt, content?_adopt]
  have hsource : w.content? source = some (s.kind, s.text) := by
    unfold content?
    rw [h]
    rfl
  rw [hsource]
  have hset (e : Element) : (fun e : Element => some (e.kind, e.text)) { s with parent := e.parent } =
      some (s.kind, s.text) := rfl
  refine (read_modify_set _ n _ _ m (by simpa using hn) hset).trans ?_
  show (if m = n then _ else content? _ m) = _
  rw [content?_release, content?_release]

theorem holds_replace (w : Workspace) (n source p c : Handle) (hn : n < w.size)
    (hs : source < w.size) :
    (w.replace n source).Holds p c ↔ if p = n then w.Holds source c else w.Holds p c := by
  unfold Holds
  rw [operand?_replace w n source p .left hn hs, operand?_replace w n source p .right hn hs]
  split <;> rfl

/-- The operands of the source get the parent `n`; the old operands of `n`, as far as they had it,
have none. -/
theorem parent?_replace (w : Workspace) (n source m : Handle) (hs : source < w.size)
    (hc : ∀ c, w.Holds source c → c < w.size) :
    (w.replace n source).parent? m =
      if w.Holds source m then some n
      else if w.Holds n m ∧ w.parent? m = some n then none
      else w.parent? m := by
  obtain ⟨s, h⟩ := Option.isSome_iff_exists.mp ((element?_isSome w source).mpr hs)
  have hl : w.operand? source .left = s.left := operand?_of_element? w source s .left h
  have hr : w.operand? source .right = s.right := operand?_of_element? w source s .right h
  have hkeep : ∀ v : Workspace, (v.modify n fun e => { s with parent := e.parent }).parent? m =
      v.parent? m := fun v => read_modify_keep v n _ _ m (fun _ => rfl)
  rw [replace_eq w n source s h,
    parent?_adopt _ _ _ _ (fun hm => by simpa using hc m (.inr (hr.trans hm))),
    parent?_adopt _ _ _ _ (fun hm => by simpa using hc m (.inl (hl.trans hm))), hkeep,
    parent?_release, operand?_release, parent?_release]
  have hsource : w.Holds source m ↔ s.left = some m ∨ s.right = some m := by
    unfold Holds
    rw [hl, hr]
  by_cases h1 : s.right = some m
  · rw [if_pos h1, if_pos (hsource.mpr (.inr h1))]
  by_cases h2 : s.left = some m
  · rw [if_neg h1, if_pos h2, if_pos (hsource.mpr (.inl h2))]
  rw [if_neg h1, if_neg h2, if_neg (fun h => (hsource.mp h).elim h2 h1)]
  -- what is left of the two partings: either place may have held `m`
  have hold : w.Holds n m ↔ w.operand? n .left = some m ∨ w.operand? n .right = some m := Iff.rfl
  by_cases h3 : w.operand? n .left = some m <;> by_cases h4 : w.operand? n .right = some m <;>
    by_cases h5 : w.parent? m = some n <;> simp [h1, h2, h3, h4, h5, hold]

/-! ## New contents -/

@[simp] theorem size_replaceContent (w : Workspace) (n : Handle) (kind : Kind)
    (text : Option String) : (w.replaceContent n kind text).size = w.size := size_modify _ _ _

@[simp] theorem operand?_replaceContent (w : Workspace) (n : Handle) (kind : Kind)
    (text : Option String) (m : Handle) (side : Side) :
    (w.replaceContent n kind text).operand? m side = w.operand? m side :=
  read_modify_keep w n _ _ m (fun _ => by cases side <;> rfl)

@[simp] theorem parent?_replaceContent (w : Workspace) (n : Handle) (kind : Kind)
    (text : Option String) (m : Handle) :
    (w.replaceContent n kind text).parent? m = w.parent? m :=
  read_modify_keep w n _ _ m (fun _ => rfl)

theorem content?_replaceContent (w : Workspace) (n : Handle) (kind : Kind) (text : Option String)
    (m : Handle) (hn : n < w.size) :
    (w.replaceContent n kind text).content? m =
      if m = n then some (kind, text) else w.content? m :=
  read_modify_set w n _ _ m hn (fun _ => rfl)

/-! ## New texts -/

@[simp] theorem size_changeTexts (w : Workspace) (n : Handle)
    (f : Kind → Option String → Option String) : (w.changeTexts n f).size = w.size := by
  unfold changeTexts
  induction w.visits n generalizing w with
  | nil => rfl
  | cons m rest ih => exact (ih _).trans (size_modify _ _ _)

@[simp] theorem operand?_changeTexts (w : Workspace) (n : Handle)
    (f : Kind → Option String → Option String) (m : Handle) (side : Side) :
    (w.changeTexts n f).operand? m side = w.operand? m side := by
  unfold changeTexts
  induction w.visits n generalizing w with
  | nil => rfl
  | cons x rest ih =>
    exact (ih _).trans (read_modify_keep w x _ _ m (fun _ => by cases side <;> rfl))

@[simp] theorem parent?_changeTexts (w : Workspace) (n : Handle)
    (f : Kind → Option String → Option String) (m : Handle) :
    (w.changeTexts n f).parent? m = w.parent? m := by
  unfold changeTexts
  induction w.visits n generalizing w with
  | nil => rfl
  | cons x rest ih => exact (ih _).trans (read_modify_keep w x _ _ m (fun _ => rfl))

/-! ## New elements -/

theorem element?_size (w : Workspace) : w.element? w.size = none := by
  unfold element? size
  simp

@[simp] theorem size_add (w : Workspace) (kind : Kind) (text : Option String)
    (left right : Option Handle) : (w.add kind text left right).1.size = w.size + 1 := by
  unfold add
  rw [size_adopt, size_adopt]
  simp [size]

/-- The new element as it is listed, before it adopts its operands. -/
theorem element?_append (w : Workspace) (e : Element) (m : Handle) :
    (Workspace.mk (w.elements ++ [e])).element? m = if m = w.size then some e else w.element? m := by
  unfold element? size
  simp only
  by_cases hm : m = w.elements.length
  · rw [if_pos hm, hm, List.getElem?_concat_length]
  · rw [if_neg hm]
    by_cases hlt : m < w.elements.length
    · rw [List.getElem?_append_left hlt]
    · have hle : w.elements.length < m := Nat.lt_of_le_of_ne (Nat.le_of_not_lt hlt) (Ne.symm hm)
      rw [List.getElem?_eq_none (Nat.le_of_lt hle),
        List.getElem?_eq_none (List.length_append ▸ hle)]

theorem operand?_add (w : Workspace) (kind : Kind) (text : Option String)
    (left right : Option Handle) (m : Handle) (side : Side) :
    (w.add kind text left right).1.operand? m side =
      if m = w.size then Element.operand ⟨kind, text, left, right, none⟩ side
      else w.operand? m side := by
  unfold add
  simp only [operand?_adopt]
  show ((Workspace.mk _).element? m).bind _ = _
  rw [element?_append]
  split <;> rfl

theorem content?_add (w : Workspace) (kind : Kind) (text : Option String)
    (left right : Option Handle) (m : Handle) :
    (w.add kind text left right).1.content? m =
      if m = w.size then some (kind, text) else w.content? m := by
  unfold add
  simp only [content?_adopt]
  show ((Workspace.mk _).element? m).bind _ = _
  rw [element?_append]
  split <;> rfl

theorem parent?_add (w : Workspace) (kind : Kind) (text : Option String)
    (left right : Option Handle) (m : Handle) (hl : ∀ c ∈ left, c < w.size)
    (hr : ∀ c ∈ right, c < w.size) :
    (w.add kind text left right).1.parent? m =
      if left = some m ∨ right = some m then some w.size else w.parent? m := by
  unfold add
  have hgrown : (Workspace.mk (w.elements ++ [⟨kind, text, left, right, none⟩])).size =
      w.size + 1 := by simp [size]
  rw [parent?_adopt _ _ _ _ (fun h => by
      rw [size_adopt, hgrown]
      exact Nat.lt_succ_of_lt (hr m h)),
    parent?_adopt _ _ _ _ (fun h => by
      rw [hgrown]
      exact Nat.lt_succ_of_lt (hl m h))]
  have hkeep : (Workspace.mk (w.elements ++ [⟨kind, text, left, right, none⟩])).parent? m =
      w.parent? m := by
    show ((Workspace.mk _).element? m).bind _ = (w.element? m).bind _
    rw [element?_append]
    split
    · next hm => rw [hm, element?_size]; rfl
    · rfl
  rw [hkeep]
  by_cases h1 : left = some m <;> by_cases h2 : right = some m <;> simp [h1, h2]

/-! ## Operators around an element -/

/-- The place of an element under its parent. -/
def sideUnder (w : Workspace) (p n : Handle) : Side :=
  if w.operand? p .left = some n then .left else .right

/-- The workspace with a new operator in the place that `n` has under `p`. -/
def wrapped (w : Workspace) (p n : Handle) (operator : String) (right : Option Handle) :
    Workspace :=
  (w.add .operator (some operator) (some n) right).1.setOperand p (w.sideUnder p n) (some w.size)

section
variable (w : Workspace) (p n : Handle) (operator : String) (right : Option Handle)

theorem operand?_sideUnder (hheld : w.Holds p n) : w.operand? p (w.sideUnder p n) = some n := by
  unfold sideUnder
  split
  · assumption
  · next h => exact hheld.resolve_left h

@[simp] theorem size_wrapped : (w.wrapped p n operator right).size = w.size + 1 := by
  unfold wrapped
  rw [size_setOperand, size_add]

theorem content?_wrapped (m : Handle) :
    (w.wrapped p n operator right).content? m =
      if m = w.size then some (.operator, some operator) else w.content? m := by
  unfold wrapped
  rw [content?_setOperand, content?_add]

theorem parent?_add_wrapper (hp : w.parent? n = some p) (hr : ∀ c ∈ right, c < w.size)
    (m : Handle) :
    (w.add .operator (some operator) (some n) right).1.parent? m =
      if some n = some m ∨ right = some m then some w.size else w.parent? m :=
  parent?_add w _ _ _ _ m (fun c hc => by cases hc; exact parent?_lt w n p hp) hr

variable (hlt : p < w.size)
include hlt

theorem operand?_wrapped (m : Handle) (side : Side) :
    (w.wrapped p n operator right).operand? m side =
      if m = p ∧ side = w.sideUnder p n then some w.size
      else if m = w.size then
        Element.operand ⟨.operator, some operator, some n, right, none⟩ side
      else w.operand? m side := by
  unfold wrapped
  rw [operand?_setOperand _ _ _ _ _ _ (by rw [size_add]; exact Nat.lt_succ_of_lt hlt),
    operand?_add]

/-- The place under `p` holds the new operator, and this one holds `n` and its right operand; all other
places hold what they held. -/
theorem operand?_wrapped_eq_some (q c : Handle) (side : Side) :
    (w.wrapped p n operator right).operand? q side = some c ↔
      (q = p ∧ side = w.sideUnder p n ∧ c = w.size) ∨
      (q = w.size ∧ side = .left ∧ c = n) ∨ (q = w.size ∧ side = .right ∧ right = some c) ∨
      (q ≠ w.size ∧ ¬ (q = p ∧ side = w.sideUnder p n) ∧ w.operand? q side = some c) := by
  rw [operand?_wrapped w p n operator right hlt]
  generalize w.size = m at *
  have hpm : p ≠ m := Nat.ne_of_lt hlt
  by_cases hat : q = p ∧ side = w.sideUnder p n
  · rw [if_pos hat]
    constructor
    · intro e
      exact .inl ⟨hat.1, hat.2, (Option.some.inj e).symm⟩
    · rintro (⟨-, -, rfl⟩ | ⟨hq, -⟩ | ⟨hq, -⟩ | ⟨-, hne, -⟩)
      · rfl
      · exact absurd (hat.1.symm.trans hq) hpm
      · exact absurd (hat.1.symm.trans hq) hpm
      · exact absurd hat hne
  rw [if_neg hat]
  by_cases hqm : q = m
  · rw [if_pos hqm]
    constructor
    · intro e
      cases side with
      | left => exact .inr (.inl ⟨hqm, rfl, (Option.some.inj e).symm⟩)
      | right => exact .inr (.inr (.inl ⟨hqm, rfl, e⟩))
    · rintro (⟨hq, hs, -⟩ | ⟨-, rfl, rfl⟩ | ⟨-, rfl, e⟩ | ⟨hne, -⟩)
      · exact absurd ⟨hq, hs⟩ hat
      · rfl
      · exact e
      · exact absurd hqm hne
  · rw [if_neg hqm]
    constructor
    · intro e
      exact .inr (.inr (.inr ⟨hqm, hat, e⟩))
    · rintro (⟨hq, hs, -⟩ | ⟨hq, -⟩ | ⟨hq, -⟩ | ⟨-, -, e⟩)
      · exact absurd ⟨hq, hs⟩ hat
      · exact absurd hq hqm
      · exact absurd hq hqm
      · exact e

variable (hp : w.parent? n = some p) (hheld : w.Holds p n) (hr : ∀ c ∈ right, c < w.size)
include hp hheld hr

/-- The element has the operator as its parent when its place is taken, so it keeps this link. -/
theorem parent?_wrapped (m : Handle) :
    (w.wrapped p n operator right).parent? m =
      if m = w.size then some p
      else if some n = some m ∨ right = some m then some w.size
      else w.parent? m := by
  unfold wrapped
  rw [parent?_setOperand _ _ _ _ _ (fun c hc => by
      cases hc
      rw [size_add]
      exact Nat.lt_succ_self _),
    parent?_add_wrapper w p n operator right hp hr, operand?_add,
    if_neg (Nat.ne_of_lt hlt), operand?_sideUnder w p n hheld]
  by_cases hm : m = w.size
  · rw [if_pos hm, if_pos (hm ▸ rfl)]
  · rw [if_neg hm, if_neg (fun e => hm (Option.some.inj e).symm), if_neg]
    rintro ⟨hnm, hpm⟩
    rw [if_pos (.inl hnm)] at hpm
    exact Nat.ne_of_lt hlt (Option.some.inj hpm).symm

/-- Wrapping adds an operator above the element and puts it into the place of the element. -/
theorem wrap_eq : w.wrap n operator right = .ok (w.wrapped p n operator right, w.size) := by
  have hkept : (w.add .operator (some operator) (some n) right).1.release p (w.sideUnder p n)
      (some w.size) = (w.add .operator (some operator) (some n) right).1 := by
    unfold release
    simp only
    rw [operand?_add, if_neg (Nat.ne_of_lt hlt), operand?_sideUnder w p n hheld, if_neg]
    rintro ⟨-, h⟩
    rw [Option.bind_some, parent?_add_wrapper w p n operator right hp hr,
      if_pos (.inl rfl)] at h
    exact Nat.ne_of_lt hlt (Option.some.inj h).symm
  unfold wrap wrapped setOperand
  rw [hp, hkept]
  rfl

end

end BrickFormula.Workspace
