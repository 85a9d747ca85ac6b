import BrickFormula.Proofs.Workspace.Effects

/-!
# New texts in place

Changing texts visits the elements of a formula one by one, and an element that stands in several
places several times.  Where a second change of the same text does nothing, the order and the number
of visits do not matter, and the formula read afterwards is the old one with every text changed:

    content?_changeTexts   a visited element has its new text, any other its old one
    formula_changeTexts    the formula of the element with new texts throughout
    formula_rename         the same for a renaming, which is such a change
-/

namespace BrickFormula.Workspace

variable (f : Kind → Option String → Option String)

/-- The content of an element with its new text. -/
def newContent (content : Kind × Option String) : Kind × Option String :=
  (content.1, f content.1 content.2)

/-! ## One visit after the other -/

theorem content?_changeText (w : Workspace) (n m : Handle) :
    (w.changeText n f).content? m =
      if m = n then (w.content? m).map (newContent f) else w.content? m := by
  unfold content? changeText
  rw [element?_modify]
  by_cases hm : m = n
  · rw [if_pos hm, if_pos hm]
    cases w.element? m with
    | none => rfl
    | some e => rfl
  · rw [if_neg hm, if_neg hm]

/-- After all visits the visited elements have new texts. -/
theorem content?_foldl_changeText (hf : ∀ kind text, f kind (f kind text) = f kind text)
    (visits : List Handle) (w : Workspace) (m : Handle) :
    (visits.foldl (fun w n => w.changeText n f) w).content? m =
      if m ∈ visits then (w.content? m).map (newContent f) else w.content? m := by
  induction visits generalizing w with
  | nil => simp
  | cons n rest ih =>
    rw [List.foldl_cons, ih, content?_changeText]
    by_cases hn : m = n
    · -- a later visit finds the new text and leaves it
      have htwice : newContent f ∘ newContent f = newContent f := by
        funext content
        simp [newContent, hf]
      simp [hn, htwice]
    · simp [hn]

theorem content?_changeTexts (hf : ∀ kind text, f kind (f kind text) = f kind text)
    (w : Workspace) (n m : Handle) :
    (w.changeTexts n f).content? m =
      if m ∈ w.visits n then (w.content? m).map (newContent f) else w.content? m :=
  content?_foldl_changeText f hf (w.visits n) w m

/-! ## The formula afterwards -/

theorem formulaTo_eq_empty (w : Workspace) (depth : Nat) (n : Handle) (h : w.content? n = none) :
    w.formulaTo depth (some n) = .empty := by
  unfold content? at h
  cases depth with
  | zero => rfl
  | succ depth =>
    cases he : w.element? n with
    | none => simp [formulaTo, he]
    | some e => simp [he] at h

theorem visitsTo_succ (w : Workspace) (depth : Nat) (n : Handle) (h : (w.content? n).isSome) :
    w.visitsTo (depth + 1) (some n) =
      w.visitsTo depth (w.operand? n .left) ++ w.visitsTo depth (w.operand? n .right) ++ [n] := by
  unfold content? at h
  cases he : w.element? n with
  | none => simp [he] at h
  | some e => simp [visitsTo, operand?, Element.operand, he]

/-- New texts in all elements of a formula, as far down as it is read. -/
theorem formulaTo_of_newContent (w w' : Workspace) (hsize : w'.size = w.size)
    (hop : ∀ m side, w'.operand? m side = w.operand? m side) (depth : Nat) (a : Option Handle)
    (hcontent : ∀ m ∈ w.visitsTo depth a, w'.content? m = (w.content? m).map (newContent f)) :
    w'.formulaTo depth a = (w.formulaTo depth a).changeTexts f := by
  induction depth generalizing a with
  | zero => rfl
  | succ depth ih =>
    cases a with
    | none => rfl
    | some n =>
      cases hn : w.content? n with
      | none =>
        have hn' : w'.content? n = none := by
          rw [← Option.not_isSome_iff_eq_none, content?_isSome, hsize, ← content?_isSome, hn]
          simp
        rw [formulaTo_eq_empty w _ n hn, formulaTo_eq_empty w' _ n hn']
        rfl
      | some content =>
        rw [visitsTo_succ w depth n (by rw [hn]; rfl)] at hcontent
        have hn' : w'.content? n = some (newContent f content) := by
          rw [hcontent n (by simp), hn]
          rfl
        rw [formulaTo_succ w depth n content.1 content.2 hn,
          formulaTo_succ w' depth n content.1 (f content.1 content.2) hn', hop, hop,
          ih _ fun m hm => hcontent m (by simp [hm]), ih _ fun m hm => hcontent m (by simp [hm])]
        rfl

/-- **New texts in place.**  The formula of the element is the old one with all texts changed, also
where it is shared or cut off. -/
theorem formula_changeTexts (hf : ∀ kind text, f kind (f kind text) = f kind text) (w : Workspace)
    (n : Handle) : (w.changeTexts n f).formula n = (w.formula n).changeTexts f := by
  unfold formula
  rw [size_changeTexts]
  apply formulaTo_of_newContent f w _ (size_changeTexts w n f) (operand?_changeTexts w n f)
  intro m hm
  rw [content?_changeTexts f hf, if_pos (show m ∈ w.visits n from hm)]

/-! ## Renaming -/

/-- What has the new name is left alone, unless it is the old one. -/
theorem renamedText_renamedText (k : Kind) (old new : String) (kind : Kind)
    (text : Option String) :
    Formula.renamedText k old new kind (Formula.renamedText k old new kind text) =
      Formula.renamedText k old new kind text := by
  unfold Formula.renamedText
  by_cases h : kind = k ∧ text = some old
  · by_cases hnew : new = old <;> simp [h, hnew]
  · simp [h]

theorem formula_rename (w : Workspace) (n : Handle) (k : Kind) (old new : String) :
    (w.rename n k old new).formula n = (w.formula n).rename k old new :=
  formula_changeTexts _ (renamedText_renamedText k old new) w n

end BrickFormula.Workspace
