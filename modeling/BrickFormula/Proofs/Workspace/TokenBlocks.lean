import BrickFormula.Formula.Token
import BrickFormula.Proofs.Workspace.Refinement

/-!
# Blocks of tokens

The tokens of a part on display stand together in the row of the whole formula, and what stands before
and behind them does not depend on the part.  So an edit in place changes one block of the row.

    isShown path t             elements show their operands all the way down a path
    exists_updateAt_tokens     the row around the part at the end of a path
    partAt_formula             the part is the formula of the element there
    edits_change_one_block     what an edit does to the row
-/

namespace BrickFormula

/-! ## Rows around parts -/

/-- Elements of a kind show the operand on a side. -/
def Kind.shows : Kind → Side → Bool
  | .operator, _ | .function, _ | .bracket, .right => true
  | _, _ => false

namespace Formula

/-- Elements show their operands all the way down a path. -/
def isShown : List Side → Formula → Bool
  | [], _ => true
  | side :: path, t => t.kind?.any (·.shows side) && isShown path (t.operandOn side)

section
variable {kind : Kind} (text : String) (other : Option (List Token))

/-- The tokens of a left operand on display, whichever they are, stand at one place. -/
theorem exists_around_left (h : kind.shows .left = true) :
    ∃ before after, ∀ tokens,
      nodeTokens kind text (some tokens) other = before ++ tokens ++ after := by
  cases kind with
  | operator => exact ⟨[], ⟨.operator, text⟩ :: other.getD [], fun _ => rfl⟩
  | function =>
    refine ⟨[⟨.functionName, text⟩, ⟨.functionParametersBracketOpen, ""⟩],
      (other.elim [] fun tokens => ⟨.functionParameterDelimiter, ""⟩ :: tokens) ++
        [⟨.functionParametersBracketClose, ""⟩], fun tokens => ?_⟩
    simp [nodeTokens, callTokens]
  | _ => cases h

theorem exists_around_right (h : kind.shows .right = true) :
    ∃ before after, ∀ tokens,
      nodeTokens kind text other (some tokens) = before ++ tokens ++ after := by
  cases kind with
  | operator =>
    refine ⟨other.getD [] ++ [⟨.operator, text⟩], [], fun tokens => ?_⟩
    simp [nodeTokens, operatorTokens]
  | function =>
    refine ⟨⟨.functionName, text⟩ ::
      (other.elim [] fun tokens => ⟨.functionParametersBracketOpen, ""⟩ :: tokens) ++
        [⟨.functionParameterDelimiter, ""⟩],
      other.elim [] fun _ => [⟨.functionParametersBracketClose, ""⟩], fun tokens => ?_⟩
    simp [nodeTokens, callTokens]
  | bracket => exact ⟨[⟨.bracketOpen, ""⟩], [⟨.bracketClose, ""⟩], fun _ => rfl⟩
  | _ => cases h

end

theorem tokens?_eq {t : Formula} (h : t ≠ .empty) : t.tokens? = some t.tokens := by
  cases t with
  | empty => exact absurd rfl h
  | node => rfl

theorem updateAt_id (path : List Side) (t : Formula) : t.updateAt id path = t := by
  induction path generalizing t with
  | nil => rfl
  | cons side path ih =>
    rw [updateAt, ih]
    cases t with
    | empty => rfl
    | node => cases side <;> rfl

theorem updateAt_ne_empty {f : Formula → Formula} {path : List Side} {t : Formula}
    (hpart : partAt path t ≠ .empty) (hf : f (partAt path t) ≠ .empty) :
    t.updateAt f path ≠ .empty := by
  cases path with
  | nil => exact hf
  | cons side path => exact withOperand_ne_empty side _ (ne_empty_of_partAt hpart)

/-- The row around one operand. -/
theorem exists_withOperand_tokens {t : Formula} {side : Side}
    (h : t.kind?.any (·.shows side) = true) :
    ∃ before after, ∀ s, s ≠ .empty →
      (t.withOperand side s).tokens = before ++ s.tokens ++ after := by
  cases t with
  | empty => cases h
  | node kind text left right =>
    cases side with
    | left =>
      obtain ⟨before, after, hrow⟩ := exists_around_left (text.getD "") right.tokens? h
      refine ⟨before, after, fun s hs => ?_⟩
      rw [← hrow, ← tokens?_eq hs]
      rfl
    | right =>
      obtain ⟨before, after, hrow⟩ := exists_around_right (text.getD "") left.tokens? h
      refine ⟨before, after, fun s hs => ?_⟩
      rw [← hrow, ← tokens?_eq hs]
      rfl

/-- **The tokens of a part on display stand together**, and those around it stay when the part is
changed. -/
theorem exists_updateAt_tokens {path : List Side} {t : Formula} (hshown : isShown path t = true)
    (hpart : partAt path t ≠ .empty) :
    ∃ before after, ∀ f : Formula → Formula, f (partAt path t) ≠ .empty →
      (t.updateAt f path).tokens = before ++ (f (partAt path t)).tokens ++ after := by
  induction path generalizing t with
  | nil => exact ⟨[], [], fun f _ => (List.append_nil _).symm⟩
  | cons side path ih =>
    obtain ⟨hside, hbelow⟩ := Bool.and_eq_true_iff.mp hshown
    obtain ⟨before, after, hrow⟩ := exists_withOperand_tokens hside
    obtain ⟨before', after', hrow'⟩ := ih hbelow hpart
    refine ⟨before ++ before', after' ++ after, fun f hf => ?_⟩
    calc (t.updateAt f (side :: path)).tokens
        = before ++ ((t.operandOn side).updateAt f path).tokens ++ after :=
          hrow _ (updateAt_ne_empty hpart hf)
      _ = before ++ (before' ++ (f (partAt path (t.operandOn side))).tokens ++ after') ++ after := by
          rw [hrow' f hf]
      _ = before ++ before' ++ (f (partAt (side :: path) t)).tokens ++ (after' ++ after) := by
          simp only [List.append_assoc, partAt, List.foldl_cons]

end Formula

namespace Workspace

/-! ## Paths in forests -/

section
variable {w : Workspace} {live : Set Handle} (h : w.Forest live)
include h

/-- An element stands at the end of one path. -/
theorem Forest.path_unique {a n : Handle} {path path' : List Side} (ha : a ∈ live)
    (hpath : w.descendant? a path = some n) (hpath' : w.descendant? a path' = some n) :
    path = path' := by
  induction path generalizing a path' with
  | nil =>
    obtain rfl := Option.some.inj hpath
    cases path' with
    | nil => rfl
    | cons side' path' =>
      obtain ⟨c, hc, hcn⟩ := (descendant?_cons_eq_some w _ _ side' path').mp hpath'
      exact absurd (.head' (holds_side hc) (reaches_of_descendant? w _ _ _ hcn)) (h.acyclic _)
  | cons side path ih =>
    obtain ⟨c, hc, hcn⟩ := (descendant?_cons_eq_some w _ _ side path).mp hpath
    cases path' with
    | nil =>
      obtain rfl := Option.some.inj hpath'
      exact absurd (.head' (holds_side hc) (reaches_of_descendant? w _ _ _ hcn)) (h.acyclic _)
    | cons side' path' =>
      obtain ⟨d, hd, hdn⟩ := (descendant?_cons_eq_some w _ _ side' path').mp hpath'
      by_cases hside : side' = side
      · subst hside
        obtain rfl : c = d := Option.some.inj (hc.symm.trans hd)
        rw [ih (h.closed a ha c (holds_side hc)) hcn hdn]
      · exact absurd (reaches_of_descendant? w _ _ _ hdn)
          (h.apart ha hside hc hd (reaches_of_descendant? w _ _ _ hcn))

/-- The part at the end of a path is the formula of the element there. -/
theorem Forest.partAt_formula {a n : Handle} {path : List Side} (ha : a ∈ live)
    (hpath : w.descendant? a path = some n) : (w.formula a).partAt path = w.formula n := by
  induction path generalizing a with
  | nil =>
    obtain rfl := Option.some.inj hpath
    rfl
  | cons side path ih =>
    obtain ⟨c, hc, hcn⟩ := (descendant?_cons_eq_some w _ _ side path).mp hpath
    have hcl := h.closed a ha c (holds_side hc)
    have hoperand := (h.shows_formula ha).operandOn side
    rw [hc] at hoperand
    rw [← ih hcl hcn, ← hoperand.unique (h.shows_formula hcl)]
    rfl

theorem Forest.formula_ne_empty {n : Handle} (hn : n ∈ live) : w.formula n ≠ .empty := by
  have hshows := h.shows_formula hn
  intro hempty
  rw [hempty] at hshows
  cases hshows

end

/-! ## Edits -/

section
variable {w : Workspace} {live : Set Handle} (h : w.Forest live) {n : Handle} (hn : n ∈ live)
include h hn

/-- The row of the root around the tokens of an element on display, before and after any update at the
position of the element. -/
theorem Forest.exists_block {path : List Side} (hpath : w.descendant? (w.root n) path = some n)
    (hshown : Formula.isShown path (w.formula (w.root n)) = true) :
    ∃ before after,
      (w.formula (w.root n)).tokens = before ++ (w.formula n).tokens ++ after ∧
      ∀ w' live' n' f, w.UpdatesAt w' live' n n' f → f (w.formula n) ≠ .empty →
        (w'.formula (w.root n)).tokens = before ++ (f (w.formula n)).tokens ++ after := by
  have hroot := (h.climbs hn).2.2
  have hne := h.formula_ne_empty hn
  have hpart := h.partAt_formula hroot hpath
  obtain ⟨before, after, hrow⟩ := Formula.exists_updateAt_tokens hshown (hpart ▸ hne)
  rw [hpart] at hrow
  refine ⟨before, after, ?_, ?_⟩
  · have hsame := hrow id hne
    rwa [Formula.updateAt_id] at hsame
  · intro w' live' n' f hupdates hf
    obtain ⟨path', hpath', -, hformula⟩ := hupdates.position
    rw [hformula, h.path_unique hroot hpath' hpath]
    exact hrow f hf

/-- **An edit changes one block of tokens.**  If the row of the root shows the element `n`, the tokens
of `n` stand together in it, and with the same tokens before and behind them stand, after `n` was
replaced by the root of another tree, the tokens of the latter, and after `n` was wrapped, its own
tokens, the operator and the tokens of the root that became the right operand. -/
theorem edits_change_one_block {path : List Side} (hpath : w.descendant? (w.root n) path = some n)
    (hshown : Formula.isShown path (w.formula (w.root n)) = true) :
    ∃ before after,
      (w.formula (w.root n)).tokens = before ++ (w.formula n).tokens ++ after ∧
      (∀ source ∈ live, w.parent? source = none → w.root n ≠ source →
        (w.replace n source).root n = w.root n ∧
        ((w.replace n source).formula (w.root n)).tokens =
          before ++ (w.formula source).tokens ++ after) ∧
      (∀ operator right, w.parent? n ≠ none → w.Fits live n right →
        ∃ w' m, w.wrap n operator right = .ok (w', m) ∧ w'.root n = w.root n ∧
          (w'.formula (w.root n)).tokens = before ++
            ((w.formula n).tokens ++ ⟨.operator, operator⟩ :: (w.formula? right).tokens) ++
              after) := by
  obtain ⟨before, after, hrow, hedit⟩ := h.exists_block hn hpath hshown
  refine ⟨before, after, hrow, ?_, ?_⟩
  · intro source hs hfree hne
    have hpar : ∀ p, w.parent? source = some p → p = n := by
      intro p hp
      rw [hfree] at hp
      cases hp
    have hupdates := updatesAt_replace h hn source hs (h.not_reaches_of_root hn hs hfree hne) hpar
    exact ⟨hupdates.root, hedit _ _ _ _ hupdates (h.formula_ne_empty hs)⟩
  · intro operator right hroot hfit
    obtain ⟨p, hp⟩ := Option.ne_none_iff_exists'.mp hroot
    obtain ⟨hpl, hpn⟩ := (h.owner p n hn).mp hp
    have hwrap := wrap_eq w p n operator right (h.lt p hpl) hp hpn fun c hc => h.lt c (hfit c hc).1
    have hupdates := updatesAt_wrapped h hn operator hp hfit
    exact ⟨_, _, hwrap, hupdates.root, hedit _ _ _ _ hupdates nofun⟩

end

/-- The number in `|1| + 2` replaced by `x`, and wrapped. -/
theorem edits_change_one_block_twoTrees :
    twoTrees.Forest {n | n < twoTrees.size} ∧
    ∃ before after,
      (twoTrees.formula 3).tokens = before ++ (twoTrees.formula 0).tokens ++ after ∧
      ((twoTrees.replace 0 4).formula 3).tokens = before ++ (twoTrees.formula 4).tokens ++ after ∧
      ∃ w' m, twoTrees.wrap 0 "MULT" (some 4) = .ok (w', m) ∧
        (w'.formula 3).tokens = before ++
          ((twoTrees.formula 0).tokens ++ ⟨.operator, "MULT"⟩ :: (twoTrees.formula 4).tokens) ++
            after := by
  have h : twoTrees.Forest {n | n < twoTrees.size} :=
    forest_of_rank twoTrees (fun n => n) (by decide) (by decide)
  have hn : (0 : Handle) ∈ {n | n < twoTrees.size} := by decide
  have hfit : twoTrees.Fits {n | n < twoTrees.size} 0 (some 4) := by
    intro c hc
    cases hc
    exact ⟨by decide, rfl, by decide⟩
  have hpath : twoTrees.descendant? (twoTrees.root 0) [.left, .left] = some 0 := by decide
  obtain ⟨before, after, hrow, hreplace, hwrap⟩ :=
    edits_change_one_block h hn hpath (by decide)
  obtain ⟨w', m, hok, -, hwrapped⟩ := hwrap "MULT" (some 4) nofun hfit
  exact ⟨h, before, after, hrow, (hreplace 4 (by decide) rfl (by decide)).2, w', m, hok, hwrapped⟩

end Workspace

end BrickFormula
