import BrickFormula.Proofs.Workspace.Forest

/-!
# Edits refine updates of formulas

In a forest, an edit of an element in place does to the formula of its root what an update at its
position does, and nothing else: `UpdatesAt` says this of two workspaces, an element and a change of
formulas.

    setOperand n side c     the operand on that side becomes the formula of `c`
    replace n s             the formula becomes that of `s`
    replaceContent n k t    the root gets another kind and text
    wrap n op r             the formula becomes the left operand of `op`, beside that of `r`
-/

namespace BrickFormula.Workspace

/-- From `w` to `w'`, the formula at the position of `n` under its root was changed by `f`, and `n'`
stands there now; of the elements in `live`, those that do not contain `n` keep their formulas; and
what `n` no longer holds has no parent. -/
structure UpdatesAt (w w' : Workspace) (live : Set Handle) (n n' : Handle)
    (f : Formula → Formula) : Prop where
  root : w'.root n = w.root n
  position : ∃ path, w.descendant? (w.root n) path = some n ∧
    w'.descendant? (w.root n) path = some n' ∧
    w'.formula (w.root n) = (w.formula (w.root n)).updateAt f path
  others : ∀ m ∈ live, ¬ w.Reaches m n → w'.formula m = w.formula m
  dropped : ∀ c, w.Holds n c → ¬ w'.Holds n c →
    w'.parent? c = none ∧ (c ∈ live → w'.formula c = w.formula c)

section
variable {w w' : Workspace} {live live' : Set Handle} (h : w.Forest live) {n : Handle}
include h

/-- The formula of an operand in use is the one that is read. -/
theorem Forest.shows (a : Option Handle) (ha : ∀ c ∈ a, c ∈ live) : w.Shows a (w.formula? a) :=
  shows_formula? w (· ∈ live) h.lt (fun p c hp hpc => h.closed p hp c hpc)
    (fun n _ => h.acyclic n) a ha

theorem Forest.shows_formula {m : Handle} (hm : m ∈ live) : w.Shows (some m) (w.formula m) :=
  h.shows (some m) (fun c hc => by cases hc; exact hm)

theorem Forest.formula_eq {m : Handle} (hm : m ∈ live) {t : Formula} (ht : w.Shows (some m) t) :
    w.formula m = t :=
  (h.shows_formula hm).unique ht

/-- Operands in use that do not lead to `n` keep their formulas when only `n` changes. -/
theorem Forest.keep (hkeep : ∀ m, m ∈ live → m ≠ n → w.SameAt w' m) {a : Option Handle}
    {t : Formula} (ht : w.Shows a t) (ha : ∀ c ∈ a, c ∈ live ∧ ¬ w.Reaches c n) : w'.Shows a t :=
  ht.keep (fun p c hp hpc => h.closed p hp c hpc) hkeep ha

/-- What hangs from an operand of `n` does not contain `n`. -/
theorem Forest.below_far (hn : n ∈ live) {side : Side} :
    ∀ c ∈ w.operand? n side, c ∈ live ∧ ¬ w.Reaches c n := fun c hc =>
  ⟨h.closed n hn c (holds_side hc), fun hcn => h.acyclic n (.head' (holds_side hc) hcn)⟩

/-- The way up stays when the elements above keep their links. -/
theorem Forest.climbs_keep (hn : n ∈ live)
    (hup : ∀ x, w.Reaches x n → w'.parent? x = w.parent? x) {r : Handle} (hr : w.Climbs n r) :
    w'.Climbs n r := by
  induction hr with
  | stop hroot => exact .stop ((hup _ .refl).trans hroot)
  | @up n p r hp _ ih =>
    obtain ⟨hpl, hpn⟩ := (h.owner p n hn).mp hp
    exact .up ((hup n .refl).trans hp) (ih hpl fun x hx => hup x (hx.tail hpn))

variable (hn : n ∈ live) (h' : w'.Forest live') (hn' : n ∈ live')
include hn h' hn'

theorem Forest.root_keep (hup : ∀ x, w.Reaches x n → w'.parent? x = w.parent? x) :
    w'.root n = w.root n :=
  h'.root_eq hn' (h.climbs_keep hn hup (h.climbs hn).1)

/-- **A change of one element.**  Only `n` changes its content and operands, and its formula changes
by `f`; then the formula of each root is updated at the position of `n`. -/
theorem Forest.position_of_change
    (hkeep : ∀ m, m ∈ live → m ≠ n → w.SameAt w' m)
    (hup : ∀ x, w.Reaches x n → w'.parent? x = w.parent? x) (f : Formula → Formula)
    (hf : w'.Shows (some n) (f (w.formula n))) :
    ∃ path, w.descendant? (w.root n) path = some n ∧ w'.descendant? (w.root n) path = some n ∧
      w'.formula (w.root n) = (w.formula (w.root n)).updateAt f path := by
  obtain ⟨-, hreach, hroot⟩ := h.climbs hn
  have hroot' : w.root n ∈ live' := h.root_keep hn h' hn' hup ▸ (h'.climbs hn').2.2
  obtain ⟨path, hpath⟩ := exists_path_of_reaches w _ _ hreach
  obtain ⟨hshows, hstays⟩ := shows_updateAt w w' (· ∈ live) n
    (fun p c hp hpc => h.closed p hp c hpc) h.acyclic
    (fun a side side' c d ha hne hc hd hcn => h.apart ha hne hc hd hcn) hkeep f _
    (h.shows_formula hn) hf path (w.root n) _ hroot hpath (h.shows_formula hroot)
  exact ⟨path, hpath, hstays, h'.formula_eq hroot' hshows⟩

omit hn hn' in
theorem Forest.others_of_change
    (hkeep : ∀ m, m ∈ live → m ≠ n → w.SameAt w' m)
    {m : Handle} (hm : m ∈ live) (hm' : m ∈ live') (hfar : ¬ w.Reaches m n) :
    w'.formula m = w.formula m := by
  apply h'.formula_eq hm'
  exact h.keep hkeep (h.shows_formula hm) (fun c hc => by cases hc; exact ⟨hm, hfar⟩)

/-- An edit of one element refines an update once the elements that leave it have no parent. -/
theorem Forest.updatesAt_of_change (hsub : ∀ m ∈ live', m ∈ live)
    (hkeep : ∀ m, m ∈ live → m ≠ n → w.SameAt w' m)
    (hup : ∀ x, w.Reaches x n → w'.parent? x = w.parent? x) (f : Formula → Formula)
    (hf : w'.Shows (some n) (f (w.formula n)))
    (hdrop : ∀ c, w.Holds n c → ¬ w'.Holds n c → w'.parent? c = none) :
    w.UpdatesAt w' live' n n f := by
  constructor
  case root => exact h.root_keep hn h' hn' hup
  case position => exact h.position_of_change hn h' hn' hkeep hup f hf
  case others => exact fun m hm hfar => h.others_of_change h' hkeep (hsub m hm) hm hfar
  case dropped =>
    intro c hc hgone
    refine ⟨hdrop c hc hgone, fun hcl => ?_⟩
    obtain ⟨side, hold⟩ := (holds_iff w n c).mp hc
    exact h.others_of_change h' hkeep (hsub c hcl) hcl (h.below_far hn c hold).2

end

section
variable {w : Workspace} {live : Set Handle} (h : w.Forest live) {n : Handle} (hn : n ∈ live)
include h hn

/-! ## A new operand -/

/-- Nothing above an element gets another parent when an operand of it is set. -/
theorem parent?_setOperand_above (side : Side) {child : Option Handle} (hfit : w.Fits live n child)
    {x : Handle} (hx : w.Reaches x n) :
    (w.setOperand n side child).parent? x = w.parent? x := by
  have hfar := h.not_reaches_of_fits hn hfit
  rw [parent?_setOperand w n side child x (fun c hc => h.lt c (hfit c hc).1),
    if_neg (fun hc : child = some x => hfar x hc hx), if_neg]
  rintro ⟨hold, -⟩
  exact h.acyclic n (.head' (holds_side hold) hx)

theorem updatesAt_setOperand (side : Side) (child : Option Handle) (hfit : w.Fits live n child) :
    w.UpdatesAt (w.setOperand n side child) live n n
      (fun t => t.withOperand side (w.formula? child)) := by
  have hlt := h.lt n hn
  have hfar := h.not_reaches_of_fits hn hfit
  have hforest := forest_setOperand h hn side child hfit
  have hop := fun m side' => operand?_setOperand w n side child m side' hlt
  have hpar := fun m => parent?_setOperand w n side child m (fun c hc => h.lt c (hfit c hc).1)
  have hkeep : ∀ m, m ∈ live → m ≠ n → w.SameAt (w.setOperand n side child) m := by
    intro m _ hne
    refine ⟨content?_setOperand w n side child m, fun side' => ?_⟩
    rw [hop, if_neg (fun hat => hne hat.1)]
  have hup := fun x (hx : w.Reaches x n) => parent?_setOperand_above h hn side hfit hx
  have hf : (w.setOperand n side child).Shows (some n)
      ((w.formula n).withOperand side (w.formula? child)) := by
    apply (h.shows_formula hn).withOperand (content?_setOperand w n side child n)
    · rw [hop, if_pos ⟨rfl, rfl⟩]
      exact h.keep hkeep (h.shows child (fun c hc => (hfit c hc).1))
        (fun c hc => ⟨(hfit c hc).1, hfar c hc⟩)
    · intro side' hne
      rw [hop, if_neg (fun hat => hne hat.2)]
      exact h.keep hkeep ((h.shows_formula hn).operandOn side') (h.below_far hn)
  apply h.updatesAt_of_change hn hforest hn (fun _ hm => hm) hkeep hup _ hf
  intro c hc hgone
  have hne : child ≠ some c := by
    intro e
    refine hgone ((holds_iff _ n c).mpr ⟨side, ?_⟩)
    rw [hop, if_pos ⟨rfl, rfl⟩, e]
  obtain ⟨side', hold⟩ := (holds_iff w n c).mp hc
  have hside : side' = side := by
    by_contra hs
    exact hgone (holds_side (by rw [hop, if_neg (fun e => hs e.2)]; exact hold))
  rw [hpar, if_neg hne, if_pos ⟨hside ▸ hold, h.parent_of_holds hn hc⟩]

/-! ## Another element in the same place -/

omit hn in
theorem parent?_replace_above {source : Handle} (hs : source ∈ live)
    (hfree : ¬ w.Reaches source n) {x : Handle} (hx : w.Reaches x n) :
    (w.replace n source).parent? x = w.parent? x := by
  rw [parent?_replace w n source x (h.lt source hs) (h.operand_lt source),
    if_neg (fun hsx => hfree (.head hsx hx)), if_neg]
  rintro ⟨hold, -⟩
  exact h.acyclic n (.head' hold hx)

theorem updatesAt_replace (source : Handle) (hs : source ∈ live) (hfree : ¬ w.Reaches source n)
    (hpar : ∀ p, w.parent? source = some p → p = n) :
    w.UpdatesAt (w.replace n source) (live \ {source}) n n (fun _ => w.formula source) := by
  have hlt := h.lt n hn
  have hslt := h.lt source hs
  have hns : n ≠ source := fun e => hfree (e ▸ .refl)
  have hforest := forest_replace h hn source hs hfree hpar
  have hop := fun m side => operand?_replace w n source m side hlt hslt
  have hkeep : ∀ m, m ∈ live → m ≠ n → w.SameAt (w.replace n source) m := by
    intro m _ hne
    refine ⟨?_, fun side => ?_⟩
    · rw [content?_replace w n source m hlt hslt, if_neg hne]
    · rw [hop, if_neg hne]
  have hup := fun x (hx : w.Reaches x n) => parent?_replace_above h hs hfree hx
  have hf : (w.replace n source).Shows (some n) (w.formula source) := by
    apply (h.shows_formula hs).elsewhere
    · rw [content?_replace w n source n hlt hslt, if_pos rfl]
    · intro side
      rw [hop, if_pos rfl]
      exact h.keep hkeep ((h.shows_formula hs).operandOn side) fun c hc =>
        ⟨h.closed source hs c (holds_side hc), fun hcn => hfree (.head (holds_side hc) hcn)⟩
  apply h.updatesAt_of_change hn hforest ⟨hn, hns⟩ (fun _ hm => hm.1) hkeep hup _ hf
  intro c hc hgone
  rw [holds_replace w n source n c hlt hslt, if_pos rfl] at hgone
  rw [parent?_replace w n source c hslt (h.operand_lt source), if_neg hgone,
    if_pos ⟨hc, h.parent_of_holds hn hc⟩]

theorem updatesAt_replaceContent (kind : Kind) (text : Option String) :
    w.UpdatesAt (w.replaceContent n kind text) live n n (fun t => t.withContent kind text) := by
  have hlt := h.lt n hn
  have hforest := forest_replaceContent h (n := n) kind text
  have hop := operand?_replaceContent w n kind text
  have hkeep : ∀ m, m ∈ live → m ≠ n → w.SameAt (w.replaceContent n kind text) m := by
    intro m _ hne
    refine ⟨?_, fun side => hop m side⟩
    rw [content?_replaceContent w n kind text m hlt, if_neg hne]
  have hup : ∀ x, w.Reaches x n → (w.replaceContent n kind text).parent? x = w.parent? x :=
    fun x _ => parent?_replaceContent w n kind text x
  have hf : (w.replaceContent n kind text).Shows (some n)
      ((w.formula n).withContent kind text) := by
    apply (h.shows_formula hn).withContent
    · rw [content?_replaceContent w n kind text n hlt, if_pos rfl]
    · intro side
      rw [hop]
      exact h.keep hkeep ((h.shows_formula hn).operandOn side) (h.below_far hn)
  apply h.updatesAt_of_change hn hforest hn (fun _ hm => hm) hkeep hup _ hf
  intro c hc hgone
  exact absurd (hc.imp (hop n .left).trans (hop n .right).trans) hgone

end

/-! ## An operator around an element -/

section
variable {w : Workspace} {live : Set Handle} (h : w.Forest live) {n : Handle} (hn : n ∈ live)
  {p : Handle} (operator : String) {right : Option Handle} (hp : w.parent? n = some p)
  (hfit : w.Fits live n right)
include h hn hp

/-- Of the elements in use before, only the parent changes. -/
theorem sameAt_wrapped {m : Handle} (hm : m ∈ live) (hne : m ≠ p) :
    w.SameAt (w.wrapped p n operator right) m := by
  have hlt := h.lt p ((h.owner p n hn).mp hp).1
  have hmw : m ≠ w.size := Nat.ne_of_lt (h.lt m hm)
  constructor
  · rw [content?_wrapped, if_neg hmw]
  · intro side
    rw [operand?_wrapped w p n operator right hlt, if_neg (fun hat => hne hat.1), if_neg hmw]

include hfit

/-- The formula of the new operator. -/
theorem shows_wrapper :
    (w.wrapped p n operator right).Shows (some w.size)
      (.node .operator (some operator) (w.formula n) (w.formula? right)) := by
  obtain ⟨hpl, hpn⟩ := (h.owner p n hn).mp hp
  have hlt := h.lt p hpl
  have hne : w.size ≠ p := Ne.symm (Nat.ne_of_lt hlt)
  have hkeep : ∀ m, m ∈ live → m ≠ p → w.SameAt (w.wrapped p n operator right) m :=
    fun m hm => sameAt_wrapped h hn operator hp hm
  refine .node ?_ ?_ ?_
  · rw [content?_wrapped, if_pos rfl]
  · rw [operand?_wrapped w p n operator right hlt, if_neg (fun hat => hne hat.1), if_pos rfl]
    apply h.keep hkeep (h.shows_formula hn)
    intro c hc
    cases hc
    exact ⟨hn, fun hnp => h.acyclic p (.head' hpn hnp)⟩
  · rw [operand?_wrapped w p n operator right hlt, if_neg (fun hat => hne hat.1), if_pos rfl]
    apply h.keep hkeep (h.shows right (fun c hc => (hfit c hc).1))
    intro c hc
    exact ⟨(hfit c hc).1, fun hcp => h.not_reaches_of_fits hn hfit c hc (hcp.tail hpn)⟩

/-- The formula of the parent, with the operator in the place of the element. -/
theorem shows_wrapped_parent :
    (w.wrapped p n operator right).Shows (some p)
      ((w.formula p).updateAt (fun t => .node .operator (some operator) t (w.formula? right))
        [w.sideUnder p n]) := by
  obtain ⟨hpl, hpn⟩ := (h.owner p n hn).mp hp
  have hlt := h.lt p hpl
  have hop := operand?_wrapped w p n operator right hlt p
  have hkeep : ∀ m, m ∈ live → m ≠ p → w.SameAt (w.wrapped p n operator right) m :=
    fun m hm => sameAt_wrapped h hn operator hp hm
  have hs := h.shows_formula hpl
  have hthere : (w.formula p).operandOn (w.sideUnder p n) = w.formula n :=
    (operand?_sideUnder w p n hpn ▸ hs.operandOn _).unique (h.shows_formula hn)
  unfold Formula.updateAt Formula.updateAt
  rw [hthere]
  apply hs.withOperand
  · rw [content?_wrapped, if_neg (Nat.ne_of_lt hlt)]
  · rw [hop, if_pos ⟨rfl, rfl⟩]
    exact shows_wrapper h hn operator hp hfit
  · intro side hne
    rw [hop, if_neg (fun hat => hne hat.2), if_neg (Nat.ne_of_lt hlt)]
    exact h.keep hkeep (hs.operandOn side) (h.below_far hpl)

theorem updatesAt_wrapped :
    w.UpdatesAt (w.wrapped p n operator right) live n w.size
      (fun t => .node .operator (some operator) t (w.formula? right)) := by
  obtain ⟨hpl, hpn⟩ := (h.owner p n hn).mp hp
  have hlt := h.lt p hpl
  have hforest := forest_wrapped h hn p operator right hp hfit
  have hop := fun m side => operand?_wrapped w p n operator right hlt m side
  have hpar := fun m => parent?_wrapped w p n operator right hlt hp hpn
    (fun c hc => h.lt c (hfit c hc).1) m
  have hkeep : ∀ m, m ∈ live → m ≠ p → w.SameAt (w.wrapped p n operator right) m :=
    fun m hm => sameAt_wrapped h hn operator hp hm
  have hnm : n ≠ w.size := Nat.ne_of_lt (h.lt n hn)
  have hup : ∀ x, w.Reaches x p → (w.wrapped p n operator right).parent? x = w.parent? x := by
    intro x hx
    have hxn : w.Reaches x n := hx.tail hpn
    rw [hpar, if_neg, if_neg]
    · rintro (e | e)
      · cases e
        exact h.acyclic p (.head' hpn hx)
      · exact h.not_reaches_of_fits hn hfit x e hxn
    · rintro rfl
      rcases Relation.ReflTransGen.cases_head hx with e | ⟨c, hc, -⟩
      · exact Nat.ne_of_lt hlt e.symm
      · exact Nat.lt_irrefl _ hc.lt
  -- the way up from `n` passes the operator and its parent
  have hroot : w.root n = w.root p := h.root_eq hn (.up hp (h.climbs hpl).1)
  have hroot' : (w.wrapped p n operator right).root n = w.root p := by
    apply hforest.root_eq (.inr hn)
    refine .up (p := w.size) ?_ (.up (p := p) ?_ (h.climbs_keep hpl hup (h.climbs hpl).1))
    · rw [hpar, if_neg hnm, if_pos (.inl rfl)]
    · rw [hpar, if_pos rfl]
  constructor
  case root => rw [hroot', hroot]
  case position =>
    obtain ⟨path, hpath, hpath', hformula⟩ := h.position_of_change hpl hforest (.inr hpl) hkeep hup
      (fun t => t.updateAt (fun t => .node .operator (some operator) t (w.formula? right))
        [w.sideUnder p n]) (shows_wrapped_parent h hn operator hp hfit)
    rw [hroot]
    refine ⟨path ++ [w.sideUnder p n], ?_, ?_, ?_⟩
    · exact descendant?_concat w _ p n path _ hpath (operand?_sideUnder w p n hpn)
    · exact descendant?_concat _ _ p w.size path _ hpath' (by rw [hop, if_pos ⟨rfl, rfl⟩])
    · rw [hformula, Formula.updateAt_append]
  case others =>
    intro m hm hfar
    exact h.others_of_change hforest hkeep hm (.inr hm) (fun hmp => hfar (hmp.tail hpn))
  case dropped =>
    intro c hc hgone
    have hne : n ≠ p := by
      rintro rfl
      exact h.acyclic n (.single hpn)
    have hsame := (hkeep n hn hne).operand
    exact absurd (hc.imp (hsame .left).trans (hsame .right).trans) hgone

end

/-! ## All edits -/

/-- **Edits in place refine updates.**  For every element `n` of a forest, each operation leaves a
forest again (taking over `source` leaves one without `source`), the formula of the root is updated
at the position of `n` and nowhere else, and `n` keeps its parent, except that wrapping gives it the
new operator `m` as parent, which has the old one. -/
theorem edits_refine_updates {w : Workspace} {live : Set Handle} (h : w.Forest live) {n : Handle}
    (hn : n ∈ live) :
    (∀ side child, w.Fits live n child →
      (w.setOperand n side child).Forest live ∧
      w.UpdatesAt (w.setOperand n side child) live n n
        (fun t => t.withOperand side (w.formula? child)) ∧
      (w.setOperand n side child).parent? n = w.parent? n) ∧
    (∀ source ∈ live, (w.parent? source = none ∧ w.root n ≠ source) ∨ w.Holds n source →
      (w.replace n source).Forest (live \ {source}) ∧
      w.UpdatesAt (w.replace n source) (live \ {source}) n n (fun _ => w.formula source) ∧
      (w.replace n source).parent? n = w.parent? n) ∧
    (∀ kind text,
      (w.replaceContent n kind text).Forest live ∧
      w.UpdatesAt (w.replaceContent n kind text) live n n (fun t => t.withContent kind text) ∧
      (w.replaceContent n kind text).parent? n = w.parent? n) ∧
    (∀ operator right p, w.parent? n = some p → w.Fits live n right →
      ∃ w' m, w.wrap n operator right = .ok (w', m) ∧ m ∉ live ∧ w'.Forest (insert m live) ∧
        w.UpdatesAt w' live n m
          (fun t => .node .operator (some operator) t (w.formula? right)) ∧
        w'.operand? m .left = some n ∧ w'.parent? n = some m ∧ w'.parent? m = some p) := by
  refine ⟨?_, ?_, ?_, ?_⟩
  · intro side child hfit
    refine ⟨forest_setOperand h hn side child hfit, updatesAt_setOperand h hn side child hfit, ?_⟩
    exact parent?_setOperand_above h hn side hfit .refl
  · intro source hs hsource
    have hfree : ¬ w.Reaches source n := by
      rcases hsource with ⟨hroot, hne⟩ | hheld
      · exact h.not_reaches_of_root hn hs hroot hne
      · exact fun hsn => h.acyclic n (.head' hheld hsn)
    have hpar : ∀ p, w.parent? source = some p → p = n := by
      intro p hp
      rcases hsource with ⟨hroot, -⟩ | hheld
      · rw [hroot] at hp
        cases hp
      · rw [h.parent_of_holds hn hheld] at hp
        exact (Option.some.inj hp).symm
    refine ⟨forest_replace h hn source hs hfree hpar, updatesAt_replace h hn source hs hfree hpar, ?_⟩
    exact parent?_replace_above h hs hfree .refl
  · intro kind text
    exact ⟨forest_replaceContent h kind text, updatesAt_replaceContent h hn kind text,
      parent?_replaceContent w n kind text n⟩
  · intro operator right p hp hfit
    obtain ⟨hpl, hpn⟩ := (h.owner p n hn).mp hp
    have hlt := h.lt p hpl
    have hr : ∀ c ∈ right, c < w.size := fun c hc => h.lt c (hfit c hc).1
    refine ⟨w.wrapped p n operator right, w.size, wrap_eq w p n operator right hlt hp hpn hr,
      fun hm => Nat.lt_irrefl _ (h.lt _ hm), forest_wrapped h hn p operator right hp hfit,
      updatesAt_wrapped h hn operator hp hfit, ?_, ?_, ?_⟩
    · rw [operand?_wrapped w p n operator right hlt, if_neg, if_pos rfl]
      · rfl
      · exact fun hat => Nat.ne_of_lt hlt hat.1.symm
    · rw [parent?_wrapped w p n operator right hlt hp hpn hr,
        if_neg (Nat.ne_of_lt (h.lt n hn)), if_pos (.inl rfl)]
    · rw [parent?_wrapped w p n operator right hlt hp hpn hr, if_pos rfl]

/-- `|1| + 2`, and `x` beside it. -/
def twoTrees : Workspace where
  elements := [⟨.number, some "1", none, none, some 1⟩, ⟨.function, some "ABS", some 0, none, some 3⟩,
    ⟨.number, some "2", none, none, some 3⟩, ⟨.operator, some "PLUS", some 1, some 2, none⟩,
    ⟨.userVariable, some "x", none, none, none⟩]

theorem edits_refine_updates_twoTrees :
    twoTrees.Forest {n | n < twoTrees.size} ∧
    (twoTrees.setOperand 1 .left (some 4)).Forest {n | n < twoTrees.size} ∧
    (twoTrees.replace 1 0).Forest ({n | n < twoTrees.size} \ {0}) ∧
    ∃ w' m, twoTrees.wrap 1 "MULT" (some 4) = .ok (w', m) ∧
      twoTrees.UpdatesAt w' {n | n < twoTrees.size} 1 m
        (fun t => .node .operator (some "MULT") t (.leaf .userVariable "x")) := by
  have h : twoTrees.Forest {n | n < twoTrees.size} :=
    forest_of_rank twoTrees (fun n => n) (by decide) (by decide)
  have hfit : twoTrees.Fits {n | n < twoTrees.size} 1 (some 4) := by
    intro c hc
    cases hc
    exact ⟨by decide, rfl, by decide⟩
  have hn : (1 : Handle) ∈ {n | n < twoTrees.size} := by decide
  obtain ⟨hset, hreplace, -, hwrap⟩ := edits_refine_updates h hn
  refine ⟨h, (hset .left _ hfit).1, (hreplace 0 (by decide) (.inr (by decide))).1, ?_⟩
  obtain ⟨w', m, hok, -, -, hupdates, -⟩ := hwrap "MULT" (some 4) 3 rfl hfit
  exact ⟨w', m, hok, hupdates⟩

end BrickFormula.Workspace
