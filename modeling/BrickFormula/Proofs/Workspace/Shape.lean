import BrickFormula.Proofs.Workspace.ParentLinks

/-!
# The formula that hangs from an element

`Shows w a t` says, without a bound on the depth, that the formula `t` hangs from the operand `a`.
Where no element is inside itself that is the formula that `Workspace.formula` reads.  A change of
one element `n` changes the formula of every element above it at one position only, the end of the
path from there to `n`:

    shows_formula?    the formula that is read is the one that hangs there
    Shows.frame       elements out of reach do not matter
    shows_updateAt    above a changed element, the formula is updated at the path
-/

namespace BrickFormula

namespace Formula

/-! ## Positions -/

/-- The operand on one side, empty if the formula is. -/
def operandOn : Formula → Side → Formula
  | .empty, _ => .empty
  | .node _ _ left _, .left => left
  | .node _ _ _ right, .right => right

/-- The part at the end of a path. -/
def partAt (path : List Side) (t : Formula) : Formula := path.foldl operandOn t

theorem partAt_empty (path : List Side) : partAt path .empty = .empty := by
  induction path with
  | nil => rfl
  | cons side path ih => exact ih

theorem ne_empty_of_partAt {path : List Side} {t : Formula} (h : partAt path t ≠ .empty) :
    t ≠ .empty := by
  rintro rfl
  exact h (partAt_empty path)

/-- Another operand on one side. -/
def withOperand : Formula → Side → Formula → Formula
  | .empty, _, _ => .empty
  | .node kind text _ right, .left, operand => .node kind text operand right
  | .node kind text left _, .right, operand => .node kind text left operand

theorem withOperand_ne_empty {t : Formula} (side : Side) (s : Formula) (ht : t ≠ .empty) :
    t.withOperand side s ≠ .empty := by
  cases t with
  | empty => exact absurd rfl ht
  | node kind text left right => cases side <;> exact nofun

/-- Another kind and text for the root element. -/
def withContent : Formula → Kind → Option String → Formula
  | .empty, _, _ => .empty
  | .node _ _ left right, kind, text => .node kind text left right

/-- A change of the part at the end of a path, and of nothing else. -/
def updateAt (f : Formula → Formula) : List Side → Formula → Formula
  | [], t => f t
  | side :: path, t => t.withOperand side (updateAt f path (t.operandOn side))

theorem updateAt_append (f : Formula → Formula) (path rest : List Side) (t : Formula) :
    t.updateAt f (path ++ rest) = t.updateAt (fun s => s.updateAt f rest) path := by
  induction path generalizing t with
  | nil => rfl
  | cons side path ih =>
    rw [List.cons_append, updateAt, ih]
    rfl

end Formula

namespace Workspace

/-! ## Paths of operands -/

theorem descendant?_cons (w : Workspace) (n c : Handle) (side : Side) (path : List Side)
    (h : w.operand? n side = some c) : w.descendant? n (side :: path) = w.descendant? c path := by
  unfold descendant?
  rw [List.foldlM_cons, h]
  rfl

theorem descendant?_cons_eq_some (w : Workspace) (n m : Handle) (side : Side) (path : List Side) :
    w.descendant? n (side :: path) = some m ↔
      ∃ c, w.operand? n side = some c ∧ w.descendant? c path = some m := by
  constructor
  · intro h
    cases ho : w.operand? n side with
    | none =>
      unfold descendant? at h
      rw [List.foldlM_cons, ho] at h
      cases h
    | some c =>
      rw [descendant?_cons w n c side path ho] at h
      exact ⟨c, rfl, h⟩
  · rintro ⟨c, ho, h⟩
    rw [descendant?_cons w n c side path ho, h]

theorem descendant?_concat (w : Workspace) (n p m : Handle) (path : List Side) (side : Side)
    (hp : w.descendant? n path = some p) (hm : w.operand? p side = some m) :
    w.descendant? n (path ++ [side]) = some m := by
  induction path generalizing n with
  | nil =>
    cases hp
    exact (descendant?_cons w _ m side [] hm).trans rfl
  | cons side' path ih =>
    obtain ⟨c, hc, hp⟩ := (descendant?_cons_eq_some w n p side' path).mp hp
    rw [List.cons_append, descendant?_cons w n c side' _ hc]
    exact ih c hp

theorem reaches_of_descendant? (w : Workspace) (n m : Handle) (path : List Side)
    (h : w.descendant? n path = some m) : w.Reaches n m := by
  induction path generalizing n with
  | nil =>
    cases h
    exact .refl
  | cons side path ih =>
    obtain ⟨c, hc, h⟩ := (descendant?_cons_eq_some w n m side path).mp h
    exact .head (holds_side hc) (ih c h)

theorem exists_path_of_reaches (w : Workspace) (n m : Handle) (h : w.Reaches n m) :
    ∃ path, w.descendant? n path = some m := by
  induction h with
  | refl => exact ⟨[], rfl⟩
  | tail _ hpc ih =>
    obtain ⟨path, hp⟩ := ih
    obtain ⟨side, hside⟩ := (holds_iff w _ _).mp hpc
    exact ⟨path ++ [side], descendant?_concat w n _ _ path side hp hside⟩

/-! ## The formula that hangs from an operand -/

/-- The formula of an operand, however deep. -/
inductive Shows (w : Workspace) : Option Handle → Formula → Prop
  | empty : Shows w none .empty
  | node {n : Handle} {kind : Kind} {text : Option String} {left right : Formula}
      (content : w.content? n = some (kind, text)) (hl : Shows w (w.operand? n .left) left)
      (hr : Shows w (w.operand? n .right) right) : Shows w (some n) (.node kind text left right)

/-- An element shows the same content and operands in two workspaces. -/
structure SameAt (w w' : Workspace) (m : Handle) : Prop where
  content : w'.content? m = w.content? m
  operand : ∀ side, w'.operand? m side = w.operand? m side

theorem Shows.unique {w : Workspace} {a : Option Handle} {t t' : Formula} (h : w.Shows a t)
    (h' : w.Shows a t') : t = t' := by
  induction h generalizing t' with
  | empty =>
    cases h'
    rfl
  | node content _ _ ihl ihr =>
    cases h' with
    | node content' hl' hr' =>
      rw [content] at content'
      cases content'
      rw [ihl hl', ihr hr']

/-! ## Formulas side by side -/

section
variable {w w' : Workspace} {n : Handle} {t : Formula}

theorem Shows.operandOn (h : w.Shows (some n) t) (side : Side) :
    w.Shows (w.operand? n side) (t.operandOn side) := by
  cases h with
  | node _ hl hr =>
    cases side with
    | left => exact hl
    | right => exact hr

/-- The formula of an element with another operand on one side. -/
theorem Shows.withOperand (h : w.Shows (some n) t) (hcontent : w'.content? n = w.content? n)
    {side : Side} {s : Formula} (hside : w'.Shows (w'.operand? n side) s)
    (hother : ∀ side', side' ≠ side → w'.Shows (w'.operand? n side') (t.operandOn side')) :
    w'.Shows (some n) (t.withOperand side s) := by
  cases h with
  | node content _ _ =>
    cases side with
    | left => exact .node (hcontent.trans content) hside (hother .right nofun)
    | right => exact .node (hcontent.trans content) (hother .left nofun) hside

/-- The formula of an element with another kind and text. -/
theorem Shows.withContent (h : w.Shows (some n) t) {kind : Kind} {text : Option String}
    (hcontent : w'.content? n = some (kind, text))
    (hop : ∀ side, w'.Shows (w'.operand? n side) (t.operandOn side)) :
    w'.Shows (some n) (t.withContent kind text) := by
  cases h with
  | node _ _ _ => exact .node hcontent (hop .left) (hop .right)

/-- Another element that shows the same has the same formula. -/
theorem Shows.elsewhere (h : w.Shows (some n) t) {m : Handle}
    (hcontent : w'.content? m = w.content? n)
    (hop : ∀ side, w'.Shows (w'.operand? m side) (t.operandOn side)) : w'.Shows (some m) t := by
  cases h with
  | node content _ _ => exact .node (hcontent.trans content) (hop .left) (hop .right)

end

/-! ## Frames -/

/-- The formula depends only on the elements that can be reached. -/
theorem Shows.frame {w w' : Workspace} {a : Option Handle} {t : Formula} (h : w.Shows a t)
    (hkeep : ∀ n ∈ a, ∀ m, w.Reaches n m → w.SameAt w' m) : w'.Shows a t := by
  induction h with
  | empty => exact .empty
  | @node n kind text left right content _ _ ihl ihr =>
    obtain ⟨hcontent, hop⟩ := hkeep n rfl n .refl
    have hbelow : ∀ side, ∀ c ∈ w.operand? n side, ∀ m, w.Reaches c m → w.SameAt w' m :=
      fun side c hc m hm => hkeep n rfl m (.head (holds_side hc) hm)
    refine .node (hcontent.trans content) ?_ ?_
    · rw [hop]
      exact ihl (hbelow .left)
    · rw [hop]
      exact ihr (hbelow .right)

/-- The formula of an operand, empty if there is none. -/
def formula? (w : Workspace) (a : Option Handle) : Formula := w.formulaTo w.size a

/-- **The depth suffices.**  The elements on the way down, `path`, all lie above and are different, so
they are not more than the depth allows. -/
theorem shows_formulaTo (w : Workspace) (S : Handle → Prop) (hlt : ∀ n, S n → n < w.size)
    (hdown : ∀ p c, S p → w.Holds p c → S c)
    (ha : ∀ n, S n → ¬ Relation.TransGen w.Holds n n) :
    ∀ (depth : Nat) (a : Option Handle) (path : List Handle), (∀ n ∈ a, S n) →
      (∀ m ∈ path, S m) → path.Nodup → (∀ n ∈ a, ∀ m ∈ path, Relation.TransGen w.Holds m n) →
      w.size ≤ depth + path.length → w.Shows a (w.formulaTo depth a) := by
  intro depth
  induction depth with
  | zero =>
    intro a path hS hpath hd habove hsize
    cases a with
    | none => exact .empty
    | some n =>
      exfalso
      have hnew : n ∉ path := fun hm => ha n (hS n rfl) (habove n rfl n hm)
      have := path_length_lt (n := n) (fun m hm => hlt m ((List.mem_cons.mp hm).elim
        (fun e => e ▸ hS n rfl) (hpath m))) (List.nodup_cons.mpr ⟨hnew, hd⟩)
      omega
  | succ depth ih =>
    intro a path hS hpath hd habove hsize
    cases a with
    | none => exact .empty
    | some n =>
      have hSn := hS n rfl
      have hnew : n ∉ path := fun hm => ha n hSn (habove n rfl n hm)
      obtain ⟨⟨kind, text⟩, hcontent⟩ := Option.isSome_iff_exists.mp
        ((content?_isSome w n).mpr (hlt n hSn))
      have hoperand : ∀ side, w.Shows (w.operand? n side)
          (w.formulaTo depth (w.operand? n side)) := by
        intro side
        apply ih (w.operand? n side) (n :: path)
        · intro c hc
          exact hdown n c hSn (holds_side hc)
        · intro m hm
          exact (List.mem_cons.mp hm).elim (fun e => e ▸ hSn) (hpath m)
        · exact List.nodup_cons.mpr ⟨hnew, hd⟩
        · intro c hc m hm
          rcases List.mem_cons.mp hm with rfl | hm
          · exact .single (holds_side hc)
          · exact (habove n rfl m hm).tail (holds_side hc)
        · rw [List.length_cons]
          omega
      rw [formulaTo_succ w depth n kind text hcontent]
      exact .node hcontent (hoperand .left) (hoperand .right)

/-- The formula that is read is the one that hangs there. -/
theorem shows_formula? (w : Workspace) (S : Handle → Prop) (hlt : ∀ n, S n → n < w.size)
    (hdown : ∀ p c, S p → w.Holds p c → S c)
    (ha : ∀ n, S n → ¬ Relation.TransGen w.Holds n n) (a : Option Handle)
    (hS : ∀ n ∈ a, S n) : w.Shows a (w.formula? a) :=
  shows_formulaTo w S hlt hdown ha w.size a [] hS (fun m hm => by cases hm) List.nodup_nil
    (fun n _ m hm => by cases hm) (Nat.le_refl _)

/-- An operand that does not lead to `n` keeps its formula when only `n` changes. -/
theorem Shows.keep {w w' : Workspace} {S : Handle → Prop} {n : Handle}
    (hdown : ∀ p c, S p → w.Holds p c → S c)
    (hkeep : ∀ m, S m → m ≠ n → w.SameAt w' m)
    {a : Option Handle} {t : Formula} (h : w.Shows a t)
    (hfar : ∀ c ∈ a, S c ∧ ¬ w.Reaches c n) : w'.Shows a t := by
  apply h.frame
  intro c hc m hcm
  obtain ⟨hSc, hcn⟩ := hfar c hc
  have hSm : S m := by
    induction hcm with
    | refl => exact hSc
    | tail _ hpc ih => exact hdown _ _ ih hpc
  refine hkeep m hSm ?_
  rintro rfl
  exact hcn hcm

/-- **A change of one element.**  Let `w'` differ from `w` in the element `n` only, and let no element
hold `n` below both of its operands.  Then the formula of every element above `n` is updated at the
path to `n`, and the path stays. -/
theorem shows_updateAt (w w' : Workspace) (S : Handle → Prop) (n : Handle)
    (hdown : ∀ p c, S p → w.Holds p c → S c) (ha : w.Acyclic)
    (hapart : ∀ a side side' c d, S a → side' ≠ side → w.operand? a side = some c →
      w.operand? a side' = some d → w.Reaches c n → ¬ w.Reaches d n)
    (hkeep : ∀ m, S m → m ≠ n → w.SameAt w' m)
    (f : Formula → Formula) (s : Formula) (hs : w.Shows (some n) s)
    (hs' : w'.Shows (some n) (f s)) :
    ∀ (path : List Side) (a : Handle) (t : Formula), S a → w.descendant? a path = some n →
      w.Shows (some a) t →
      w'.Shows (some a) (t.updateAt f path) ∧ w'.descendant? a path = some n := by
  intro path
  induction path with
  | nil =>
    intro a t _ hpath ht
    cases hpath
    rw [ht.unique hs]
    exact ⟨hs', rfl⟩
  | cons side path ih =>
    intro a t hSa hpath ht
    obtain ⟨c, hc, hrest⟩ := (descendant?_cons_eq_some w a n side path).mp hpath
    have hcn := reaches_of_descendant? w c n path hrest
    have hne : a ≠ n := by
      rintro rfl
      exact ha a (.head' (holds_side hc) hcn)
    obtain ⟨hcontent, hop⟩ := hkeep a hSa hne
    obtain ⟨hbelow, hpath'⟩ := ih c _ (hdown a c hSa (holds_side hc)) hrest (hc ▸ ht.operandOn side)
    refine ⟨ht.withOperand hcontent ?_ ?_, ?_⟩
    · rw [hop, hc]
      exact hbelow
    · intro side' hother
      rw [hop]
      exact (ht.operandOn side').keep hdown hkeep fun d hd =>
        ⟨hdown a d hSa (holds_side hd), hapart a side side' c d hSa hother hc hd hcn⟩
    · rw [descendant?_cons w' a c side path ((hop side).trans hc)]
      exact hpath'

end Workspace

end BrickFormula
