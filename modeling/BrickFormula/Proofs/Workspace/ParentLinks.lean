import BrickFormula.Proofs.Workspace.Session
import Mathlib.Data.List.Perm.Subperm
import Mathlib.Logic.Relation

/-!
# Parent links

A parent link is never stale: the element it leads to holds the element it starts from.  No call can
break this (`Linked`), whatever is shared and however often an element was moved, and it is why the
way up ends: where no element is inside itself, parent links lead from every element to one without
a parent, and that one contains the element.

    Linked w          operands exist, and parent links lead to holders
    Reaches w a b     operands lead from `a` to `b`
    Climbs w n r      following parent links from `n` stops at `r`
    linked_run?       every session keeps `Linked`
    climbs_root       the way up ends, within as many steps as there are elements
-/

namespace BrickFormula.Workspace

/-- Operands exist, and a parent link leads to an element that holds the one it starts from. -/
structure Linked (w : Workspace) : Prop where
  lt : ∀ p c, w.Holds p c → c < w.size
  held : ∀ c p, w.parent? c = some p → w.Holds p c

theorem holds_side {w : Workspace} {p c : Handle} {side : Side}
    (h : w.operand? p side = some c) : w.Holds p c :=
  (holds_iff w p c).mpr ⟨side, h⟩

theorem Holds.lt {w : Workspace} {p c : Handle} (h : w.Holds p c) : p < w.size := by
  obtain ⟨side, h⟩ := (holds_iff w p c).mp h
  exact operand?_lt w p side c h

theorem linked_empty : Linked {} := by
  constructor
  · intro p c h
    exact absurd h.lt (Nat.not_lt_zero p)
  · intro c p h
    exact absurd (parent?_lt _ c p h) (Nat.not_lt_zero c)

/-! ## One call -/

/-- Contents do not matter. -/
theorem Linked.congr {w w' : Workspace} (h : w.Linked) (hsize : w'.size = w.size)
    (hop : ∀ m side, w'.operand? m side = w.operand? m side)
    (hpar : ∀ m, w'.parent? m = w.parent? m) : w'.Linked := by
  have hh : ∀ p c, w'.Holds p c ↔ w.Holds p c := by
    intro p c
    unfold Holds
    rw [hop, hop]
  constructor
  · intro p c hpc
    rw [hsize]
    exact h.lt p c ((hh p c).mp hpc)
  · intro c p hc
    rw [hpar] at hc
    exact (hh p c).mpr (h.held c p hc)

theorem linked_add (w : Workspace) (kind : Kind) (text : Option String)
    (left right : Option Handle) (hl : ∀ c ∈ left, c < w.size) (hr : ∀ c ∈ right, c < w.size)
    (h : w.Linked) : (w.add kind text left right).1.Linked := by
  constructor
  · intro p c hpc
    obtain ⟨side, hpc⟩ := (holds_iff _ p c).mp hpc
    rw [size_add]
    apply Nat.lt_succ_of_lt
    rw [operand?_add] at hpc
    split at hpc
    · cases side with
      | left => exact hl c hpc
      | right => exact hr c hpc
    · exact h.lt p c (holds_side hpc)
  · intro c p hc
    rw [parent?_add w kind text left right c hl hr] at hc
    split at hc
    · next hnew =>
      cases hc
      rcases hnew with hnew | hnew
      · exact .inl (by rw [operand?_add, if_pos rfl]; exact hnew)
      · exact .inr (by rw [operand?_add, if_pos rfl]; exact hnew)
    · have hpc := h.held c p hc
      have hne : p ≠ w.size := Nat.ne_of_lt hpc.lt
      unfold Holds
      rw [operand?_add, operand?_add, if_neg hne, if_neg hne]
      exact hpc

theorem linked_setOperand (w : Workspace) (n : Handle) (side : Side) (child : Option Handle)
    (hn : n < w.size) (hc : ∀ c ∈ child, c < w.size) (h : w.Linked) :
    (w.setOperand n side child).Linked := by
  constructor
  · intro p c hpc
    obtain ⟨side', hpc⟩ := (holds_iff _ p c).mp hpc
    rw [size_setOperand]
    rw [operand?_setOperand w n side child p side' hn] at hpc
    split at hpc
    · exact hc c hpc
    · exact h.lt p c (holds_side hpc)
  · intro c p hcp
    rw [parent?_setOperand w n side child c hc] at hcp
    split at hcp
    · next hnew =>
      cases hcp
      refine (holds_iff _ n c).mpr ⟨side, ?_⟩
      rw [operand?_setOperand w n side child n side hn, if_pos ⟨rfl, rfl⟩, hnew]
    · split at hcp
      · cases hcp
      · next hkept =>
        obtain ⟨side', hside⟩ := (holds_iff w p c).mp (h.held c p hcp)
        refine (holds_iff _ p c).mpr ⟨side', ?_⟩
        rw [operand?_setOperand w n side child p side' hn, if_neg, hside]
        rintro ⟨rfl, rfl⟩
        exact hkept ⟨hside, hcp⟩

theorem linked_replace (w : Workspace) (n source : Handle) (hn : n < w.size)
    (hs : source < w.size) (h : w.Linked) : (w.replace n source).Linked := by
  constructor
  · intro p c hpc
    rw [size_replace]
    rw [holds_replace w n source p c hn hs] at hpc
    split at hpc
    · exact h.lt source c hpc
    · exact h.lt p c hpc
  · intro c p hcp
    rw [parent?_replace w n source c hs (h.lt source)] at hcp
    rw [holds_replace w n source p c hn hs]
    split at hcp
    · next hnew =>
      cases hcp
      rw [if_pos rfl]
      exact hnew
    · split at hcp
      · cases hcp
      · next hkept =>
        have hpc := h.held c p hcp
        rw [if_neg]
        · exact hpc
        · rintro rfl
          exact hkept ⟨hpc, hcp⟩

theorem linked_wrap (w w' : Workspace) (n m : Handle) (operator : String) (right : Option Handle)
    (hr : ∀ c ∈ right, c < w.size) (h : w.Linked) (hw : w.wrap n operator right = .ok (w', m)) :
    w'.Linked := by
  cases hp : w.parent? n with
  | none =>
    unfold wrap at hw
    rw [hp] at hw
    cases hw
  | some p =>
    have hheld := h.held n p hp
    have hlt := hheld.lt
    rw [wrap_eq w p n operator right hlt hp hheld hr] at hw
    cases hw
    apply linked_setOperand
    · rw [size_add]
      exact Nat.lt_succ_of_lt hlt
    · intro c hc
      cases hc
      rw [size_add]
      exact Nat.lt_succ_self _
    · apply linked_add _ _ _ _ _ _ hr h
      intro c hc
      cases hc
      exact parent?_lt w n p hp

theorem linked_changeTexts (w : Workspace) (n : Handle) (f : Kind → Option String → Option String)
    (h : w.Linked) : (w.changeTexts n f).Linked :=
  h.congr (size_changeTexts w n f) (operand?_changeTexts w n f) (parent?_changeTexts w n f)

/-- **No call leaves a stale link.** -/
theorem linked_apply (w : Workspace) (e : Edit) (he : ∀ n ∈ e.handles, n < w.size)
    (h : w.Linked) : (w.apply e).Linked := by
  cases e with
  | add kind text left right =>
    obtain ⟨hl, hr⟩ := Edit.handles_add he
    exact linked_add w kind text left right hl hr h
  | setOperand n side child =>
    obtain ⟨hn, hc⟩ := Edit.handles_setOperand he
    exact linked_setOperand w n side child hn hc h
  | replace n source =>
    obtain ⟨hn, hs⟩ := Edit.handles_replace he
    exact linked_replace w n source hn hs h
  | replaceContent n kind text =>
    exact h.congr (size_replaceContent w n kind text) (operand?_replaceContent w n kind text)
      (parent?_replaceContent w n kind text)
  | wrap n operator right =>
    unfold apply
    simp only
    split
    · next w' m hw => exact linked_wrap w w' n m operator right (Edit.handles_wrap he).2 h hw
    · exact h
  | clone n => exact (build_invariant Linked linked_add _ w h).1
  | rename n kind old new => exact linked_changeTexts w n _ h
  | migrate n resolve => exact linked_changeTexts w n _ h

theorem linked_run? (edits : List Edit) (w w' : Workspace) (h : w.Linked)
    (hrun : w.run? edits = some w') : w'.Linked :=
  run?_invariant Linked linked_apply edits w w' h hrun

/-! ## The way up -/

/-- Operands lead from one element to another one, in any number of steps. -/
def Reaches (w : Workspace) : Handle → Handle → Prop := Relation.ReflTransGen w.Holds

/-- No element is inside itself. -/
def Acyclic (w : Workspace) : Prop := ∀ n, ¬ Relation.TransGen w.Holds n n

/-- A rank that falls from each element to its operands. -/
theorem acyclic_of_rank (w : Workspace) (rank : Handle → Nat)
    (h : ∀ p, p < w.size → (∀ c ∈ w.operand? p .left, rank c < rank p) ∧
      ∀ c ∈ w.operand? p .right, rank c < rank p) : w.Acyclic := by
  have hstep : ∀ p c, w.Holds p c → rank c < rank p := by
    intro p c hpc
    rcases hpc with hl | hr
    · exact (h p (operand?_lt w p _ c hl)).1 c hl
    · exact (h p (operand?_lt w p _ c hr)).2 c hr
  intro n hn
  have hfall : ∀ m, Relation.TransGen w.Holds n m → rank m < rank n := by
    intro m hm
    induction hm with
    | single hnm => exact hstep _ _ hnm
    | tail _ hpc ih => exact Nat.lt_trans (hstep _ _ hpc) ih
  exact Nat.lt_irrefl _ (hfall n hn)

/-- Following parent links from an element stops at another one, which has no parent. -/
inductive Climbs (w : Workspace) : Handle → Handle → Prop
  | stop {n : Handle} (h : w.parent? n = none) : Climbs w n n
  | up {n p r : Handle} (h : w.parent? n = some p) (rest : Climbs w p r) : Climbs w n r

theorem Climbs.parent?_eq_none {w : Workspace} {n r : Handle} (h : w.Climbs n r) :
    w.parent? r = none := by
  induction h with
  | stop h => exact h
  | up _ _ ih => exact ih

theorem Climbs.unique {w : Workspace} {n r r' : Handle} (h : w.Climbs n r)
    (h' : w.Climbs n r') : r = r' := by
  induction h with
  | stop h =>
    cases h' with
    | stop => rfl
    | up h' => rw [h] at h'; cases h'
  | up h _ ih =>
    cases h' with
    | stop h' => rw [h] at h'; cases h'
    | up h' rest =>
      rw [h] at h'
      cases h'
      exact ih rest

/-- A path of different elements leaves room for one more: there are not more of them than
handles. -/
theorem path_length_lt {size : Nat} {n : Handle} {path : List Handle}
    (hlt : ∀ m ∈ n :: path, m < size) (hd : (n :: path).Nodup) : path.length < size := by
  have hsub : (n :: path) ⊆ List.range size := fun m hm => List.mem_range.mpr (hlt m hm)
  have := (hd.subperm hsub).length_le
  rw [List.length_cons, List.length_range] at this
  exact this

/-- **The way up ends.**  Let the parents of some elements be among them and hold them.  Then the
parent links of each lead to an element without a parent, and `ancestor` finds it: the elements on
the way, `path`, all lie below and are different, so they are not more than the steps allow. -/
theorem climbs_ancestor (w : Workspace) (S : Handle → Prop) (hlt : ∀ n, S n → n < w.size)
    (hup : ∀ n p, S n → w.parent? n = some p → S p ∧ w.Holds p n) (ha : w.Acyclic) :
    ∀ (links : Nat) (n : Handle) (path : List Handle), S n → (∀ m ∈ path, S m) → path.Nodup →
      (∀ m ∈ path, Relation.TransGen w.Holds n m) → w.size ≤ links + path.length →
      w.Climbs n (w.ancestor links n) ∧ w.Reaches (w.ancestor links n) n ∧
        S (w.ancestor links n) := by
  intro links
  induction links with
  | zero =>
    intro n path hn hpath hd hbelow hsize
    exfalso
    have hnew : n ∉ path := fun hm => ha n (hbelow n hm)
    have := path_length_lt (n := n) (fun m hm => hlt m ((List.mem_cons.mp hm).elim
      (fun e => e ▸ hn) (hpath m))) (List.nodup_cons.mpr ⟨hnew, hd⟩)
    omega
  | succ links ih =>
    intro n path hn hpath hd hbelow hsize
    unfold ancestor
    cases hp : w.parent? n with
    | none => exact ⟨.stop hp, .refl, hn⟩
    | some p =>
      obtain ⟨hSp, hheld⟩ := hup n p hn hp
      have hnew : n ∉ path := fun hm => ha n (hbelow n hm)
      obtain ⟨hc, hr, hS⟩ := ih p (n :: path) hSp
        (fun m hm => (List.mem_cons.mp hm).elim (fun e => e ▸ hn) (hpath m))
        (List.nodup_cons.mpr ⟨hnew, hd⟩)
        (fun m hm => (List.mem_cons.mp hm).elim (fun e => e ▸ .single hheld)
          (fun hm => .head hheld (hbelow m hm)))
        (by rw [List.length_cons]; omega)
      exact ⟨.up hp hc, hr.tail hheld, hS⟩

/-- The root of an element of such a set. -/
theorem climbs_root (w : Workspace) (S : Handle → Prop) (hlt : ∀ n, S n → n < w.size)
    (hup : ∀ n p, S n → w.parent? n = some p → S p ∧ w.Holds p n) (ha : w.Acyclic) (n : Handle)
    (hn : S n) : w.Climbs n (w.root n) ∧ w.Reaches (w.root n) n ∧ S (w.root n) :=
  climbs_ancestor w S hlt hup ha w.size n [] hn (fun m hm => by cases hm) List.nodup_nil
    (fun m hm => by cases hm) (Nat.le_refl _)

/-- **Parent links are never stale.**  After every session each parent holds its child, and where no
element is inside itself the way up from every element stops, at its root: an element without a
parent that contains it. -/
theorem parent_links_never_stale (edits : List Edit) (w : Workspace)
    (h : Workspace.run? {} edits = some w) :
    (∀ c p, w.parent? c = some p → w.operand? p .left = some c ∨ w.operand? p .right = some c) ∧
    (w.Acyclic → ∀ n, n < w.size →
      w.Climbs n (w.root n) ∧ w.parent? (w.root n) = none ∧ w.Reaches (w.root n) n) := by
  have hl := linked_run? edits {} w linked_empty h
  refine ⟨hl.held, fun ha n hn => ?_⟩
  obtain ⟨hc, hr, -⟩ := climbs_root w (· < w.size) (fun _ h => h)
    (fun n p _ hp => ⟨(hl.held n p hp).lt, hl.held n p hp⟩) ha n hn
  exact ⟨hc, hc.parent?_eq_none, hr⟩

/-- One number in both places of a sum, then also under a function; the function takes over the left
place of the sum and is multiplied by the number, which by now stands in three places. -/
def sharingSession : List Edit :=
  [.add .number (some "1") none none, .add .operator (some "PLUS") (some 0) (some 0),
   .add .function (some "ABS") (some 0) none, .setOperand 1 .left (some 2),
   .wrap 2 "MULT" (some 0)]

theorem parent_links_never_stale_shared :
    ∃ w, Workspace.run? {} sharingSession = some w ∧ w.parent? 0 = some 3 ∧
      (w.operand? 3 .left = some 0 ∨ w.operand? 3 .right = some 0) ∧ w.Acyclic ∧
      w.Climbs 0 (w.root 0) ∧ w.parent? (w.root 0) = none ∧ w.Reaches (w.root 0) 0 := by
  refine ⟨_, rfl, rfl, (parent_links_never_stale sharingSession _ rfl).1 0 3 rfl, ?_⟩
  have ha := acyclic_of_rank ((Workspace.run? {} sharingSession).get rfl)
    (fun n => if n = 1 then 3 else if n = 3 then 2 else if n = 2 then 1 else 0) (by decide)
  exact ⟨ha, (parent_links_never_stale sharingSession _ rfl).2 ha 0 (by decide)⟩

end BrickFormula.Workspace
