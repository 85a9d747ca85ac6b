import BrickFormula.Proofs.Workspace.Shape
import Mathlib.Data.Set.Insert

/-!
# Forests

The elements in use form a forest if none is inside itself, each stands in at most one place, and its
parent link leads to the element that has this place.  Elements that are no longer used may still
hold some that are.  The operations of the editor keep forests:

    forest_setOperand      with an operand that is the root of another tree, or none
    forest_replace         by the root of another tree or an operand, which is no longer used
    forest_replaceContent  in any case
    forest_wrapped         with a right operand as above; the new operator is then in use
-/

namespace BrickFormula.Workspace

/-- The elements of `live` are in use and form a forest. -/
structure Forest (w : Workspace) (live : Set Handle) : Prop where
  lt : ∀ n ∈ live, n < w.size
  operand_lt : ∀ p c, w.Holds p c → c < w.size
  acyclic : w.Acyclic
  closed : ∀ p ∈ live, ∀ c, w.Holds p c → c ∈ live
  /-- Each stands in at most one place. -/
  sole : ∀ p ∈ live, ∀ q ∈ live, ∀ side side' c, w.operand? p side = some c →
    w.operand? q side' = some c → p = q ∧ side = side'
  /-- The parent is the one that has this place. -/
  owner : ∀ p, ∀ c ∈ live, w.parent? c = some p ↔ p ∈ live ∧ w.Holds p c

/-- No operand, or the root of another tree than that of `n`. -/
def Fits (w : Workspace) (live : Set Handle) (n : Handle) (child : Option Handle) : Prop :=
  ∀ c ∈ child, c ∈ live ∧ w.parent? c = none ∧ w.root n ≠ c

/-- All elements form a forest if every operand has its holder as parent, no element holds the same
one twice, and a rank falls from each element to its operands. -/
theorem forest_of_rank (w : Workspace) (rank : Handle → Nat)
    (hop : ∀ p, p < w.size →
      (∀ c ∈ w.operand? p .left, w.parent? c = some p ∧ rank c < rank p) ∧
      (∀ c ∈ w.operand? p .right, w.parent? c = some p ∧ rank c < rank p) ∧
      ∀ c ∈ w.operand? p .left, w.operand? p .right ≠ some c)
    (hpar : ∀ c, c < w.size → ∀ p ∈ w.parent? c, w.Holds p c) :
    w.Forest {n | n < w.size} := by
  have hheld : ∀ p c, w.Holds p c → w.parent? c = some p := by
    intro p c hpc
    rcases hpc with hl | hr
    · exact ((hop p (operand?_lt w p _ c hl)).1 c hl).1
    · exact ((hop p (operand?_lt w p _ c hr)).2.1 c hr).1
  constructor
  case lt => exact fun n hn => hn
  case operand_lt => exact fun p c hpc => parent?_lt w c p (hheld p c hpc)
  case acyclic =>
    exact acyclic_of_rank w rank fun p hp =>
      ⟨fun c hc => ((hop p hp).1 c hc).2, fun c hc => ((hop p hp).2.1 c hc).2⟩
  case closed => exact fun p _ c hpc => parent?_lt w c p (hheld p c hpc)
  case sole =>
    intro p hp q _ side side' c hpc hqc
    have hpq : p = q := by
      have := (hheld p c (holds_side hpc)).symm.trans (hheld q c (holds_side hqc))
      exact Option.some.inj this
    subst hpq
    refine ⟨rfl, ?_⟩
    cases side <;> cases side'
    · rfl
    · exact absurd hqc ((hop p hp).2.2 c hpc)
    · exact absurd hpc ((hop p hp).2.2 c hqc)
    · rfl
  case owner =>
    intro p c hc
    exact ⟨fun hp => ⟨(hpar c hc p hp).lt, hpar c hc p hp⟩, fun hp => hheld p c hp.2⟩

/-- An element that stands in one place has one holder. -/
theorem holder_iff {w : Workspace} {S : Set Handle} {p c : Handle} {side : Side} (hp : p ∈ S)
    (hplace : ∀ q ∈ S, ∀ s, w.operand? q s = some c ↔ q = p ∧ s = side) (q : Handle) :
    q ∈ S ∧ w.Holds q c ↔ q = p := by
  constructor
  · rintro ⟨hq, hqc⟩
    obtain ⟨s, hqc⟩ := (holds_iff w q c).mp hqc
    exact ((hplace q hq s).mp hqc).1
  · rintro rfl
    exact ⟨hp, (holds_iff w q c).mpr ⟨side, (hplace q hp side).mpr ⟨rfl, rfl⟩⟩⟩

section
variable {w : Workspace} {live : Set Handle}

theorem Forest.holder_unique (h : w.Forest live) {p q c : Handle} (hp : p ∈ live) (hq : q ∈ live)
    (hpc : w.Holds p c) (hqc : w.Holds q c) : p = q := by
  obtain ⟨side, hpc⟩ := (holds_iff w p c).mp hpc
  obtain ⟨side', hqc⟩ := (holds_iff w q c).mp hqc
  exact (h.sole p hp q hq side side' c hpc hqc).1

theorem Forest.parent_of_holds (h : w.Forest live) {p c : Handle} (hp : p ∈ live)
    (hpc : w.Holds p c) : w.parent? c = some p :=
  (h.owner p c (h.closed p hp c hpc)).mpr ⟨hp, hpc⟩

theorem Forest.mem_of_reaches (h : w.Forest live) {a b : Handle} (ha : a ∈ live)
    (hab : w.Reaches a b) : b ∈ live := by
  induction hab with
  | refl => exact ha
  | tail _ hpc ih => exact h.closed _ ih _ hpc

/-! ## Roots -/

theorem Forest.climbs (h : w.Forest live) {n : Handle} (hn : n ∈ live) :
    w.Climbs n (w.root n) ∧ w.Reaches (w.root n) n ∧ w.root n ∈ live :=
  climbs_root w (· ∈ live) h.lt (fun n p hn hp => (h.owner p n hn).mp hp) h.acyclic n hn

theorem Forest.root_eq (h : w.Forest live) {n r : Handle} (hn : n ∈ live) (hr : w.Climbs n r) :
    w.root n = r := (h.climbs hn).1.unique hr

/-- The way up from below an element without a parent stops there. -/
theorem Forest.climbs_of_reaches (h : w.Forest live) {a b : Handle} (ha : a ∈ live)
    (hroot : w.parent? a = none) (hab : w.Reaches a b) : w.Climbs b a := by
  induction hab with
  | refl => exact .stop hroot
  | tail hap hpc ih => exact .up (h.parent_of_holds (h.mem_of_reaches ha hap) hpc) ih

/-- The root of another tree does not contain `n`. -/
theorem Forest.not_reaches_of_root (h : w.Forest live) {n c : Handle} (hn : n ∈ live)
    (hc : c ∈ live) (hroot : w.parent? c = none) (hne : w.root n ≠ c) : ¬ w.Reaches c n :=
  fun hcn => hne (h.root_eq hn (h.climbs_of_reaches hc hroot hcn))

theorem Forest.not_reaches_of_fits (h : w.Forest live) {n : Handle} {child : Option Handle}
    (hn : n ∈ live) (hfit : w.Fits live n child) : ∀ c ∈ child, ¬ w.Reaches c n :=
  fun c hc => h.not_reaches_of_root hn (hfit c hc).1 (hfit c hc).2.1 (hfit c hc).2.2

/-! ## Elements above the same one -/

/-- Of two elements above a third one, one is above the other. -/
theorem Forest.comparable (h : w.Forest live) {a b n : Handle} (ha : a ∈ live) (hb : b ∈ live)
    (han : w.Reaches a n) (hbn : w.Reaches b n) : w.Reaches a b ∨ w.Reaches b a := by
  induction han with
  | refl => exact .inr hbn
  | @tail p c hap hpc ih =>
    rcases Relation.ReflTransGen.cases_tail hbn with rfl | ⟨q, hbq, hqc⟩
    · exact .inl (hap.tail hpc)
    · have hpq : q = p := h.holder_unique (h.mem_of_reaches hb hbq) (h.mem_of_reaches ha hap) hqc hpc
      exact ih (hpq ▸ hbq)

/-- An operand does not lead to an operand of the same element. -/
theorem Forest.not_reaches_sibling (h : w.Forest live) {p c d : Handle} {side side' : Side}
    (hp : p ∈ live) (hc : w.operand? p side = some c) (hd : w.operand? p side' = some d)
    (hne : side ≠ side') : ¬ w.Reaches c d := by
  intro hcd
  have hcl := h.closed p hp c (holds_side hc)
  rcases Relation.ReflTransGen.cases_tail hcd with rfl | ⟨q, hcq, hqd⟩
  · exact hne (h.sole p hp p hp side side' d hc hd).2
  · have hqp : q = p := h.holder_unique (h.mem_of_reaches hcl hcq) hp hqd (holds_side hd)
    exact h.acyclic p (.head' (holds_side hc) (hqp ▸ hcq))

/-- No element holds another one below both of its operands. -/
theorem Forest.apart (h : w.Forest live) {p c d n : Handle} {side side' : Side} (hp : p ∈ live)
    (hne : side' ≠ side) (hc : w.operand? p side = some c) (hd : w.operand? p side' = some d)
    (hcn : w.Reaches c n) : ¬ w.Reaches d n := by
  intro hdn
  have hcl := h.closed p hp c (holds_side hc)
  have hdl := h.closed p hp d (holds_side hd)
  rcases h.comparable hcl hdl hcn hdn with hcd | hdc
  · exact h.not_reaches_sibling hp hc hd hne.symm hcd
  · exact h.not_reaches_sibling hp hd hc hne hdc

end

/-! ## New places -/

/-- Giving `n` operands that do not lead to it puts nothing inside itself. -/
theorem acyclic_graft {w w' : Workspace} (ha : w.Acyclic) (n : Handle) (T : Handle → Prop)
    (hT : ∀ c, T c → ¬ w.Reaches c n)
    (hh : ∀ p c, w'.Holds p c → w.Holds p c ∨ (p = n ∧ T c)) : w'.Acyclic := by
  -- a way in `w'` is one in `w`, unless it goes through `n` to a new operand
  have hway : ∀ a b, w'.Reaches a b →
      w.Reaches a b ∨ (w.Reaches a n ∧ ∃ c, T c ∧ w.Reaches c b) := by
    intro a b hab
    induction hab with
    | refl => exact .inl .refl
    | tail _ hpc ih =>
      rcases hh _ _ hpc with hold | ⟨rfl, hnew⟩
      · rcases ih with ih | ⟨han, c, hc, hcp⟩
        · exact .inl (ih.tail hold)
        · exact .inr ⟨han, c, hc, hcp.tail hold⟩
      · rcases ih with ih | ⟨_, c, hc, hcp⟩
        · exact .inr ⟨ih, _, hnew, .refl⟩
        · exact absurd hcp (hT c hc)
  intro x hx
  obtain ⟨y, hxy, hyx⟩ := Relation.TransGen.head'_iff.mp hx
  rcases hh x y hxy with hold | ⟨rfl, hnew⟩
  · rcases hway y x hyx with hyx | ⟨hyn, c, hc, hcx⟩
    · exact ha x (.head' hold hyx)
    · exact hT c hc ((hcx.tail hold).trans hyn)
  · rcases hway y x hyx with hyx | ⟨_, c, hc, hcx⟩
    · exact hT y hnew hyx
    · exact hT c hc hcx

section
variable {w : Workspace} {live : Set Handle} (h : w.Forest live) {n : Handle} (hn : n ∈ live)
include h hn

theorem forest_setOperand (side : Side) (child : Option Handle) (hfit : w.Fits live n child) :
    (w.setOperand n side child).Forest live := by
  have hlt := h.lt n hn
  have hfree := h.not_reaches_of_fits hn hfit
  -- no place in use holds the new operand
  have hplace : ∀ p ∈ live, ∀ side' c, child = some c → w.operand? p side' ≠ some c := by
    intro p hp side' c hc hpc
    have := h.parent_of_holds hp (holds_side hpc)
    rw [(hfit c hc).2.1] at this
    cases this
  have hop := fun p side' => operand?_setOperand w n side child p side' hlt
  have hholds : ∀ p c, (w.setOperand n side child).Holds p c →
      w.Holds p c ∨ (p = n ∧ child = some c) := by
    intro p c hpc
    obtain ⟨side', hpc⟩ := (holds_iff _ p c).mp hpc
    rw [hop] at hpc
    split at hpc
    · next hat => exact .inr ⟨hat.1, hpc⟩
    · exact .inl (holds_side hpc)
  constructor
  case lt =>
    intro m hm
    rw [size_setOperand]
    exact h.lt m hm
  case operand_lt =>
    intro p c hpc
    rw [size_setOperand]
    rcases hholds p c hpc with hold | ⟨-, hnew⟩
    · exact h.operand_lt p c hold
    · exact h.lt c (hfit c hnew).1
  case acyclic => exact acyclic_graft h.acyclic n (fun c => child = some c) hfree hholds
  case closed =>
    intro p hp c hpc
    rcases hholds p c hpc with hold | ⟨-, hnew⟩
    · exact h.closed p hp c hold
    · exact (hfit c hnew).1
  case sole =>
    intro p hp q hq s s' c hpc hqc
    rw [hop] at hpc hqc
    split at hpc
    · next hat =>
      split at hqc
      · next hat' => exact ⟨hat.1.trans hat'.1.symm, hat.2.trans hat'.2.symm⟩
      · exact absurd hqc (hplace q hq s' c hpc)
    · split at hqc
      · exact absurd hpc (hplace p hp s c hqc)
      · exact h.sole p hp q hq s s' c hpc hqc
  case owner =>
    intro p c hc
    rw [parent?_setOperand w n side child c (fun c hc => h.lt c (hfit c hc).1)]
    by_cases hnew : child = some c
    · rw [if_pos hnew]
      constructor
      · intro hpn
        cases hpn
        refine ⟨hn, (holds_iff _ n c).mpr ⟨side, ?_⟩⟩
        rw [hop, if_pos ⟨rfl, rfl⟩, hnew]
      · rintro ⟨hp, hpc⟩
        rcases hholds p c hpc with hold | ⟨rfl, -⟩
        · obtain ⟨side', hold⟩ := (holds_iff w p c).mp hold
          exact absurd hold (hplace p hp side' c hnew)
        · rfl
    rw [if_neg hnew]
    by_cases hout : w.operand? n side = some c
    · rw [if_pos ⟨hout, h.parent_of_holds hn (holds_side hout)⟩]
      constructor
      · intro hpn
        cases hpn
      · rintro ⟨hp, hpc⟩
        obtain ⟨side', hpc⟩ := (holds_iff _ p c).mp hpc
        rw [hop] at hpc
        split at hpc
        · exact absurd hpc hnew
        · next hat => exact absurd (h.sole p hp n hn side' side c hpc hout) hat
    · rw [if_neg (fun h => hout h.1), h.owner p c hc]
      refine and_congr_right fun hp => ?_
      rw [holds_iff, holds_iff]
      refine exists_congr fun side' => ?_
      rw [hop]
      by_cases hat : p = n ∧ side' = side
      · rw [if_pos hat, hat.1, hat.2]
        exact ⟨fun e => absurd e hout, fun e => absurd e hnew⟩
      · rw [if_neg hat]

theorem forest_replace (source : Handle) (hs : source ∈ live) (hfree : ¬ w.Reaches source n)
    (hpar : ∀ p, w.parent? source = some p → p = n) :
    (w.replace n source).Forest (live \ {source}) := by
  have hlt := h.lt n hn
  have hslt := h.lt source hs
  have hholds := fun p c => holds_replace w n source p c hlt hslt
  have hns : n ≠ source := fun e => hfree (e ▸ .refl)
  -- of the elements in use, only `n` may have held the source
  have hsource : ∀ p ∈ live, p ≠ n → ¬ w.Holds p source :=
    fun p hp hne hps => hne (hpar p (h.parent_of_holds hp hps))
  constructor
  case lt =>
    intro m hm
    rw [size_replace]
    exact h.lt m hm.1
  case operand_lt =>
    intro p c hpc
    rw [size_replace]
    rw [hholds] at hpc
    split at hpc
    · exact h.operand_lt source c hpc
    · exact h.operand_lt p c hpc
  case acyclic =>
    apply acyclic_graft h.acyclic n (w.Holds source) (fun c hc hcn => hfree (.head hc hcn))
    intro p c hpc
    rw [hholds] at hpc
    split at hpc
    · next hp => exact .inr ⟨hp, hpc⟩
    · exact .inl hpc
  case closed =>
    rintro p ⟨hp, -⟩ c hpc
    rw [hholds] at hpc
    split at hpc
    · refine ⟨h.closed source hs c hpc, ?_⟩
      rintro rfl
      exact h.acyclic c (.single hpc)
    · next hne =>
      refine ⟨h.closed p hp c hpc, ?_⟩
      rintro rfl
      exact hsource p hp hne hpc
  case sole =>
    rintro p ⟨hp, hps⟩ q ⟨hq, hqs⟩ s s' c hpc hqc
    rw [operand?_replace w n source _ _ hlt hslt] at hpc hqc
    split at hpc
    · next hpn =>
      split at hqc
      · next hqn =>
        exact ⟨hpn.trans hqn.symm, (h.sole source hs source hs s s' c hpc hqc).2⟩
      · exact absurd (h.sole q hq source hs s' s c hqc hpc).1 hqs
    · split at hqc
      · exact absurd (h.sole p hp source hs s s' c hpc hqc).1 hps
      · exact h.sole p hp q hq s s' c hpc hqc
  case owner =>
    rintro p c ⟨hc, -⟩
    rw [parent?_replace w n source c hslt (h.operand_lt source), hholds]
    by_cases hnew : w.Holds source c
    · rw [if_pos hnew]
      constructor
      · intro hpn
        cases hpn
        exact ⟨⟨hn, hns⟩, by rw [if_pos rfl]; exact hnew⟩
      · rintro ⟨⟨hp, hps⟩, hpc⟩
        split at hpc
        · next hpn => rw [hpn]
        · exact absurd (h.holder_unique hp hs hpc hnew) hps
    rw [if_neg hnew]
    by_cases hout : w.Holds n c
    · rw [if_pos ⟨hout, h.parent_of_holds hn hout⟩]
      constructor
      · intro hpn
        cases hpn
      · rintro ⟨⟨hp, -⟩, hpc⟩
        split at hpc
        · exact absurd hpc hnew
        · next hne => exact absurd (h.holder_unique hp hn hpc hout) hne
    · rw [if_neg (fun h => hout h.1), h.owner p c hc]
      constructor
      · rintro ⟨hp, hpc⟩
        refine ⟨⟨hp, fun e => hnew (e ▸ hpc)⟩, ?_⟩
        rw [if_neg (fun e : p = n => hout (e ▸ hpc))]
        exact hpc
      · rintro ⟨⟨hp, -⟩, hpc⟩
        split at hpc
        · exact absurd hpc hnew
        · exact ⟨hp, hpc⟩

omit hn in
theorem forest_replaceContent (kind : Kind) (text : Option String) :
    (w.replaceContent n kind text).Forest live := by
  have hop := operand?_replaceContent w n kind text
  have hholds : ∀ p c, (w.replaceContent n kind text).Holds p c ↔ w.Holds p c := by
    intro p c
    unfold Holds
    rw [hop, hop]
  constructor
  case lt =>
    intro m hm
    rw [size_replaceContent]
    exact h.lt m hm
  case operand_lt =>
    intro p c hpc
    rw [size_replaceContent]
    exact h.operand_lt p c ((hholds p c).mp hpc)
  case acyclic =>
    exact acyclic_graft h.acyclic n (fun _ => False) (fun _ hc => hc.elim)
      (fun p c hpc => .inl ((hholds p c).mp hpc))
  case closed =>
    intro p hp c hpc
    exact h.closed p hp c ((hholds p c).mp hpc)
  case sole =>
    intro p hp q hq s s' c hpc hqc
    rw [hop] at hpc hqc
    exact h.sole p hp q hq s s' c hpc hqc
  case owner =>
    intro p c hc
    rw [parent?_replaceContent, hholds]
    exact h.owner p c hc

theorem acyclic_wrapped (p : Handle) (operator : String) (right : Option Handle) (hp : p ∈ live)
    (hpn : w.Holds p n) (hfit : w.Fits live n right) :
    (w.wrapped p n operator right).Acyclic := by
  have hlt := h.lt p hp
  have hnew : ∀ c, some n = some c ∨ right = some c → c ∈ live := by
    rintro c (hc | hc)
    · cases hc
      exact hn
    · exact (hfit c hc).1
  -- first the operator holds its operands, and nothing holds it
  have hadd : ∀ q c, (w.add .operator (some operator) (some n) right).1.Holds q c →
      w.Holds q c ∨ (q = w.size ∧ (some n = some c ∨ right = some c)) := by
    intro q c hqc
    obtain ⟨side, hqc⟩ := (holds_iff _ q c).mp hqc
    rw [operand?_add] at hqc
    split at hqc
    · next hq =>
      cases side with
      | left => exact .inr ⟨hq, .inl hqc⟩
      | right => exact .inr ⟨hq, .inr hqc⟩
    · exact .inl (holds_side hqc)
  have hadded := acyclic_graft h.acyclic w.size _ (fun c hc hcm =>
    Nat.lt_irrefl _ (h.lt w.size (h.mem_of_reaches (hnew c hc) hcm))) hadd
  -- then it comes below `p`, to which it does not lead
  have hold : ∀ a b, a ∈ live → (w.add .operator (some operator) (some n) right).1.Reaches a b →
      w.Reaches a b := by
    intro a b ha hab
    induction hab with
    | refl => exact .refl
    | tail _ hqc ih =>
      rcases hadd _ _ hqc with hqc | ⟨rfl, -⟩
      · exact ih.tail hqc
      · exact absurd (h.lt _ (h.mem_of_reaches ha ih)) (Nat.lt_irrefl _)
  apply acyclic_graft hadded p (fun c => some w.size = some c)
  · intro c hc hcp
    cases hc
    rcases Relation.ReflTransGen.cases_head hcp with rfl | ⟨b, hb, hbp⟩
    · exact Nat.lt_irrefl _ hlt
    · rcases hadd _ b hb with hb | ⟨-, hb⟩
      · exact Nat.lt_irrefl _ hb.lt
      · have hbp := hold b p (hnew b hb) hbp
        rcases hb with hb | hb
        · cases hb
          exact h.acyclic p (.head' hpn hbp)
        · exact h.not_reaches_of_fits hn hfit b hb (hbp.tail hpn)
  · intro q c hqc
    obtain ⟨side, hqc⟩ := (holds_iff _ q c).mp hqc
    unfold wrapped at hqc
    rw [operand?_setOperand _ _ _ _ _ _ (by rw [size_add]; exact Nat.lt_succ_of_lt hlt)] at hqc
    split at hqc
    · next hat => exact .inr ⟨hat.1, hqc⟩
    · exact .inl (holds_side hqc)

/-- Where an element stands after wrapping: the new operator under `p`, its operands in it, and all
others where they stood. -/
theorem wrapped_place_iff (p : Handle) (operator : String) (right : Option Handle)
    (hp : w.parent? n = some p) (hfit : w.Fits live n right) (q : Handle)
    (hq : q ∈ insert w.size live) (side : Side) (c : Handle) :
    (w.wrapped p n operator right).operand? q side = some c ↔
      if c = w.size then q = p ∧ side = w.sideUnder p n
      else if c = n then q = w.size ∧ side = .left
      else if right = some c then q = w.size ∧ side = .right
      else q ∈ live ∧ w.operand? q side = some c := by
  obtain ⟨hpl, hpn⟩ := (h.owner p n hn).mp hp
  have hside := operand?_sideUnder w p n hpn
  have hnm : n ≠ w.size := Nat.ne_of_lt (h.lt n hn)
  have hlive : q ≠ w.size → q ∈ live := fun hne => hq.resolve_left hne
  rw [operand?_wrapped_eq_some w p n operator right (h.lt p hpl) q c side]
  by_cases hc : c = w.size
  · rw [if_pos hc]
    constructor
    · rintro (⟨hqp, hs, -⟩ | ⟨-, -, e⟩ | ⟨-, -, e⟩ | ⟨-, -, e⟩)
      · exact ⟨hqp, hs⟩
      · exact absurd (e.symm.trans hc) hnm
      · exact absurd hc (Nat.ne_of_lt (h.lt c (hfit c e).1))
      · exact absurd hc (Nat.ne_of_lt (h.operand_lt q c (holds_side e)))
    · rintro ⟨hqp, hs⟩
      exact .inl ⟨hqp, hs, hc⟩
  rw [if_neg hc]
  by_cases hcn : c = n
  · rw [if_pos hcn]
    constructor
    · rintro (⟨-, -, e⟩ | ⟨hqm, hs, -⟩ | ⟨-, -, e⟩ | ⟨hqm, hat, e⟩)
      · exact absurd e hc
      · exact ⟨hqm, hs⟩
      · have hroot := (hfit c e).2.1
        rw [hcn, hp] at hroot
        cases hroot
      · exact absurd (h.sole q (hlive hqm) p hpl side _ c e (hcn ▸ hside)) hat
    · rintro ⟨hqm, hs⟩
      exact .inr (.inl ⟨hqm, hs, hcn⟩)
  rw [if_neg hcn]
  by_cases hcr : right = some c
  · rw [if_pos hcr]
    constructor
    · rintro (⟨-, -, e⟩ | ⟨-, -, e⟩ | ⟨hqm, hs, -⟩ | ⟨hqm, -, e⟩)
      · exact absurd e hc
      · exact absurd e hcn
      · exact ⟨hqm, hs⟩
      · have hroot := h.parent_of_holds (hlive hqm) (holds_side e)
        rw [(hfit c hcr).2.1] at hroot
        cases hroot
    · rintro ⟨hqm, hs⟩
      exact .inr (.inr (.inl ⟨hqm, hs, hcr⟩))
  rw [if_neg hcr]
  constructor
  · rintro (⟨-, -, e⟩ | ⟨-, -, e⟩ | ⟨-, -, e⟩ | ⟨hqm, -, e⟩)
    · exact absurd e hc
    · exact absurd e hcn
    · exact absurd e hcr
    · exact ⟨hlive hqm, e⟩
  · rintro ⟨hql, e⟩
    refine .inr (.inr (.inr ⟨Nat.ne_of_lt (h.lt q hql), ?_, e⟩))
    rintro ⟨rfl, rfl⟩
    exact hcn (Option.some.inj (e.symm.trans hside))

theorem forest_wrapped (p : Handle) (operator : String) (right : Option Handle)
    (hp : w.parent? n = some p) (hfit : w.Fits live n right) :
    (w.wrapped p n operator right).Forest (insert w.size live) := by
  obtain ⟨hpl, hpn⟩ := (h.owner p n hn).mp hp
  have hlt := h.lt p hpl
  have hplace := wrapped_place_iff h hn p operator right hp hfit
  constructor
  case lt =>
    intro q hq
    rw [size_wrapped]
    rcases hq with rfl | hq
    · exact Nat.lt_succ_self _
    · exact Nat.lt_succ_of_lt (h.lt q hq)
  case operand_lt =>
    intro q c hqc
    obtain ⟨side, hqc⟩ := (holds_iff _ q c).mp hqc
    rw [size_wrapped]
    rcases (operand?_wrapped_eq_some w p n operator right hlt q c side).mp hqc with
      ⟨-, -, rfl⟩ | ⟨-, -, rfl⟩ | ⟨-, -, hc⟩ | ⟨-, -, hold⟩
    · exact Nat.lt_succ_self _
    · exact Nat.lt_succ_of_lt (h.lt c hn)
    · exact Nat.lt_succ_of_lt (h.lt c (hfit c hc).1)
    · exact Nat.lt_succ_of_lt (h.operand_lt q c (holds_side hold))
  case acyclic => exact acyclic_wrapped h hn p operator right hpl hpn hfit
  case closed =>
    intro q hq c hqc
    obtain ⟨side, hqc⟩ := (holds_iff _ q c).mp hqc
    rcases (operand?_wrapped_eq_some w p n operator right hlt q c side).mp hqc with
      ⟨-, -, rfl⟩ | ⟨-, -, rfl⟩ | ⟨-, -, hc⟩ | ⟨hne, -, hold⟩
    · exact .inl rfl
    · exact .inr hn
    · exact .inr (hfit c hc).1
    · exact .inr (h.closed q (hq.resolve_left hne) c (holds_side hold))
  case sole =>
    intro q hq q' hq' s s' c hqc hqc'
    rw [hplace q hq] at hqc
    rw [hplace q' hq'] at hqc'
    split_ifs at hqc hqc'
    · exact ⟨hqc.1.trans hqc'.1.symm, hqc.2.trans hqc'.2.symm⟩
    · exact ⟨hqc.1.trans hqc'.1.symm, hqc.2.trans hqc'.2.symm⟩
    · exact ⟨hqc.1.trans hqc'.1.symm, hqc.2.trans hqc'.2.symm⟩
    · exact h.sole q hqc.1 q' hqc'.1 s s' c hqc.2 hqc'.2
  case owner =>
    intro q c hc
    rw [parent?_wrapped w p n operator right hlt hp hpn (fun c hc => h.lt c (hfit c hc).1)]
    by_cases hcm : c = w.size
    · rw [if_pos hcm, holder_iff (.inr hpl) fun q hq s => (hplace q hq s c).trans (by rw [if_pos hcm]),
        Option.some_inj, eq_comm]
    rw [if_neg hcm]
    by_cases hcn : c = n
    · rw [if_pos (.inl (congrArg some hcn.symm)), holder_iff (.inl rfl) fun q hq s =>
        (hplace q hq s c).trans (by rw [if_neg hcm, if_pos hcn]), Option.some_inj, eq_comm]
    by_cases hcr : right = some c
    · rw [if_pos (.inr hcr), holder_iff (.inl rfl) fun q hq s =>
        (hplace q hq s c).trans (by rw [if_neg hcm, if_neg hcn, if_pos hcr]), Option.some_inj, eq_comm]
    rw [if_neg (fun e => e.elim (fun e => hcn (Option.some.inj e).symm) hcr),
      h.owner q c (hc.resolve_left hcm), holds_iff, holds_iff]
    have hold : ∀ q ∈ insert w.size live, ∀ side,
        (w.wrapped p n operator right).operand? q side = some c ↔
          q ∈ live ∧ w.operand? q side = some c := by
      intro q hq side
      rw [hplace q hq side c, if_neg hcm, if_neg hcn, if_neg hcr]
    constructor
    · rintro ⟨hq, side, hqc⟩
      exact ⟨.inr hq, side, (hold q (.inr hq) side).mpr ⟨hq, hqc⟩⟩
    · rintro ⟨hq, side, hqc⟩
      exact ⟨((hold q hq side).mp hqc).1, side, ((hold q hq side).mp hqc).2⟩

end

end BrickFormula.Workspace
