import BrickFormula.Proofs.Workspace.Build

/-!
# Ownership

A call takes its operands as they come: it makes itself their parent, but takes them out of no other
place.  Ownership stays unique as long as only loose operands are taken, which stand in no place yet.
One call is not made for that: an element that takes over the operands of another one leaves them
there too.  The other one is then spent, and its places do not count any more.

    Owned w spent        every place has its operand to itself, those of spent elements aside
    Edit.Orderly         the call takes loose operands only, and none from a spent element
    owned_apply          an orderly call keeps ownership unique
    owned_run?           so does a session of them
    replace_shares       what is taken over stands in two places
    orderly_ownership    unique ownership after an orderly session
-/

namespace BrickFormula

namespace Workspace

/-- Every place has its operand to itself, which has the holder as its parent; the places of spent
elements do not count. -/
structure Owned (w : Workspace) (spent : List Handle) : Prop where
  linked : w.Linked
  owner : ∀ p c, p ∉ spent → w.Holds p c → w.parent? c = some p
  sole : ∀ p c side side', p ∉ spent → w.operand? p side = some c →
    w.operand? p side' = some c → side = side'

/-- No element holds the operand, except for spent ones. -/
def Loose (w : Workspace) (spent : List Handle) (c : Handle) : Prop :=
  ∀ p, p < w.size → w.Holds p c → p ∈ spent

instance (w : Workspace) (spent : List Handle) (c : Handle) : Decidable (w.Loose spent c) :=
  inferInstanceAs (Decidable (∀ p, p < w.size → w.Holds p c → p ∈ spent))

end Workspace

open Workspace

namespace Edit

/-- The call takes loose operands only; an operand may also be put where it stands already.  All
operands of an element can be taken over, if it is not spent. -/
def Orderly (w : Workspace) (spent : List Handle) : Edit → Prop
  | .add _ _ left right =>
    (∀ c ∈ left, w.Loose spent c ∧ right ≠ some c) ∧ ∀ c ∈ right, w.Loose spent c
  | .setOperand n side child =>
    ∀ c ∈ child, w.Loose spent c ∨ n ∉ spent ∧ w.operand? n side = some c
  | .replace _ source => source ∉ spent
  | .wrap n _ right => ∀ c ∈ right, w.Loose spent c ∧ c ≠ n
  | .replaceContent .. | .clone _ | .rename .. | .migrate .. => True

instance decidableOrderly (w : Workspace) (spent : List Handle) :
    (e : Edit) → Decidable (e.Orderly w spent)
  | .add _ _ left right => inferInstanceAs
      (Decidable ((∀ c ∈ left, w.Loose spent c ∧ right ≠ some c) ∧ ∀ c ∈ right, w.Loose spent c))
  | .setOperand n side child => inferInstanceAs
      (Decidable (∀ c ∈ child, w.Loose spent c ∨ n ∉ spent ∧ w.operand? n side = some c))
  | .replace _ source => inferInstanceAs (Decidable (source ∉ spent))
  | .wrap n _ right => inferInstanceAs (Decidable (∀ c ∈ right, w.Loose spent c ∧ c ≠ n))
  | .replaceContent .. | .clone _ | .rename .. | .migrate .. => inferInstanceAs (Decidable True)

/-- The spent elements after a call. -/
def spent (spent : List Handle) : Edit → List Handle
  | .replace n source => if source = n then spent else source :: spent.filter (· ≠ n)
  | _ => spent

end Edit

/-- An element that is not spent after a replacement is the changed one, or it was not spent before
and is not the source. -/
theorem Edit.notMem_spent_replace {spent : List Handle} {n source p : Handle}
    (hp : p ∉ (Edit.replace n source).spent spent) : p = n ∨ p ∉ spent ∧ p ≠ source := by
  change p ∉ (if source = n then spent else source :: spent.filter (· ≠ n)) at hp
  by_cases hpn : p = n
  · exact .inl hpn
  by_cases hsame : source = n
  · rw [if_pos hsame] at hp
    exact .inr ⟨hp, fun hsource => hpn (hsource.trans hsame)⟩
  · rw [if_neg hsame, List.mem_cons, not_or] at hp
    refine .inr ⟨fun hps => hp.2 (List.mem_filter.mpr ⟨hps, decide_eq_true hpn⟩), hp.1⟩

namespace Workspace

theorem owned_empty : Owned {} [] := by
  refine ⟨linked_empty, fun p c _ hpc => ?_, fun p c side side' _ hside => ?_⟩
  · exact absurd hpc.lt (Nat.not_lt_zero p)
  · exact absurd (operand?_lt _ p side c hside) (Nat.not_lt_zero p)

variable {w w' : Workspace} {spent : List Handle}

theorem Loose.mem {c p : Handle} (hc : w.Loose spent c) (hp : w.Holds p c) : p ∈ spent :=
  hc p hp.lt hp

/-! ## One call -/

/-- Contents do not matter. -/
theorem Owned.congr (h : w.Owned spent) (hsize : w'.size = w.size)
    (hop : ∀ m side, w'.operand? m side = w.operand? m side)
    (hpar : ∀ m, w'.parent? m = w.parent? m) : w'.Owned spent := by
  refine ⟨h.linked.congr hsize hop hpar, ?_, ?_⟩
  · intro p c hp hpc
    unfold Holds at hpc
    rw [hop, hop] at hpc
    rw [hpar]
    exact h.owner p c hp hpc
  · intro p c side side' hp hside hside'
    rw [hop] at hside hside'
    exact h.sole p c side side' hp hside hside'

theorem owned_add (h : w.Owned spent) (kind : Kind) (text : Option String)
    (left right : Option Handle) (hl : ∀ c ∈ left, c < w.size) (hr : ∀ c ∈ right, c < w.size)
    (ho : (Edit.add kind text left right).Orderly w spent) :
    (w.add kind text left right).1.Owned spent := by
  obtain ⟨hleft, hright⟩ := ho
  refine ⟨linked_add w kind text left right hl hr h.linked, ?_, ?_⟩
  · intro p c hp hpc
    rw [parent?_add w kind text left right c hl hr]
    by_cases hnew : p = w.size
    · subst hnew
      rw [if_pos ((holds_add_new w kind text left right c).mp hpc)]
    · have hold : w.Holds p c := by
        unfold Holds at hpc
        rwa [operand?_add, operand?_add, if_neg hnew, if_neg hnew] at hpc
      rw [if_neg, h.owner p c hp hold]
      rintro (hc | hc)
      · exact hp ((hleft c hc).1.mem hold)
      · exact hp ((hright c hc).mem hold)
  · intro p c side side' hp hside hside'
    rw [operand?_add] at hside hside'
    by_cases hnew : p = w.size
    · rw [if_pos hnew] at hside hside'
      cases side <;> cases side'
      · rfl
      · exact absurd hside' (hleft c hside).2
      · exact absurd hside (hleft c hside').2
      · rfl
    · rw [if_neg hnew] at hside hside'
      exact h.sole p c side side' hp hside hside'

theorem owned_setOperand (h : w.Owned spent) (n : Handle) (side : Side) (child : Option Handle)
    (hn : n < w.size) (hc : ∀ c ∈ child, c < w.size)
    (ho : (Edit.setOperand n side child).Orderly w spent) :
    (w.setOperand n side child).Owned spent := by
  have hop := operand?_setOperand w n side child
  -- an operand that comes in was in no other place
  have hplace : ∀ p c side', child = some c → p ∉ spent → w.operand? p side' = some c →
      p = n ∧ side' = side := by
    intro p c side' hchild hp hside'
    rcases ho c hchild with hloose | ⟨hns, hside⟩
    · exact absurd (hloose.mem (holds_side hside')) hp
    · have hpn := (h.owner p c hp (holds_side hside')).symm.trans (h.owner n c hns (holds_side hside))
      cases hpn
      exact ⟨rfl, h.sole _ c side' side hp hside' hside⟩
  refine ⟨linked_setOperand w n side child hn hc h.linked, ?_, ?_⟩
  · intro p c hp hpc
    obtain ⟨side', hside'⟩ := (holds_iff _ p c).mp hpc
    rw [hop p side' hn] at hside'
    rw [parent?_setOperand w n side child c hc]
    split at hside'
    · next hat => rw [if_pos hside', hat.1]
    · next hat =>
      have hparent := h.owner p c hp (holds_side hside')
      rw [if_neg (fun hchild => hat (hplace p c side' hchild hp hside')), if_neg, hparent]
      rintro ⟨hside, hcn⟩
      cases hparent.symm.trans hcn
      exact hat ⟨rfl, h.sole _ c side' side hp hside' hside⟩
  · intro p c side' side'' hp hside' hside''
    rw [hop p _ hn] at hside' hside''
    split at hside' <;> split at hside''
    · next hat hat' => rw [hat.2, hat'.2]
    · next hat hat' => exact absurd (hplace p c side'' hside' hp hside'') hat'
    · next hat hat' => exact absurd (hplace p c side' hside'' hp hside') hat
    · exact h.sole p c side' side'' hp hside' hside''

theorem owned_replace (h : w.Owned spent) (n source : Handle) (hn : n < w.size)
    (hs : source < w.size) (ho : (Edit.replace n source).Orderly w spent) :
    (w.replace n source).Owned ((Edit.replace n source).spent spent) := by
  refine ⟨linked_replace w n source hn hs h.linked, ?_, ?_⟩
  · intro p c hp hpc
    rw [holds_replace w n source p c hn hs] at hpc
    rw [parent?_replace w n source c hs (h.linked.lt source)]
    by_cases hpn : p = n
    · rw [if_pos hpn] at hpc
      rw [if_pos hpc, hpn]
    · rw [if_neg hpn] at hpc
      obtain ⟨hps, hne⟩ := (Edit.notMem_spent_replace hp).resolve_left hpn
      have hparent := h.owner p c hps hpc
      rw [if_neg, if_neg, hparent]
      · rintro ⟨-, hcn⟩
        exact hpn (Option.some.inj (hparent.symm.trans hcn))
      · intro hsc
        exact hne (Option.some.inj (hparent.symm.trans (h.owner source c ho hsc)))
  · intro p c side side' hp hside hside'
    rw [operand?_replace w n source p _ hn hs] at hside hside'
    by_cases hpn : p = n
    · rw [if_pos hpn] at hside hside'
      exact h.sole source c side side' ho hside hside'
    · rw [if_neg hpn] at hside hside'
      exact h.sole p c side side' ((Edit.notMem_spent_replace hp).resolve_left hpn).1 hside hside'

theorem owned_wrapped (h : w.Owned spent) {p n : Handle} (operator : String) (right : Option Handle)
    (hp : w.parent? n = some p) (hr : ∀ c ∈ right, c < w.size)
    (ho : (Edit.wrap n operator right).Orderly w spent)
    (hlinked : (w.wrapped p n operator right).Linked) :
    (w.wrapped p n operator right).Owned spent := by
  have hheld := h.linked.held n p hp
  have hplaces := operand?_wrapped_eq_some w p n operator right hheld.lt
  have hnew : ∀ q c side, w.operand? q side = some c → c ≠ w.size :=
    fun q c side hside => Nat.ne_of_lt (h.linked.lt q c (holds_side hside))
  refine ⟨hlinked, ?_, ?_⟩
  · intro q c hq hqc
    obtain ⟨side, hside⟩ := (holds_iff _ q c).mp hqc
    rw [parent?_wrapped w p n operator right hheld.lt hp hheld hr]
    rcases (hplaces q c side).mp hside with
      ⟨rfl, -, rfl⟩ | ⟨rfl, -, rfl⟩ | ⟨rfl, -, hright⟩ | ⟨-, hother, hside⟩
    · rw [if_pos rfl]
    · rw [if_neg (Nat.ne_of_lt (parent?_lt w _ p hp)), if_pos (.inl rfl)]
    · rw [if_neg (Nat.ne_of_lt (hr c hright)), if_pos (.inr hright)]
    · have hparent := h.owner q c hq (holds_side hside)
      rw [if_neg (hnew q c side hside), if_neg, hparent]
      rintro (hc | hright)
      · cases hc
        cases hparent.symm.trans hp
        exact hother ⟨rfl, h.sole _ _ side _ hq hside (operand?_sideUnder w _ n hheld)⟩
      · exact hq ((ho c hright).1.mem (holds_side hside))
  · intro q c side side' hq hside hside'
    rw [operand?_wrapped w p n operator right hheld.lt] at hside hside'
    by_cases hwrapper : q = w.size
    · have hqp : q ≠ p := hwrapper ▸ Nat.ne_of_gt hheld.lt
      rw [if_neg (fun hat => hqp hat.1), if_pos hwrapper] at hside hside'
      cases side <;> cases side'
      · rfl
      · exact absurd (Option.some.inj hside).symm (ho c hside').2
      · exact absurd (Option.some.inj hside').symm (ho c hside).2
      · rfl
    · rw [if_neg hwrapper] at hside hside'
      split at hside <;> split at hside'
      · next hat hat' => rw [hat.2, hat'.2]
      · exact absurd (Option.some.inj hside).symm (hnew q c side' hside')
      · exact absurd (Option.some.inj hside').symm (hnew q c side hside)
      · exact h.sole q c side side' hq hside hside'

theorem owned_wrap (h : w.Owned spent) {n m : Handle} (operator : String) (right : Option Handle)
    (hr : ∀ c ∈ right, c < w.size) (ho : (Edit.wrap n operator right).Orderly w spent)
    (hw : w.wrap n operator right = .ok (w', m)) : w'.Owned spent := by
  have hlinked := linked_wrap w w' n m operator right hr h.linked hw
  cases hp : w.parent? n with
  | none =>
    unfold wrap at hw
    rw [hp] at hw
    cases hw
  | some p =>
    have hheld := h.linked.held n p hp
    rw [wrap_eq w p n operator right hheld.lt hp hheld hr] at hw
    cases hw
    exact owned_wrapped h operator right hp hr ho hlinked

/-- The root of a new formula is an operand of nothing. -/
theorem Grown.not_holds_root {r : Option Handle} {t : Formula} (g : Grown w w' r t)
    (h : w.Linked) {c : Handle} (hc : c ∈ r) (p : Handle) : ¬ w'.Holds p c := by
  intro hpc
  obtain ⟨hnew, -, hnone⟩ := g.root c hc
  by_cases hp : p < w.size
  · have hold := ((sameAt_of_element? (g.old p hp)).holds_iff c).mp hpc
    exact absurd (h.lt p c hold) (Nat.not_lt.mpr hnew)
  · obtain ⟨-, -, hparent⟩ := g.held p c (Nat.le_of_not_lt hp) hpc
    exact absurd (hnone.symm.trans hparent) nofun

/-- New elements hold new ones only. -/
theorem Grown.not_holds_old {r : Option Handle} {t : Formula} (g : Grown w w' r t) {c : Handle}
    (hc : c < w.size) (h : ∀ p, ¬ w.Holds p c) (p : Handle) : ¬ w'.Holds p c := by
  intro hpc
  by_cases hp : p < w.size
  · exact h p (((sameAt_of_element? (g.old p hp)).holds_iff c).mp hpc)
  · exact absurd hc (Nat.not_lt.mpr (g.held p c (Nat.le_of_not_lt hp) hpc).1)

/-- Building adds elements to loose roots, one formula after the other. -/
theorem owned_build (t : Formula) (h : w.Owned spent) : (w.build t).1.Owned spent := by
  induction t generalizing w with
  | empty => exact h
  | node kind text left right ihl ihr =>
    have h₁ := ihl h
    have h₂ := ihr h₁
    have g₁ := grown_build w left
    have g₂ := grown_build (w.build left).1 right
    refine owned_add h₂ kind text _ _ (g₁.left_lt g₂) (fun c hc => (g₂.root c hc).2.1) ⟨?_, ?_⟩
    · intro c hc
      have hlt := (g₁.root c hc).2.1
      refine ⟨fun p _ hpc => ?_, fun hr => Nat.not_lt.mpr (g₂.root c hr).1 hlt⟩
      exact absurd hpc (g₂.not_holds_old hlt (g₁.not_holds_root h.linked hc) p)
    · intro c hc p _ hpc
      exact absurd hpc (g₂.not_holds_root h₁.linked hc p)

/-- **An orderly call keeps ownership unique.** -/
theorem owned_apply (h : w.Owned spent) (e : Edit) (he : ∀ n ∈ e.handles, n < w.size)
    (ho : e.Orderly w spent) : (w.apply e).Owned (e.spent spent) := by
  cases e with
  | add kind text left right =>
    obtain ⟨hl, hr⟩ := Edit.handles_add he
    exact owned_add h kind text left right hl hr ho
  | setOperand n side child =>
    obtain ⟨hn, hc⟩ := Edit.handles_setOperand he
    exact owned_setOperand h n side child hn hc ho
  | replace n source =>
    obtain ⟨hn, hs⟩ := Edit.handles_replace he
    exact owned_replace h n source hn hs ho
  | replaceContent n kind text =>
    exact h.congr (size_replaceContent w n kind text) (operand?_replaceContent w n kind text)
      (parent?_replaceContent w n kind text)
  | wrap n operator right =>
    unfold apply
    simp only
    split
    · next w' m hw => exact owned_wrap h operator right (Edit.handles_wrap he).2 ho hw
    · exact h
  | clone n => exact owned_build _ h
  | rename n kind old new =>
    exact h.congr (size_changeTexts w n _) (operand?_changeTexts w n _) (parent?_changeTexts w n _)
  | migrate n resolve =>
    exact h.congr (size_changeTexts w n _) (operand?_changeTexts w n _) (parent?_changeTexts w n _)

/-! ## Sessions -/

/-- All calls of a session are orderly. -/
def OrderlyRun (w : Workspace) (spent : List Handle) : List Edit → Prop
  | [] => True
  | e :: rest => e.Orderly w spent ∧ OrderlyRun (w.apply e) (e.spent spent) rest

instance decidableOrderlyRun (w : Workspace) (spent : List Handle) :
    (edits : List Edit) → Decidable (OrderlyRun w spent edits)
  | [] => inferInstanceAs (Decidable True)
  | e :: rest =>
    have : Decidable (OrderlyRun (w.apply e) (e.spent spent) rest) := decidableOrderlyRun _ _ rest
    inferInstanceAs (Decidable (e.Orderly w spent ∧ OrderlyRun (w.apply e) (e.spent spent) rest))

/-- The elements that are spent after a session. -/
def spentBy (edits : List Edit) : List Handle := edits.foldl Edit.spent []

theorem owned_run? (edits : List Edit) (h : w.Owned spent) (hrun : w.run? edits = some w')
    (ho : w.OrderlyRun spent edits) : w'.Owned (edits.foldl Edit.spent spent) := by
  induction edits generalizing w spent with
  | nil =>
    cases hrun
    exact h
  | cons e rest ih =>
    rw [run?] at hrun
    split at hrun
    · next he => exact ih (owned_apply h e he ho.1) hrun ho.2
    · cases hrun

/-- What stands in a place stands in no other one, those of spent elements aside, and has the holder
as its parent. -/
def OwnedOnce (w : Workspace) (spent : List Handle) : Prop :=
  ∀ p side c, p ∉ spent → w.operand? p side = some c →
    w.parent? c = some p ∧
      ∀ p' side', p' ∉ spent → w.operand? p' side' = some c → p' = p ∧ side' = side

theorem Owned.ownedOnce (h : w.Owned spent) : w.OwnedOnce spent := by
  intro p side c hp hside
  have hparent := h.owner p c hp (holds_side hside)
  refine ⟨hparent, fun p' side' hp' hside' => ?_⟩
  cases (h.owner p' c hp' (holds_side hside')).symm.trans hparent
  exact ⟨rfl, h.sole _ c side' side hp hside' hside⟩

/-- What an element takes over from another one stands in two places. -/
theorem replace_shares (h : w.Linked) {n source c : Handle} {side : Side} (hn : n < w.size)
    (hne : source ≠ n) (hside : w.operand? source side = some c) :
    (w.replace n source).operand? source side = some c ∧
      (w.replace n source).operand? n side = some c ∧
      (w.replace n source).parent? c = some n := by
  have hs := operand?_lt w source side c hside
  refine ⟨?_, ?_, ?_⟩
  · rw [operand?_replace w n source source side hn hs, if_neg hne, hside]
  · rw [operand?_replace w n source n side hn hs, if_pos rfl, hside]
  · rw [parent?_replace w n source c hs (h.lt source), if_pos (holds_side hside)]

/-- No element ever gets inside itself. -/
def StaysAcyclic (w : Workspace) : List Edit → Prop
  | [] => w.Acyclic
  | e :: rest => w.Acyclic ∧ (w.apply e).StaysAcyclic rest

/-- A number is put in the place of the function of another number, by taking over the operand. -/
def takeOverSession : List Edit :=
  [.add .number (some "1") none none, .add .function (some "ABS") (some 0) none,
   .add .number (some "0") none none, .replace 2 1]

/-- The operand then stands in two places, although no element ever was inside itself. -/
theorem takeOver_notOwnedOnce :
    ∃ w, Workspace.run? {} takeOverSession = some w ∧ StaysAcyclic {} takeOverSession ∧
      ¬ w.OwnedOnce [] := by
  refine ⟨_, rfl, ⟨?_, ?_, ?_, ?_, ?_⟩, ?_⟩
  case refine_6 =>
    intro h
    have hplace := (h 1 .left 0 nofun rfl).2 2 .left nofun rfl
    exact absurd hplace.1 (by decide)
  all_goals exact acyclic_of_rank _ (fun n => if n = 0 then 0 else 1) (by decide)

/-- **Orderly sessions keep ownership unique.**  When all calls of a session have taken loose operands
only, each operand stands in one place and has the holder as its parent.  The places of elements from
which another one has taken over the operands do not count: whatever the session, an operand that is
taken over stays in its old place as well. -/
theorem orderly_ownership (edits : List Edit) (w : Workspace)
    (hrun : Workspace.run? {} edits = some w) :
    (OrderlyRun {} [] edits → w.OwnedOnce (spentBy edits)) ∧
    (∀ n source c side, n < w.size → source ≠ n → w.operand? source side = some c →
      (w.replace n source).operand? source side = some c ∧
        (w.replace n source).operand? n side = some c ∧
        (w.replace n source).parent? c = some n) := by
  refine ⟨fun ho => (owned_run? edits owned_empty hrun ho).ownedOnce, ?_⟩
  intro n source c side hn hne hside
  exact replace_shares (linked_run? edits {} w linked_empty hrun) hn hne hside

/-- A sum is put in the place of a function by taking over its operands.  Then a product comes between
the function and its left operand, all of it is copied, and the right operand is dropped. -/
def orderlySession : List Edit :=
  [.add .number (some "1") none none, .add .number (some "2") none none,
   .add .operator (some "PLUS") (some 0) (some 1), .add .function (some "ABS") none none,
   .replace 3 2, .add .number (some "3") none none, .wrap 0 "MULT" (some 4), .clone 3,
   .setOperand 3 .right none]

theorem orderly_ownership_moved :
    ∃ w, Workspace.run? {} orderlySession = some w ∧ spentBy orderlySession = [2] ∧
      w.operand? 2 .left = some 0 ∧ w.operand? 5 .left = some 0 ∧ w.parent? 0 = some 5 ∧
      (∀ p side, p ∉ [2] → w.operand? p side = some 0 → p = 5 ∧ side = .left) ∧
      (w.replace 1 3).operand? 3 .left = some 5 ∧ (w.replace 1 3).operand? 1 .left = some 5 := by
  refine ⟨_, rfl, rfl, rfl, rfl, ?_⟩
  obtain ⟨honce, hshares⟩ := orderly_ownership orderlySession _ rfl
  obtain ⟨hparent, hplace⟩ := honce (by decide) 5 .left 0 (by decide) rfl
  obtain ⟨hsource, htaken, -⟩ := hshares 1 3 5 .left (by decide) (by decide) rfl
  exact ⟨hparent, hplace, hsource, htaken⟩

end Workspace

end BrickFormula
