import BrickFormula.Proofs.Workspace.Effects

/-!
# Sessions

A session is a sequence of editor calls, each on handles of elements that exist by then.  Elements may
be shared, moved while they still stand elsewhere, or put under themselves: nothing is asked of a
call except that its handles exist.

    w.apply e        the workspace after one call
    w.run? edits     the workspace after a session, if every handle existed when it was used
    run?_invariant   what every call keeps holds after every session
-/

namespace BrickFormula

/-- One call of the editor. -/
inductive Edit where
  | add (kind : Kind) (text : Option String) (left right : Option Handle)
  | setOperand (n : Handle) (side : Side) (child : Option Handle)
  | replace (n source : Handle)
  | replaceContent (n : Handle) (kind : Kind) (text : Option String)
  | wrap (n : Handle) (operator : String) (right : Option Handle)
  | clone (n : Handle)
  | rename (n : Handle) (kind : Kind) (old new : String)
  | migrate (n : Handle) (resolve : String → Option String)

/-- The elements that a call is given. -/
def Edit.handles : Edit → List Handle
  | .add _ _ left right => left.toList ++ right.toList
  | .setOperand n _ child => n :: child.toList
  | .replace n source => [n, source]
  | .wrap n _ right => n :: right.toList
  | .replaceContent n _ _ | .clone n | .rename n _ _ _ | .migrate n _ => [n]

/-! What is so of all handles of a call is so of each of its elements and operands. -/

namespace Edit
variable {P : Handle → Prop} {n source : Handle} {left right child : Option Handle}

theorem handles_add {kind : Kind} {text : Option String}
    (h : ∀ c ∈ (add kind text left right).handles, P c) :
    (∀ c ∈ left, P c) ∧ ∀ c ∈ right, P c :=
  ⟨fun c hc => h c (List.mem_append_left _ (Option.mem_toList.mpr hc)),
    fun c hc => h c (List.mem_append_right _ (Option.mem_toList.mpr hc))⟩

theorem handles_setOperand {side : Side} (h : ∀ c ∈ (setOperand n side child).handles, P c) :
    P n ∧ ∀ c ∈ child, P c :=
  ⟨h n List.mem_cons_self, fun c hc => h c (List.mem_cons_of_mem _ (Option.mem_toList.mpr hc))⟩

theorem handles_replace (h : ∀ c ∈ (replace n source).handles, P c) : P n ∧ P source :=
  ⟨h n List.mem_cons_self, h source (List.mem_cons_of_mem _ List.mem_cons_self)⟩

theorem handles_wrap {operator : String} (h : ∀ c ∈ (wrap n operator right).handles, P c) :
    P n ∧ ∀ c ∈ right, P c :=
  ⟨h n List.mem_cons_self, fun c hc => h c (List.mem_cons_of_mem _ (Option.mem_toList.mpr hc))⟩

end Edit

namespace Workspace

/-- The workspace after a call; a call that fails changes nothing. -/
def apply (w : Workspace) : Edit → Workspace
  | .add kind text left right => (w.add kind text left right).1
  | .setOperand n side child => w.setOperand n side child
  | .replace n source => w.replace n source
  | .replaceContent n kind text => w.replaceContent n kind text
  | .wrap n operator right =>
    match w.wrap n operator right with
    | .ok (wrapped, _) => wrapped
    | .error _ => w
  | .clone n => (w.clone n).1
  | .rename n kind old new => w.rename n kind old new
  | .migrate n resolve => w.migrate n resolve

/-- The workspace after a session; none if a call is given a handle of no element. -/
def run? (w : Workspace) : List Edit → Option Workspace
  | [] => some w
  | e :: rest => if ∀ n ∈ e.handles, n < w.size then (w.apply e).run? rest else none

/-- What every call keeps holds after every session. -/
theorem run?_invariant (P : Workspace → Prop)
    (step : ∀ w e, (∀ n ∈ e.handles, n < w.size) → P w → P (w.apply e)) (edits : List Edit)
    (w w' : Workspace) (hw : P w) (h : w.run? edits = some w') : P w' := by
  induction edits generalizing w with
  | nil =>
    rw [run?, Option.some.injEq] at h
    exact h ▸ hw
  | cons e rest ih =>
    rw [run?] at h
    split at h
    · next he => exact ih (w.apply e) (step w e he hw) h
    · cases h

/-- What adding an element keeps, building a formula keeps; and the root of the formula exists. -/
theorem build_invariant (P : Workspace → Prop)
    (step : ∀ w kind text left right, (∀ c ∈ left, c < w.size) → (∀ c ∈ right, c < w.size) →
      P w → P (w.add kind text left right).1)
    (t : Formula) (w : Workspace) (hw : P w) :
    P (w.build t).1 ∧ w.size ≤ (w.build t).1.size ∧ ∀ c ∈ (w.build t).2, c < (w.build t).1.size := by
  induction t generalizing w with
  | empty => exact ⟨hw, Nat.le_refl _, fun c hc => by cases hc⟩
  | node kind text left right ihl ihr =>
    obtain ⟨hl, hlsize, hlroot⟩ := ihl w hw
    obtain ⟨hr, hrsize, hrroot⟩ := ihr (w.build left).1 hl
    have hlroot' : ∀ c ∈ (w.build left).2, c < ((w.build left).1.build right).1.size :=
      fun c hc => Nat.lt_of_lt_of_le (hlroot c hc) hrsize
    have hsize := size_add ((w.build left).1.build right).1 kind text (w.build left).2
      ((w.build left).1.build right).2
    refine ⟨step _ kind text _ _ hlroot' hrroot hr, ?_, ?_⟩
    · show w.size ≤ (Workspace.add _ kind text _ _).1.size
      rw [hsize]
      exact Nat.le_succ_of_le (Nat.le_trans hlsize hrsize)
    · intro c hc
      show c < (Workspace.add _ kind text _ _).1.size
      cases hc
      rw [hsize]
      exact Nat.lt_succ_self _

end Workspace

end BrickFormula
