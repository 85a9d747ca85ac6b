import BrickFormula.Proofs.Evaluation.Footprint
import BrickFormula.Proofs.Evaluation.Outcome

/-!
# Random numbers drawn

An evaluation draws a random number at most once for each element that can draw one, whatever looks
at the operands of this element again; and it depends on no other random number.  A computation is
compared with itself, on two sources of random numbers and from two counts on: where the sources
agree on as many numbers as the computation may draw, it has the same outcome and draws as many.

    Evaluation.Sees k m       `m` draws at most `k` random numbers and depends on no other
    Sees.bind                 one computation after another draws what both of them draw
    Call.sees_apply           only two of the functions draw a number, and only one
    sees_evaluate             a formula draws no more than it has elements of these functions
    outcomes                  several evaluations in a row
    draws_bounded             the bound, and what follows for formulas that draw nothing
-/

namespace BrickFormula

/-! ## Computations -/

/-- From two counts on, and with two sources of random numbers that agree on the next `k`, the
computation has one outcome and draws as many of them. -/
def Evaluation.Sees {α : Type} (k : Nat) (m : (Nat → Binary64) → Evaluation α) : Prop :=
  ∀ draw draw' n n', (∀ i < k, draw (n + i) = draw' (n' + i)) →
    ∃ r, ∃ j ≤ k, (m draw).run.run n = (r, n + j) ∧ (m draw').run.run n' = (r, n' + j)

namespace Evaluation
variable {α β : Type} {k l : Nat} {m : (Nat → Binary64) → Evaluation α}

theorem sees_ofExcept (r : Except Fault α) : Sees k fun _ => ofExcept r :=
  fun _ _ _ _ _ => ⟨r, 0, Nat.zero_le k, rfl, rfl⟩

theorem sees_pure (a : α) : Sees k fun _ => pure a := sees_ofExcept (.ok a)

theorem sees_draw (env : Environment) :
    Sees 1 fun draw => Evaluation.draw { env with draw := draw } := by
  intro draw draw' n n' hsame
  refine ⟨.ok (draw n), 1, Nat.le_refl 1, rfl, ?_⟩
  have hnext : draw n = draw' n' := hsame 0 Nat.zero_lt_one
  rw [hnext]
  rfl

/-- One computation after another draws what both of them draw. -/
theorem Sees.bind {j : Nat} {f : α → (Nat → Binary64) → Evaluation β} (hm : Sees j m)
    (hf : ∀ a, Sees k (f a)) (hl : j + k ≤ l) : Sees l fun draw => m draw >>= fun a => f a draw := by
  intro draw draw' n n' hsame
  obtain ⟨r, i, hi, hrun, hrun'⟩ := hm draw draw' n n' fun i hi => hsame i (by omega)
  simp only [ExceptT.run_bind, StateT.run_bind, hrun, hrun']
  cases r with
  | error fault => exact ⟨.error fault, i, by omega, rfl, rfl⟩
  | ok a =>
    -- the rest starts `i` numbers later, where as many agree as it may draw
    obtain ⟨r, i', hi', hrest⟩ := hf a draw draw' (n + i) (n' + i) fun i' hi' => by
      rw [Nat.add_assoc, Nat.add_assoc]
      exact hsame (i + i') (by omega)
    rw [Nat.add_assoc, Nat.add_assoc] at hrest
    exact ⟨r, i + i', by omega, hrest⟩

/-- The number of draws, from any count on. -/
theorem Sees.drawn_le (h : Sees k m) (draw : Nat → Binary64) (n : Nat) :
    ∃ j ≤ k, ((m draw).run.run n).2 = n + j := by
  obtain ⟨r, j, hj, hrun, -⟩ := h draw draw n n fun _ _ => rfl
  exact ⟨j, hj, by rw [hrun]⟩

/-- A computation that draws nothing has one outcome. -/
theorem Sees.eq_ofExcept (h : Sees 0 m) : ∃ result, ∀ draw, m draw = ofExcept result := by
  let outcome := (m fun _ => .zero).run.run 0
  refine ⟨outcome.1, fun draw => ExceptT.ext (StateT.ext fun n => ?_)⟩
  obtain ⟨r, j, hj, hrun, hzero⟩ := h draw (fun _ => .zero) n 0 nofun
  obtain rfl : j = 0 := Nat.le_zero.mp hj
  rw [hrun, show r = outcome.1 from congrArg Prod.fst hzero.symm]
  rfl

end Evaluation

/-! ## Functions -/

/-- How many random numbers a function may draw. -/
def BuiltIn.drawn (f : BuiltIn) : Nat := if f.draws then 1 else 0

namespace Call
open Evaluation

variable (env : Environment) (left right : Argument)

theorem sees_random (x y : Binary64) :
    Sees 1 fun draw => random { env with draw := draw } left right x y := by
  unfold random
  generalize (if x.le y then (x, y) else (y, x)) = bounds
  obtain ⟨low, high⟩ := bounds
  simp only
  split
  · exact sees_pure low
  · have hrest (r : Binary64) : Sees 0 fun _ : Nat → Binary64 =>
        if low.isNearInteger env.settings.integerEpsilon &&
            high.isNearInteger env.settings.integerEpsilon &&
            !left.formula.isDecimalLiteral && !right.formula.isDecimalLiteral then do
          let steps ← Evaluation.ofExcept (wholePart (r * ((high + .one) - low)))
          return low + .ofInt steps
        else return r * (high - low) + low := by
      split
      · exact Sees.bind (k := 0) (sees_ofExcept _) (fun steps => sees_pure _) (Nat.le_refl 0)
      · exact sees_pure _
    exact Sees.bind (sees_draw env) hrest (Nat.le_refl 1)

theorem sees_direction (x y : Binary64) :
    Sees 1 fun draw => direction { env with draw := draw } x y := by
  unfold direction
  split
  · exact Sees.bind (k := 0) (sees_draw env) (fun r => sees_pure _) (Nat.le_refl 1)
  · exact sees_pure _

theorem sees_applyNumbers (f : BuiltIn) :
    Sees f.drawn fun draw => applyNumbers { env with draw := draw } f left right := by
  unfold applyNumbers
  split
  · exact sees_random env left right _ _
  · exact sees_direction env _ _
  all_goals exact sees_pure _

theorem applyText_draw (f : BuiltIn) (draw : Nat → Binary64) :
    applyText { env with draw := draw } f left right = applyText env f left right := by
  have hsame (a : Argument) : Argument.Agrees { env with draw := draw } env a a :=
    ⟨rfl, rfl, rfl, fun _ => rfl, fun _ => rfl, fun _ => rfl⟩
  refine applyText_congr ?_ ?_ f (hsame left) (hsame right)
  · rfl
  · rfl

theorem device_draw (f : BuiltIn) (draw : Nat → Binary64) :
    device { env with draw := draw } f = device env f := rfl

/-- Only two of the functions draw a random number, and only one. -/
theorem sees_apply (f : BuiltIn) :
    Sees f.drawn fun draw => apply { env with draw := draw } f left right := by
  have hnumbers := Sees.bind (k := 0) (sees_applyNumbers env left right f)
    (fun x => sees_pure (Datum.number x)) (Nat.le_refl f.drawn)
  unfold apply
  simp only [applyText_draw, device_draw]
  split
  case h_17 => exact hnumbers
  all_goals exact sees_ofExcept _

end Call

/-! ## Formulas -/

namespace Formula
open Evaluation

/-- How many elements can draw a random number. -/
def drawingElements (t : Formula) : Nat :=
  t.elements.count (.function, some "RAND") + t.elements.count (.function, some "ARCTAN2")

theorem drawingElements_node (kind : Kind) (text : Option String) (left right : Formula) :
    (node kind text left right).drawingElements = left.drawingElements + right.drawingElements +
      ([(kind, text)].count (.function, some "RAND") +
        [(kind, text)].count (.function, some "ARCTAN2")) := by
  simp only [drawingElements, elements, List.count_append]
  omega

/-- An element of a function that draws a number is counted. -/
theorem drawn_le_count {text : Option String} {f : BuiltIn}
    (hf : text.bind BuiltIn.ofName? = some f) :
    f.drawn ≤ [(Kind.function, text)].count (.function, some "RAND") +
      [(Kind.function, text)].count (.function, some "ARCTAN2") := by
  obtain ⟨name, rfl, hname⟩ := Option.bind_eq_some_iff.mp hf
  obtain rfl := BuiltIn.name_of_ofName? hname
  cases f with
  | rand => decide
  | arctan2 => decide
  | _ => exact Nat.zero_le _

/-- A reading does not depend on random numbers. -/
theorem leafDatum_draw (env : Environment) (draw : Nat → Binary64) (kind : Kind)
    (text : Option String) :
    leafDatum { env with draw := draw } kind text = leafDatum env kind text := by
  cases kind with
  | collisionFormula =>
    have hprobe : Environment.probe { env with draw := draw } (text.getD "") =
        env.probe (text.getD "") := by
      apply Environment.probe_congr <;> rfl
    simp only [leafDatum, hprobe]
  | _ => rfl

/-- **A formula sees no more random numbers than it has elements that can draw one.** -/
theorem sees_operand (env : Environment) (t : Formula) :
    Sees t.drawingElements fun draw => t.operand { env with draw := draw } := by
  induction t with
  | empty => exact sees_pure none
  | node kind text left right ihl ihr =>
    rw [drawingElements_node]
    have hnormalize (k : Nat) (datum : Datum) :
        Sees k fun _ => do return some (← Evaluation.ofExcept datum.normalize) :=
      Sees.bind (k := k) (sees_ofExcept datum.normalize) (fun v => sees_pure (some v))
        (Nat.le_of_eq (Nat.zero_add k))
    have hleaf (hbracket : kind ≠ .bracket) (hop : kind = .operator → operatorOf? text = none)
        (hf : kind = .function → text.bind BuiltIn.ofName? = none) (k : Nat) :
        Sees k fun draw => (node kind text left right).operand { env with draw := draw } := by
      simp only [operand_leaf _ text left right hbracket hop hf, leafDatum_draw]
      exact Sees.bind (sees_ofExcept _) (hnormalize 0) (Nat.zero_le k)
    cases kind with
    | bracket =>
      simp only [operand_bracket]
      exact Sees.bind ihr (fun y => hnormalize 0 (.ofOption y)) (by omega)
    | operator =>
      cases hop : operatorOf? text with
      | none => exact hleaf nofun (fun _ => hop) nofun _
      | some op =>
        simp only [operand_operator _ text left right hop]
        split
        · exact hnormalize _ (.number .zero)
        · have hrest (y : Option Value) := Sees.bind (k := 0) ihl
            (fun x => hnormalize 0 (.ofValue (op.apply x y))) (Nat.le_refl _)
          exact Sees.bind ihr hrest (by omega)
    | function =>
      cases hf : text.bind BuiltIn.ofName? with
      | none => exact hleaf nofun nofun (fun _ => hf) _
      | some f =>
        simp only [operand_function _ text left right hf]
        have hcall (x y : Option Value) := Sees.bind (k := 0)
          (Call.sees_apply env ⟨left, x⟩ ⟨right, y⟩ f) (hnormalize 0) (Nat.le_refl _)
        have hrest (x : Option Value) := Sees.bind ihr (hcall x) (Nat.le_refl _)
        have hown := drawn_le_count hf
        exact Sees.bind ihl hrest (by omega)
    | _ => exact hleaf nofun nofun nofun _

theorem sees_evaluate (env : Environment) (t : Formula) :
    Sees t.drawingElements fun draw => t.evaluate { env with draw := draw } :=
  Sees.bind (k := 0) (sees_operand env t) (fun v => sees_pure (v.getD .zero)) (Nat.le_refl _)

/-! ## Repeated evaluations -/

/-- The outcomes of so many evaluations in a row, the first of which starts after `drawn` random
numbers. -/
def outcomes (env : Environment) (t : Formula) : (times drawn : Nat) → List (Except Fault Value)
  | 0, _ => []
  | times + 1, drawn =>
    let (outcome, drawn) := (t.evaluate env).run.run drawn
    outcome :: outcomes env t times drawn

theorem outcomes_of_eq_ofExcept {env : Environment} {t : Formula} {result : Except Fault Value}
    (h : t.evaluate env = .ofExcept result) (times drawn : Nat) :
    t.outcomes env times drawn = List.replicate times result := by
  induction times with
  | zero => rfl
  | succ times ih =>
    unfold outcomes
    rw [h, List.replicate_succ, ← ih]
    rfl

/-- **Random draws are bounded by the formula.**  In any environment, an evaluation draws at most
as many random numbers as the formula has elements of the two functions that draw one, also when it
stops with a fault.  Without such an element there is one outcome, whatever the random numbers are
and however many were drawn before; nothing is drawn, and so all evaluations in a row have this
outcome. -/
theorem draws_bounded (t : Formula) (env : Environment) :
    (∀ n, ∃ drawn ≤ t.drawingElements, ((t.evaluate env).run.run n).2 = n + drawn) ∧
    (t.drawingElements = 0 → ∃ result,
      (∀ draw, t.evaluate { env with draw := draw } = .ofExcept result) ∧
      ∀ times n, t.outcomes env times n = List.replicate times result) := by
  have hsees := sees_evaluate env t
  refine ⟨hsees.drawn_le env.draw, fun hzero => ?_⟩
  rw [hzero] at hsees
  obtain ⟨result, hresult⟩ := hsees.eq_ofExcept
  exact ⟨result, hresult, outcomes_of_eq_ofExcept (hresult env.draw)⟩

/-- `RAND(0.5, 2) * ARCTAN2(0, 0)`. -/
def drift : Formula :=
  .node .operator (some "MULT")
    (.node .function (some "RAND") (leaf .number "0.5") (leaf .number "2"))
    (.node .function (some "ARCTAN2") (leaf .number "0") (leaf .number "0"))

/-- `LENGTH(JOIN(drift, 2))`. -/
def driftLabel : Formula :=
  .node .function (some "LENGTH")
    (.node .function (some "JOIN") (leaf .string "drift") (leaf .number "2")) .empty

/-- The drift draws as many numbers as it can, its label draws none. -/
theorem draws_bounded_drift :
    drift.drawingElements = 2 ∧
    ((drift.evaluate (.bare {} fun _ => .zero)).run.run 5).2 = 5 + 2 ∧
    (∃ drawn ≤ drift.drawingElements,
      ((drift.evaluate (.bare {} fun _ => .zero)).run.run 5).2 = 5 + drawn) ∧
    driftLabel.drawingElements = 0 ∧
    ∃ result, (∀ draw, driftLabel.evaluate (.bare {} draw) = .ofExcept result) ∧
      ∀ times n, driftLabel.outcomes (.bare {} fun _ => .zero) times n =
        List.replicate times result :=
  ⟨by decide, by decide +kernel, (draws_bounded drift _).1 5, by decide,
    (draws_bounded driftLabel (.bare {} fun _ => .zero)).2 (by decide)⟩

end Formula

end BrickFormula
