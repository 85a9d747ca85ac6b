import BrickFormula.Proofs.Evaluation.Agreement

/-!
# Operands and their values

An operand that is there has a value, the one that it would have as a formula of its own: only an
empty operand has none.  So what an operator makes of two operands that are there is computed from
the values of two formulas, the right one first.

    operand_eq_evaluate    the value of an operand that is there
    evaluate_leaf          an element without operands
    evaluate_unary         an operator before one operand
    evaluate_binary        an operator between two operands
    evaluate_call          a function of its arguments
    Evaluation.Gives       a computation ends with a result
    gives_leaf             elements without operands
    gives_function         functions from the results of their arguments
-/

namespace BrickFormula

/-- The computation has a value, unless it stops with a fault. -/
def Evaluation.HasValue (c : Evaluation (Option Value)) : Prop :=
  (fun v => some (v.getD .zero)) <$> c = c

theorem Evaluation.HasValue.bind {α : Type} (m : Evaluation α)
    {k : α → Evaluation (Option Value)} (h : ∀ a, (k a).HasValue) : (m >>= k).HasValue := by
  unfold HasValue
  rw [map_bind]
  exact bind_congr h

theorem Evaluation.hasValue_normalize (datum : Datum) :
    HasValue (do return some (← ofExcept datum.normalize)) := by
  unfold HasValue
  simp only [map_bind, map_pure, Option.getD_some]

/-- Finite numbers are final values. -/
theorem Datum.normalize_number {x : Binary64} (h : x.isFinite = true) :
    (Datum.number x).normalize = .ok (.number x) := by
  cases x with
  | finite => rfl
  | _ => cases h

namespace Formula
open Evaluation

theorem isEmpty_eq_false {t : Formula} (h : t ≠ .empty) : t.isEmpty = false := by
  cases t with
  | empty => exact absurd rfl h
  | node => rfl

/-- The last step of every element that is there turns a datum into its final value. -/
theorem exists_operand_eq (env : Environment) {t : Formula} (h : t ≠ .empty) :
    ∃ m : Evaluation Datum, t.operand env = do
      let datum ← m
      return some (← .ofExcept datum.normalize) := by
  cases t with
  | empty => exact absurd rfl h
  | node kind text left right =>
    have hleaf (hbracket : kind ≠ .bracket) (hop : kind = .operator → operatorOf? text = none)
        (hf : kind = .function → text.bind BuiltIn.ofName? = none) :
        ∃ m : Evaluation Datum, (node kind text left right).operand env = do
          let datum ← m
          return some (← .ofExcept datum.normalize) :=
      ⟨_, operand_leaf env text left right hbracket hop hf⟩
    cases kind with
    | bracket =>
      refine ⟨Datum.ofOption <$> right.operand env, ?_⟩
      rw [operand_bracket, bind_map_left]
    | operator =>
      cases hop : operatorOf? text with
      | none => exact hleaf nofun (fun _ => hop) nofun
      | some op =>
        rw [operand_operator env text left right hop]
        split
        · exact ⟨pure (.number .zero), by rw [pure_bind]⟩
        · refine ⟨do
            let y ← right.operand env
            let x ← left.operand env
            return .ofValue (op.apply x y), ?_⟩
          simp only [bind_assoc, pure_bind]
    | function =>
      cases hf : text.bind BuiltIn.ofName? with
      | none => exact hleaf nofun nofun (fun _ => hf)
      | some f =>
        refine ⟨do
          let x ← left.operand env
          let y ← right.operand env
          Call.apply env f ⟨left, x⟩ ⟨right, y⟩, ?_⟩
        rw [operand_function env text left right hf]
        simp only [bind_assoc]
    | _ => exact hleaf nofun nofun nofun

theorem hasValue_operand (env : Environment) {t : Formula} (h : t ≠ .empty) :
    (t.operand env).HasValue := by
  obtain ⟨m, hm⟩ := exists_operand_eq env h
  rw [hm]
  exact .bind m hasValue_normalize

/-- **An operand that is there has its value as a formula.** -/
theorem operand_eq_evaluate (env : Environment) {t : Formula} (h : t ≠ .empty) :
    t.operand env = some <$> t.evaluate env := by
  have hvalue := hasValue_operand env h
  unfold HasValue at hvalue
  unfold evaluate
  rw [← map_eq_pure_bind, Functor.map_map, hvalue]

/-- The value of a formula is that of the operand, which is there. -/
theorem evaluate_of_operand {env : Environment} {t : Formula} {c : Evaluation Value}
    (h : t.operand env = some <$> c) : t.evaluate env = c := by
  unfold evaluate
  rw [h, bind_map_left]
  simp only [Option.getD_some, bind_pure]

/-- An element without operands. -/
theorem evaluate_leaf (env : Environment) {kind : Kind} (text : Option String) (left right : Formula)
    (hbracket : kind ≠ .bracket) (hop : kind = .operator → operatorOf? text = none)
    (hf : kind = .function → text.bind BuiltIn.ofName? = none) :
    (node kind text left right).evaluate env = (do
      let datum ← .ofExcept (leafDatum env kind text)
      .ofExcept datum.normalize) := by
  apply evaluate_of_operand
  rw [operand_leaf env text left right hbracket hop hf]
  simp only [map_bind, bind_pure_comp]

/-- An operator before its operand. -/
theorem evaluate_unary (env : Environment) {text : Option String} {op : Operator}
    (hop : operatorOf? text = some op) {right : Formula} (hr : right ≠ .empty) :
    (node .operator text .empty right).evaluate env = (do
      let y ← right.evaluate env
      .ofExcept (Datum.ofValue (op.applyUnary y)).normalize) := by
  apply evaluate_of_operand
  rw [operand_operator env text .empty right hop, isEmpty_eq_false hr, operand_eq_evaluate env hr]
  simp only [Bool.false_eq_true, if_false, bind_map_left, map_bind, bind_pure_comp]
  rfl

/-- An operator between two operands: the right one is evaluated first. -/
theorem evaluate_binary (env : Environment) {text : Option String} {op : Operator}
    (hop : operatorOf? text = some op) {left right : Formula} (hl : left ≠ .empty)
    (hr : right ≠ .empty) :
    (node .operator text left right).evaluate env = (do
      let y ← right.evaluate env
      let x ← left.evaluate env
      .ofExcept (Datum.ofValue (op.applyBinary x y)).normalize) := by
  apply evaluate_of_operand
  rw [operand_operator env text left right hop, isEmpty_eq_false hr, operand_eq_evaluate env hl,
    operand_eq_evaluate env hr]
  simp only [Bool.false_eq_true, if_false, bind_map_left, map_bind, bind_pure_comp]
  rfl

/-- A function of its arguments, which may be empty: the left one is evaluated first. -/
theorem evaluate_call (env : Environment) {text : Option String} {f : BuiltIn}
    (hf : text.bind BuiltIn.ofName? = some f) (left right : Formula) :
    (node .function text left right).evaluate env = (do
      let x ← left.operand env
      let y ← right.operand env
      .ofExcept (← Call.apply env f ⟨left, x⟩ ⟨right, y⟩).normalize) := by
  apply evaluate_of_operand
  rw [operand_function env text left right hf]
  simp only [map_bind, bind_pure_comp]

/-- A function of two arguments that are there. -/
theorem evaluate_function (env : Environment) {text : Option String} {f : BuiltIn}
    (hf : text.bind BuiltIn.ofName? = some f) {left right : Formula} (hl : left ≠ .empty)
    (hr : right ≠ .empty) :
    (node .function text left right).evaluate env = (do
      let x ← left.evaluate env
      let y ← right.evaluate env
      .ofExcept (← Call.apply env f ⟨left, some x⟩ ⟨right, some y⟩).normalize) := by
  rw [evaluate_call env hf, operand_eq_evaluate env hl, operand_eq_evaluate env hr]
  simp only [bind_map_left]

/-- A function of one argument. -/
theorem evaluate_function_one (env : Environment) {text : Option String} {f : BuiltIn}
    (hf : text.bind BuiltIn.ofName? = some f) {left : Formula} (hl : left ≠ .empty) :
    (node .function text left .empty).evaluate env = (do
      let x ← left.evaluate env
      .ofExcept (← Call.apply env f ⟨left, some x⟩ ⟨.empty, none⟩).normalize) := by
  rw [evaluate_call env hf, operand_eq_evaluate env hl, bind_map_left]
  rfl

end Formula

/-! ## Outcomes -/

/-- From the count `n` of random numbers on, the computation gives `a`, and leaves the count `m`. -/
def Evaluation.Gives {α : Type} (c : Evaluation α) (n : Nat) (a : α) (m : Nat) : Prop :=
  c.run.run n = (.ok a, m)

namespace Evaluation
variable {α β : Type} {n m k : Nat} {a : α} {b : β}

theorem gives_pure (n : Nat) (a : α) : Gives (pure a) n a n := rfl

theorem gives_ofExcept {r : Except Fault α} (h : r = .ok a) (n : Nat) : (ofExcept r).Gives n a n := by
  rw [h]
  rfl

theorem Gives.bind {c : Evaluation α} {next : α → Evaluation β} (hc : c.Gives n a m)
    (hnext : (next a).Gives m b k) : (c >>= next).Gives n b k := by
  unfold Gives at *
  rw [ExceptT.run_bind, StateT.run_bind, hc]
  exact hnext

/-- There is one outcome. -/
theorem Gives.unique {c : Evaluation α} {a' : α} {m' : Nat} (h : c.Gives n a m)
    (h' : c.Gives n a' m') : a = a' := by
  unfold Gives at h h'
  rw [h] at h'
  exact Except.ok.inj (congrArg Prod.fst h')

end Evaluation

namespace Formula
open Evaluation
variable {env : Environment} {text : Option String} {f : BuiltIn} {left right : Formula}
  {n m k : Nat} {x y w : Value} {d : Datum}

/-- What comes of an element without operands. -/
theorem gives_leaf {kind : Kind} (hbracket : kind ≠ .bracket)
    (hop : kind = .operator → operatorOf? text = none)
    (hf : kind = .function → text.bind BuiltIn.ofName? = none)
    (hleaf : leafDatum env kind text = .ok d) (hd : d.normalize = .ok w) (n : Nat) :
    ((node kind text left right).evaluate env).Gives n w n := by
  rw [evaluate_leaf env text left right hbracket hop hf, hleaf]
  exact gives_ofExcept hd n

/-- What comes of a function of two arguments that draws nothing itself. -/
theorem gives_function (hf : text.bind BuiltIn.ofName? = some f) (hl : left ≠ .empty)
    (hr : right ≠ .empty) (hleft : (left.evaluate env).Gives n x m)
    (hright : (right.evaluate env).Gives m y k)
    (hcall : Call.apply env f ⟨left, some x⟩ ⟨right, some y⟩ = pure d) (hd : d.normalize = .ok w) :
    ((node .function text left right).evaluate env).Gives n w k := by
  rw [evaluate_function env hf hl hr]
  refine hleft.bind (hright.bind ?_)
  rw [hcall, pure_bind]
  exact gives_ofExcept hd k

/-- What comes of a function of one argument that draws nothing itself. -/
theorem gives_function_one (hf : text.bind BuiltIn.ofName? = some f) (hl : left ≠ .empty)
    (hleft : (left.evaluate env).Gives n x m)
    (hcall : Call.apply env f ⟨left, some x⟩ ⟨.empty, none⟩ = pure d) (hd : d.normalize = .ok w) :
    ((node .function text left .empty).evaluate env).Gives n w m := by
  rw [evaluate_function_one env hf hl]
  refine hleft.bind ?_
  rw [hcall, pure_bind]
  exact gives_ofExcept hd m

end Formula

end BrickFormula
