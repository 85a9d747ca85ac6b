import BrickFormula.Proofs.Evaluation.Equality

/-!
# Numbers and their texts

A number literal has its text as its value, and a computed number is a number.  Operators and
mathematical functions ask every operand for its number, each in a way of its own, and all of them
find the same one in a number and in any text that writes it.

    Value.Alike                one value, or two that are read as one number
    Operator.apply_alike       operators make the same of alike operands
    Call.apply_numbers         mathematical functions see nothing but the numbers of their arguments
    Evaluation.Alike           two evaluations with alike outcomes
    Evaluation.Alike.bind_eq   what goes on from them in one way has one outcome
    spelling_never_shows       operators and functions, on values and in formulas
-/

namespace BrickFormula

/-! ## Values -/

namespace Value

/-- One value, or two of which the texts are read as one number. -/
def Alike (u v : Value) : Prop :=
  u = v ∨ ∃ x, Numeral.parse? (toText (some u)) = some x ∧ Numeral.parse? (toText (some v)) = some x

theorem toNumber?_eq_parse? (v : Value) :
    toNumber? (some v) = Numeral.parse? (toText (some v)) := by
  cases v with
  | text s => rfl
  | number x => exact (Numeral.parse?_write x).symm

theorem toNumber_eq_getD (o : Option Value) : toNumber o = (toNumber? o).getD .nan := by
  rcases o with _ | _ | _ <;> rfl

namespace Alike
variable {u v : Value}

theorem toNumber?_eq (h : u.Alike v) : toNumber? (some u) = toNumber? (some v) := by
  rcases h with rfl | ⟨x, hu, hv⟩
  · rfl
  · rw [toNumber?_eq_parse?, toNumber?_eq_parse?, hu, hv]

theorem toNumber_eq (h : u.Alike v) : toNumber (some u) = toNumber (some v) := by
  rw [toNumber_eq_getD, toNumber_eq_getD, h.toNumber?_eq]

theorem key_eq (h : u.Alike v) : key (some u) = key (some v) := by
  rcases h with rfl | ⟨x, hu, hv⟩
  · rfl
  · unfold key
    rw [hu, hv]

theorem equals_eq {u' v' : Value} (h : u.Alike v) (h' : u'.Alike v') :
    equals (some u) (some u') = equals (some v) (some v') := by
  rw [Bool.eq_iff_iff, equals_iff, equals_iff, h.key_eq, h'.key_eq]

/-- **Operators make the same of alike operands.** -/
theorem applyBinary_eq (op : Operator) {u' v' : Value} (h : u.Alike v) (h' : u'.Alike v') :
    op.applyBinary u u' = op.applyBinary v v' := by
  unfold Operator.applyBinary
  rw [h.equals_eq h', h.toNumber_eq, h'.toNumber_eq]

theorem applyUnary_eq (op : Operator) (h : u.Alike v) : op.applyUnary u = op.applyUnary v := by
  unfold Operator.applyUnary
  rw [h.toNumber_eq]

end Alike
end Value

/-- **Operators make the same of alike operands**, absent ones included. -/
theorem Operator.apply_alike (op : Operator) {a a' b b' : Option Value}
    (ha : Option.Rel Value.Alike a a') (hb : Option.Rel Value.Alike b b') :
    op.apply a b = op.apply a' b' := by
  cases hb with
  | none => cases ha <;> rfl
  | some hb =>
    cases ha with
    | none => exact hb.applyUnary_eq op
    | some ha => exact ha.applyBinary_eq op hb

theorem Value.alike_rfl (o : Option Value) : Option.Rel Alike o o := by
  cases o with
  | none => exact .none
  | some v => exact .some (.inl rfl)

theorem Value.toNumber?_alike {a b : Option Value} (h : Option.Rel Alike a b) :
    toNumber? a = toNumber? b := by
  cases h with
  | none => rfl
  | some h => exact h.toNumber?_eq

/-! ## Functions -/

namespace Call

/-- The function is one of those of one or two numbers. -/
def IsMathematical (f : BuiltIn) : Prop := (unary? f).isSome ∨ (binary? f).isSome

instance : DecidablePred IsMathematical := fun f =>
  inferInstanceAs (Decidable ((unary? f).isSome ∨ (binary? f).isSome))

/-- **Mathematical functions see the numbers of their arguments**, and nothing else of them. -/
theorem apply_numbers (env : Environment) {f : BuiltIn} (hf : IsMathematical f)
    {a a' b b' : Argument} (ha : a.number? = a'.number?) (hb : b.number? = b'.number?) :
    apply env f a b = apply env f a' b' := by
  unfold apply
  split
  case h_17 =>
    unfold applyNumbers
    rw [ha, hb]
    split
    · exact absurd hf (by decide)
    · exact absurd hf (by decide)
    all_goals rfl
  all_goals exact absurd hf (by decide)

end Call

/-! ## Evaluations -/

/-- From any count of random numbers on, both draw as many, and both stop with one fault or have
operands that are alike. -/
def Evaluation.Alike (c d : Evaluation (Option Value)) : Prop :=
  ∀ n, (c.run.run n).2 = (d.run.run n).2 ∧
    ((∃ a b, (c.run.run n).1 = .ok a ∧ (d.run.run n).1 = .ok b ∧ Option.Rel Value.Alike a b) ∨
      ∃ f, (c.run.run n).1 = .error f ∧ (d.run.run n).1 = .error f)

namespace Evaluation
variable {c d : Evaluation (Option Value)}

theorem Alike.refl (c : Evaluation (Option Value)) : c.Alike c := by
  intro n
  refine ⟨rfl, ?_⟩
  cases (c.run.run n).1 with
  | ok a => exact .inl ⟨a, a, rfl, rfl, Value.alike_rfl a⟩
  | error f => exact .inr ⟨f, rfl, rfl⟩

/-- What goes on in the same way with alike operands has the same outcome. -/
theorem Alike.bind_eq {β : Type} (h : c.Alike d) {k k' : Option Value → Evaluation β}
    (hk : ∀ a b, Option.Rel Value.Alike a b → k a = k' b) : c >>= k = d >>= k' := by
  refine ExceptT.ext (StateT.ext fun n => ?_)
  obtain ⟨hdrawn, hresult⟩ := h n
  rw [ExceptT.run_bind, ExceptT.run_bind, StateT.run_bind, StateT.run_bind]
  generalize c.run.run n = left at hdrawn hresult ⊢
  generalize d.run.run n = right at hdrawn hresult ⊢
  obtain ⟨result, drawn⟩ := left
  obtain ⟨result', drawn'⟩ := right
  cases hdrawn
  rcases hresult with ⟨a, b, ha, hb, hab⟩ | ⟨f, hf, hf'⟩
  · cases ha
    cases hb
    change (k a).run.run drawn = (k' b).run.run drawn
    rw [hk a b hab]
  · cases hf
    cases hf'
    rfl

end Evaluation

/-! ## Formulas -/

namespace Formula
variable {env : Environment}

theorem isEmpty_iff_run (t : Formula) (n : Nat) :
    t.isEmpty = true ↔ ((t.operand env).run.run n).1 = .ok none := by
  by_cases h : t = .empty
  · subst h
    exact ⟨fun _ => rfl, fun _ => rfl⟩
  · rw [isEmpty_eq_false h, operand_eq_evaluate env h, ExceptT.run_map, StateT.run_map]
    generalize (t.evaluate env).run.run n = outcome
    obtain ⟨_ | v, drawn⟩ := outcome <;> exact ⟨nofun, nofun⟩

theorem isEmpty_eq_of_alike {s t : Formula} (h : (s.operand env).Alike (t.operand env)) :
    s.isEmpty = t.isEmpty := by
  rw [Bool.eq_iff_iff, isEmpty_iff_run s 0, isEmpty_iff_run t 0]
  obtain ⟨-, ⟨a, b, ha, hb, hab⟩ | ⟨f, hf, hf'⟩⟩ := h 0
  · rw [ha, hb]
    cases hab with
    | none => exact Iff.rfl
    | some => exact ⟨nofun, nofun⟩
  · rw [hf, hf']

variable {text : Option String} {left left' right right' : Formula}
  (hl : (left.operand env).Alike (left'.operand env))
  (hr : (right.operand env).Alike (right'.operand env))
include hl hr

theorem operator_alike {op : Operator} (hop : operatorOf? text = some op) :
    (node .operator text left right).operand env =
      (node .operator text left' right').operand env := by
  rw [operand_operator env text left right hop, operand_operator env text left' right' hop,
    isEmpty_eq_of_alike hr]
  split
  · rfl
  · refine hr.bind_eq fun y y' hy => hl.bind_eq fun x x' hx => ?_
    rw [op.apply_alike hx hy]

theorem function_alike {f : BuiltIn} (hf : text.bind BuiltIn.ofName? = some f)
    (hmath : Call.IsMathematical f) :
    (node .function text left right).operand env =
      (node .function text left' right').operand env := by
  rw [operand_function env text left right hf, operand_function env text left' right' hf]
  refine hl.bind_eq fun x x' hx => hr.bind_eq fun y y' hy => ?_
  have hleft : Argument.number? ⟨left, x⟩ = Argument.number? ⟨left', x'⟩ := Value.toNumber?_alike hx
  have hright : Argument.number? ⟨right, y⟩ = Argument.number? ⟨right', y'⟩ :=
    Value.toNumber?_alike hy
  rw [Call.apply_numbers env hmath hleft hright]

end Formula

/-- **How a number is spelt never shows.**  Take two values that are read as one number, be they
numbers or texts.  No operator and no mathematical function tells them apart, on either side, with
any other operand or none; nor do these in a formula, when their operands have such values, from any
count of random numbers on. -/
theorem spelling_never_shows :
    (∀ (u v : Value) (x : Binary64), Numeral.parse? (Value.toText (some u)) = some x →
      Numeral.parse? (Value.toText (some v)) = some x →
      (∀ (op : Operator) (o : Option Value),
        op.apply (some u) o = op.apply (some v) o ∧ op.apply o (some u) = op.apply o (some v)) ∧
      (∀ (env : Environment) (f : BuiltIn), Call.IsMathematical f →
        ∀ (s t r : Formula) (o : Option Value),
          Call.apply env f ⟨s, some u⟩ ⟨r, o⟩ = Call.apply env f ⟨t, some v⟩ ⟨r, o⟩ ∧
          Call.apply env f ⟨r, o⟩ ⟨s, some u⟩ = Call.apply env f ⟨r, o⟩ ⟨t, some v⟩)) ∧
    (∀ (env : Environment) (left left' right right' : Formula),
      (left.operand env).Alike (left'.operand env) →
      (right.operand env).Alike (right'.operand env) →
      ∀ text : Option String,
        (∀ op, Formula.operatorOf? text = some op →
          (Formula.node .operator text left right).operand env =
            (Formula.node .operator text left' right').operand env) ∧
        (∀ f, text.bind BuiltIn.ofName? = some f → Call.IsMathematical f →
          (Formula.node .function text left right).operand env =
            (Formula.node .function text left' right').operand env)) := by
  refine ⟨?_, ?_⟩
  · intro u v x hu hv
    have huv : Option.Rel Value.Alike (some u) (some v) := .some (.inr ⟨x, hu, hv⟩)
    have hnumber := Value.toNumber?_alike huv
    refine ⟨fun op o => ?_, fun env f hf s t r o => ?_⟩
    · exact ⟨op.apply_alike huv (Value.alike_rfl o), op.apply_alike (Value.alike_rfl o) huv⟩
    · exact ⟨Call.apply_numbers env hf hnumber rfl, Call.apply_numbers env hf rfl hnumber⟩
  · intro env left left' right right' hl hr text
    exact ⟨fun op hop => Formula.operator_alike hl hr hop,
      fun f hf hmath => Formula.function_alike hl hr hf hmath⟩

/-- `7 + 0.5`. -/
def sevenAndAHalf : Formula :=
  .node .operator (some "PLUS") (.leaf .number "7") (.leaf .number "0.5")

theorem alike_sevenAndAHalf (env : Environment) :
    ((Formula.leaf .number "7.50").operand env).Alike (sevenAndAHalf.operand env) := by
  have hplus : Operator.plus.apply (some (.text "7")) (some (.text "0.5")) =
      .number (.ofRatio 15 2) := by decide +kernel
  have hnormalize : (Datum.ofValue (.number (.ofRatio 15 2))).normalize =
      .ok (.number (.ofRatio 15 2)) := by decide +kernel
  have hsum : sevenAndAHalf.operand env = pure (some (.number (.ofRatio 15 2))) := by
    unfold sevenAndAHalf
    have hop : Formula.operatorOf? (some "PLUS") = some .plus := rfl
    rw [Formula.operand_operator env _ _ _ hop]
    change (do return some (← Evaluation.ofExcept (Datum.ofValue
      (Operator.plus.apply (some (.text "7")) (some (.text "0.5")))).normalize)) = _
    rw [hplus, hnormalize]
    rfl
  intro n
  rw [hsum]
  exact ⟨rfl, .inl ⟨some (.text "7.50"), _, rfl, rfl,
    .some (.inr ⟨.ofRatio 15 2, by decide +kernel, by decide +kernel⟩)⟩⟩

theorem spelling_never_shows_sevenAndAHalf :
    Operator.equal.apply (some (.text "75e-1")) (some (.text "7.50")) =
      Operator.equal.apply (some (.number (.ofRatio 15 2))) (some (.text "7.50")) ∧
    Call.apply (.bare {} fun _ => .zero) .mod ⟨.leaf .string "75e-1", some (.text "75e-1")⟩
        ⟨.leaf .number "2", some (.text "2")⟩ =
      Call.apply (.bare {} fun _ => .zero) .mod ⟨sevenAndAHalf, some (.number (.ofRatio 15 2))⟩
        ⟨.leaf .number "2", some (.text "2")⟩ ∧
    (Formula.node .function (some "MAX") (.leaf .number "7.50") (.leaf .number "7")).operand
        (.bare {} fun _ => .zero) =
      (Formula.node .function (some "MAX") sevenAndAHalf (.leaf .number "7")).operand
        (.bare {} fun _ => .zero) := by
  have hvalues := spelling_never_shows.1 (.text "75e-1") (.number (.ofRatio 15 2)) (.ofRatio 15 2)
    (by decide +kernel) (by decide +kernel)
  exact ⟨(hvalues.1 .equal _).1, (hvalues.2 _ .mod (by decide) _ _ _ _).1,
    (spelling_never_shows.2 _ _ _ _ _ (alike_sevenAndAHalf _) (.refl _) (some "MAX")).2 .max rfl
      (by decide)⟩

end BrickFormula
