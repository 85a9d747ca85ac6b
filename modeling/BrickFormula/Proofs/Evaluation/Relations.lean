import BrickFormula.Proofs.Binary64.Ranking
import BrickFormula.Proofs.Evaluation.Equality

/-!
# Comparisons

The four comparisons read both operands as numbers, a text that is no numeral as not-a-number, and go
by the total order.  So each of them is one relation between values, `atMost`, or its opposite, with
the operands in one order or the other, and this relation is reflexive, transitive and total.

    Value.atMost                  the number of one value is below or equal to that of another
    applyBinary_smallerOrEqual    the four comparisons of values
    evaluate_comparison           a comparison in a formula, of which both operands are there
    comparisons_total_order       the laws of the order, of the comparisons, and in formulas
-/

namespace BrickFormula

/-! ## Values -/

namespace Value

/-- The number of a value is below that of another one in the total order, or the same. -/
def atMost (u v : Value) : Bool := ((toNumber (some u)).order (toNumber (some v))).isLE

variable {u v w : Value}

theorem atMost_refl (u : Value) : u.atMost u = true := by
  unfold atMost
  rw [Binary64.order_self]
  rfl

theorem atMost_trans (huv : u.atMost v = true) (hvw : v.atMost w = true) : u.atMost w = true :=
  Binary64.order_trans huv hvw

theorem atMost_total (u v : Value) : u.atMost v = true ∨ v.atMost u = true :=
  Binary64.order_total _ _

end Value

namespace Operator
variable (u v : Value)

theorem applyBinary_smallerOrEqual : smallerOrEqual.applyBinary u v = .ofBool (u.atMost v) := by
  change Value.ofBool ((Value.toNumber (some u)).order (Value.toNumber (some v)) != .gt) = _
  unfold Value.atMost
  cases (Value.toNumber (some u)).order (Value.toNumber (some v)) <;> rfl

theorem applyBinary_greaterThan : greaterThan.applyBinary u v = .ofBool (!u.atMost v) := by
  change Value.ofBool ((Value.toNumber (some u)).order (Value.toNumber (some v)) == .gt) = _
  unfold Value.atMost
  cases (Value.toNumber (some u)).order (Value.toNumber (some v)) <;> rfl

/-- These two look at the order from the other side. -/
theorem applyBinary_greaterOrEqual : greaterOrEqual.applyBinary u v = .ofBool (v.atMost u) := by
  change Value.ofBool ((Value.toNumber (some u)).order (Value.toNumber (some v)) != .lt) = _
  unfold Value.atMost
  rw [Binary64.order_swap]
  cases (Value.toNumber (some v)).order (Value.toNumber (some u)) <;> rfl

theorem applyBinary_smallerThan : smallerThan.applyBinary u v = .ofBool (!v.atMost u) := by
  change Value.ofBool ((Value.toNumber (some u)).order (Value.toNumber (some v)) == .lt) = _
  unfold Value.atMost
  rw [Binary64.order_swap]
  cases (Value.toNumber (some v)).order (Value.toNumber (some u)) <;> rfl

end Operator

/-! ## Formulas -/

/-- A test of the values of two formulas, of which the right one is evaluated first. -/
def Formula.test (env : Environment) (holds : Value → Value → Bool) (left right : Formula) :
    Evaluation Value := do
  let v ← right.evaluate env
  let u ← left.evaluate env
  return .ofBool (holds u v)

/-- **Comparisons go by a total order.**  The order of numbers turns around with its operands, is
transitive and total, and tells all numbers apart; it agrees with the comparison by size, and has the
negative zero below the positive one and not-a-number above all others.  The comparisons of values,
and those in formulas with both operands, are one relation and its opposite, in the two directions:
a comparison and the one that is complementary to it come out opposite, and the relation is
reflexive, transitive and total. -/
theorem comparisons_total_order :
    (∀ a b : Binary64, a.order b = (b.order a).swap) ∧
    (∀ a b c : Binary64, (a.order b).isLE = true → (b.order c).isLE = true →
      (a.order c).isLE = true) ∧
    (∀ a b : Binary64, (a.order b).isLE = true ∨ (b.order a).isLE = true) ∧
    (∀ a b : Binary64, a.order b = .eq ↔ a = b) ∧
    (∀ a b : Binary64, a.lt b = true → a.order b = .lt) ∧
    Binary64.order (.signedZero true) (.signedZero false) = .lt ∧
    (∀ a : Binary64, a ≠ .nan → a.order .nan = .lt) ∧
    (∀ u v : Value,
      Operator.smallerOrEqual.applyBinary u v = .ofBool (u.atMost v) ∧
      Operator.greaterThan.applyBinary u v = .ofBool (!u.atMost v) ∧
      Operator.greaterOrEqual.applyBinary u v = .ofBool (v.atMost u) ∧
      Operator.smallerThan.applyBinary u v = .ofBool (!v.atMost u)) ∧
    (∀ u : Value, u.atMost u = true) ∧
    (∀ u v w : Value, u.atMost v = true → v.atMost w = true → u.atMost w = true) ∧
    (∀ u v : Value, u.atMost v = true ∨ v.atMost u = true) ∧
    (∀ (env : Environment) (left right : Formula), left ≠ .empty → right ≠ .empty →
      (Formula.node .operator (some "SMALLER_OR_EQUAL") left right).evaluate env =
        Formula.test env (fun u v => u.atMost v) left right ∧
      (Formula.node .operator (some "GREATER_THAN") left right).evaluate env =
        Formula.test env (fun u v => !u.atMost v) left right ∧
      (Formula.node .operator (some "GREATER_OR_EQUAL") left right).evaluate env =
        Formula.test env (fun u v => v.atMost u) left right ∧
      (Formula.node .operator (some "SMALLER_THAN") left right).evaluate env =
        Formula.test env (fun u v => !v.atMost u) left right) := by
  refine ⟨Binary64.order_swap, fun a b c => Binary64.order_trans, Binary64.order_total,
    Binary64.order_eq_iff, fun a b => Binary64.order_of_lt, Binary64.order_signedZero,
    fun a => Binary64.order_nan, fun u v => ?_, Value.atMost_refl, fun u v w => Value.atMost_trans,
    Value.atMost_total, fun env left right hl hr => ?_⟩
  · exact ⟨Operator.applyBinary_smallerOrEqual u v, Operator.applyBinary_greaterThan u v,
      Operator.applyBinary_greaterOrEqual u v, Operator.applyBinary_smallerThan u v⟩
  · exact ⟨Formula.evaluate_test env rfl Operator.applyBinary_smallerOrEqual hl hr,
      Formula.evaluate_test env rfl Operator.applyBinary_greaterThan hl hr,
      Formula.evaluate_test env rfl Operator.applyBinary_greaterOrEqual hl hr,
      Formula.evaluate_test env rfl Operator.applyBinary_smallerThan hl hr⟩

/-- `"abc" > "Infinity"`. -/
def labelAboveInfinity : Formula :=
  .node .operator (some "GREATER_THAN") (.leaf .string "abc") (.leaf .string "Infinity")

/-- A text that is no numeral is above the infinity, and so above the positive zero. -/
theorem comparisons_total_order_label :
    (Value.number .zero).atMost (.text "abc") = true ∧
    (Binary64.order (.infinity true) (.signedZero true) = .lt ∧
      (Binary64.order (.signedZero true) .nan).isLE = true) ∧
    labelAboveInfinity.evaluate (.bare {} fun _ => .zero) =
      Formula.test (.bare {} fun _ => .zero) (fun u v => !u.atMost v) (.leaf .string "abc")
        (.leaf .string "Infinity") ∧
    ((labelAboveInfinity.evaluate (.bare {} fun _ => .zero)).run.run 0).1 =
      .ok (.ofBool true) := by
  obtain ⟨-, htrans, -, -, hsize, hzero, hnan, -, -, hvalues, -, hformulas⟩ :=
    comparisons_total_order
  have hlow : (Value.number .zero).atMost (.text "Infinity") = true := by decide +kernel
  have hhigh : (Value.text "Infinity").atMost (.text "abc") = true := by decide +kernel
  have hnegative : (Binary64.order (.signedZero true) (.signedZero false)).isLE = true := by
    rw [hzero]
    rfl
  have hpositive : (Binary64.order (.signedZero false) .nan).isLE = true := by
    rw [hnan (.signedZero false) nofun]
    rfl
  exact ⟨hvalues _ _ _ hlow hhigh,
    ⟨hsize _ _ (by decide +kernel), htrans _ _ _ hnegative hpositive⟩,
    (hformulas _ (.leaf .string "abc") (.leaf .string "Infinity") nofun nofun).2.1,
    by decide +kernel⟩

end BrickFormula
