import BrickFormula.Proofs.Binary64.Product
import BrickFormula.Proofs.Evaluation.Equality

/-!
# Truth and connectives

A value is false when its negation is true, which it is of zeros only: a text that is no numeral is
true.  A disjunction looks at the truth of its operands.  A conjunction looks at their product, which
is the same as long as the operands are conjoinable; if they are not it comes out opposite.

    isTrue_eq               the truth of a value
    applyBinary_or          a disjunction of values
    applyBinary_and         a conjunction of values
    connectives_evaluate    the connectives in formulas, and the laws of De Morgan
-/

namespace BrickFormula

/-! ## Values -/

namespace Value

/-- The value is true: its negation is not. -/
def isTrue (v : Value) : Bool := Operator.logicalNot.applyUnary v ≠ .ofBool true

/-- The numbers of the two values are conjoinable. -/
def conjoinable (u v : Value) : Bool := (toNumber (some u)).conjoinable (toNumber (some v))

theorem isTrue_eq (v : Value) : v.isTrue = !(toNumber (some v)).isZero := by
  have hnot : Operator.logicalNot.applyUnary v = .ofBool (toNumber (some v)).isZero := rfl
  unfold isTrue
  rw [hnot]
  cases (toNumber (some v)).isZero with
  | false => exact decide_eq_true ofBool_false_ne
  | true => exact decide_eq_false fun h => h rfl

theorem isTrue_ofBool (b : Bool) : (ofBool b).isTrue = b := by
  rw [isTrue_eq]
  cases b with
  | false =>
    rw [ofBool_false]
    rfl
  | true =>
    rw [ofBool_true]
    exact congrArg not Binary64.isZero_one

theorem conjoinable_ofBool (a b : Bool) : (ofBool a).conjoinable (ofBool b) = true := by
  cases a <;> cases b <;> decide +kernel

end Value

namespace Operator
variable (u v : Value)

theorem applyUnary_not : logicalNot.applyUnary u = .ofBool (!u.isTrue) := by
  rw [Value.isTrue_eq, Bool.not_not]
  rfl

theorem applyBinary_or : logicalOr.applyBinary u v = .ofBool (u.isTrue || v.isTrue) := by
  rw [Value.isTrue_eq, Value.isTrue_eq]
  rfl

/-- A conjunction has the truth of both operands if and only if they are conjoinable. -/
theorem applyBinary_and :
    logicalAnd.applyBinary u v =
      .ofBool (if u.conjoinable v then u.isTrue && v.isTrue else !(u.isTrue && v.isTrue)) := by
  have hproduct := Binary64.isZero_mul_iff (Value.toNumber (some u)) (Value.toNumber (some v))
  have hand : logicalAnd.applyBinary u v =
    .ofBool (!(Value.toNumber (some u) * Value.toNumber (some v)).isZero) := rfl
  rw [hand, Value.isTrue_eq, Value.isTrue_eq, ← Bool.not_or]
  congr 1
  split
  · next h => rw [hproduct.mpr h]
  · next h => rw [Bool.eq_not.mpr (mt hproduct.mp h)]

end Operator

/-! ## Formulas -/

namespace Formula

def negation (t : Formula) : Formula := .node .operator (some "LOGICAL_NOT") .empty t

def conjunction (left right : Formula) : Formula :=
  .node .operator (some "LOGICAL_AND") left right

def disjunction (left right : Formula) : Formula := .node .operator (some "LOGICAL_OR") left right

section
variable (env : Environment) {left right : Formula}

theorem negation_ne_empty : right.negation ≠ .empty := nofun

theorem conjunction_ne_empty : left.conjunction right ≠ .empty := nofun

theorem disjunction_ne_empty : left.disjunction right ≠ .empty := nofun

theorem evaluate_negation (hr : right ≠ .empty) :
    right.negation.evaluate env = do
      let y ← right.evaluate env
      return .ofBool (!y.isTrue) := by
  unfold negation
  rw [evaluate_unary env rfl hr]
  simp only [Operator.applyUnary_not, normalize_ofBool]
  rfl

theorem evaluate_disjunction (hl : left ≠ .empty) (hr : right ≠ .empty) :
    (left.disjunction right).evaluate env = do
      let y ← right.evaluate env
      let x ← left.evaluate env
      return .ofBool (x.isTrue || y.isTrue) :=
  evaluate_test env rfl Operator.applyBinary_or hl hr

theorem evaluate_conjunction (hl : left ≠ .empty) (hr : right ≠ .empty) :
    (left.conjunction right).evaluate env = do
      let y ← right.evaluate env
      let x ← left.evaluate env
      return .ofBool (if x.conjoinable y then x.isTrue && y.isTrue else !(x.isTrue && y.isTrue)) :=
  evaluate_test env rfl Operator.applyBinary_and hl hr

end

/-- **The connectives are Boolean logic** on the truth of operands, except that a conjunction of
operands that are not conjoinable comes out opposite.  So one law of De Morgan holds of all operands,
and the other one of those that are conjoinable. -/
theorem connectives_evaluate (env : Environment) (left right : Formula) (hl : left ≠ .empty)
    (hr : right ≠ .empty) :
    (right.negation.evaluate env = do
      let y ← right.evaluate env
      return .ofBool (!y.isTrue)) ∧
    ((left.disjunction right).evaluate env = do
      let y ← right.evaluate env
      let x ← left.evaluate env
      return .ofBool (x.isTrue || y.isTrue)) ∧
    ((left.conjunction right).evaluate env = do
      let y ← right.evaluate env
      let x ← left.evaluate env
      return .ofBool (if x.conjoinable y then x.isTrue && y.isTrue else !(x.isTrue && y.isTrue))) ∧
    (left.disjunction right).negation.evaluate env =
      (left.negation.conjunction right.negation).evaluate env ∧
    ((left.negation.disjunction right.negation).evaluate env = do
      let y ← right.evaluate env
      let x ← left.evaluate env
      return .ofBool (!x.isTrue || !y.isTrue)) ∧
    ((left.conjunction right).negation.evaluate env = do
      let y ← right.evaluate env
      let x ← left.evaluate env
      return .ofBool (if x.conjoinable y then !x.isTrue || !y.isTrue
        else !(!x.isTrue || !y.isTrue))) := by
  refine ⟨evaluate_negation env hr, evaluate_disjunction env hl hr, evaluate_conjunction env hl hr,
    ?_, ?_, ?_⟩
  · rw [evaluate_negation env disjunction_ne_empty, evaluate_disjunction env hl hr,
      evaluate_conjunction env negation_ne_empty negation_ne_empty, evaluate_negation env hl,
      evaluate_negation env hr]
    simp only [bind_assoc, pure_bind, Value.isTrue_ofBool, Value.conjoinable_ofBool, if_true,
      Bool.not_or]
  · rw [evaluate_disjunction env negation_ne_empty negation_ne_empty, evaluate_negation env hl,
      evaluate_negation env hr]
    simp only [bind_assoc, pure_bind, Value.isTrue_ofBool]
  · rw [evaluate_negation env conjunction_ne_empty, evaluate_conjunction env hl hr]
    simp only [bind_assoc, pure_bind, Value.isTrue_ofBool, apply_ite not, Bool.not_and, Bool.not_or,
      Bool.not_not]

/-- The value of a formula where everything is absent. -/
def plainValue? (t : Formula) : Option Value :=
  ((t.evaluate (.bare {} fun _ => .zero)).run.run 0).1.toOption

/-- A text is true, and so is a number beside it. -/
theorem connectives_evaluate_textAndHalf :
    ((leaf .string "abc").conjunction (leaf .number "0.5")).plainValue? = some (.ofBool true) ∧
    ((leaf .string "abc").disjunction (leaf .number "0.5")).negation.evaluate
        (.bare {} fun _ => .zero) =
      ((leaf .string "abc").negation.conjunction (leaf .number "0.5").negation).evaluate
        (.bare {} fun _ => .zero) := by
  obtain ⟨-, -, -, hlaw, -, -⟩ := connectives_evaluate (.bare {} fun _ => .zero)
    (leaf .string "abc") (leaf .number "0.5") nofun nofun
  exact ⟨by decide +kernel, hlaw⟩

/-- A number that is true, although its square is too small to be. -/
def tiny : Formula := leaf .number "1e-200"

/-- The conjunction of a true number with itself is false, and breaks a law of De Morgan; and the one
of a text and zero is true. -/
theorem conjunction_tiny :
    tiny.negation.plainValue? = some (.ofBool false) ∧
    (tiny.conjunction tiny).plainValue? = some (.ofBool false) ∧
    (tiny.conjunction tiny).negation.plainValue? = some (.ofBool true) ∧
    (tiny.negation.disjunction tiny.negation).plainValue? = some (.ofBool false) ∧
    (leaf .number "0").negation.plainValue? = some (.ofBool true) ∧
    ((leaf .string "abc").conjunction (leaf .number "0")).plainValue? = some (.ofBool true) := by
  refine ⟨?_, ?_, ?_, ?_, ?_, ?_⟩ <;> decide +kernel

end Formula

end BrickFormula
