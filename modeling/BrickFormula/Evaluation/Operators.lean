import BrickFormula.MathFunction
import BrickFormula.Operator
import BrickFormula.Value

/-!
# Operators on values

What an operator makes of its operands.  Arithmetic and comparisons read texts as numbers, equality
compares numerals by number and other values by text, and a comparison is by the total order of
numbers.
-/

namespace BrickFormula.Operator

/-- The result of arithmetic; none for the other operators. -/
def arithmetic? (a b : Binary64) : Operator → Option Binary64
  | .plus => some (a + b)
  | .minus => some (a - b)
  | .mult => some (a * b)
  | .divide => some (a / b)
  | .pow => some (MathFunction.power a b)
  | _ => none

/-- Whether a comparison or connective holds of two numbers. -/
def relates (a b : Binary64) : Operator → Bool
  | .greaterThan => a.order b == .gt
  | .greaterOrEqual => a.order b != .lt
  | .smallerThan => a.order b == .lt
  | .smallerOrEqual => a.order b != .gt
  | .logicalAnd => !(a * b).isZero
  | .logicalOr => !a.isZero || !b.isZero
  | _ => false

/-- The value of an operator that stands before its operand. -/
def applyUnary (op : Operator) (right : Value) : Value :=
  let x := Value.toNumber (some right)
  match op with
  | .minus => .number (-x)
  | .logicalNot => .ofBool x.isZero
  | _ => .zero

/-- The value of an operator between its operands. -/
def applyBinary (op : Operator) (left right : Value) : Value :=
  match op with
  | .equal => .ofBool (Value.equals (some left) (some right))
  | .notEqual => .ofBool (!Value.equals (some left) (some right))
  | op =>
    let a := Value.toNumber (some left)
    let b := Value.toNumber (some right)
    match op.arithmetic? a b with
    | some x => .number x
    | none => .ofBool (op.relates a b)

/-- The value of an operator; nothing comes of one without a right operand. -/
def apply (op : Operator) (left right : Option Value) : Value :=
  match left, right with
  | _, none => .zero
  | none, some right => op.applyUnary right
  | some left, some right => op.applyBinary left right

end BrickFormula.Operator
