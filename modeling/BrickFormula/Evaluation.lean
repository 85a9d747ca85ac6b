import BrickFormula.Evaluation.Functions
import BrickFormula.Evaluation.Operators

/-!
# Evaluation

The value of a formula in an environment.  Operands are evaluated before what combines them, and
every element has a final value: nothing counts as zero, and infinities are cut to the greatest
finite numbers.  An element whose text names no operator, function or sensor has the value zero, and
its operands are not evaluated.

    t.evaluate env     the value of a formula, counting the random numbers drawn
    t.operand env      the same, where an empty formula has no value
-/

namespace BrickFormula.Formula

/-- The value of an element without operands, and of a bracket around nothing. -/
def leafDatum (env : Environment) (kind : Kind) (text : Option String) : Except Fault Datum :=
  match kind with
  | .number | .string => .ok ((text.map Datum.text).getD .absent)
  | .sensor => ((text.bind Sensor.ofName?).map env.readSensor).getD (.ok (.number .zero))
  | .userVariable => .ok (env.readVariable (text.getD ""))
  | .userList => env.readList (text.getD "")
  | .collisionFormula => .ok (.ofValue (env.probe (text.getD "")))
  | .bracket | .operator | .function => .ok .absent

/-- The value of an operand; an empty one has none. -/
def operand (env : Environment) : Formula → Evaluation (Option Value)
  | .empty => return none
  | .node kind text left right => do
    let datum ←
      match kind, operatorOf? text, text.bind BuiltIn.ofName? with
      | .bracket, _, _ => pure (.ofOption (← right.operand env))
      | .operator, some op, _ =>
        if right.isEmpty then pure (.number .zero)
        else
          let y ← right.operand env
          let x ← left.operand env
          pure (.ofValue (op.apply x y))
      | .function, _, some f =>
        let x ← left.operand env
        let y ← right.operand env
        Call.apply env f ⟨left, x⟩ ⟨right, y⟩
      | _, _, _ => .ofExcept (leafDatum env kind text)
    return some (← .ofExcept datum.normalize)

/-- The value of a formula. -/
def evaluate (env : Environment) (t : Formula) : Evaluation Value :=
  return (← t.operand env).getD .zero

/-- The root element is a variable that holds a text. -/
def isTextVariable (env : Environment) : Formula → Bool
  | .node .userVariable text _ _ =>
    match env.get (text.getD "") with
    | .text _ => true
    | _ => false
  | _ => false

end BrickFormula.Formula
