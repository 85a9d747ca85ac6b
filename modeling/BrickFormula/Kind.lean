/-!
# Element kinds

The nine kinds of formula elements.
-/

namespace BrickFormula

/-- The kind of a formula element. -/
inductive Kind where
  | operator | function | number | sensor | userVariable | userList | bracket | string
  | collisionFormula
  deriving DecidableEq, Repr

namespace Kind

/-- In the order of their declaration. -/
def all : List Kind :=
  [.operator, .function, .number, .sensor, .userVariable, .userList, .bracket, .string,
   .collisionFormula]

/-- The name that documents use. -/
def name : Kind → String
  | .operator => "OPERATOR"
  | .function => "FUNCTION"
  | .number => "NUMBER"
  | .sensor => "SENSOR"
  | .userVariable => "USER_VARIABLE"
  | .userList => "USER_LIST"
  | .bracket => "BRACKET"
  | .string => "STRING"
  | .collisionFormula => "COLLISION_FORMULA"

def ofName? (text : String) : Option Kind := all.find? fun x => x.name = text

/-- Leaf kinds hold a text and no operands. -/
def isLeaf : Kind → Bool
  | .operator | .function | .bracket => false
  | _ => true

end Kind

end BrickFormula
