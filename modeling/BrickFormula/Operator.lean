/-!
# Operators

The operators of formulas, their names in documents and their signs on display.
-/

namespace BrickFormula

/-- The operators; only `minus` and `logicalNot` can stand before a single operand. -/
inductive Operator where
  -- Arithmetic
  | plus | minus | mult | divide | pow
  -- Comparison
  | equal | notEqual | greaterThan | greaterOrEqual | smallerThan | smallerOrEqual
  -- Logic
  | logicalAnd | logicalOr | logicalNot
  deriving DecidableEq, Repr

namespace Operator

/-- In the order of their declaration. -/
def all : List Operator :=
  [.plus, .minus, .mult, .divide, .pow, .equal, .notEqual, .greaterThan, .greaterOrEqual,
   .smallerThan, .smallerOrEqual, .logicalAnd, .logicalOr, .logicalNot]

/-- The name that documents use. -/
def name : Operator → String
  | .plus => "PLUS"
  | .minus => "MINUS"
  | .mult => "MULT"
  | .divide => "DIVIDE"
  | .pow => "POW"
  | .equal => "EQUAL"
  | .notEqual => "NOT_EQUAL"
  | .greaterThan => "GREATER_THAN"
  | .greaterOrEqual => "GREATER_OR_EQUAL"
  | .smallerThan => "SMALLER_THAN"
  | .smallerOrEqual => "SMALLER_OR_EQUAL"
  | .logicalAnd => "LOGICAL_AND"
  | .logicalOr => "LOGICAL_OR"
  | .logicalNot => "LOGICAL_NOT"

def ofName? (text : String) : Option Operator := all.find? fun x => x.name = text

/-- The sign shown to the user. -/
def symbol : Operator → String
  | .plus => "+"
  | .minus => "-"
  | .mult => "×"
  | .divide => "÷"
  | .pow => "^"
  | .equal => "="
  | .notEqual => "≠"
  | .greaterThan => ">"
  | .greaterOrEqual => "≥"
  | .smallerThan => "<"
  | .smallerOrEqual => "≤"
  | .logicalAnd => "and"
  | .logicalOr => "or"
  | .logicalNot => "not"

/-- True of comparisons and of the connectives of logic. -/
def isLogical : Operator → Bool
  | .plus | .minus | .mult | .divide | .pow => false
  | _ => true

end Operator

end BrickFormula
