import BrickFormula.Kind
import BrickFormula.Numeral
import BrickFormula.Operator

/-!
# Formulas

A formula is a binary tree of elements, each with a kind, an optional text and two operands that may
be empty.  Operators take a left and a right operand, or only a right one when they stand before it;
functions take up to two arguments; a bracket encloses its right operand; the other kinds are leaves.
Any shape is a formula, also one in which a leaf has operands or an operator has none.
-/

namespace BrickFormula

inductive Formula where
  | empty
  | node (kind : Kind) (text : Option String) (left right : Formula)
  deriving DecidableEq

namespace Formula

/-- An element without operands. -/
def leaf (kind : Kind) (text : String) : Formula := .node kind (some text) .empty .empty

def isEmpty : Formula → Bool
  | .empty => true
  | .node .. => false

/-- The kind of the root element. -/
def kind? : Formula → Option Kind
  | .empty => none
  | .node kind _ _ _ => some kind

/-- The text of the root element, empty when it has none. -/
def name : Formula → String
  | .empty => ""
  | .node _ text _ _ => text.getD ""

/-- The text of the root element on display. -/
def shownText (t : Formula) : String := Numeral.stripTrailingZero t.name

/-- A copy in which every element has a text. -/
def clone : Formula → Formula
  | .empty => .empty
  | .node kind text left right => .node kind (some (text.getD "")) left.clone right.clone

/-! ## Classification -/

/-- The operator that the text of an element names. -/
def operatorOf? (text : Option String) : Option Operator := text.bind Operator.ofName?

/-- A number literal, possibly behind minus signs. -/
def isNumber : Formula → Bool
  | .empty => false
  | .node .number _ _ _ => true
  | .node .operator text left right =>
    operatorOf? text = some .minus && left.isEmpty && right.isNumber
  | .node .. => false

/-- A number literal written with a decimal point, possibly behind minus signs. -/
def isDecimalLiteral : Formula → Bool
  | .empty => false
  | .node .number text _ _ => (text.getD "").contains '.'
  | .node .operator text left right =>
    operatorOf? text = some .minus && left.isEmpty && right.isDecimalLiteral
  | .node .. => false

/-- The root is a comparison or a connective of logic. -/
def isLogicalOperator : Formula → Bool
  | .node .operator text _ _ => (operatorOf? text).any Operator.isLogical
  | _ => false

/-- Some element has the kind. -/
def hasKind (k : Kind) : Formula → Bool
  | .empty => false
  | .node kind _ left right => kind = k || left.hasKind k || right.hasKind k

/-- Some collision probe has the text. -/
def probes (target : String) : Formula → Bool
  | .empty => false
  | .node kind text left right =>
    left.probes target || right.probes target ||
      (kind = .collisionFormula && text = some target)

end Formula

end BrickFormula
