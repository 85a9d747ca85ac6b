import BrickFormula.Formula
import BrickFormula.Text.LowerCase

/-!
# Tokens

The display of a formula as a row of tokens, in the order of the editor: an operator stands between
its operands, a function before its arguments, which are enclosed in brackets when there is a first
one, and a bracket around its content.
-/

namespace BrickFormula

inductive TokenKind where
  -- Structure
  | bracketOpen | bracketClose | functionParametersBracketOpen | functionParameterDelimiter
  | functionParametersBracketClose
  -- Symbols
  | operator | functionName
  -- Leaves
  | number | string | sensor | userVariable | userList | collisionFormula
  deriving DecidableEq, Repr

/-- The name that documents use. -/
def TokenKind.name : TokenKind → String
  | .bracketOpen => "bracket_open"
  | .bracketClose => "bracket_close"
  | .functionParametersBracketOpen => "function_parameters_bracket_open"
  | .functionParameterDelimiter => "function_parameter_delimiter"
  | .functionParametersBracketClose => "function_parameters_bracket_close"
  | .operator => "operator"
  | .functionName => "function_name"
  | .number => "number"
  | .string => "string"
  | .sensor => "sensor"
  | .userVariable => "user_variable"
  | .userList => "user_list"
  | .collisionFormula => "collision_formula"

structure Token where
  kind : TokenKind
  text : String := ""
  deriving DecidableEq, Repr

namespace Formula

/-- The tokens of an operator between the tokens of its operands. -/
def operatorTokens (text : String) (left right : List Token) : List Token :=
  left ++ ⟨.operator, text⟩ :: right

/-- The tokens of a call; the brackets depend on the first argument and the delimiter on the
second. -/
def callTokens (text : String) (left right : Option (List Token)) : List Token :=
  let opened := left.elim [] fun tokens => ⟨.functionParametersBracketOpen, ""⟩ :: tokens
  let delimited := right.elim [] fun tokens => ⟨.functionParameterDelimiter, ""⟩ :: tokens
  let closed := left.elim [] fun _ => [⟨.functionParametersBracketClose, ""⟩]
  ⟨.functionName, text⟩ :: opened ++ delimited ++ closed

/-- The tokens of an element, where the tokens of an empty operand are none. -/
def nodeTokens (kind : Kind) (text : String) (left right : Option (List Token)) : List Token :=
  match kind with
  | .bracket => ⟨.bracketOpen, ""⟩ :: right.getD [] ++ [⟨.bracketClose, ""⟩]
  | .operator => operatorTokens text (left.getD []) (right.getD [])
  | .function => callTokens text left right
  | .number => [⟨.number, Numeral.stripTrailingZero text⟩]
  | .string => [⟨.string, text⟩]
  | .sensor => [⟨.sensor, text⟩]
  | .userVariable => [⟨.userVariable, text⟩]
  | .userList => [⟨.userList, text⟩]
  | .collisionFormula => [⟨.collisionFormula, text⟩]

/-- The tokens of a formula that is not empty. -/
def tokens? : Formula → Option (List Token)
  | .empty => none
  | .node kind text left right => some (nodeTokens kind (text.getD "") left.tokens? right.tokens?)

/-- The tokens of a formula in display order. -/
def tokens (t : Formula) : List Token := t.tokens?.getD []

end Formula

/-! ## Display -/

/-- A token as the user sees it. -/
def Token.display (token : Token) : String :=
  match token.kind with
  | .bracketOpen | .functionParametersBracketOpen => "("
  | .bracketClose | .functionParametersBracketClose => ")"
  | .functionParameterDelimiter => ","
  | .operator => ((Operator.ofName? token.text).map Operator.symbol).getD token.text
  | .functionName | .sensor => LowerCase.ofText token.text
  | .string => "'" ++ token.text ++ "'"
  | .userVariable => "\"" ++ token.text ++ "\""
  | .userList => "*" ++ token.text ++ "*"
  | .number | .collisionFormula => token.text

/-- The formula on one line, a space between tokens. -/
def Formula.display (t : Formula) : String := " ".intercalate (t.tokens.map Token.display)

end BrickFormula
