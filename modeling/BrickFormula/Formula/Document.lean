import BrickFormula.Formula
import BrickFormula.Json.Reader
import BrickFormula.Json.Writer
import BrickFormula.Problem

/-!
# Formula documents

The JSON form of a formula: an object with the fields `type`, `value`, `left` and `right`.  Writing
puts down all four of them in this order.  Reading needs only `type`, converts nothing and ignores
other fields; it reports every problem of the whole document, each element's in the order of the four
fields.

    Formula.toJson t      the document of a formula
    Formula.ofJson? j     the formula of a document, or its problems
    Formula.ofText? s     the same for a text, which must be JSON
-/

namespace BrickFormula.Formula

/-! ## Writing -/

def toJson : Formula → Json
  | .empty => .null
  | .node kind text left right =>
    .object [("type", .string kind.name), ("value", (text.map Json.string).getD .null),
      ("left", left.toJson), ("right", right.toJson)]

/-- The text of the document. -/
def toText (t : Formula) : String := t.toJson.write

/-! ## Reading -/

def kindOf (path : Path) : Option Json → Checked Kind
  | none => .fail path .missing
  | some (.string s) => match Kind.ofName? s with
    | some kind => .ok kind
    | none => .fail path .enum
  | some _ => .fail path .enum

def textOf (path : Path) : Option Json → Checked (Option String)
  | none | some .null => .ok none
  | some (.string s) => .ok (some s)
  | some .brokenString => .fail path .stringUnicode
  | some _ => .fail path .stringType

/-- An element of parts that are all sound, or the problems of all. -/
def assemble (kind : Checked Kind) (text : Checked (Option String)) (left right : Checked Formula) :
    Checked Formula :=
  match kind, text, left, right with
  | .ok kind, .ok text, .ok left, .ok right => .ok (.node kind text left right)
  | kind, text, left, right =>
    .error (kind.problems ++ text.problems ++ left.problems ++ right.problems)

/-- A reader of an operand, which is empty when its field is absent. -/
def operandOf (reader : Option (Path → Checked Formula)) (path : Path) : Checked Formula :=
  reader.elim (.ok .empty) (· path)

mutual

/-- The formula at a place of a document. -/
def read : Json → Path → Checked Formula
  | .object fields, path =>
    assemble (kindOf (path ++ ["type"]) (fields.lookup "type"))
      (textOf (path ++ ["value"]) (fields.lookup "value"))
      (operandOf ((operands fields).lookup "left") (path ++ ["left"]))
      (operandOf ((operands fields).lookup "right") (path ++ ["right"]))
  | _, path => .fail path .modelType

/-- Readers for all fields, as if each held an operand; null is the empty one. -/
def operands : List (String × Json) → List (String × (Path → Checked Formula))
  | [] => []
  | (name, .null) :: rest => (name, fun _ => .ok .empty) :: operands rest
  | (name, value) :: rest => (name, read value) :: operands rest

end

def ofJson? (document : Json) : Checked Formula := read document []

def ofText? (text : String) : Checked Formula :=
  match Json.read? text with
  | .ok document => ofJson? document
  | .error _ => .fail [] .jsonInvalid

end BrickFormula.Formula
