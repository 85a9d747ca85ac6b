/-!
# Problems of documents

A document that does not have the shape asked of it is answered with the list of all its problems,
each a place in the document and a kind.
-/

namespace BrickFormula

/-- The kinds of problems. -/
inductive ProblemKind where
  | jsonInvalid | modelType | missing | enum | stringType | stringUnicode | floatType
  | floatParsing | intType | intParsing | intParsingSize | intFromFloat | finiteNumber | boolType
  | boolParsing | listType | dictType | tupleType | tooLong
  deriving DecidableEq, Repr

/-- The name that reports use. -/
def ProblemKind.name : ProblemKind → String
  | .jsonInvalid => "json_invalid"
  | .modelType => "model_type"
  | .missing => "missing"
  | .enum => "enum"
  | .stringType => "string_type"
  | .stringUnicode => "string_unicode"
  | .floatType => "float_type"
  | .floatParsing => "float_parsing"
  | .intType => "int_type"
  | .intParsing => "int_parsing"
  | .intParsingSize => "int_parsing_size"
  | .intFromFloat => "int_from_float"
  | .finiteNumber => "finite_number"
  | .boolType => "bool_type"
  | .boolParsing => "bool_parsing"
  | .listType => "list_type"
  | .dictType => "dict_type"
  | .tupleType => "tuple_type"
  | .tooLong => "too_long"

/-- Where in a document a problem lies: field names and indexes from the outside in. -/
abbrev Path := List String

structure Problem where
  path : Path
  kind : ProblemKind
  deriving DecidableEq, Repr

/-- A checked part of a document: its value, or all its problems. -/
abbrev Checked (α : Type) := Except (List Problem) α

namespace Checked

/-- A part without problems. -/
def sound {α : Type} (value : α) : Checked α := .ok value

/-- A part with one problem. -/
def fail {α : Type} (path : Path) (kind : ProblemKind) : Checked α := .error [⟨path, kind⟩]

def problems {α : Type} : Checked α → List Problem
  | .ok _ => []
  | .error ps => ps

/-- A function of a part, or the problems of both. -/
def ap {α β : Type} (f : Checked (α → β)) (a : Checked α) : Checked β :=
  match f, a with
  | .ok f, .ok x => .ok (f x)
  | f, a => .error (f.problems ++ a.problems)

/-- Both parts, or the problems of both. -/
def both {α β γ : Type} (f : α → β → γ) (a : Checked α) (b : Checked β) : Checked γ :=
  match a, b with
  | .ok x, .ok y => .ok (f x y)
  | a, b => .error (a.problems ++ b.problems)

/-- All parts of a list, or the problems of all. -/
def all {α : Type} : List (Checked α) → Checked (List α)
  | [] => .ok []
  | part :: rest => both List.cons part (all rest)

end Checked

end BrickFormula
