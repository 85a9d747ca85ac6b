import BrickFormula.Toml.Reader

/-!
# Version of a checkout

A source checkout tells its version in the table `project` of a TOML document, next to the name of
the distribution.  The content of its file is a text here, be it TOML or not.
-/

namespace BrickFormula.Checkout

/-- The name of the distribution. -/
def distribution : String := "formulakit"

/-- Why the look-up stops without an answer. -/
inductive Error where
  | integerTooLong (digits : Nat)
  /-- The project is something else than a table. -/
  | projectNotTable (value : Toml)

/-- The text of a value. -/
def textOf? : Option Toml → Option String
  | some (.text s) => some s
  | _ => none

/-- The version in the table of the project, if the name is the right one. -/
def versionOf? (project : Toml.Entries) : Option String :=
  if textOf? (project.lookup "name") = some distribution then textOf? (project.lookup "version")
  else none

/-- The version in a document; none if the text is no document or there is no file. -/
def version? : Option String → Except Error (Option String)
  | none => .ok none
  | some text =>
    match Toml.ofText? text with
    | .error .malformed => .ok none
    | .error (.integerTooLong digits) => .error (.integerTooLong digits)
    | .ok entries =>
      match entries.lookup "project" with
      | none => .ok none
      | some (.table project) => .ok (versionOf? project)
      | some value => .error (.projectNotTable value)

end BrickFormula.Checkout
