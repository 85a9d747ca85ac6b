import BrickFormula.Json.Reader
import BrickFormula.Problem
import BrickFormula.Text.FileName
import BrickFormula.Toml.Reader
import BrickFormula.Value

/-!
# Failures

Misuse of a tree and documents that cannot be loaded.  A failure has a message and may have a place,
which its text shows on a line of its own:

    Failure.text f   the place, a line end and the message
-/

namespace BrickFormula

/-- What a failure is about. -/
inductive FailureKind where
  | general | structural | settings | scenario
  deriving DecidableEq, Repr

/-- Where a failure arose: a document and an element of a tree. -/
structure Place where
  file : Option String := none
  element : Option String := none
  deriving DecidableEq, Repr

/-- The reader that refused a document. -/
inductive Refusal where
  | notToml
  | notJson
  | problems (ps : List Problem)
  deriving DecidableEq

structure Failure where
  kind : FailureKind
  message : String
  place : Option Place := none
  refusal : Option Refusal := none
  deriving DecidableEq

/-- The place on display. -/
def Place.text (p : Place) : String :=
  let file := (p.file.map FileName.normalize).toList
  let element := (p.element.filter (· ≠ "")).toList.map ("at element " ++ ·)
  " ".intercalate (file ++ element)

namespace Failure

def text (f : Failure) : String :=
  match f.place with
  | none => f.message
  | some place => place.text ++ "\n" ++ f.message

/-- A failure of a document, which has a place if the document is a file. -/
def ofFile (kind : FailureKind) (message : String) (file : Option String)
    (refusal : Option Refusal := none) : Failure :=
  ⟨kind, message, file.map fun name => { file := some name }, refusal⟩

end Failure

/-- Why something was not loaded: a failure that is reported, or a fault that stops the program. -/
inductive LoadError where
  | failure (f : Failure)
  | fault (f : Fault)
  deriving DecidableEq

def LoadError.text : LoadError → String
  | .failure f => f.text
  | .fault f => f.message

end BrickFormula
