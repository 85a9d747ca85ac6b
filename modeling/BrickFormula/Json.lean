import BrickFormula.Binary64

/-!
# JSON values

Integers and reals are kept apart as they are written, and an object keeps its fields in the order
in which their names first occur.  A string escape may name half of a surrogate pair; such a string
is no text and is kept as `brokenString`.
-/

namespace BrickFormula

inductive Json where
  | null
  | bool (b : Bool)
  | integer (n : Int)
  | real (x : Binary64)
  | string (s : String)
  | brokenString
  | array (items : List Json)
  | object (fields : List (String × Json))

/-- Binds a name in a list of pairs: a new name goes last, a known one keeps its place. -/
def setField {κ α : Type} [DecidableEq κ] (fields : List (κ × α)) (name : κ) (value : α) :
    List (κ × α) :=
  match fields with
  | [] => [(name, value)]
  | (other, old) :: rest =>
    if other = name then (name, value) :: rest else (other, old) :: setField rest name value

namespace Json

/-- The field of an object; none for other values. -/
def field? (name : String) : Json → Option Json
  | .object fields => fields.lookup name
  | _ => none

end Json

end BrickFormula
