import BrickFormula.Formula
import BrickFormula.Resource

/-!
# Names and resources of a formula

Which variables, lists, hardware and permissions a formula refers to, found without evaluating it;
and the renaming of variables, lists and collision targets.  Elements are visited operands first,
the left one before the right one.
-/

namespace BrickFormula.Formula

/-! ## Variable and list names -/

/-- Adds a name that is not there yet.  An element without text adds an empty name each time. -/
def addName (names : List String) : Option String → List String
  | none => names ++ [""]
  | some name => if name ∈ names then names else names ++ [name]

/-- Adds the texts of the elements of one kind. -/
def collect (k : Kind) : Formula → List String → List String
  | .empty, names => names
  | .node kind text left right, names =>
    let names := right.collect k (left.collect k names)
    if kind = k then addName names text else names

def variableNames (t : Formula) : List String := t.collect .userVariable []

def listNames (t : Formula) : List String := t.collect .userList []

/-! ## Resources -/

/-- What one element needs of the device. -/
def nodeResource? (kind : Kind) (text : Option String) : Option Resource :=
  match kind with
  | .function => (text.bind BuiltIn.ofName?).bind BuiltIn.resource?
  | .sensor => (text.bind Sensor.ofName?).bind Sensor.resource?
  | .collisionFormula => some .ofCollisionProbe
  | _ => none

/-- Adds a resource that is not there yet. -/
def addResource (resources : List Resource) : Option Resource → List Resource
  | none => resources
  | some r => if r ∈ resources then resources else resources ++ [r]

/-- Adds what the elements of a formula need. -/
def addResources : Formula → List Resource → List Resource
  | .empty, resources => resources
  | .node kind text left right, resources =>
    addResource (right.addResources (left.addResources resources)) (nodeResource? kind text)

def resources (t : Formula) : List Resource := t.addResources []

/-! ## Renaming -/

/-- A new text for every element, from its kind and its text. -/
def changeTexts (f : Kind → Option String → Option String) : Formula → Formula
  | .empty => .empty
  | .node kind text left right =>
    .node kind (f kind text) (left.changeTexts f) (right.changeTexts f)

/-- The text `new` in place of the text `old`, in elements of one kind. -/
def renamedText (k : Kind) (old new : String) (kind : Kind) (text : Option String) :
    Option String :=
  if kind = k ∧ text = some old then some new else text

/-- The target that `resolve` gives for the text of a collision probe, if it gives one. -/
def migratedText (resolve : String → Option String) (kind : Kind) (text : Option String) :
    Option String :=
  (if kind = .collisionFormula then resolve (text.getD "") else none).or text

/-- Replaces the text `old` of elements of one kind. -/
def rename (k : Kind) (old new : String) : Formula → Formula := changeTexts (renamedText k old new)

/-- Replaces the texts of collision probes for which `resolve` gives a target. -/
def migrate (resolve : String → Option String) : Formula → Formula :=
  changeTexts (migratedText resolve)

end BrickFormula.Formula

namespace BrickFormula.Resource

/-- The names of resources in alphabetical order. -/
def sortedNames (resources : List Resource) : List String :=
  (resources.map name).mergeSort fun a b => !(b < a)

end BrickFormula.Resource
