import BrickFormula.Environment
import BrickFormula.Json

/-!
# Variables in memory

Variables and lists of a whole project, and of single sprites.  A binding of a sprite hides the one
of the project from that sprite.

    VariableMemory.setVariable, setList   bind a name in a scope
    VariableMemory.store                  the memory as an evaluation sees it
-/

namespace BrickFormula

/-- A scope, which is a sprite or the whole project, and a name in it. -/
abbrev ScopedName := SpriteName × String

structure VariableMemory where
  boundVariables : List (ScopedName × Datum) := []
  boundLists : List (ScopedName × List Datum) := []
  deriving DecidableEq

namespace VariableMemory

/-- Binds a variable of a sprite, or of the project if no sprite is given. -/
def setVariable (m : VariableMemory) (name : String) (value : Datum) (scope : SpriteName) :
    VariableMemory :=
  { m with boundVariables := setField m.boundVariables (scope, name) value }

/-- Binds a list of a sprite, or of the project if no sprite is given. -/
def setList (m : VariableMemory) (name : String) (items : List Datum) (scope : SpriteName) :
    VariableMemory :=
  { m with boundLists := setField m.boundLists (scope, name) items }

/-- The binding of a name in the scope of a sprite, or else in the project. -/
def find? {α : Type} (bindings : List (ScopedName × α)) (name : String) (sprite : SpriteName) :
    Option α :=
  (bindings.lookup (sprite, name)).or (bindings.lookup (none, name))

def findVariable? (m : VariableMemory) (name : String) (sprite : SpriteName) : Option Datum :=
  find? m.boundVariables name sprite

def findList? (m : VariableMemory) (name : String) (sprite : SpriteName) : Option (List Datum) :=
  find? m.boundLists name sprite

/-- The memory as an evaluation sees it. -/
def store (m : VariableMemory) : VariableStore where
  get name sprite := (m.findVariable? name sprite).getD .absent
  getList? name sprite := m.findList? name sprite

end VariableMemory

end BrickFormula
