import BrickFormula.Failure
import BrickFormula.Formula.Names
import BrickFormula.Text.Quoted
import BrickFormula.Workspace

/-!
# Editing

The operations of an editor on the elements of a workspace.  An element that comes to hold an operand
becomes its parent; an operand that leaves its place loses the parent link, if that link led to the
element it leaves.  Other places that hold the operand are not looked at.

    add, build, clone                    new elements
    setOperand, replace, replaceContent  changes of one element
    wrap                                 an operator around an element
    rename, migrate                      changes of the texts of a whole formula
-/

namespace BrickFormula.Workspace

def modify (w : Workspace) (n : Handle) (f : Element → Element) : Workspace :=
  ⟨w.elements.modify n f⟩

/-- Changes the parent link of an operand, if there is one. -/
def setParent (w : Workspace) (child : Option Handle) (parent : Option Handle) : Workspace :=
  child.elim w fun c => w.modify c fun e => { e with parent := parent }

/-- Makes an element the parent of an operand. -/
def adopt (w : Workspace) (n : Handle) (child : Option Handle) : Workspace :=
  w.setParent child (some n)

/-- Parts an element from the operand on one side, unless the same one comes in. -/
def release (w : Workspace) (n : Handle) (side : Side) (incoming : Option Handle) : Workspace :=
  let previous := w.operand? n side
  if previous ≠ incoming ∧ previous.bind w.parent? = some n then w.setParent previous none else w

/-- Puts an operand into a place; parent links stay. -/
def place (w : Workspace) (n : Handle) (side : Side) (child : Option Handle) : Workspace :=
  w.modify n fun e => e.withOperand side child

/-! ## New elements -/

/-- A new element, which adopts its operands. -/
def add (w : Workspace) (kind : Kind) (text : Option String) (left right : Option Handle) :
    Workspace × Handle :=
  let grown : Workspace := ⟨w.elements ++ [⟨kind, text, left, right, none⟩]⟩
  ((grown.adopt w.size left).adopt w.size right, w.size)

/-- New elements for a formula; the empty one has none. -/
def build (w : Workspace) (t : Formula) : Workspace × Option Handle :=
  match t with
  | .empty => (w, none)
  | .node kind text left right =>
    let (w, left) := w.build left
    let (w, right) := w.build right
    let (w, n) := w.add kind text left right
    (w, some n)

/-- New elements for a copy of the formula that hangs from an element. -/
def clone (w : Workspace) (n : Handle) : Workspace × Option Handle := w.build (w.formula n).clone

/-! ## Changes of one element -/

/-- Replaces the operand on one side. -/
def setOperand (w : Workspace) (n : Handle) (side : Side) (child : Option Handle) : Workspace :=
  ((w.release n side child).place n side child).adopt n child

/-- Gives an element the kind, the text and the operands of another one.  The operands are moved; the
other element still holds them. -/
def replace (w : Workspace) (n source : Handle) : Workspace :=
  match w.element? source with
  | none => w
  | some s =>
    let w := (w.release n .left s.left).release n .right s.right
    let w := w.modify n fun e => { s with parent := e.parent }
    (w.adopt n s.left).adopt n s.right

/-- Gives an element a kind and a text. -/
def replaceContent (w : Workspace) (n : Handle) (kind : Kind) (text : Option String) : Workspace :=
  w.modify n fun e => { e with kind := kind, text := text }

/-! ## Operators around an element -/

/-- The kind and the text of an element on display. -/
def describe (w : Workspace) (n : Handle) : String :=
  (w.element? n).elim "" fun e =>
    e.kind.name ++ " " ++ (e.text.map Quoted.quote).getD "None"

/-- An element without a parent has no place for an operator. -/
def rootFailure (w : Workspace) (n : Handle) : Failure where
  kind := .structural
  message := "Cannot wrap the root element; it has no parent to attach the operator to"
  place := some { element := some (w.describe n) }

/-- Makes an element the left operand of a new operator, which takes its place under its parent. -/
def wrap (w : Workspace) (n : Handle) (operator : String) (right : Option Handle) :
    Except Failure (Workspace × Handle) :=
  match w.parent? n with
  | none => .error (w.rootFailure n)
  | some parent =>
    let side : Side := if w.operand? parent .left = some n then .left else .right
    let (w, wrapper) := w.add .operator (some operator) (some n) right
    .ok ((w.place parent side (some wrapper)).adopt parent (some wrapper), wrapper)

/-! ## Changes of texts -/

/-- Changes the text of an element. -/
def changeText (w : Workspace) (n : Handle) (f : Kind → Option String → Option String) : Workspace :=
  w.modify n fun e => { e with text := f e.kind e.text }

/-- Changes the text of the elements of a formula, in the order operands first. -/
def changeTexts (w : Workspace) (n : Handle) (f : Kind → Option String → Option String) :
    Workspace :=
  (w.visits n).foldl (fun w m => w.changeText m f) w

/-- Replaces the text `old` of elements of one kind. -/
def rename (w : Workspace) (n : Handle) (k : Kind) (old new : String) : Workspace :=
  w.changeTexts n (Formula.renamedText k old new)

/-- Replaces the texts of collision probes for which `resolve` gives a target. -/
def migrate (w : Workspace) (n : Handle) (resolve : String → Option String) : Workspace :=
  w.changeTexts n (Formula.migratedText resolve)

end BrickFormula.Workspace
