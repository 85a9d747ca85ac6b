import BrickFormula.Formula

/-!
# Workspaces

The elements that an editor holds by reference.  An element has two places for operands and a link to
its parent; an operand may stand in several places at once.  A workspace holds all elements ever
made, and a handle is the index of one.

    Workspace.formula w n   the formula that hangs from an element
    Workspace.visits w n    its elements, operands first
    Workspace.root w n      the element at the end of the parent links
-/

namespace BrickFormula

/-- The identity of an element. -/
abbrev Handle := Nat

/-- The places for operands. -/
inductive Side where
  | left | right
  deriving DecidableEq, Repr

structure Element where
  kind : Kind
  text : Option String
  left : Option Handle := none
  right : Option Handle := none
  parent : Option Handle := none
  deriving DecidableEq

namespace Element

def operand (e : Element) : Side → Option Handle
  | .left => e.left
  | .right => e.right

def withOperand (e : Element) (side : Side) (child : Option Handle) : Element :=
  match side with
  | .left => { e with left := child }
  | .right => { e with right := child }

end Element

structure Workspace where
  elements : List Element := []
  deriving DecidableEq

namespace Workspace

/-- The number of elements, which is the handle of the next one. -/
def size (w : Workspace) : Nat := w.elements.length

def element? (w : Workspace) (n : Handle) : Option Element := w.elements[n]?

def operand? (w : Workspace) (n : Handle) (side : Side) : Option Handle :=
  (w.element? n).bind fun e => e.operand side

def parent? (w : Workspace) (n : Handle) : Option Handle := (w.element? n).bind Element.parent

/-! ## Views

Operands nest no deeper than there are elements, unless an element is an operand of itself, and the
same holds for parents.  So the number of elements bounds each walk. -/

/-- The formula of an operand, cut off below a depth. -/
def formulaTo (w : Workspace) : (depth : Nat) → Option Handle → Formula
  | depth + 1, some n =>
    match w.element? n with
    | none => .empty
    | some e => .node e.kind e.text (w.formulaTo depth e.left) (w.formulaTo depth e.right)
  | _, _ => .empty

/-- The formula that hangs from an element. -/
def formula (w : Workspace) (n : Handle) : Formula := w.formulaTo w.size (some n)

/-- The elements of an operand, cut off below a depth. -/
def visitsTo (w : Workspace) : (depth : Nat) → Option Handle → List Handle
  | depth + 1, some n =>
    match w.element? n with
    | none => []
    | some e => w.visitsTo depth e.left ++ w.visitsTo depth e.right ++ [n]
  | _, _ => []

/-- The elements of a formula in the order operands first.  One that stands in several places comes
several times. -/
def visits (w : Workspace) (n : Handle) : List Handle := w.visitsTo w.size (some n)

/-- The element so many parent links above, or the last one. -/
def ancestor (w : Workspace) : (links : Nat) → Handle → Handle
  | 0, n => n
  | links + 1, n => (w.parent? n).elim n (w.ancestor links)

/-- The element at the end of the parent links. -/
def root (w : Workspace) (n : Handle) : Handle := w.ancestor w.size n

/-- The element at the end of a path of operands. -/
def descendant? (w : Workspace) (n : Handle) (path : List Side) : Option Handle :=
  path.foldlM w.operand? n

end Workspace

end BrickFormula
