import BrickFormula.Proofs.Formula.Validation
import BrickFormula.Proofs.Json.RoundTrip
import BrickFormula.Proofs.Workspace.Build

/-!
# Reading back a formula

The document of a formula loses nothing: kinds go by their names, a missing text is null and differs
from the empty one, a missing operand is null, and the shape does not matter.  Elements made for
what was read have sound parent links.

    worded_toJson             the document has text only
    describes_toJson          and describes the formula
    read_toJson               so it is read back, at any place
    document_loses_nothing    so is the text, and the elements made of it form a tree
-/

namespace BrickFormula

namespace Formula

/-! ## Writing -/

theorem worded_toJson (t : Formula) : t.toJson.Worded := by
  induction t with
  | empty => exact .null
  | node kind text left right ihl ihr =>
    have hnames : ["type", "value", "left", "right"].Nodup := by decide
    have htext : ((text.map Json.string).getD .null).Worded := by
      cases text with
      | none => exact .null
      | some s => exact .string s
    refine .object _ hnames ?_
    simp only [List.forall_mem_cons]
    exact ⟨.string kind.name, htext, ihl, ihr, nofun⟩

/-! ## Reading -/

theorem describes_toJson (t : Formula) : Describes (some t.toJson) t := by
  induction t with
  | empty => exact .null
  | node kind text left right ihl ihr =>
    have htext : DescribesText (some ((text.map Json.string).getD .null)) text := by
      cases text with
      | none => exact .inr rfl
      | some s => exact rfl
    exact .element rfl htext ihl ihr

/-- **The document is read back**, at any place of a larger one. -/
theorem read_toJson (t : Formula) (h : t ≠ .empty) (path : Path) : read t.toJson path = .ok t :=
  (read_eq_ok_iff t.toJson path t).mpr ⟨h, describes_toJson t⟩

/-- **The text of a formula loses nothing.**  Reading it gives the formula again, whatever its texts
and its shape.  Elements made of the formula are a tree: its root has no parent, and every other
element has the one that holds it as parent. -/
theorem document_loses_nothing (t : Formula) (h : t ≠ .empty) :
    ofText? t.toText = .ok t ∧
    ∀ w : Workspace, ∃ w' n, w.build t = (w', some n) ∧ w'.Shows (some n) t ∧
      w'.parent? n = none ∧ ∀ p c, w'.Reaches n p → w'.Holds p c → w'.parent? c = some p := by
  constructor
  · unfold ofText? toText ofJson?
    rw [(worded_toJson t).read?_write]
    exact read_toJson t h []
  · intro w
    obtain ⟨n, hn⟩ := Workspace.build_root w t h
    have hgrown := Workspace.grown_build w t
    rw [hn] at hgrown
    refine ⟨(w.build t).1, n, Prod.ext rfl hn, hgrown.shown, (hgrown.root n rfl).2.2, ?_⟩
    intro p c hp hpc
    exact (hgrown.held p c ((hgrown.reaches_iff p).mp hp).1 hpc).2.2

/-- A text with an operand, which has none of its own and holds the empty text. -/
def annotated : Formula :=
  .node .string (some "say \"\\\x00\x1f\n\" \u2028 😀")
    (.node .number none .empty (.leaf .string "")) .empty

theorem document_loses_nothing_annotated :
    annotated ≠ .empty ∧ ofText? annotated.toText = .ok annotated ∧
      ∃ w n, ({} : Workspace).build annotated = (w, some n) ∧ w.Shows (some n) annotated ∧
        w.parent? n = none ∧ ∀ p c, w.Reaches n p → w.Holds p c → w.parent? c = some p := by
  obtain ⟨hread, hbuild⟩ := document_loses_nothing annotated nofun
  exact ⟨nofun, hread, hbuild {}⟩

end Formula

end BrickFormula
