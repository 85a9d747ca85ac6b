import BrickFormula.Formula.Document
import BrickFormula.Proofs.Json.Parts

/-!
# Validation of formula documents

A value is the document of a formula when it is an object with one of the nine kinds and with a text,
null or no text, and its operands, where they are there and not null, are documents as well.  Any other
value is refused with all its problems: one for each violated condition, at the place of the field, in
the order of the fields `type`, `value`, `left` and `right` of every element.

    IsElement d            the documents that are read
    Describes d t          the formula that a document stands for
    Violates d path kind   the violated conditions
    Precedes               the order of places
    SameFields d d'        documents that differ in other fields and in the order of fields only
    read_eq_ok_iff         what is read
    reports_read           what is refused
    documents_validated    reading keeps to all of these
-/

namespace BrickFormula

theorem Kind.ofName?_name (kind : Kind) : Kind.ofName? kind.name = some kind := by
  cases kind <;> rfl

theorem Kind.ofName?_eq_some_iff {s : String} {kind : Kind} :
    Kind.ofName? s = some kind ↔ s = kind.name := by
  constructor
  · intro h
    have hname := List.find?_some h
    exact (of_decide_eq_true hname).symm
  · rintro rfl
    exact ofName?_name kind

namespace Formula

/-! ## What documents are -/

/-- The fields that hold operands. -/
def operandNames : List String := ["left", "right"]

/-- A document of a formula. -/
inductive IsElement : Json → Prop
  | object {fields : List (String × Json)}
      (kind : ∃ kind : Kind, fields.lookup "type" = some (.string kind.name))
      (text : ∀ d, fields.lookup "value" = some d → d = .null ∨ ∃ s, d = .string s)
      (operand : ∀ name ∈ operandNames, ∀ d, fields.lookup name = some d → d ≠ .null → IsElement d) :
      IsElement (.object fields)

/-- What the field of a text says, where there is one. -/
def DescribesText (field : Option Json) : Option String → Prop
  | none => field = none ∨ field = some .null
  | some s => field = some (.string s)

/-- The formula that the field of an operand stands for, where there is one. -/
inductive Describes : Option Json → Formula → Prop
  | absent : Describes none .empty
  | null : Describes (some .null) .empty
  | element {fields : List (String × Json)} {kind : Kind} {text : Option String}
      {left right : Formula} (hkind : fields.lookup "type" = some (.string kind.name))
      (htext : DescribesText (fields.lookup "value") text)
      (hleft : Describes (fields.lookup "left") left)
      (hright : Describes (fields.lookup "right") right) :
      Describes (some (.object fields)) (.node kind text left right)

/-- A violated condition, with the path from the document to the field. -/
inductive Violates : Json → Path → ProblemKind → Prop
  | notObject {d : Json} (h : ∀ fields, d ≠ .object fields) : Violates d [] .modelType
  | noKind {fields : List (String × Json)} (h : fields.lookup "type" = none) :
      Violates (.object fields) ["type"] .missing
  | otherKind {fields : List (String × Json)} {d : Json} (h : fields.lookup "type" = some d)
      (other : ∀ kind : Kind, d ≠ .string kind.name) : Violates (.object fields) ["type"] .enum
  | noText {fields : List (String × Json)} {d : Json} (h : fields.lookup "value" = some d)
      (null : d ≠ .null) (string : ∀ s, d ≠ .string s) (broken : d ≠ .brokenString) :
      Violates (.object fields) ["value"] .stringType
  /-- A string that is no text. -/
  | brokenText {fields : List (String × Json)} (h : fields.lookup "value" = some .brokenString) :
      Violates (.object fields) ["value"] .stringUnicode
  | operand {fields : List (String × Json)} {name : String} {d : Json} {path : Path}
      {kind : ProblemKind} (hname : name ∈ operandNames) (h : fields.lookup name = some d)
      (null : d ≠ .null) (below : Violates d path kind) :
      Violates (.object fields) (name :: path) kind

/-! ## The order of places -/

/-- The fields of an element in their order. -/
def fieldNames : List String := ["type", "value", "left", "right"]

def fieldRank (name : String) : Nat := fieldNames.idxOf name

/-- The order of places: an earlier field of the same element comes first, with all that is in it. -/
inductive Precedes : Path → Path → Prop
  | earlier {a b : String} {path path' : Path} (h : fieldRank a < fieldRank b) :
      Precedes (a :: path) (b :: path')
  | within {a : String} {path path' : Path} (h : Precedes path path') :
      Precedes (a :: path) (a :: path')

theorem Precedes.irrefl (path : Path) : ¬ Precedes path path := by
  intro h
  induction path with
  | nil => cases h
  | cons a path ih =>
    cases h with
    | earlier h => exact Nat.lt_irrefl _ h
    | within h => exact ih h

theorem Precedes.append_left {path path' : Path} (h : Precedes path path') (place : Path) :
    Precedes (place ++ path) (place ++ path') := by
  induction place with
  | nil => exact h
  | cons a place ih => exact .within ih

/-! ## Documents with the same fields -/

/-- The four fields of all elements are the same; other fields and the order may differ. -/
inductive SameFields : Json → Json → Prop
  | refl (d : Json) : SameFields d d
  | object {fields fields' : List (String × Json)}
      (kind : fields'.lookup "type" = fields.lookup "type")
      (text : fields'.lookup "value" = fields.lookup "value")
      (absent : ∀ name ∈ operandNames, fields'.lookup name = none ↔ fields.lookup name = none)
      (operand : ∀ name ∈ operandNames, ∀ d d', fields.lookup name = some d →
        fields'.lookup name = some d' → SameFields d d') :
      SameFields (.object fields) (.object fields')

/-- The fields of an element among all that an object has. -/
def knownFields (fields : List (String × Json)) : List (String × Json) :=
  fields.filter (·.1 ∈ fieldNames)

/-! ## Reading one element -/

/-- The operand at a place of a document, if its field is there. -/
def readOperand : Option Json → Path → Checked Formula
  | none, _ | some .null, _ => .ok .empty
  | some d, path => read d path

theorem operandOf_operands (fields : List (String × Json)) (name : String) (path : Path) :
    operandOf ((operands fields).lookup name) path = readOperand (fields.lookup name) path := by
  induction fields with
  | nil => rfl
  | cons field rest ih =>
    obtain ⟨other, d⟩ := field
    have hoperands : ∃ reader, operands ((other, d) :: rest) = (other, reader) :: operands rest ∧
        reader path = readOperand (some d) path := by
      cases d with
      | null => exact ⟨fun _ => .ok .empty, by rw [operands], rfl⟩
      | _ => exact ⟨read _, by rw [operands]; exact nofun, rfl⟩
    obtain ⟨reader, hreader, hread⟩ := hoperands
    rw [hreader, List.lookup_cons, List.lookup_cons]
    cases name == other with
    | true => exact hread
    | false => exact ih

theorem read_object (fields : List (String × Json)) (path : Path) :
    read (.object fields) path =
      assemble (kindOf (path ++ ["type"]) (fields.lookup "type"))
        (textOf (path ++ ["value"]) (fields.lookup "value"))
        (readOperand (fields.lookup "left") (path ++ ["left"]))
        (readOperand (fields.lookup "right") (path ++ ["right"])) := by
  rw [read, operandOf_operands, operandOf_operands]

theorem read_of_not_object {d : Json} (h : ∀ fields, d ≠ .object fields) (path : Path) :
    read d path = .fail path .modelType := by
  cases d with
  | object fields => exact absurd rfl (h fields)
  | _ => rw [read]; exact nofun

section
variable {kind : Checked Kind} {text : Checked (Option String)} {left right : Checked Formula}

theorem problems_assemble : (assemble kind text left right).problems =
    kind.problems ++ text.problems ++ left.problems ++ right.problems := by
  cases kind <;> cases text <;> cases left <;> cases right <;> rfl

theorem assemble_eq_ok_iff {t : Formula} : assemble kind text left right = .ok t ↔
    ∃ k s l r, kind = .ok k ∧ text = .ok s ∧ left = .ok l ∧ right = .ok r ∧ t = .node k s l r := by
  cases kind <;> cases text <;> cases left <;> cases right <;> simp [assemble, eq_comm]

end


/-! ## What is read -/

theorem kindOf_eq_ok_iff {path : Path} {field : Option Json} {kind : Kind} :
    kindOf path field = .ok kind ↔ field = some (.string kind.name) := by
  cases field with
  | none => exact ⟨nofun, nofun⟩
  | some d =>
    cases d with
    | string s =>
      rw [Option.some_inj, Json.string.injEq, ← Kind.ofName?_eq_some_iff]
      cases hname : Kind.ofName? s <;> simp [kindOf, hname, Checked.fail]
    | _ => exact ⟨nofun, nofun⟩

theorem textOf_eq_ok_iff {path : Path} {field : Option Json} {text : Option String} :
    textOf path field = .ok text ↔ DescribesText field text := by
  cases field with
  | none => cases text <;> simp [textOf, DescribesText]
  | some d => cases d <;> cases text <;> simp [textOf, DescribesText, Checked.fail]

/-- What is read at the place of an operand, if the same is so of its value. -/
theorem readOperand_eq_ok_iff {field : Option Json} {path : Path} {t : Formula}
    (h : ∀ d, field = some d → (read d path = .ok t ↔ t ≠ .empty ∧ Describes (some d) t)) :
    readOperand field path = .ok t ↔ Describes field t := by
  cases field with
  | none =>
    constructor
    · rintro ⟨⟩
      exact .absent
    · rintro ⟨⟩
      rfl
  | some d =>
    cases d with
    | null =>
      constructor
      · rintro ⟨⟩
        exact .null
      · rintro ⟨⟩
        rfl
    | object fields =>
      refine (h _ rfl).trans (and_iff_right_of_imp ?_)
      rintro ⟨⟩
      exact nofun
    | _ =>
      refine (h _ rfl).trans (and_iff_right_of_imp ?_)
      rintro ⟨⟩

/-- **What is read is what the document stands for.** -/
theorem read_eq_ok_iff (d : Json) (path : Path) (t : Formula) :
    read d path = .ok t ↔ t ≠ .empty ∧ Describes (some d) t := by
  induction d using Json.induction_field? generalizing path t with
  | step d ih =>
    by_cases hobject : ∃ fields, d = .object fields
    · obtain ⟨fields, rfl⟩ := hobject
      have hoperand (name : String) (path : Path) (t : Formula) :
          readOperand (fields.lookup name) path = .ok t ↔ Describes (fields.lookup name) t :=
        readOperand_eq_ok_iff fun d hd => ih name d hd path t
      rw [read_object, assemble_eq_ok_iff]
      simp only [kindOf_eq_ok_iff, textOf_eq_ok_iff, hoperand]
      constructor
      · rintro ⟨k, s, l, r, hkind, htext, hleft, hright, rfl⟩
        exact ⟨nofun, .element hkind htext hleft hright⟩
      · rintro ⟨-, ⟨⟩⟩
        exact ⟨_, _, _, _, ‹_›, ‹_›, ‹_›, ‹_›, rfl⟩
    · rw [read_of_not_object fun fields h => hobject ⟨fields, h⟩]
      refine ⟨nofun, ?_⟩
      rintro ⟨hne, hd⟩
      cases hd with
      | null => exact absurd rfl hne
      | element => exact absurd ⟨_, rfl⟩ hobject

theorem Describes.isElement {field : Option Json} {t : Formula} (h : Describes field t) (d : Json)
    (hfield : field = some d) (hnull : d ≠ .null) : IsElement d := by
  induction h generalizing d with
  | absent => cases hfield
  | null => exact absurd (Option.some.inj hfield).symm hnull
  | @element fields kind text left right hkind htext _ _ ihl ihr =>
    obtain rfl := Option.some.inj hfield
    refine .object ⟨kind, hkind⟩ ?_ ?_
    · intro d hd
      rw [hd] at htext
      cases text with
      | none =>
        rcases htext with h | h
        · cases h
        · exact .inl (Option.some.inj h)
      | some s => exact .inr ⟨s, Option.some.inj htext⟩
    · intro name hname d hd hnull
      simp only [operandNames, List.mem_cons, List.not_mem_nil, or_false] at hname
      rcases hname with rfl | rfl
      · exact ihl d hd hnull
      · exact ihr d hd hnull

/-- The documents are the values that stand for a formula. -/
theorem isElement_iff (d : Json) : IsElement d ↔ ∃ t, t ≠ .empty ∧ Describes (some d) t := by
  constructor
  · intro h
    induction h with
    | @object fields kind text operand ih =>
      obtain ⟨kind, hkind⟩ := kind
      have htext : ∃ s, DescribesText (fields.lookup "value") s := by
        cases hvalue : fields.lookup "value" with
        | none => exact ⟨none, .inl rfl⟩
        | some d =>
          rcases text d hvalue with rfl | ⟨s, rfl⟩
          · exact ⟨none, .inr rfl⟩
          · exact ⟨some s, rfl⟩
      have hoperand (name : String) (hname : name ∈ operandNames) :
          ∃ t, Describes (fields.lookup name) t := by
        cases hlookup : fields.lookup name with
        | none => exact ⟨.empty, .absent⟩
        | some d =>
          by_cases hnull : d = .null
          · exact ⟨.empty, hnull ▸ .null⟩
          · obtain ⟨t, -, ht⟩ := ih name hname d hlookup hnull
            exact ⟨t, ht⟩
      obtain ⟨s, hs⟩ := htext
      obtain ⟨l, hl⟩ := hoperand "left" (by decide)
      obtain ⟨r, hr⟩ := hoperand "right" (by decide)
      exact ⟨.node kind s l r, nofun, .element hkind hs hl hr⟩
  · rintro ⟨t, hne, h⟩
    refine h.isElement d rfl ?_
    rintro rfl
    cases h
    exact hne rfl

/-! ## What is refused -/

/-- A list of problems holds the violated conditions of a part of a document, each at its place, in
their order. -/
structure Lists (problems : List Problem) (place : Path) (V : Path → ProblemKind → Prop) : Prop where
  mem_iff : ∀ p, p ∈ problems ↔ ∃ path, p.path = place ++ path ∧ V path p.kind
  sorted : problems.Pairwise fun p q => Precedes p.path q.path

section
variable {place : Path} {V W : Path → ProblemKind → Prop} {ps qs : List Problem}

theorem Lists.congr (h : Lists ps place V) (hVW : ∀ path kind, V path kind ↔ W path kind) :
    Lists ps place W where
  mem_iff p := (h.mem_iff p).trans (exists_congr fun path => and_congr_right fun _ => hVW path p.kind)
  sorted := h.sorted

theorem lists_nil (h : ∀ path kind, ¬ V path kind) : Lists [] place V where
  mem_iff p := ⟨nofun, fun ⟨path, _, hV⟩ => absurd hV (h path p.kind)⟩
  sorted := .nil

theorem lists_singleton {kind : ProblemKind}
    (h : ∀ path k, V path k ↔ path = [] ∧ k = kind) : Lists [⟨place, kind⟩] place V where
  mem_iff p := by
    obtain ⟨path, k⟩ := p
    simp only [h, List.mem_singleton, Problem.mk.injEq]
    constructor
    · rintro ⟨rfl, rfl⟩
      exact ⟨[], (List.append_nil _).symm, rfl, rfl⟩
    · rintro ⟨_, rfl, rfl, rfl⟩
      exact ⟨List.append_nil _, rfl⟩
  sorted := List.pairwise_singleton _ _

theorem Lists.append (hV : Lists ps place V) (hW : Lists qs place W)
    (h : ∀ path path' kind kind', V path kind → W path' kind' → Precedes path path') :
    Lists (ps ++ qs) place fun path kind => V path kind ∨ W path kind where
  mem_iff p := by
    rw [List.mem_append, hV.mem_iff, hW.mem_iff, ← exists_or]
    simp only [and_or_left]
  sorted := by
    refine List.pairwise_append.mpr ⟨hV.sorted, hW.sorted, fun p hp q hq => ?_⟩
    obtain ⟨path, hpath, hp⟩ := (hV.mem_iff p).mp hp
    obtain ⟨path', hpath', hq⟩ := (hW.mem_iff q).mp hq
    rw [hpath, hpath']
    exact (h path path' _ _ hp hq).append_left place

/-- The conditions of a field. -/
def Under (name : String) (V : Path → ProblemKind → Prop) (path : Path) (kind : ProblemKind) : Prop :=
  ∃ rest, path = name :: rest ∧ V rest kind

theorem Lists.under {name : String} (h : Lists ps (place ++ [name]) V) :
    Lists ps place (Under name V) where
  mem_iff p := by
    rw [h.mem_iff]
    constructor
    · rintro ⟨rest, hpath, hV⟩
      exact ⟨name :: rest, by rw [hpath, List.append_assoc, List.singleton_append], rest, rfl, hV⟩
    · rintro ⟨_, hpath, rest, rfl, hV⟩
      exact ⟨rest, by rw [hpath, List.append_assoc, List.singleton_append], hV⟩
  sorted := h.sorted

theorem Under.precedes {a b : String} (h : fieldRank a < fieldRank b) {path path' : Path}
    {kind kind' : ProblemKind} (hV : Under a V path kind) (hW : Under b W path' kind') :
    Precedes path path' := by
  obtain ⟨rest, rfl, -⟩ := hV
  obtain ⟨rest', rfl, -⟩ := hW
  exact .earlier h

end

/-- A part of a document is refused only with problems, and these are its violated conditions. -/
structure Reports {α : Type} (part : Checked α) (place : Path) (V : Path → ProblemKind → Prop) :
    Prop where
  ok_of_problems_eq_nil : part.problems = [] → ∃ x, part = .ok x
  lists : Lists part.problems place V

theorem reports_ok {α : Type} {x : α} {place : Path} {V : Path → ProblemKind → Prop}
    (h : ∀ path kind, ¬ V path kind) : Reports (Except.ok x) place V :=
  ⟨fun _ => ⟨x, rfl⟩, lists_nil h⟩

theorem reports_fail {α : Type} {kind : ProblemKind} {place : Path} {V : Path → ProblemKind → Prop}
    (h : ∀ path k, V path k ↔ path = [] ∧ k = kind) :
    Reports (Checked.fail place kind : Checked α) place V :=
  ⟨nofun, lists_singleton h⟩

/-- The violated conditions of the field of a kind. -/
def ViolatesKind (field : Option Json) (path : Path) (kind : ProblemKind) : Prop :=
  path = [] ∧ (field = none ∧ kind = .missing ∨
    ∃ d, field = some d ∧ (∀ k : Kind, d ≠ .string k.name) ∧ kind = .enum)

/-- The violated conditions of the field of a text. -/
def ViolatesText (field : Option Json) (path : Path) (kind : ProblemKind) : Prop :=
  path = [] ∧ ∃ d, field = some d ∧ d ≠ .null ∧ (∀ s, d ≠ .string s) ∧
    (d ≠ .brokenString ∧ kind = .stringType ∨ d = .brokenString ∧ kind = .stringUnicode)

/-- The violated conditions of the field of an operand. -/
def ViolatesOperand (field : Option Json) (path : Path) (kind : ProblemKind) : Prop :=
  ∃ d, field = some d ∧ d ≠ .null ∧ Violates d path kind

theorem violates_object_iff (fields : List (String × Json)) (path : Path) (kind : ProblemKind) :
    Violates (.object fields) path kind ↔
      ((Under "type" (ViolatesKind (fields.lookup "type")) path kind ∨
        Under "value" (ViolatesText (fields.lookup "value")) path kind) ∨
        Under "left" (ViolatesOperand (fields.lookup "left")) path kind) ∨
        Under "right" (ViolatesOperand (fields.lookup "right")) path kind := by
  constructor
  · intro h
    cases h with
    | notObject h => exact absurd rfl (h fields)
    | noKind h => exact .inl (.inl (.inl ⟨[], rfl, rfl, .inl ⟨h, rfl⟩⟩))
    | otherKind h other => exact .inl (.inl (.inl ⟨[], rfl, rfl, .inr ⟨_, h, other, rfl⟩⟩))
    | noText h null string broken =>
      exact .inl (.inl (.inr ⟨[], rfl, rfl, _, h, null, string, .inl ⟨broken, rfl⟩⟩))
    | brokenText h =>
      exact .inl (.inl (.inr ⟨[], rfl, rfl, _, h, nofun, nofun, .inr ⟨rfl, rfl⟩⟩))
    | operand hname h null below =>
      simp only [operandNames, List.mem_cons, List.not_mem_nil, or_false] at hname
      rcases hname with rfl | rfl
      · exact .inl (.inr ⟨_, rfl, _, h, null, below⟩)
      · exact .inr ⟨_, rfl, _, h, null, below⟩
  · rintro (((⟨_, rfl, rfl, ⟨h, rfl⟩ | ⟨d, h, other, rfl⟩⟩ |
      ⟨_, rfl, rfl, d, h, null, string, ⟨broken, rfl⟩ | ⟨rfl, rfl⟩⟩) |
      ⟨rest, rfl, d, h, null, below⟩) | ⟨rest, rfl, d, h, null, below⟩)
    · exact .noKind h
    · exact .otherKind h other
    · exact .noText h null string broken
    · exact .brokenText h
    · exact .operand (by decide) h null below
    · exact .operand (by decide) h null below

theorem reports_kindOf (place : Path) (field : Option Json) :
    Reports (kindOf place field) place (ViolatesKind field) := by
  cases field with
  | none =>
    refine reports_fail fun path k => and_congr_right fun _ => ?_
    simp
  | some d =>
    by_cases hkind : ∃ kind : Kind, d = .string kind.name
    · obtain ⟨kind, rfl⟩ := hkind
      rw [kindOf_eq_ok_iff.mpr rfl]
      refine reports_ok ?_
      rintro path k ⟨-, ⟨h, -⟩ | ⟨d, h, other, -⟩⟩
      · cases h
      · exact other kind (Option.some.inj h).symm
    · have hfail : kindOf place (some d) = .fail place .enum := by
        cases d with
        | string s =>
          cases hname : Kind.ofName? s with
          | none => simp only [kindOf, hname]
          | some kind => exact absurd ⟨kind, congrArg _ (Kind.ofName?_eq_some_iff.mp hname)⟩ hkind
        | _ => rfl
      rw [hfail]
      refine reports_fail fun path k => and_congr_right fun _ => ?_
      simpa using fun _ kind h => hkind ⟨kind, h⟩

theorem reports_textOf (place : Path) (field : Option Json) :
    Reports (textOf place field) place (ViolatesText field) := by
  cases field with
  | none =>
    refine reports_ok ?_
    rintro path k ⟨-, d, h, -⟩
    cases h
  | some d =>
    cases d with
    | null =>
      refine reports_ok ?_
      rintro path k ⟨-, d, h, null, -⟩
      exact null (Option.some.inj h).symm
    | string s =>
      refine reports_ok ?_
      rintro path k ⟨-, d, h, -, string, -⟩
      exact string s (Option.some.inj h).symm
    | _ =>
      refine reports_fail fun path k => and_congr_right fun _ => ?_
      simp

/-- The report of an operand, if the same is so of its value. -/
theorem reports_readOperand {field : Option Json} {place : Path}
    (h : ∀ d, field = some d → Reports (read d place) place (Violates d)) :
    Reports (readOperand field place) place (ViolatesOperand field) := by
  cases field with
  | none =>
    refine reports_ok ?_
    rintro path k ⟨d, h, -⟩
    cases h
  | some d =>
    by_cases hnull : d = .null
    · subst hnull
      refine reports_ok ?_
      rintro path k ⟨d, h, null, -⟩
      exact null (Option.some.inj h).symm
    · have hread : readOperand (some d) place = read d place := by
        cases d with
        | null => exact absurd rfl hnull
        | _ => rfl
      obtain ⟨hok, hlists⟩ := h d rfl
      rw [hread]
      refine ⟨hok, hlists.congr fun path k => ⟨fun hV => ⟨d, rfl, hnull, hV⟩, ?_⟩⟩
      rintro ⟨_, ⟨⟩, -, hV⟩
      exact hV

/-- An element reports what its four fields report. -/
theorem reports_assemble {fields : List (String × Json)} {place : Path} {kind : Checked Kind}
    {text : Checked (Option String)} {left right : Checked Formula}
    (hkind : Reports kind (place ++ ["type"]) (ViolatesKind (fields.lookup "type")))
    (htext : Reports text (place ++ ["value"]) (ViolatesText (fields.lookup "value")))
    (hleft : Reports left (place ++ ["left"]) (ViolatesOperand (fields.lookup "left")))
    (hright : Reports right (place ++ ["right"]) (ViolatesOperand (fields.lookup "right"))) :
    Reports (assemble kind text left right) place (Violates (.object fields)) where
  ok_of_problems_eq_nil h := by
    rw [problems_assemble] at h
    simp only [List.append_eq_nil_iff] at h
    obtain ⟨⟨⟨hk, ht⟩, hl⟩, hr⟩ := h
    obtain ⟨k, hk⟩ := hkind.ok_of_problems_eq_nil hk
    obtain ⟨s, ht⟩ := htext.ok_of_problems_eq_nil ht
    obtain ⟨l, hl⟩ := hleft.ok_of_problems_eq_nil hl
    obtain ⟨r, hr⟩ := hright.ok_of_problems_eq_nil hr
    exact ⟨_, assemble_eq_ok_iff.mpr ⟨k, s, l, r, hk, ht, hl, hr, rfl⟩⟩
  lists := by
    rw [problems_assemble]
    refine Lists.congr (((hkind.lists.under.append htext.lists.under ?_).append
      hleft.lists.under ?_).append hright.lists.under ?_)
      fun path k => (violates_object_iff fields path k).symm
    · exact fun path path' k k' hV hW => hV.precedes (by decide) hW
    · rintro path path' k k' (hV | hV) hW
      · exact hV.precedes (by decide) hW
      · exact hV.precedes (by decide) hW
    · rintro path path' k k' ((hV | hV) | hV) hW
      · exact hV.precedes (by decide) hW
      · exact hV.precedes (by decide) hW
      · exact hV.precedes (by decide) hW

/-- **A document is refused with its violated conditions.** -/
theorem reports_read (d : Json) (place : Path) : Reports (read d place) place (Violates d) := by
  induction d using Json.induction_field? generalizing place with
  | step d ih =>
    by_cases hobject : ∃ fields, d = .object fields
    · obtain ⟨fields, rfl⟩ := hobject
      rw [read_object]
      exact reports_assemble (reports_kindOf _ _) (reports_textOf _ _)
        (reports_readOperand fun d hd => ih "left" d hd _)
        (reports_readOperand fun d hd => ih "right" d hd _)
    · have hno (fields : List (String × Json)) (h : d = .object fields) : False :=
        hobject ⟨fields, h⟩
      rw [read_of_not_object hno]
      refine reports_fail fun path k => ⟨?_, ?_⟩
      · rintro (_ | _)
        · exact ⟨rfl, rfl⟩
        all_goals exact absurd rfl (hno _)
      · rintro ⟨rfl, rfl⟩
        exact .notObject hno

/-! ## Other fields and the order of fields -/

/-- An operand is read the same when its value is. -/
theorem SameFields.readOperand_eq {d d' : Json} (h : SameFields d d') (path : Path)
    (hread : read d' path = read d path) :
    readOperand (some d') path = readOperand (some d) path := by
  cases h with
  | refl => rfl
  | object => exact hread

theorem SameFields.read_eq {d d' : Json} (h : SameFields d d') (path : Path) :
    read d' path = read d path := by
  induction h generalizing path with
  | refl => rfl
  | @object fields fields' kind text absent operand ih =>
    have hoperand (name : String) (hname : name ∈ operandNames) (path : Path) :
        readOperand (fields'.lookup name) path = readOperand (fields.lookup name) path := by
      cases hd : fields.lookup name with
      | none => rw [(absent name hname).mpr hd]
      | some d =>
        cases hd' : fields'.lookup name with
        | none => rw [(absent name hname).mp hd'] at hd; cases hd
        | some d' =>
          exact (operand name hname d d' hd hd').readOperand_eq path (ih name hname d d' hd hd' path)
    rw [read_object, read_object, kind, text, hoperand "left" (by decide),
      hoperand "right" (by decide)]

theorem lookup_knownFields {name : String} (h : name ∈ fieldNames) (fields : List (String × Json)) :
    (knownFields fields).lookup name = fields.lookup name :=
  lookup_filter (decide <| · ∈ fieldNames) fields (decide_eq_true h)

/-- Objects with the same fields of elements, in any order and among any others. -/
theorem sameFields_of_perm {fields fields' : List (String × Json)}
    (hnames : ((knownFields fields).map Prod.fst).Nodup)
    (h : (knownFields fields').Perm (knownFields fields)) :
    SameFields (.object fields) (.object fields') := by
  have hlookup (name : String) (hname : name ∈ fieldNames) :
      fields'.lookup name = fields.lookup name := by
    rw [← lookup_knownFields hname, lookup_perm hnames h, lookup_knownFields hname]
  have hoperand (name : String) (hname : name ∈ operandNames) : name ∈ fieldNames := by
    simp only [operandNames, fieldNames, List.mem_cons, List.not_mem_nil, or_false] at hname ⊢
    exact .inr (.inr hname)
  refine .object (hlookup _ (by decide)) (hlookup _ (by decide)) ?_ ?_
  · intro name hname
    rw [hlookup name (hoperand name hname)]
  · intro name hname d d' hd hd'
    rw [hlookup name (hoperand name hname), hd] at hd'
    exact Option.some.inj hd' ▸ .refl d

/-! ## Documents -/

/-- Strings that are no text apart, there are four kinds of problems. -/
theorem Violates.kind_mem {d : Json} {path : Path} {kind : ProblemKind} (h : Violates d path kind)
    (hd : d.Whole) : kind ∈ [ProblemKind.modelType, .missing, .enum, .stringType] := by
  induction h with
  | brokenText h =>
    have hvalue : Json.Whole .brokenString := hd.field h
    cases hvalue with
    | intro whole _ => exact absurd rfl whole
  | operand _ h _ _ ih => exact ih (hd.field h)
  | _ => simp

/-- What is said of every document. -/
structure Validated (d : Json) : Prop where
  accepted : (∃ t, ofJson? d = .ok t) ↔ IsElement d
  described : ∀ t, ofJson? d = .ok t ↔ t ≠ .empty ∧ Describes (some d) t
  refused : ∀ problems, ofJson? d = .error problems → problems ≠ [] ∧ problems.Nodup ∧
    (∀ p, p ∈ problems ↔ Violates d p.path p.kind) ∧
    problems.Pairwise fun p q => Precedes p.path q.path
  kinds : d.Whole → ∀ path kind, Violates d path kind →
    kind ∈ [ProblemKind.modelType, .missing, .enum, .stringType]
  same : ∀ d', SameFields d d' → ofJson? d' = ofJson? d

/-- **Documents are validated exactly.**  A value is read if it and the operands in it are elements,
and then as the formula that its fields describe; other fields and the order do not matter.  Otherwise
each violated condition is reported once, in order.  Of values that are read from texts, the violated
conditions have one of four kinds. -/
theorem documents_validated :
    (∀ d, Validated d) ∧
    ∀ text d, Json.read? text = .ok d → d.Whole ∧ ofText? text = ofJson? d := by
  refine ⟨fun d => ⟨?_, read_eq_ok_iff d [], ?_, fun hd path kind h => h.kind_mem hd,
    fun d' h => h.read_eq []⟩, fun text d h => ⟨Json.whole_of_read? h, ?_⟩⟩
  · rw [isElement_iff]
    exact exists_congr (read_eq_ok_iff d [])
  · intro problems h
    obtain ⟨hok, hmem, hsorted⟩ := reports_read d []
    rw [ofJson?] at h
    rw [h] at hok hmem hsorted
    refine ⟨?_, ?_, ?_, hsorted⟩
    · rintro rfl
      obtain ⟨t, ht⟩ := hok rfl
      cases ht
    · refine hsorted.imp ?_
      rintro p _ hpp rfl
      exact Precedes.irrefl p.path hpp
    · intro p
      refine (hmem p).trans ?_
      simp
  · rw [ofText?, h]

/-- An element without a kind and with an array for its text; its operands are a number with a number
for its text, and a string. -/
def mixedUp : Json :=
  .object [("right", .string "1"), ("value", .array []),
    ("left", .object [("value", .integer 1), ("type", .string "NUMBER")])]

/-- The same with another field and the fields in another order. -/
def mixedUpNoted : Json :=
  .object [("left", .object [("value", .integer 1), ("type", .string "NUMBER")]),
    ("note", .string "unfinished"), ("value", .array []), ("right", .string "1")]

theorem documents_validated_mixedUp :
    ofJson? mixedUp = .error [⟨["type"], .missing⟩, ⟨["value"], .stringType⟩,
      ⟨["left", "value"], .stringType⟩, ⟨["right"], .modelType⟩] ∧
    ¬ IsElement mixedUp ∧ Violates mixedUp ["right"] .modelType ∧
    ¬ Violates mixedUp ["left"] .modelType ∧
    ofJson? mixedUpNoted = ofJson? mixedUp ∧
    ofText? "\x7b\"type\": \"STRING\"\x7d" = ofJson? (.object [("type", .string "STRING")]) := by
  obtain ⟨hvalid, htext⟩ := documents_validated
  have hread : ofJson? mixedUp = .error [⟨["type"], .missing⟩, ⟨["value"], .stringType⟩,
      ⟨["left", "value"], .stringType⟩, ⟨["right"], .modelType⟩] := by rfl
  have htype : Json.read? "\x7b\"type\": \"STRING\"\x7d" =
      .ok (.object [("type", .string "STRING")]) := by cbv
  have hmem := ((hvalid mixedUp).refused _ hread).2.2.1
  have hsame : SameFields mixedUp mixedUpNoted :=
    sameFields_of_perm (by decide) (List.reverse_perm [_, _, _])
  refine ⟨hread, ?_, (hmem ⟨["right"], .modelType⟩).mp (by simp), ?_, (hvalid mixedUp).same _ hsame,
    (htext _ _ htype).2⟩
  · rw [← (hvalid mixedUp).accepted, hread]
    rintro ⟨t, ht⟩
    cases ht
  · intro h
    have hlisted := (hmem ⟨["left"], .modelType⟩).mpr h
    revert hlisted
    decide

end Formula

end BrickFormula
